import Mathlib.Data.Finset.Card
import Mathlib.Data.Nat.Find
import Paravirt.Proofs.Queue.Draining
import Paravirt.Proofs.Queue.Walk

/-!
# Chains that run into a cycle

Once the way from a head comes back to an index it goes round for ever: nothing is reached that was
not reached before, so the way neither ends nor leaves the table, and every index on it can be read.
A walk that does not look for cycles then runs until it has one buffer for each descriptor of the
table, and a walk that does look for them fails where the way first comes back. On every other
chain, whatever the walk gives, it makes no difference whether cycles are looked for.
-/

namespace Paravirt

/-- What is made of a result is a success only if the result is one. -/
theorem exists_eq_ok_of_map {ε α β : Type} {result : Except ε α} {made : α → β} {answer : β}
    (success : result.map made = .ok answer) : ∃ before, result = .ok before := by
  cases result with
  | error error => cases success
  | ok before => exact ⟨before, rfl⟩

namespace Chain

variable {fetch : UInt16 → Except DeviceError Descriptor} {count : UInt32} {head index : UInt16}
  {descriptors : List Descriptor} {earlier later links : Nat}

/-- From two places where the way is at the same index it goes on alike. -/
theorem reached_add (same : reached fetch head earlier = reached fetch head later) (more : Nat) :
    reached fetch head (earlier + more) = reached fetch head (later + more) := by
  induction more with
  | zero => exact same
  | succ more ih =>
    rw [← Nat.add_assoc, ← Nat.add_assoc, reached, reached, ih]

/-- A way that has come back reaches nothing that it had not reached before. -/
theorem exists_reached_lt (before : earlier < later)
    (same : reached fetch head earlier = reached fetch head later) (links : Nat) :
    ∃ first < later, reached fetch head links = reached fetch head first := by
  induction links using Nat.strong_induction_on with
  | _ links ih =>
    by_cases ahead : links < later
    · exact ⟨links, ahead, rfl⟩
    · have hback := reached_add same (links - later)
      rw [Nat.add_sub_cancel' (Nat.le_of_not_lt ahead)] at hback
      obtain ⟨first, hfirst, hsame⟩ := ih (earlier + (links - later)) (by omega)
      exact ⟨first, hfirst, hback.symm.trans hsame⟩

/-- The way has gone on to every index before one that it has reached. -/
theorem reached_of_le (here : reached fetch head later = some index) (before : earlier ≤ later) :
    ∃ other, reached fetch head earlier = some other := by
  induction later generalizing index with
  | zero =>
    rw [Nat.le_zero.1 before]
    exact ⟨index, here⟩
  | succ later ih =>
    by_cases last : earlier = later + 1
    · rw [last]
      exact ⟨index, here⟩
    · rw [reached] at here
      obtain ⟨other, hother, -⟩ := Option.bind_eq_some_iff.1 here
      exact ih hother (by omega)

/-- The way first comes back to an index that it has reached before. -/
structure FirstRepeat (fetch : UInt16 → Except DeviceError Descriptor) (head : UInt16) (links : Nat)
    (index : UInt16) : Prop where
  /-- The way is at the index. -/
  here : reached fetch head links = some index
  /-- It was there before. -/
  before : ∃ earlier < links, reached fetch head earlier = some index
  /-- Until then it came to no index twice. -/
  first : ∀ later < links, ∀ earlier < later,
    reached fetch head earlier ≠ reached fetch head later

/-- A way that comes back to an index does so for a first time. -/
theorem exists_firstRepeat (before : earlier < later)
    (same : reached fetch head earlier = reached fetch head later)
    (here : reached fetch head later = some index) :
    ∃ links ≤ later, ∃ index, FirstRepeat fetch head links index := by
  have hrepeats : ∃ links, ∃ place < links,
      reached fetch head place = reached fetch head links := ⟨later, earlier, before, same⟩
  obtain ⟨place, hplace, hsame⟩ := Nat.find_spec hrepeats
  have hle : Nat.find hrepeats ≤ later := Nat.find_min' hrepeats ⟨earlier, before, same⟩
  obtain ⟨other, hother⟩ := reached_of_le here hle
  refine ⟨Nat.find hrepeats, hle, other, hother, ⟨place, hplace, hsame.trans hother⟩, ?_⟩
  intro middle hmiddle sooner hsooner equal
  exact Nat.find_min hrepeats hmiddle ⟨sooner, hsooner, equal⟩

/-- There is one index to which the way first comes back. -/
theorem FirstRepeat.unique {other : UInt16} {links' : Nat}
    (first : FirstRepeat fetch head links index) (second : FirstRepeat fetch head links' other) :
    links' = links ∧ other = index := by
  have hlinks : links' = links := by
    obtain ⟨place, hplace, hsame⟩ := first.before
    obtain ⟨place', hplace', hsame'⟩ := second.before
    rcases Nat.lt_trichotomy links links' with less | same | more
    · exact absurd (hsame.trans first.here.symm) (second.first links less place hplace)
    · exact same.symm
    · exact absurd (hsame'.trans second.here.symm) (first.first links' more place' hplace')
  subst hlinks
  exact ⟨rfl, Option.some.inj (second.here.symm.trans first.here)⟩

namespace Trail

/-- The first descriptors of a trail are a trail. -/
theorem take {detectCycles : Bool} (trail : Trail fetch count detectCycles head descriptors)
    {length : Nat} (positive : 0 < length) :
    Trail fetch count detectCycles head (descriptors.take length) := by
  obtain ⟨⟨first, hfirst, direct⟩, steps⟩ := trail
  refine ⟨⟨first, by rw [List.getElem?_take, if_pos positive, hfirst], direct⟩,
    fun links descriptor listed => ?_⟩
  rw [List.getElem?_take] at listed
  split at listed
  · exact steps links descriptor listed
  · cases listed

/-- A trail is one for a walk that looks for cycles if no index comes twice. -/
theorem detecting (trail : Trail fetch count false head descriptors)
    (distinct : ∀ later < descriptors.length, ∀ earlier < later,
      reached fetch head earlier ≠ reached fetch head later) :
    Trail fetch count true head descriptors := by
  refine ⟨trail.direct, fun links descriptor listed => ?_⟩
  obtain ⟨index, here, inside, fetched, -⟩ := trail.steps links descriptor listed
  refine ⟨index, here, inside, fetched, ?_⟩
  rintro ⟨-, earlier, before, same⟩
  exact distinct links (List.getElem?_eq_some_iff.1 listed).1 earlier before (same.trans here.symm)

/-- No index of a trail comes twice if the way then reaches something that is none of them. -/
theorem distinct (trail : Trail fetch count false head descriptors)
    (new : ∀ (first : Nat) (index : UInt16), first < descriptors.length →
      reached fetch head first = some index → index.toUInt32 < count →
        (∃ descriptor, fetch index = .ok descriptor) →
          reached fetch head descriptors.length ≠ reached fetch head first) :
    ∀ later < descriptors.length, ∀ earlier < later,
      reached fetch head earlier ≠ reached fetch head later := by
  intro later inside earlier before same
  obtain ⟨first, hfirst, hagain⟩ := exists_reached_lt before same descriptors.length
  have hwithin : first < descriptors.length := Nat.lt_trans hfirst inside
  obtain ⟨index, here, hindex, fetched, -⟩ :=
    trail.steps first _ (List.getElem?_eq_getElem hwithin)
  exact new first index hwithin here hindex ⟨_, fetched⟩ hagain

/-- A trail as long as the table that goes on to an index of the table has come to one of them
twice. -/
theorem exists_firstRepeat (trail : Trail fetch count false head descriptors)
    (full : descriptors.length = count.toNat)
    (further : reached fetch head descriptors.length = some index)
    (inside : index.toUInt32 < count) :
    ∃ links ≤ descriptors.length, ∃ repeated, FirstRepeat fetch head links repeated := by
  have hinside : ∀ links ≤ descriptors.length, ∃ other,
      reached fetch head links = some other ∧ other.toNat < count.toNat := by
    intro links before
    by_cases last : links = descriptors.length
    · rw [last]
      exact ⟨index, further, UInt32.lt_iff_toNat_lt.1 inside⟩
    · have hlisted : descriptors[links]? = some descriptors[links] :=
        List.getElem?_eq_getElem (by omega)
      obtain ⟨other, here, hother, -, -⟩ := trail.steps links _ hlisted
      exact ⟨other, here, UInt32.lt_iff_toNat_lt.1 hother⟩
  -- there is one more place on the way than there are indices
  let place (links : Nat) : Nat := ((reached fetch head links).map (·.toNat)).getD 0
  have hmaps : Set.MapsTo place (Finset.range (descriptors.length + 1))
      (Finset.range count.toNat) := by
    intro links member
    rw [Finset.coe_range, Set.mem_Iio] at member ⊢
    obtain ⟨other, here, hother⟩ := hinside links (Nat.le_of_lt_succ member)
    simpa only [place, here, Option.map_some, Option.getD_some] using hother
  obtain ⟨first, hfirst, second, hsecond, apart, same⟩ :=
    Finset.exists_ne_map_eq_of_card_lt_of_maps_to
      (by rw [Finset.card_range, Finset.card_range]; omega) hmaps
  rw [Finset.mem_range] at hfirst hsecond
  obtain ⟨one, hone, -⟩ := hinside first (Nat.le_of_lt_succ hfirst)
  obtain ⟨two, htwo, -⟩ := hinside second (Nat.le_of_lt_succ hsecond)
  simp only [place, hone, htwo, Option.map_some, Option.getD_some] at same
  have hequal : one = two := UInt16.toNat_inj.1 same
  rcases Nat.lt_or_gt_of_ne apart with before | after
  · obtain ⟨links, hlinks, hrepeat⟩ :=
      Chain.exists_firstRepeat before (by rw [hone, htwo, hequal]) htwo
    exact ⟨links, by omega, hrepeat⟩
  · obtain ⟨links, hlinks, hrepeat⟩ :=
      Chain.exists_firstRepeat after (by rw [hone, htwo, hequal]) hone
    exact ⟨links, by omega, hrepeat⟩

/-- Where the way first comes back to an index, a walk that looks for cycles fails. -/
theorem walked_firstRepeat (trail : Trail fetch count false head descriptors)
    (repeats : FirstRepeat fetch head links index) (within : links ≤ descriptors.length)
    {limit : Nat} (room : descriptors.length ≤ limit) :
    Walked fetch count true limit head (.error (.chainLoops index)) := by
  obtain ⟨earlier, before, same⟩ := repeats.before
  obtain ⟨other, here, inside, -, -⟩ :=
    trail.steps earlier _ (List.getElem?_eq_getElem (Nat.lt_of_lt_of_le before within))
  rw [same] at here
  cases here
  have hlength : (descriptors.take links).length = links := by
    rw [List.length_take]
    omega
  have htrail : Trail fetch count true head (descriptors.take links) := by
    refine (trail.take (by omega)).detecting fun later hlater => ?_
    exact repeats.first later (by omega)
  refine .loops htrail (by omega) ?_ inside ⟨rfl, earlier, by omega, same⟩
  rw [hlength]
  exact repeats.here

end Trail

/-- A chain of some number of descriptors: its indices all differ, and the last one has no link. -/
structure EndsAfter (fetch : UInt16 → Except DeviceError Descriptor) (head : UInt16)
    (length : Nat) : Prop where
  /-- The last descriptor has no link. -/
  last : ∃ links index descriptor, links + 1 = length ∧ reached fetch head links = some index ∧
    fetch index = .ok descriptor ∧ descriptor.hasNext = false
  /-- The indices all differ. -/
  distinct : ∀ later < length, ∃ index, reached fetch head later = some index ∧
    ∀ earlier < later, reached fetch head earlier ≠ some index

/-- The trail of a walk that looks for cycles is a chain that ends if the way does. -/
theorem Trail.endsAfter (trail : Trail fetch count true head descriptors)
    (last : reached fetch head descriptors.length = none) :
    EndsAfter fetch head descriptors.length := by
  obtain ⟨links, hlinks⟩ := Nat.exists_eq_add_one_of_ne_zero (Nat.ne_of_gt trail.length_pos)
  refine ⟨?_, fun later inside => ?_⟩
  · obtain ⟨index, here, -, fetched, -⟩ :=
      trail.steps links _ (List.getElem?_eq_getElem (by omega))
    rw [hlinks] at last
    exact ⟨links, index, _, hlinks.symm, here, fetched, hasNext_of_last here fetched last⟩
  · obtain ⟨index, here, -, -, new⟩ := trail.steps later _ (List.getElem?_eq_getElem inside)
    exact ⟨index, here, fun earlier before same => new ⟨rfl, earlier, before, same⟩⟩

/-- The way along a chain that ends does not come back. -/
theorem EndsAfter.not_firstRepeat {length : Nat} (ends : EndsAfter fetch head length) :
    ¬FirstRepeat fetch head links index := by
  intro repeats
  obtain ⟨place, other, descriptor, rfl, here, fetched, follows⟩ := ends.last
  obtain ⟨earlier, before, same⟩ := repeats.before
  have hend : reached fetch head (place + 1) = none := by
    rw [reached_succ here fetched, follows]
    rfl
  have hlinks : links < place + 1 := by
    refine Nat.lt_of_not_le fun beyond => ?_
    obtain ⟨_, impossible⟩ := reached_of_le repeats.here beyond
    rw [hend] at impossible
    cases impossible
  obtain ⟨there, hthere, new⟩ := ends.distinct links hlinks
  obtain rfl : index = there := Option.some.inj (repeats.here.symm.trans hthere)
  exact new earlier before same

/-- Two walks from a head, without and with a look for cycles, differ only on a chain that runs into
a cycle: one gives as many buffers as the table has descriptors, the other fails. -/
structure DifferByCycle {α : Type} (fetch : UInt16 → Except DeviceError Descriptor) (head : UInt16)
    (count : Nat) (size : α → Nat) (off on : Except DeviceError α) : Prop where
  /-- Where the first fails, the second fails in the same way. -/
  fails : ∀ error, off = .error error → on = .error error
  /-- Where the second succeeds, the first gives the same, and the chain ends without a cycle. -/
  succeeds : ∀ answer, on = .ok answer → off = .ok answer ∧ EndsAfter fetch head (size answer)
  /-- Where the first succeeds, the two differ exactly if the way comes back to an index. -/
  differs : ∀ answer, off = .ok answer →
    (on ≠ off ↔ ∃ links index, FirstRepeat fetch head links index)
  /-- There the second fails at that index, and the first gives as many buffers as there are
  descriptors. -/
  loops : ∀ answer, off = .ok answer → ∀ links index, FirstRepeat fetch head links index →
    on = .error (.chainLoops index) ∧ size answer = count

namespace DifferByCycle

variable {α β : Type} {number : Nat} {size : α → Nat} {off on : Except DeviceError α}

/-- Two walks that fail alike do not differ. -/
theorem of_error {error : DeviceError} (fails : off = .error error) (fails' : on = .error error) :
    DifferByCycle fetch head number size off on := by
  subst fails fails'
  exact ⟨fun _ same => same, (fun _ impossible => by cases impossible),
    (fun _ impossible => by cases impossible), fun _ impossible => by cases impossible⟩

/-- Two walks that succeed alike on a chain that ends do not differ. -/
theorem of_ends {answer : α} (succeeds : off = .ok answer) (succeeds' : on = .ok answer)
    (ends : EndsAfter fetch head (size answer)) :
    DifferByCycle fetch head number size off on := by
  subst succeeds succeeds'
  refine ⟨(fun _ impossible => by cases impossible), fun other same => ?_, fun other _ => ?_,
    fun other _ links index repeats => absurd repeats ends.not_firstRepeat⟩
  · cases same
    exact ⟨rfl, ends⟩
  · refine ⟨fun differ => absurd rfl differ, ?_⟩
    rintro ⟨links, index, repeats⟩
    exact absurd repeats ends.not_firstRepeat

/-- Two walks differ on a chain that runs into a cycle. -/
theorem of_loops {answer : α} (succeeds : off = .ok answer) (all : size answer = number)
    (repeats : FirstRepeat fetch head links index) (fails : on = .error (.chainLoops index)) :
    DifferByCycle fetch head number size off on := by
  subst succeeds fails
  refine ⟨(fun _ impossible => by cases impossible), (fun _ impossible => by cases impossible),
    fun other same => ⟨fun _ => ⟨links, index, repeats⟩, fun _ impossible => by cases impossible⟩,
    fun other same links' index' repeats' => ?_⟩
  cases same
  rw [(repeats.unique repeats').2]
  exact ⟨rfl, all⟩

/-- What is made of the buffers of a chain differs where these do. -/
theorem map {size' : β → Nat} (differ : DifferByCycle fetch head number size off on) (made : α → β)
    (sizes : ∀ answer, size' (made answer) = size answer) :
    DifferByCycle fetch head number size' (off.map made) (on.map made) := by
  cases hoff : off with
  | error error => exact of_error rfl (by rw [differ.fails error hoff, Except.map])
  | ok answer =>
    by_cases repeats : ∃ links index, FirstRepeat fetch head links index
    · obtain ⟨links, index, repeats⟩ := repeats
      obtain ⟨hfails, hall⟩ := differ.loops answer hoff links index repeats
      refine of_loops rfl ((sizes answer).trans hall) repeats ?_
      rw [hfails, Except.map]
    · have hon : on = .ok answer := by
        rw [← hoff]
        by_contra apart
        exact repeats ((differ.differs answer hoff).1 apart)
      refine of_ends rfl (by rw [hon, Except.map]) ?_
      rw [sizes]
      exact (differ.succeeds answer hon).2

end DifferByCycle

/-- Collecting the buffers of a chain, with room for all descriptors of the table, differs by
looking for cycles only on a chain that runs into one. -/
theorem differByCycle_collect (fetch : UInt16 → Except DeviceError Descriptor) (head : UInt16)
    (positive : 0 < count.toNat) :
    DifferByCycle fetch head count.toNat List.length (collect fetch count false count.toNat head)
      (collect fetch count true count.toNat head) := by
  have hwalked := walked_collect fetch count false head positive
  generalize hoff : collect fetch count false count.toNat head = off at hwalked
  cases hwalked with
  | headOutside outside => exact .of_error rfl (Walked.headOutside outside).collect_eq
  | headUnread inside failed => exact .of_error rfl (Walked.headUnread inside failed).collect_eq
  | headIndirect inside fetched indirect =>
    exact .of_error rfl (Walked.headIndirect inside fetched indirect).collect_eq
  | ends trail within last =>
    have htrail := trail.detecting (trail.distinct fun first index inside here _ _ same => by
      rw [last, here] at same
      cases same)
    refine .of_ends rfl (Walked.ends htrail within last).collect_eq ?_
    rw [List.length_map]
    exact htrail.endsAfter last
  | full trail within further inside new =>
    obtain ⟨links, hlinks, repeated, repeats⟩ := trail.exists_firstRepeat within further inside
    refine .of_loops rfl ?_ repeats
      (trail.walked_firstRepeat repeats hlinks (Nat.le_of_eq within)).collect_eq
    rw [List.length_map, within]
  | leaves trail within further outside =>
    have htrail := trail.detecting (trail.distinct fun first other inside here hother _ same => by
      rw [further, here] at same
      cases same
      exact UInt32.not_le.2 hother outside)
    exact .of_error rfl (Walked.leaves htrail within further outside).collect_eq
  | loops trail within further inside visited => exact absurd visited.1 Bool.false_ne_true
  | unread trail within further inside new failed =>
    have htrail := trail.detecting (trail.distinct fun first other inside here _ hfetched same => by
      rw [further, here] at same
      cases same
      obtain ⟨descriptor, fetched⟩ := hfetched
      rw [failed] at fetched
      cases fetched)
    refine .of_error rfl (Walked.unread htrail within further inside ?_ failed).collect_eq
    rintro ⟨-, earlier, before, same⟩
    obtain ⟨other, here, -, fetched, -⟩ :=
      trail.steps earlier _ (List.getElem?_eq_getElem before)
    rw [same] at here
    cases here
    rw [failed] at fetched
    cases fetched

end Chain

namespace Queue

variable {queue : Queue} {ring : ActiveRing} {space : AddressSpace} {head : UInt16}
  {out : List Segment}

/-- The queue with or without a look for cycles. -/
def detecting (queue : Queue) (detectCycles : Bool) : Queue := { queue with detectCycles }

/-- Reading the next slot does not depend on whether cycles are looked for. -/
theorem tryPop_detecting (queue : Queue) (space : AddressSpace) (detectCycles : Bool) :
    ((queue.detecting detectCycles).tryPop space).1 = (queue.tryPop space).1 := by
  cases active : queue.ring with
  | none =>
    have hactive : (queue.detecting detectCycles).ring = none := active
    rw [tryPop, tryPop, active, hactive]
  | some ring =>
    have hactive : (queue.detecting detectCycles).ring = some ring := active
    rw [tryPop, tryPop, active, hactive]

/-- With work whose slot cannot be read, only the cursor moves. -/
theorem popChain_of_unread {error : DeviceError} (active : queue.ring = some ring)
    (work : queue.hasWork space = true) (unread : (queue.tryPop space).1 = .error error) :
    queue.popChain space = (.error error, queue.withRing ring.advance, space) := by
  have htaken : queue.tryPop space = (.error error, queue.withRing ring.advance) :=
    Prod.ext unread (tryPop_snd active space)
  unfold popChain
  rw [if_pos work, htaken]

/-- Walking with room for all descriptors of the table collects up to as many buffers. -/
theorem walk_detecting (active : queue.ring = some ring) (wellPlaced : ring.WellPlaced)
    (space : AddressSpace) (head : UInt16) {capacity : Nat} (room : ring.count.toNat ≤ capacity)
    (detectCycles : Bool) : (queue.detecting detectCycles).walk space head capacity =
      match Chain.collect (queue.descriptor space) ring.count detectCycles ring.count.toNat head with
      | .error error => (.error error, space)
      | .ok segments => (.ok ⟨head, segments⟩, (ring.writeAvailableEvent space).2) := by
  have hpositive := wellPlaced.count_pos
  have hactive : (queue.detecting detectCycles).ring = some ring := active
  rw [walk_eq hactive space head (by omega), Nat.min_eq_right room]
  rfl

/-- Walking with room for all descriptors of the table differs by looking for cycles only on a chain
that runs into one. -/
theorem differByCycle_walk (active : queue.ring = some ring) (wellPlaced : ring.WellPlaced)
    (space : AddressSpace) (head : UInt16) {capacity : Nat} (room : ring.count.toNat ≤ capacity) :
    Chain.DifferByCycle (queue.descriptor space) head ring.count.toNat (·.segments.length)
        ((queue.detecting false).walk space head capacity).1
        ((queue.detecting true).walk space head capacity).1 ∧
      ∀ chain, ((queue.detecting true).walk space head capacity).1 = .ok chain →
        ((queue.detecting false).walk space head capacity).2 =
          ((queue.detecting true).walk space head capacity).2 := by
  have hwalk := walk_detecting active wellPlaced space head room
  have hchain (detectCycles : Bool) :
      ((queue.detecting detectCycles).walk space head capacity).1 =
        (Chain.collect (queue.descriptor space) ring.count detectCycles ring.count.toNat head).map
          (Chain.mk head) := by
    rw [hwalk]
    cases Chain.collect (queue.descriptor space) ring.count detectCycles ring.count.toNat head <;> rfl
  have hcollect := Chain.differByCycle_collect (queue.descriptor space) head wellPlaced.count_pos
  refine ⟨?_, fun chain success => ?_⟩
  · rw [hchain, hchain]
    exact hcollect.map (Chain.mk head) fun _ => rfl
  · rw [hwalk, hwalk]
    rw [hchain] at success
    cases hon : Chain.collect (queue.descriptor space) ring.count true ring.count.toNat head with
    | error error =>
      rw [hon] at success
      cases success
    | ok segments => rw [(hcollect.succeeds segments hon).1]

/-- Walking into a list with room for all descriptors of the table differs by looking for cycles
only on a chain that runs into one. -/
theorem differByCycle_walkInto (active : queue.ring = some ring) (wellPlaced : ring.WellPlaced)
    (space : AddressSpace) (head : UInt16) (room : ring.count.toNat ≤ out.length) :
    Chain.DifferByCycle (queue.descriptor space) head ring.count.toNat (·.1.segmentCount)
        ((queue.detecting false).walkInto space head out).1
        ((queue.detecting true).walkInto space head out).1 ∧
      ∀ answer, ((queue.detecting true).walkInto space head out).1 = .ok answer →
        ((queue.detecting false).walkInto space head out).2 =
          ((queue.detecting true).walkInto space head out).2 := by
  obtain ⟨hdiffer, hspace⟩ := differByCycle_walk active wellPlaced space head room
  refine ⟨hdiffer.map _ fun _ => rfl, fun answer success => ?_⟩
  obtain ⟨chain, hwalk⟩ := exists_eq_ok_of_map success
  exact hspace chain hwalk

/-- Taking the next chain differs by looking for cycles only if there is a slot that can be read,
and the chain at the head in it runs into a cycle. The queue that is left is the same. -/
theorem differByCycle_popChain (active : queue.ring = some ring) (wellPlaced : ring.WellPlaced)
    (space : AddressSpace) :
    let off := queue.detecting false
    let on := queue.detecting true
    (off.popChain space).2.1 = (on.popChain space).2.1.detecting false ∧
      (∀ taken, (on.popChain space).1 = .ok taken →
        (off.popChain space).2.2 = (on.popChain space).2.2) ∧
      (queue.hasWork space = false ∧ (off.popChain space).1 = .ok none ∧
          (on.popChain space).1 = .ok none ∨
        (∃ error, (queue.tryPop space).1 = .error error ∧ (off.popChain space).1 = .error error ∧
          (on.popChain space).1 = .error error) ∨
        ∃ taken, (queue.tryPop space).1 = .ok taken ∧
          Chain.DifferByCycle (queue.descriptor space) taken ring.count.toNat
            (fun answer => (answer.map (·.segments.length)).getD 0)
            (off.popChain space).1 (on.popChain space).1) := by
  intro off on
  have hoff : off.ring = some ring := active
  have hon : on.ring = some ring := active
  cases work : queue.hasWork space with
  | false =>
    have hidle : off.hasWork space = false := work
    have hidle' : on.hasWork space = false := work
    rw [popChain_of_idle hidle, popChain_of_idle hidle']
    exact ⟨rfl, fun _ _ => rfl, Or.inl ⟨rfl, rfl, rfl⟩⟩
  | true =>
    have hwork : off.hasWork space = true := work
    have hwork' : on.hasWork space = true := work
    have hslot : (off.tryPop space).1 = (queue.tryPop space).1 := tryPop_detecting queue space false
    have hslot' : (on.tryPop space).1 = (queue.tryPop space).1 := tryPop_detecting queue space true
    cases popped : (queue.tryPop space).1 with
    | error error =>
      rw [popChain_of_unread hoff hwork (hslot.trans popped),
        popChain_of_unread hon hwork' (hslot'.trans popped)]
      exact ⟨rfl, fun _ _ => rfl, Or.inr (Or.inl ⟨error, rfl, rfl, rfl⟩)⟩
    | ok taken =>
      rw [popChain_of_work hoff hwork (hslot.trans popped),
        popChain_of_work hon hwork' (hslot'.trans popped)]
      obtain ⟨hdiffer, hspace⟩ := differByCycle_walk
        (rfl : (queue.withRing ring.advance).ring = some ring.advance)
        (wellPlaced.withCursors _ _) space taken (Nat.le_refl ring.count.toNat)
      have hdescriptor : (queue.withRing ring.advance).descriptor space =
          queue.descriptor space := by
        funext index
        rw [descriptor, descriptor, active]
        rfl
      rw [hdescriptor] at hdiffer
      refine ⟨rfl, fun answer success => ?_,
        Or.inr (Or.inr ⟨taken, rfl, hdiffer.map some fun _ => rfl⟩)⟩
      obtain ⟨chain, hwalk⟩ := exists_eq_ok_of_map success
      exact hspace chain hwalk

/-- On a queue that is set up, whatever its table holds, looking for cycles makes a difference only
on a chain that runs into one. This holds of a walk into a list with room for all descriptors of the
table, and of taking the next chain, where both leave the same queue. -/
theorem differByCycle (active : queue.ring = some ring) (wellPlaced : ring.WellPlaced)
    (space : AddressSpace) (head : UInt16) (room : ring.count.toNat ≤ out.length) :
    let off := queue.detecting false
    let on := queue.detecting true
    (Chain.DifferByCycle (queue.descriptor space) head ring.count.toNat (·.1.segmentCount)
        (off.walkInto space head out).1 (on.walkInto space head out).1 ∧
      ∀ answer, (on.walkInto space head out).1 = .ok answer →
        (off.walkInto space head out).2 = (on.walkInto space head out).2) ∧
      (off.popChain space).2.1 = (on.popChain space).2.1.detecting false ∧
      (∀ taken, (on.popChain space).1 = .ok taken →
        (off.popChain space).2.2 = (on.popChain space).2.2) ∧
      (queue.hasWork space = false ∧ (off.popChain space).1 = .ok none ∧
          (on.popChain space).1 = .ok none ∨
        (∃ error, (queue.tryPop space).1 = .error error ∧ (off.popChain space).1 = .error error ∧
          (on.popChain space).1 = .error error) ∨
        ∃ taken, (queue.tryPop space).1 = .ok taken ∧
          Chain.DifferByCycle (queue.descriptor space) taken ring.count.toNat
            (fun answer => (answer.map (·.segments.length)).getD 0)
            (off.popChain space).1 (on.popChain space).1) :=
  ⟨differByCycle_walkInto active wellPlaced space head room,
    differByCycle_popChain active wellPlaced space⟩

/-- Small memory with a published chain that runs into a cycle: the way from index 0 of the small
ring leads to 1, to 2 and back to 1. -/
def loopSpace : AddressSpace :=
  (AddressSpace.store { memory := smallMemory } 4096
    (Descriptor.encode ⟨8192, 16, 1, 1⟩ ++ Descriptor.encode ⟨12288, 32, 3, 2⟩ ++
      Descriptor.encode ⟨16384, 64, 3, 1⟩ ++ Descriptor.encode ⟨20480, 5, 2, 1⟩)).store 4162 [1, 0]

/-- On the small ring a chain that runs into a cycle is walked until it has four buffers, or refused
where it comes back. A chain that ends is the same with and without a look for cycles. -/
theorem differByCycle_smallRing :
    let queue : Queue := Queue.withRing {} smallRing
    let out := List.replicate 5 Segment.empty
    let segments : List Segment :=
      [⟨8192, 16, .fromGuest⟩, ⟨12288, 32, .toGuest⟩, ⟨16384, 64, .toGuest⟩, ⟨12288, 32, .toGuest⟩]
    smallRing.WellPlaced ∧ smallRing.count.toNat ≤ out.length ∧
      Chain.FirstRepeat (queue.descriptor loopSpace) 0 3 1 ∧
      ((queue.detecting false).walkInto loopSpace 0 out).1 =
        .ok (⟨0, 4, 144⟩, segments ++ [.empty]) ∧
      ((queue.detecting true).walkInto loopSpace 0 out).1 = .error (.chainLoops 1) ∧
      ((queue.detecting false).popChain loopSpace).1 = .ok (some ⟨0, segments⟩) ∧
      ((queue.detecting true).popChain loopSpace).1 = .error (.chainLoops 1) ∧
      ((queue.detecting false).walkInto loopSpace 3 out).1 =
        ((queue.detecting true).walkInto loopSpace 3 out).1 := by
  intro queue out segments
  have hrepeats : Chain.FirstRepeat (queue.descriptor loopSpace) 0 3 1 := by
    refine ⟨by decide, ⟨1, by decide, by decide⟩, ?_⟩
    decide
  have hroom : smallRing.count.toNat ≤ out.length := by decide
  obtain ⟨⟨hwalked, -⟩, -, -, htaken⟩ :=
    differByCycle (rfl : queue.ring = some smallRing) wellPlaced_smallRing loopSpace 0 hroom
  have hwalk : ((queue.detecting false).walkInto loopSpace 0 out).1 =
    .ok (⟨0, 4, 144⟩, segments ++ [.empty]) := by decide
  have hpop : ((queue.detecting false).popChain loopSpace).1 = .ok (some ⟨0, segments⟩) := by
    decide
  refine ⟨wellPlaced_smallRing, hroom, hrepeats, hwalk, (hwalked.loops _ hwalk 3 1 hrepeats).1,
    hpop, ?_, ?_⟩
  · rcases htaken with ⟨-, impossible, -⟩ | ⟨error, -, impossible, -⟩ | ⟨taken, popped, hdiffer⟩
    · rw [hpop] at impossible
      cases impossible
    · rw [hpop] at impossible
      cases impossible
    · have hfirst : (queue.tryPop loopSpace).1 = .ok 0 := by decide
      obtain rfl : 0 = taken := Except.ok.inj (hfirst.symm.trans popped)
      exact (hdiffer.loops _ hpop 3 1 hrepeats).1
  · obtain ⟨⟨hends, -⟩, -⟩ :=
      differByCycle (rfl : queue.ring = some smallRing) wellPlaced_smallRing loopSpace 3 hroom
    have hwalk' : ((queue.detecting true).walkInto loopSpace 3 out).1 =
      .ok (⟨3, 1, 5⟩, ⟨20480, 5, .toGuest⟩ :: List.replicate 4 .empty) := by decide
    exact (hends.succeeds _ hwalk').1.trans hwalk'.symm

end Queue

end Paravirt

import Paravirt.Queue.Chain

/-!
# The way along a chain

The links of the table lead from a head along a way of indices, which stops behind a descriptor
without a link or at an index that cannot be read. A walk goes along that way until it ends, until
there is no room for another buffer, or until something about the next index is wrong. Which of
these comes first, and so what the walk gives, is determined by the way alone.
-/

namespace Paravirt

namespace Chain

section Way

variable (fetch : UInt16 → Except DeviceError Descriptor)

/-- Where the descriptor at an index links to. -/
def successor (index : UInt16) : Option UInt16 :=
  match fetch index with
  | .error _ => none
  | .ok descriptor => if descriptor.hasNext then some descriptor.next else none

/-- The index to which a number of links lead from a head. -/
def reached (head : UInt16) : Nat → Option UInt16
  | 0 => some head
  | links + 1 => (reached head links).bind (successor fetch)

end Way

variable {fetch : UInt16 → Except DeviceError Descriptor} {count : UInt32} {detectCycles : Bool}
  {head index next : UInt16} {descriptor : Descriptor} {descriptors : List Descriptor}
  {error : DeviceError} {links limit : Nat} {seen : Option (Std.TreeSet Nat)}

/-- One more link leads to where the descriptor at an index says. -/
theorem reached_succ (here : reached fetch head links = some index)
    (fetched : fetch index = .ok descriptor) :
    reached fetch head (links + 1) = if descriptor.hasNext then some descriptor.next else none := by
  rw [reached, here, Option.bind_some, successor, fetched]

/-- Cycles are looked for, and an index is among the first so many on the way from a head. -/
def Visited (fetch : UInt16 → Except DeviceError Descriptor) (detectCycles : Bool) (head : UInt16)
    (links : Nat) (index : UInt16) : Prop :=
  detectCycles = true ∧ ∃ earlier < links, reached fetch head earlier = some index

/-- A link that leads on is the one in the descriptor. -/
theorem hasNext_of_reached (here : reached fetch head links = some index)
    (fetched : fetch index = .ok descriptor)
    (further : reached fetch head (links + 1) = some next) :
    descriptor.hasNext = true ∧ descriptor.next = next := by
  rw [reached_succ here fetched] at further
  cases follows : descriptor.hasNext with
  | true =>
    rw [follows] at further
    exact ⟨rfl, Option.some.inj further⟩
  | false =>
    rw [follows] at further
    cases further

/-- The way ends behind a descriptor that has been read only if it has no link. -/
theorem hasNext_of_last (here : reached fetch head links = some index)
    (fetched : fetch index = .ok descriptor) (last : reached fetch head (links + 1) = none) :
    descriptor.hasNext = false := by
  rw [reached_succ here fetched] at last
  cases follows : descriptor.hasNext with
  | true =>
    rw [follows] at last
    cases last
  | false => rfl

/-- The first descriptors on the way from a head: each of them lies in the table and can be read,
the first one is not indirect, and if cycles are looked for no index comes twice. -/
structure Trail (fetch : UInt16 → Except DeviceError Descriptor) (count : UInt32)
    (detectCycles : Bool) (head : UInt16) (descriptors : List Descriptor) : Prop where
  /-- The first descriptor is not indirect. -/
  direct : ∃ descriptor, descriptors[0]? = some descriptor ∧ descriptor.isIndirect = false
  /-- Each descriptor is read at the index that the way has reached. -/
  steps : ∀ (links : Nat) (descriptor : Descriptor), descriptors[links]? = some descriptor →
    ∃ index, reached fetch head links = some index ∧ index.toUInt32 < count ∧
      fetch index = .ok descriptor ∧ ¬Visited fetch detectCycles head links index

namespace Trail

/-- A head in the table with a descriptor that is not indirect is a trail. -/
theorem start (inside : head.toUInt32 < count) (fetched : fetch head = .ok descriptor)
    (direct : descriptor.isIndirect = false) : Trail fetch count detectCycles head [descriptor] := by
  refine ⟨⟨descriptor, rfl, direct⟩, fun links other listed => ?_⟩
  cases links with
  | zero =>
    cases listed
    refine ⟨head, rfl, inside, fetched, ?_⟩
    rintro ⟨-, earlier, before, -⟩
    cases before
  | succ links => cases listed

/-- A trail goes on at an index that lies in the table, can be read, and was not visited. -/
theorem append (trail : Trail fetch count detectCycles head descriptors)
    (further : reached fetch head descriptors.length = some index) (inside : index.toUInt32 < count)
    (fetched : fetch index = .ok descriptor)
    (new : ¬Visited fetch detectCycles head descriptors.length index) :
    Trail fetch count detectCycles head (descriptors ++ [descriptor]) := by
  obtain ⟨⟨first, hfirst, direct⟩, steps⟩ := trail
  have hpositive := (List.getElem?_eq_some_iff.1 hfirst).1
  refine ⟨⟨first, by rw [List.getElem?_append_left hpositive, hfirst], direct⟩,
    fun links other listed => ?_⟩
  by_cases before : links < descriptors.length
  · rw [List.getElem?_append_left before] at listed
    exact steps links other listed
  · have hlinks := (List.getElem?_eq_some_iff.1 listed).1
    rw [List.length_append, List.length_singleton] at hlinks
    have hlast : links = descriptors.length := by omega
    rw [hlast, List.getElem?_concat_length] at listed
    cases listed
    rw [hlast]
    exact ⟨index, further, inside, fetched, new⟩

/-- A trail has a first descriptor. -/
theorem length_pos (trail : Trail fetch count detectCycles head descriptors) :
    0 < descriptors.length := by
  obtain ⟨first, hfirst, -⟩ := trail.direct
  exact (List.getElem?_eq_some_iff.1 hfirst).1

/-- The head of a trail lies in the table and has a descriptor that is not indirect. -/
theorem head_spec (trail : Trail fetch count detectCycles head descriptors) :
    ∃ descriptor, descriptors[0]? = some descriptor ∧ head.toUInt32 < count ∧
      fetch head = .ok descriptor ∧ descriptor.isIndirect = false := by
  obtain ⟨first, hfirst, hdirect⟩ := trail.direct
  obtain ⟨index, here, inside, fetched, -⟩ := trail.steps 0 first hfirst
  cases here
  exact ⟨first, hfirst, inside, fetched, hdirect⟩

end Trail

/-- What a walk from a head gives that looks at no more than `limit` descriptors: the buffers of a
trail that ends or has no room to go on, or what is wrong at the head or at the next index of a
trail. -/
inductive Walked (fetch : UInt16 → Except DeviceError Descriptor) (count : UInt32)
    (detectCycles : Bool) (limit : Nat) (head : UInt16) :
    Except DeviceError (List Segment) → Prop where
  /-- The head does not lie in the table. -/
  | headOutside (outside : count ≤ head.toUInt32) :
      Walked fetch count detectCycles limit head (.error (.headOutOfRange head))
  /-- The head cannot be read. -/
  | headUnread {error : DeviceError} (inside : head.toUInt32 < count)
      (failed : fetch head = .error error) :
      Walked fetch count detectCycles limit head (.error error)
  /-- The head is indirect. -/
  | headIndirect {descriptor : Descriptor} (inside : head.toUInt32 < count)
      (fetched : fetch head = .ok descriptor) (indirect : descriptor.isIndirect = true) :
      Walked fetch count detectCycles limit head (.error .indirectDescriptor)
  /-- The way ends. -/
  | ends {descriptors : List Descriptor} (trail : Trail fetch count detectCycles head descriptors)
      (within : descriptors.length ≤ limit) (last : reached fetch head descriptors.length = none) :
      Walked fetch count detectCycles limit head (.ok (descriptors.map (·.segment)))
  /-- The way goes on to an index with which nothing is wrong, but there is no room. -/
  | full {descriptors : List Descriptor} {index : UInt16}
      (trail : Trail fetch count detectCycles head descriptors)
      (within : descriptors.length = limit)
      (further : reached fetch head descriptors.length = some index)
      (inside : index.toUInt32 < count)
      (new : ¬Visited fetch detectCycles head descriptors.length index) :
      Walked fetch count detectCycles limit head (.ok (descriptors.map (·.segment)))
  /-- The way leaves the table. -/
  | leaves {descriptors : List Descriptor} {index : UInt16}
      (trail : Trail fetch count detectCycles head descriptors)
      (within : descriptors.length ≤ limit)
      (further : reached fetch head descriptors.length = some index)
      (outside : count ≤ index.toUInt32) :
      Walked fetch count detectCycles limit head (.error (.nextOutOfRange index))
  /-- The way comes back to an index. -/
  | loops {descriptors : List Descriptor} {index : UInt16}
      (trail : Trail fetch count detectCycles head descriptors)
      (within : descriptors.length ≤ limit)
      (further : reached fetch head descriptors.length = some index)
      (inside : index.toUInt32 < count)
      (visited : Visited fetch detectCycles head descriptors.length index) :
      Walked fetch count detectCycles limit head (.error (.chainLoops index))
  /-- The next index cannot be read. -/
  | unread {descriptors : List Descriptor} {index : UInt16} {error : DeviceError}
      (trail : Trail fetch count detectCycles head descriptors)
      (within : descriptors.length < limit)
      (further : reached fetch head descriptors.length = some index)
      (inside : index.toUInt32 < count)
      (new : ¬Visited fetch detectCycles head descriptors.length index)
      (failed : fetch index = .error error) :
      Walked fetch count detectCycles limit head (.error error)

/-- A trail within the limit leads to something that a walk gives. -/
theorem Trail.exists_walked {descriptors : List Descriptor}
    (trail : Trail fetch count detectCycles head descriptors)
    (within : descriptors.length ≤ limit) :
    ∃ answer, Walked fetch count detectCycles limit head answer := by
  cases further : reached fetch head descriptors.length with
  | none => exact ⟨_, .ends trail within further⟩
  | some index =>
    by_cases inside : index.toUInt32 < count
    · by_cases visited : Visited fetch detectCycles head descriptors.length index
      · exact ⟨_, .loops trail within further inside visited⟩
      · by_cases room : descriptors.length < limit
        · cases fetched : fetch index with
          | error error => exact ⟨_, .unread trail room further inside visited fetched⟩
          | ok descriptor =>
            have hlonger : (descriptors ++ [descriptor]).length = descriptors.length + 1 :=
              List.length_append
            exact (trail.append further inside fetched visited).exists_walked (by omega)
        · exact ⟨_, .full trail (by omega) further inside visited⟩
    · exact ⟨_, .leaves trail within further (UInt32.not_lt.1 inside)⟩
termination_by limit - descriptors.length

/-- From every head a walk gives something, if there is room for a buffer. -/
theorem exists_walked (fetch : UInt16 → Except DeviceError Descriptor) (count : UInt32)
    (detectCycles : Bool) (head : UInt16) (positive : 0 < limit) :
    ∃ answer, Walked fetch count detectCycles limit head answer := by
  by_cases inside : head.toUInt32 < count
  · cases fetched : fetch head with
    | error error => exact ⟨_, .headUnread inside fetched⟩
    | ok descriptor =>
      cases direct : descriptor.isIndirect with
      | true => exact ⟨_, .headIndirect inside fetched direct⟩
      | false => exact (Trail.start inside fetched direct).exists_walked positive
  · exact ⟨_, .headOutside (UInt32.not_lt.1 inside)⟩

/-- The set of visited indices, there only if cycles are looked for, holds those among the first so
many on the way. -/
structure Tracks (fetch : UInt16 → Except DeviceError Descriptor) (detectCycles : Bool)
    (head : UInt16) (links : Nat) (seen : Option (Std.TreeSet Nat)) : Prop where
  /-- There is a set if cycles are looked for. -/
  isSome : seen.isSome = detectCycles
  /-- It holds the indices that the way has reached. -/
  contains : ∀ visited, seen = some visited → ∀ index : UInt16,
    visited.contains index.toNat = true ↔ ∃ earlier < links, reached fetch head earlier = some index

namespace Tracks

/-- At first the head is visited. -/
theorem start (fetch : UInt16 → Except DeviceError Descriptor) (detectCycles : Bool)
    (head : UInt16) : Tracks fetch detectCycles head 1
      (if detectCycles then some ((∅ : Std.TreeSet Nat).insert head.toNat) else none) := by
  cases detectCycles with
  | false => exact ⟨rfl, fun visited impossible => by cases impossible⟩
  | true =>
    refine ⟨rfl, fun visited held index => ?_⟩
    cases held
    rw [Std.TreeSet.contains_insert, Std.TreeSet.contains_emptyc, Bool.or_false, beq_iff_eq,
      Nat.compare_eq_eq, UInt16.toNat_inj]
    constructor
    · intro same
      exact ⟨0, Nat.zero_lt_one, congrArg some same⟩
    · rintro ⟨earlier, before, same⟩
      rw [Nat.lt_one_iff.1 before] at same
      exact Option.some.inj same

/-- One more index is visited. -/
theorem insert (tracks : Tracks fetch detectCycles head links seen)
    (further : reached fetch head links = some index) :
    Tracks fetch detectCycles head (links + 1) (seen.map (·.insert index.toNat)) := by
  refine ⟨by rw [Option.isSome_map, tracks.isSome], fun visited held other => ?_⟩
  obtain ⟨before, hbefore, rfl⟩ := Option.map_eq_some_iff.1 held
  rw [Std.TreeSet.contains_insert, Bool.or_eq_true, beq_iff_eq, Nat.compare_eq_eq, UInt16.toNat_inj,
    tracks.contains before hbefore]
  constructor
  · rintro (rfl | ⟨earlier, hearlier, same⟩)
    · exact ⟨links, Nat.lt_succ_self links, further⟩
    · exact ⟨earlier, Nat.lt_succ_of_lt hearlier, same⟩
  · rintro ⟨earlier, hearlier, same⟩
    by_cases last : earlier = links
    · rw [last, further] at same
      exact Or.inl (Option.some.inj same)
    · exact Or.inr ⟨earlier, by omega, same⟩

/-- What the set holds is what was visited. -/
theorem any_contains_iff (tracks : Tracks fetch detectCycles head links seen) (index : UInt16) :
    seen.any (·.contains index.toNat) = true ↔ Visited fetch detectCycles head links index := by
  unfold Visited
  rw [← tracks.isSome]
  cases held : seen with
  | none => exact ⟨(fun impossible => by cases impossible), fun visited => by cases visited.1⟩
  | some visited =>
    rw [Option.any_some, tracks.contains visited held]
    exact ⟨fun holds => ⟨rfl, holds⟩, And.right⟩

section Link

variable (tracks : Tracks fetch detectCycles head (links + 1) seen)
  (here : reached fetch head links = some index) (fetched : fetch index = .ok descriptor)

include here fetched

/-- Behind a descriptor without a link a chain does not go on. -/
theorem link_of_last (last : reached fetch head (links + 1) = none) (count : UInt32)
    (seen : Option (Std.TreeSet Nat)) : link count seen descriptor = .ok none := by
  rw [link, hasNext_of_last here fetched last]
  rfl

/-- A link that leaves the table is refused. -/
theorem link_of_outside (further : reached fetch head (links + 1) = some next)
    (outside : count ≤ next.toUInt32) (seen : Option (Std.TreeSet Nat)) :
    link count seen descriptor = .error (.nextOutOfRange next) := by
  obtain ⟨follows, rfl⟩ := hasNext_of_reached here fetched further
  rw [link, follows, if_neg (by decide), if_pos outside]

include tracks

/-- A link back to a visited index is refused. -/
theorem link_of_visited (further : reached fetch head (links + 1) = some next)
    (inside : next.toUInt32 < count)
    (visited : Visited fetch detectCycles head (links + 1) next) :
    link count seen descriptor = .error (.chainLoops next) := by
  obtain ⟨follows, rfl⟩ := hasNext_of_reached here fetched further
  rw [link, follows, if_neg (by decide), if_neg (UInt32.not_le.2 inside),
    if_pos ((tracks.any_contains_iff _).2 visited)]

/-- Every other link leads on. -/
theorem link_of_new (further : reached fetch head (links + 1) = some next)
    (inside : next.toUInt32 < count)
    (new : ¬Visited fetch detectCycles head (links + 1) next) :
    link count seen descriptor = .ok (some next) := by
  obtain ⟨follows, rfl⟩ := hasNext_of_reached here fetched further
  rw [link, follows, if_neg (by decide), if_neg (UInt32.not_le.2 inside),
    if_neg (mt (tracks.any_contains_iff _).1 new)]

end Link

end Tracks

/-- Along a trail within the limit, a walk comes to each of the descriptors. -/
theorem Trail.collect_eq (trail : Trail fetch count detectCycles head descriptors)
    (within : descriptors.length ≤ limit) (listed : descriptors[links]? = some descriptor) :
    ∃ seen, Tracks fetch detectCycles head (links + 1) seen ∧
      collect fetch count detectCycles limit head =
        follow fetch count (limit - (links + 1)) seen descriptor
          ((descriptors.take links).map (·.segment)).reverse := by
  induction links generalizing descriptor with
  | zero =>
    obtain ⟨first, hfirst, inside, fetched, direct⟩ := trail.head_spec
    rw [hfirst] at listed
    cases listed
    refine ⟨_, Tracks.start fetch detectCycles head, ?_⟩
    rw [collect, if_neg (UInt32.not_le.2 inside), fetched]
    dsimp only
    rw [direct, if_neg Bool.false_ne_true]
    rfl
  | succ links ih =>
    have hlength := (List.getElem?_eq_some_iff.1 listed).1
    have hbefore : descriptors[links]? = some descriptors[links] :=
      List.getElem?_eq_getElem (by omega)
    obtain ⟨seen, tracks, hcollect⟩ := ih hbefore
    obtain ⟨index, here, -, fetched, -⟩ := trail.steps links _ hbefore
    obtain ⟨next, further, inside, hnext, new⟩ := trail.steps (links + 1) _ listed
    refine ⟨_, tracks.insert further, ?_⟩
    have hroom : limit - (links + 1) = limit - (links + 2) + 1 := by omega
    rw [hcollect, follow, tracks.link_of_new here fetched further inside new, hroom]
    dsimp only
    rw [hnext, List.take_add_one, hbefore, List.map_append, List.reverse_append]
    rfl

/-- A walk comes to the last descriptor of a trail with all buffers before it. -/
theorem Trail.collect_eq_last (trail : Trail fetch count detectCycles head descriptors)
    (within : descriptors.length ≤ limit) :
    ∃ links index descriptor seen, links + 1 = descriptors.length ∧
      reached fetch head links = some index ∧ fetch index = .ok descriptor ∧
      Tracks fetch detectCycles head (links + 1) seen ∧
      collect fetch count detectCycles limit head =
        follow fetch count (limit - (links + 1)) seen descriptor
          ((descriptors.take links).map (·.segment)).reverse ∧
      (descriptor.segment :: ((descriptors.take links).map (·.segment)).reverse).reverse =
        descriptors.map (·.segment) := by
  obtain ⟨links, hlinks⟩ := Nat.exists_eq_add_one_of_ne_zero (Nat.ne_of_gt trail.length_pos)
  have hlisted : descriptors[links]? = some descriptors[links] :=
    List.getElem?_eq_getElem (by omega)
  obtain ⟨seen, tracks, hcollect⟩ := trail.collect_eq within hlisted
  obtain ⟨index, here, -, fetched, -⟩ := trail.steps links _ hlisted
  refine ⟨links, index, _, seen, hlinks.symm, here, fetched, tracks, hcollect, ?_⟩
  rw [List.reverse_cons, List.reverse_reverse, ← List.map_singleton, ← List.map_append,
    List.take_append_getElem, List.take_of_length_le (by omega)]

/-- What a walk gives is determined by the way from the head. -/
theorem Walked.collect_eq {answer : Except DeviceError (List Segment)}
    (walked : Walked fetch count detectCycles limit head answer) :
    collect fetch count detectCycles limit head = answer := by
  cases walked with
  | headOutside outside => rw [collect, if_pos outside]
  | headUnread inside failed => rw [collect, if_neg (UInt32.not_le.2 inside), failed]
  | headIndirect inside fetched indirect =>
    rw [collect, if_neg (UInt32.not_le.2 inside), fetched]
    exact if_pos indirect
  | ends trail within last =>
    obtain ⟨links, index, descriptor, seen, hlinks, here, fetched, -, hcollect, hall⟩ :=
      trail.collect_eq_last within
    rw [← hlinks] at last
    rw [hcollect, follow, Tracks.link_of_last here fetched last, ← hall]
  | full trail within further inside new =>
    obtain ⟨links, index, descriptor, seen, hlinks, here, fetched, tracks, hcollect, hall⟩ :=
      trail.collect_eq_last (Nat.le_of_eq within)
    rw [← hlinks] at further new
    have hroom : limit - (links + 1) = 0 := by omega
    rw [hcollect, follow, tracks.link_of_new here fetched further inside new, hroom, ← hall]
  | leaves trail within further outside =>
    obtain ⟨links, index, descriptor, seen, hlinks, here, fetched, -, hcollect, -⟩ :=
      trail.collect_eq_last within
    rw [← hlinks] at further
    rw [hcollect, follow, Tracks.link_of_outside here fetched further outside]
  | loops trail within further inside visited =>
    obtain ⟨links, index, descriptor, seen, hlinks, here, fetched, tracks, hcollect, -⟩ :=
      trail.collect_eq_last within
    rw [← hlinks] at further visited
    rw [hcollect, follow, tracks.link_of_visited here fetched further inside visited]
  | unread trail within further inside new failed =>
    obtain ⟨links, index, descriptor, seen, hlinks, here, fetched, tracks, hcollect, -⟩ :=
      trail.collect_eq_last (Nat.le_of_lt within)
    rw [← hlinks] at further new
    have hroom : limit - (links + 1) = limit - (links + 2) + 1 := by omega
    rw [hcollect, follow, tracks.link_of_new here fetched further inside new, hroom]
    dsimp only
    rw [failed]

/-- A walk with room for a buffer gives what the way from the head leads to. -/
theorem walked_collect (fetch : UInt16 → Except DeviceError Descriptor) (count : UInt32)
    (detectCycles : Bool) (head : UInt16) (positive : 0 < limit) :
    Walked fetch count detectCycles limit head
      (collect fetch count detectCycles limit head) := by
  obtain ⟨answer, walked⟩ := exists_walked fetch count detectCycles head positive
  rw [walked.collect_eq]
  exact walked

end Chain

end Paravirt

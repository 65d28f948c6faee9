import Paravirt.Proofs.Queue.Cycles

/-!
# Indirect descriptors

A buffer that holds descriptors itself is not supported. The head of a chain is looked at for the
flag of such a buffer before anything is followed, and a chain with an indirect head is refused.
Behind the head nothing looks at the flag: an indirect descriptor is followed like any other one, and
the buffer with its table is handed out as a buffer of the chain.
-/

namespace Paravirt

namespace Descriptor

/-- The descriptor as it would be without the flag of an indirect one. -/
def direct (descriptor : Descriptor) : Descriptor :=
  { descriptor with flags := descriptor.flags &&& ~~~indirectFlag }

/-- A link does not depend on that flag. -/
@[simp]
theorem hasNext_direct (descriptor : Descriptor) : descriptor.direct.hasNext = descriptor.hasNext := by
  have hmask : ~~~indirectFlag &&& nextFlag = nextFlag := by decide
  unfold hasNext direct
  rw [UInt16.and_assoc, hmask]

/-- Nor does the direction of a buffer. -/
@[simp]
theorem isWritable_direct (descriptor : Descriptor) :
    descriptor.direct.isWritable = descriptor.isWritable := by
  have hmask : ~~~indirectFlag &&& writeFlag = writeFlag := by decide
  unfold isWritable direct
  rw [UInt16.and_assoc, hmask]

/-- So the buffer is the same. -/
@[simp]
theorem segment_direct (descriptor : Descriptor) : descriptor.direct.segment = descriptor.segment := by
  unfold segment
  rw [isWritable_direct]
  rfl

end Descriptor

namespace Chain

variable {fetch fetch' : UInt16 → Except DeviceError Descriptor} {count : UInt32}
  {detectCycles : Bool} {limit : Nat} {head : UInt16} {segments : List Segment}

/-- Where a chain goes on does not depend on the flag of an indirect descriptor. -/
theorem link_direct (count : UInt32) (seen : Option (Std.TreeSet Nat)) (descriptor : Descriptor) :
    link count seen descriptor.direct = link count seen descriptor := by
  unfold link
  rw [Descriptor.hasNext_direct]
  rfl

/-- Following links gives the same if the flag of an indirect descriptor is cleared everywhere. -/
theorem follow_direct (fetch : UInt16 → Except DeviceError Descriptor) (count : UInt32) (room : Nat)
    (seen : Option (Std.TreeSet Nat)) (descriptor : Descriptor) (found : List Segment) :
    follow (fun index => (fetch index).map Descriptor.direct) count room seen descriptor.direct
      found = follow fetch count room seen descriptor found := by
  induction room generalizing seen descriptor found with
  | zero =>
    unfold follow
    rw [link_direct, Descriptor.segment_direct]
  | succ room ih =>
    unfold follow
    rw [link_direct, Descriptor.segment_direct]
    cases link count seen descriptor with
    | error error => rfl
    | ok goes =>
      cases goes with
      | none => rfl
      | some next =>
        dsimp only
        cases fetch next with
        | error error => rfl
        | ok successor => exact ih _ successor _

/-- Tables that differ in the flag of an indirect descriptor only, and not at the head, hold the same
chain. -/
theorem collect_eq_of_direct (first : fetch' head = fetch head)
    (same : ∀ index, (fetch' index).map Descriptor.direct = (fetch index).map Descriptor.direct)
    (count : UInt32) (detectCycles : Bool) (limit : Nat) :
    collect fetch' count detectCycles limit head = collect fetch count detectCycles limit head := by
  unfold collect
  rw [first]
  split
  · rfl
  · cases fetch head with
    | error error => rfl
    | ok descriptor =>
      dsimp only
      split
      · rfl
      · rw [← follow_direct fetch', ← follow_direct fetch, funext same]

/-- One of these buffers is that of an indirect descriptor, at the same place of the way. -/
def FromIndirect (fetch : UInt16 → Except DeviceError Descriptor) (head : UInt16)
    (segments : List Segment) : Prop :=
  ∃ place index descriptor, reached fetch head place = some index ∧
    fetch index = .ok descriptor ∧ descriptor.isIndirect = true ∧
    segments[place]? = some descriptor.segment

/-- Among the first so many descriptors of the way there is an indirect one behind the head. -/
def IndirectBehind (fetch : UInt16 → Except DeviceError Descriptor) (head : UInt16)
    (length : Nat) : Prop :=
  ∃ place index descriptor, 0 < place ∧ place < length ∧ reached fetch head place = some index ∧
    fetch index = .ok descriptor ∧ descriptor.isIndirect = true

/-- What the look at the head makes sure of, and no more: buffers are handed out for a head that is
not indirect, and one of them is that of an indirect descriptor whenever there is one behind the
head. -/
structure HeadChecked (fetch : UInt16 → Except DeviceError Descriptor) (head : UInt16)
    (segments : List Segment) : Prop where
  /-- The head is not indirect. -/
  direct : ∃ descriptor, fetch head = .ok descriptor ∧ descriptor.isIndirect = false
  /-- Each buffer is that of the descriptor at its place of the way. -/
  buffers : ∀ place < segments.length, ∃ index descriptor, reached fetch head place = some index ∧
    fetch index = .ok descriptor ∧ segments[place]? = some descriptor.segment
  /-- Buffers of indirect descriptors come from behind the head, and from every place there. -/
  fromIndirect_iff : FromIndirect fetch head segments ↔ IndirectBehind fetch head segments.length

/-- The buffers of a trail come from a checked head. -/
theorem Trail.headChecked {descriptors : List Descriptor}
    (trail : Trail fetch count detectCycles head descriptors) :
    HeadChecked fetch head (descriptors.map (·.segment)) := by
  obtain ⟨first, -, -, hfirst, hdirect⟩ := trail.head_spec
  have hbuffers : ∀ place < (descriptors.map (·.segment)).length, ∃ index descriptor,
      reached fetch head place = some index ∧ fetch index = .ok descriptor ∧
      (descriptors.map (·.segment))[place]? = some descriptor.segment := by
    intro place inside
    rw [List.length_map] at inside
    have hlisted : descriptors[place]? = some descriptors[place] := List.getElem?_eq_getElem inside
    obtain ⟨index, here, -, fetched, -⟩ := trail.steps place _ hlisted
    exact ⟨index, _, here, fetched, by rw [List.getElem?_map, hlisted, Option.map_some]⟩
  refine ⟨⟨first, hfirst, hdirect⟩, hbuffers, ?_, ?_⟩
  · rintro ⟨place, index, descriptor, here, fetched, indirect, listed⟩
    refine ⟨place, index, descriptor, Nat.pos_of_ne_zero ?_, (List.getElem?_eq_some_iff.1 listed).1,
      here, fetched, indirect⟩
    rintro rfl
    obtain rfl := Option.some.inj here
    rw [hfirst] at fetched
    rw [Except.ok.inj fetched, indirect] at hdirect
    cases hdirect
  · rintro ⟨place, index, descriptor, -, inside, here, fetched, indirect⟩
    obtain ⟨other, successor, there, read, listed⟩ := hbuffers place inside
    rw [here] at there
    obtain rfl := Option.some.inj there
    rw [fetched] at read
    exact ⟨place, index, descriptor, here, fetched, indirect, Except.ok.inj read ▸ listed⟩

/-- Whatever a walk collects comes from a checked head. -/
theorem headChecked_of_collect (room : 0 < limit)
    (collected : collect fetch count detectCycles limit head = .ok segments) :
    HeadChecked fetch head segments := by
  have hwalked := walked_collect fetch count detectCycles head room
  rw [collected] at hwalked
  obtain ⟨descriptors, trail, rfl, -, -⟩ := hwalked.of_ok
  exact trail.headChecked

/-- An indirect head is refused. -/
theorem collect_of_indirect {descriptor : Descriptor} (inside : head.toUInt32 < count)
    (fetched : fetch head = .ok descriptor) (indirect : descriptor.isIndirect = true)
    (detectCycles : Bool) (limit : Nat) :
    collect fetch count detectCycles limit head = .error .indirectDescriptor :=
  (Walked.headIndirect inside fetched indirect :
    Walked fetch count detectCycles limit head _).collect_eq

end Chain

namespace Queue

variable {queue : Queue} {ring : ActiveRing} {space : AddressSpace} {head : UInt16}

/-- Only descriptors of the table can be read. -/
theorem lt_count_of_descriptor {descriptor : Descriptor} (active : queue.ring = some ring)
    (fetched : queue.descriptor space head = .ok descriptor) : head.toUInt32 < ring.count := by
  unfold Queue.descriptor at fetched
  rw [active] at fetched
  dsimp only at fetched
  split at fetched
  · cases fetched
  · rename_i inside
    exact UInt32.not_le.1 inside

/-- Reading descriptors does not depend on how far the device has come. -/
theorem descriptor_advance (active : queue.ring = some ring) (space : AddressSpace) :
    (queue.withRing ring.advance).descriptor space = queue.descriptor space := by
  funext index
  rw [Queue.descriptor, Queue.descriptor, active]
  rfl

/-- A chain that was walked is the one whose buffers were collected. -/
theorem collect_of_walk {capacity : Nat} {chain : Chain} (active : queue.ring = some ring)
    (walked : (queue.walk space head capacity).1 = .ok chain) :
    chain.head = head ∧ Chain.collect (queue.descriptor space) ring.count queue.detectCycles
      (min capacity ring.count.toNat) head = .ok chain.segments ∧ capacity ≠ 0 := by
  by_cases empty : capacity = 0
  · unfold walk at walked
    rw [active] at walked
    dsimp only at walked
    rw [if_pos empty] at walked
    cases walked
  · rw [walk_eq active space head empty] at walked
    cases collected : Chain.collect (queue.descriptor space) ring.count queue.detectCycles
        (min capacity ring.count.toNat) head with
    | error error =>
      rw [collected] at walked
      cases walked
    | ok segments =>
      rw [collected] at walked
      cases walked
      exact ⟨rfl, rfl, empty⟩

/-- A chain that was walked comes from a checked head. -/
theorem headChecked_of_walk {capacity : Nat} {chain : Chain} (active : queue.ring = some ring)
    (wellPlaced : ring.WellPlaced) (walked : (queue.walk space head capacity).1 = .ok chain) :
    Chain.HeadChecked (queue.descriptor space) chain.head chain.segments := by
  obtain ⟨rfl, collected, room⟩ := collect_of_walk active walked
  exact Chain.headChecked_of_collect
    (Nat.lt_min.2 ⟨Nat.pos_of_ne_zero room, wellPlaced.count_pos⟩) collected

/-- A walk at an indirect head is refused and stores nothing. -/
theorem walk_of_indirect {descriptor : Descriptor} {capacity : Nat}
    (active : queue.ring = some ring) (fetched : queue.descriptor space head = .ok descriptor)
    (indirect : descriptor.isIndirect = true) (room : capacity ≠ 0) :
    queue.walk space head capacity = (.error .indirectDescriptor, space) := by
  rw [walk_eq active space head room,
    Chain.collect_of_indirect (lt_count_of_descriptor active fetched) fetched indirect]

/-- What a walk puts at the start of a list are the buffers of the chain that was walked. -/
theorem walk_of_walkInto {out filled : List Segment} {summary : ChainSummary}
    (success : (queue.walkInto space head out).1 = .ok (summary, filled)) :
    ∃ chain, (queue.walk space head out.length).1 = .ok chain ∧
      filled.take summary.segmentCount = chain.segments := by
  unfold walkInto at success
  dsimp only at success
  cases walked : (queue.walk space head out.length).1 with
  | error error =>
    rw [walked] at success
    cases success
  | ok chain =>
    rw [walked] at success
    cases success
    exact ⟨chain, rfl, List.take_left' rfl⟩

/-- A chain that was taken was walked from a published head. -/
theorem walk_of_popChain {chain : Chain} (active : queue.ring = some ring)
    (success : (queue.popChain space).1 = .ok (some chain)) :
    ∃ head, ((queue.withRing ring.advance).walk space head
      ring.count.toNat).1 = .ok chain := by
  cases work : queue.hasWork space with
  | false =>
    rw [popChain_of_idle work] at success
    cases success
  | true =>
    cases popped : (queue.tryPop space).1 with
    | error error =>
      rw [popChain_of_unread active work popped] at success
      cases success
    | ok head =>
      rw [popChain_of_work active work popped] at success
      obtain ⟨walked, hwalk⟩ := exists_eq_ok_of_map success
      dsimp only at success
      rw [hwalk] at success
      cases success
      exact ⟨head, hwalk⟩

/-- How indirect descriptors are dealt with in a memory: the head is looked at, and nothing else. -/
structure ChecksHeadOnly (queue : Queue) (space : AddressSpace) : Prop where
  /-- Walking a chain with an indirect head is refused and stores nothing. -/
  refused : ∀ head descriptor out, queue.descriptor space head = .ok descriptor →
    descriptor.isIndirect = true → out ≠ [] →
      queue.walkInto space head out = (.error .indirectDescriptor, space)
  /-- A published chain with an indirect head is refused and stores nothing. -/
  passedOver : ∀ head descriptor, queue.hasWork space = true → (queue.tryPop space).1 = .ok head →
    queue.descriptor space head = .ok descriptor → descriptor.isIndirect = true →
      (queue.popChain space).1 = .error .indirectDescriptor ∧ (queue.popChain space).2.2 = space
  /-- The buffers of a walk that succeeds come from a checked head. -/
  walked : ∀ head out summary filled, (queue.walkInto space head out).1 = .ok (summary, filled) →
    Chain.HeadChecked (queue.descriptor space) head (filled.take summary.segmentCount)
  /-- So do the buffers of a chain that is taken. -/
  popped : ∀ chain, (queue.popChain space).1 = .ok (some chain) →
    Chain.HeadChecked (queue.descriptor space) chain.head chain.segments
  /-- In another memory, whose table differs in flags of indirect descriptors behind the head only, a
  walk answers the same. -/
  blind : ∀ head out other, queue.descriptor other head = queue.descriptor space head →
    (∀ index, (queue.descriptor other index).map Descriptor.direct =
      (queue.descriptor space index).map Descriptor.direct) →
        (queue.walkInto other head out).1 = (queue.walkInto space head out).1

/-- A queue that is set up checks heads only, whatever its table holds. -/
theorem checksHeadOnly (active : queue.ring = some ring) (wellPlaced : ring.WellPlaced)
    (space : AddressSpace) : queue.ChecksHeadOnly space := by
  refine ⟨?refused, ?passedOver, ?walked, ?popped, ?blind⟩
  case refused =>
    intro head descriptor out fetched indirect nonempty
    have hroom : out.length ≠ 0 := fun empty => nonempty (List.length_eq_zero_iff.1 empty)
    unfold walkInto
    rw [walk_of_indirect active fetched indirect hroom]
    rfl
  case passedOver =>
    intro head descriptor work popped fetched indirect
    have hwalk : (queue.withRing ring.advance).walk space head
        ring.count.toNat = (.error .indirectDescriptor, space) :=
      walk_of_indirect rfl (descriptor_advance active space ▸ fetched) indirect
        (Nat.ne_of_gt wellPlaced.count_pos)
    rw [popChain_of_work active work popped, hwalk]
    exact ⟨rfl, rfl⟩
  case walked =>
    intro head out summary filled success
    obtain ⟨chain, walked, hsegments⟩ := walk_of_walkInto success
    have hchecked := headChecked_of_walk active wellPlaced walked
    rwa [head_of_walk active walked, ← hsegments] at hchecked
  case popped =>
    intro chain success
    obtain ⟨head, walked⟩ := walk_of_popChain active success
    have hchecked := headChecked_of_walk rfl (wellPlaced.withCursors _ _) walked
    rwa [descriptor_advance active space] at hchecked
  case blind =>
    intro head out other first same
    by_cases nonempty : out = []
    · subst nonempty
      unfold walkInto walk
      rw [active]
      rfl
    · have hcollect := Chain.collect_eq_of_direct first same ring.count queue.detectCycles
        (min out.length ring.count.toNat)
      rw [walkInto_eq active other head nonempty, walkInto_eq active space head nonempty, hcollect]
      cases Chain.collect (queue.descriptor space) ring.count queue.detectCycles
        (min out.length ring.count.toNat) head <;> rfl

/-- Small memory with a published chain of two descriptors, the second of which is indirect. -/
def indirectSpace : AddressSpace :=
  (AddressSpace.store { memory := smallMemory } 4096
    (Descriptor.encode ⟨8192, 16, 1, 1⟩ ++ Descriptor.encode ⟨12288, 32, 4, 0⟩)).store 4162 [1, 0]

/-- The same memory without the flag. -/
def plainSpace : AddressSpace :=
  (AddressSpace.store { memory := smallMemory } 4096
    (Descriptor.encode ⟨8192, 16, 1, 1⟩ ++ Descriptor.encode ⟨12288, 32, 0, 0⟩)).store 4162 [1, 0]

/-- On the small ring the indirect descriptor is refused as a head. Behind the head it makes no
difference: the chain has the same buffers as without the flag. -/
theorem checksHeadOnly_smallRing :
    let queue : Queue := Queue.withRing {} smallRing
    let out := List.replicate 4 Segment.empty
    smallRing.WellPlaced ∧ queue.ChecksHeadOnly indirectSpace ∧
      queue.walkInto indirectSpace 1 out = (.error .indirectDescriptor, indirectSpace) ∧
      (queue.walkInto plainSpace 0 out).1 = (queue.walkInto indirectSpace 0 out).1 := by
  intro queue out
  have hchecks := checksHeadOnly (rfl : queue.ring = some smallRing) wellPlaced_smallRing
    indirectSpace
  have hrefused := hchecks.refused 1 ⟨12288, 32, 4, 0⟩ out (by decide) rfl (by decide)
  have hplain : (queue.walkInto plainSpace 0 out).1 = .ok (⟨0, 2, 48⟩,
    [⟨8192, 16, .fromGuest⟩, ⟨12288, 32, .fromGuest⟩, .empty, .empty]) := by decide
  have hflagged : (queue.walkInto indirectSpace 0 out).1 = .ok (⟨0, 2, 48⟩,
    [⟨8192, 16, .fromGuest⟩, ⟨12288, 32, .fromGuest⟩, .empty, .empty]) := by decide
  exact ⟨wellPlaced_smallRing, hchecks, hrefused, hplain.trans hflagged.symm⟩

/-- So it is not the case that buffers of indirect descriptors are never handed out, neither by a walk
nor with a chain that is taken. -/
theorem hands_out_indirect_smallRing :
    let queue : Queue := Queue.withRing {} smallRing
    ¬(∀ head out summary filled,
        (queue.walkInto indirectSpace head out).1 = .ok (summary, filled) →
          ¬Chain.FromIndirect (queue.descriptor indirectSpace) head
            (filled.take summary.segmentCount)) ∧
      ¬(∀ chain, (queue.popChain indirectSpace).1 = .ok (some chain) →
        ¬Chain.FromIndirect (queue.descriptor indirectSpace) chain.head chain.segments) := by
  intro queue
  have hindirect : Chain.FromIndirect (queue.descriptor indirectSpace) 0
      [⟨8192, 16, .fromGuest⟩, ⟨12288, 32, .fromGuest⟩] :=
    ⟨1, 1, ⟨12288, 32, 4, 0⟩, by decide, by decide, rfl, rfl⟩
  constructor
  · intro spared
    exact spared 0 (List.replicate 4 .empty) ⟨0, 2, 48⟩
      [⟨8192, 16, .fromGuest⟩, ⟨12288, 32, .fromGuest⟩, .empty, .empty] (by decide) hindirect
  · intro spared
    exact spared ⟨0, [⟨8192, 16, .fromGuest⟩, ⟨12288, 32, .fromGuest⟩]⟩ (by decide)
      hindirect

end Queue

end Paravirt

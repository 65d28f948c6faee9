import Paravirt.Proofs.Memory.Frame
import Paravirt.Proofs.Queue.Placement
import Paravirt.Proofs.Queue.Trail
import Paravirt.Proofs.Segment.Transfer

/-!
# What walking a chain gives

Nothing in the descriptor table is trusted, and transfers from and to the guest may be cut short.
Even so a walk that succeeds gives the buffers along the way from the head, in order, until the way
ends or there is no room, and leaves the rest of the caller's list alone. A walk that fails writes
nothing, and a chain is only called malformed for an index on the way that leaves the table or comes
back. Nothing that a walk gives depends on bytes outside the table.
-/

namespace Paravirt

/-- The lengths of segments are 32-bit numbers. -/
theorem Segment.sum_lengths_le (segments : List Segment) :
    (segments.map (·.length.toNat)).sum ≤ segments.length * UInt32.size := by
  induction segments with
  | nil => exact Nat.zero_le _
  | cons segment rest ih =>
    have hlength := segment.length.toNat_lt_size
    rw [List.map_cons, List.sum_cons, List.length_cons, Nat.succ_mul]
    omega

/-- Fewer than 2 to the 32 segments have fewer than 2 to the 64 bytes. -/
theorem Segment.sum_lengths_lt {segments : List Segment} (short : segments.length < UInt32.size) :
    (segments.map (·.length.toNat)).sum < UInt64.size :=
  calc (segments.map (·.length.toNat)).sum ≤ segments.length * UInt32.size :=
        sum_lengths_le segments
    _ < UInt32.size * UInt32.size := Nat.mul_lt_mul_of_pos_right short (by decide)
    _ = UInt64.size := by decide

namespace Chain

variable {fetch : UInt16 → Except DeviceError Descriptor} {count : UInt32} {detectCycles : Bool}
  {limit : Nat} {head index : UInt16}
  {descriptors : List Descriptor} {out : List Segment}

/-- A walk that succeeds gives the buffers of a trail, which ends or has no room to go on. -/
theorem Walked.of_ok {segments : List Segment}
    (walked : Walked fetch count detectCycles limit head (.ok segments)) :
    ∃ descriptors, Trail fetch count detectCycles head descriptors ∧
      segments = descriptors.map (·.segment) ∧ descriptors.length ≤ limit ∧
      (reached fetch head descriptors.length = none ∨ descriptors.length = limit) := by
  cases walked with
  | ends trail within last => exact ⟨_, trail, rfl, within, Or.inl last⟩
  | full trail within further inside new =>
    exact ⟨_, trail, rfl, Nat.le_of_eq within, Or.inr within⟩

/-- A chain is called malformed at an index on the way that leaves the table or was visited, if
reading descriptors never fails in this way. -/
theorem Walked.of_malformed {error : DeviceError} {reason : String}
    (walked : Walked fetch count detectCycles limit head (.error error))
    (malformed : error = .malformedChain index reason)
    (honest : ∀ other, fetch other ≠ .error (.malformedChain index reason)) :
    ∃ links, reached fetch head links = some index ∧
      (count ≤ index.toUInt32 ∨ Visited fetch detectCycles head links index) := by
  cases walked with
  | headOutside outside =>
    obtain ⟨rfl, -⟩ := DeviceError.malformedChain.inj malformed
    exact ⟨0, rfl, Or.inl outside⟩
  | headUnread inside failed => exact absurd (malformed ▸ failed) (honest _)
  | headIndirect inside fetched indirect => cases malformed
  | leaves trail within further outside =>
    obtain ⟨rfl, -⟩ := DeviceError.malformedChain.inj malformed
    exact ⟨_, further, Or.inl outside⟩
  | loops trail within further inside visited =>
    obtain ⟨rfl, -⟩ := DeviceError.malformedChain.inj malformed
    exact ⟨_, further, Or.inr visited⟩
  | unread trail within further inside new failed => exact absurd (malformed ▸ failed) (honest _)

/-- What a walk puts into a list that has room for at least `limit` buffers, and what it reports. -/
structure Fills (fetch : UInt16 → Except DeviceError Descriptor) (limit : Nat) (head : UInt16)
    (out : List Segment) (summary : ChainSummary) (filled : List Segment) : Prop where
  /-- The chain starts at the head. -/
  start : summary.head = head
  /-- There is a buffer. -/
  positive : 1 ≤ summary.segmentCount
  /-- There are no more buffers than allowed. -/
  bounded : summary.segmentCount ≤ limit
  /-- Each buffer is the one that the descriptor at that place of the way names. -/
  buffers : ∀ place < summary.segmentCount, ∃ index descriptor,
    reached fetch head place = some index ∧ fetch index = .ok descriptor ∧
      filled[place]? = some ⟨descriptor.address, descriptor.length,
        if descriptor.isWritable then .toGuest else .fromGuest⟩
  /-- The last of these descriptors has no link, or there was no room for more. -/
  stops : (∃ index descriptor, reached fetch head (summary.segmentCount - 1) = some index ∧
      fetch index = .ok descriptor ∧ descriptor.hasNext = false) ∨ summary.segmentCount = limit
  /-- The list is as long as before. -/
  length : filled.length = out.length
  /-- Behind the buffers the list is as before. -/
  rest : ∀ place, summary.segmentCount ≤ place → filled[place]? = out[place]?
  /-- The lengths of the buffers are summed without overflow. -/
  total : summary.totalLength.toNat =
    ((filled.take summary.segmentCount).map (·.length.toNat)).sum

/-- The buffers of a trail that ends or has no room to go on fill a list as they should. -/
theorem Trail.fills (trail : Trail fetch count detectCycles head descriptors)
    (within : descriptors.length ≤ limit) (room : limit ≤ out.length) (short : limit < UInt32.size)
    (stops : reached fetch head descriptors.length = none ∨ descriptors.length = limit) :
    let segments := descriptors.map (·.segment)
    Fills fetch limit head out (⟨head, segments⟩ : Chain).summary
      (segments ++ out.drop segments.length) := by
  intro segments
  have hcount : (⟨head, segments⟩ : Chain).summary.segmentCount = descriptors.length :=
    List.length_map _
  have hlength : segments.length = descriptors.length := List.length_map _
  have hpositive := trail.length_pos
  refine ⟨rfl, by omega, by omega, fun place inside => ?_, ?_, ?_, fun place behind => ?_, ?_⟩
  · rw [hcount] at inside
    have hlisted : descriptors[place]? = some descriptors[place] := List.getElem?_eq_getElem inside
    obtain ⟨index, here, -, fetched, -⟩ := trail.steps place _ hlisted
    refine ⟨index, _, here, fetched, ?_⟩
    rw [List.getElem?_append_left (by omega), List.getElem?_map, hlisted]
    rfl
  · rw [hcount]
    refine stops.imp_left fun last => ?_
    have hlisted : descriptors[descriptors.length - 1]? = some descriptors[descriptors.length - 1] :=
      List.getElem?_eq_getElem (by omega)
    obtain ⟨index, here, -, fetched, -⟩ := trail.steps _ _ hlisted
    have hlast : descriptors.length = descriptors.length - 1 + 1 := by omega
    rw [hlast] at last
    exact ⟨index, _, here, fetched, hasNext_of_last here fetched last⟩
  · rw [List.length_append, List.length_drop]
    omega
  · rw [hcount] at behind
    rw [List.getElem?_append_right (by omega), List.getElem?_drop]
    congr 1
    omega
  · have hshort : segments.length < UInt32.size := by omega
    rw [hcount, ← hlength, List.take_left' rfl]
    exact Segment.toNat_totalLength (Segment.sum_lengths_lt hshort)

end Chain

namespace Queue

variable {queue : Queue} {ring : ActiveRing} {space other : AddressSpace} {head index : UInt16}
  {out : List Segment}

/-- Reading a descriptor never fails as a malformed chain. -/
theorem descriptor_ne_malformedChain (queue : Queue) (space : AddressSpace) (index other : UInt16)
    (reason : String) : queue.descriptor space index ≠ .error (.malformedChain other reason) := by
  intro failed
  unfold descriptor at failed
  split at failed
  · cases failed
  · split at failed
    · cases failed
    · split at failed
      · rename_i error unread
        cases error <;> cases failed
      · cases failed

/-- Where the table reads alike, descriptors do. -/
theorem descriptor_eq_of_readAlike (active : queue.ring = some ring) (wellPlaced : ring.WellPlaced)
    (wellFormed : space.memory.WellFormed) (wellFormed' : other.memory.WellFormed)
    (alike : space.ReadAlike ring.addresses.descriptors (16 * ring.count.toNat) other) :
    queue.descriptor other = queue.descriptor space := by
  have hplaced := wellPlaced.placed
  funext index
  unfold descriptor
  rw [active]
  dsimp only
  by_cases outside : ring.count ≤ index.toUInt32
  · rw [if_pos outside, if_pos outside]
  · have hinside : index.toNat < ring.count.toNat := UInt32.lt_iff_toNat_lt.1 (UInt32.not_le.1 outside)
    have hcount := wellPlaced.count_addresses
    have haddress := hplaced.toNat_descriptor (hcount ▸ hinside)
    have htable := hplaced.available_eq
    have hused := hplaced.used_ge
    have hfits := hplaced.used_fits
    rw [hcount] at htable hused hfits
    have hwidth : Descriptor.width = 16 := rfl
    rw [if_neg outside, if_neg outside, alike.readExact_eq wellFormed wellFormed' (by omega)
      (by decide) (by omega) (by omega)]

/-- Walking a chain with room for a buffer, in terms of the buffers that are collected. -/
theorem walk_eq (active : queue.ring = some ring) (space : AddressSpace) (head : UInt16)
    {capacity : Nat} (room : capacity ≠ 0) : queue.walk space head capacity =
      match Chain.collect (queue.descriptor space) ring.count queue.detectCycles
        (min capacity ring.count.toNat) head with
      | .error error => (.error error, space)
      | .ok segments => (.ok ⟨head, segments⟩, (ring.writeAvailableEvent space).2) := by
  unfold walk
  rw [active]
  exact if_neg room

/-- So the chain that a walk gives, or the refusal of it, is determined by the way from the head. -/
theorem walked_walk (active : queue.ring = some ring) (wellPlaced : ring.WellPlaced)
    (space : AddressSpace) (head : UInt16) {capacity : Nat} (room : capacity ≠ 0) :
    Chain.Walked (queue.descriptor space) ring.count queue.detectCycles
      (min capacity ring.count.toNat) head
      ((queue.walk space head capacity).1.map (·.segments)) := by
  have hroom : 0 < min capacity ring.count.toNat :=
    Nat.lt_min.2 ⟨Nat.pos_of_ne_zero room, wellPlaced.count_pos⟩
  have hwalked := Chain.walked_collect (queue.descriptor space) ring.count queue.detectCycles head
    hroom
  rw [walk_eq active space head room]
  cases hcollect : Chain.collect (queue.descriptor space) ring.count queue.detectCycles
      (min capacity ring.count.toNat) head with
  | error error => rwa [hcollect] at hwalked
  | ok segments => rwa [hcollect] at hwalked

/-- Walking a chain into a list, in terms of the buffers that are collected. -/
theorem walkInto_eq (active : queue.ring = some ring) (space : AddressSpace) (head : UInt16)
    (nonempty : out ≠ []) : queue.walkInto space head out =
      match Chain.collect (queue.descriptor space) ring.count queue.detectCycles
        (min out.length ring.count.toNat) head with
      | .error error => (.error error, space)
      | .ok segments => (.ok ((⟨head, segments⟩ : Chain).summary,
          segments ++ out.drop segments.length), (ring.writeAvailableEvent space).2) := by
  unfold walkInto
  rw [walk_eq active space head fun empty => nonempty (List.length_eq_zero_iff.1 empty)]
  cases Chain.collect (queue.descriptor space) ring.count queue.detectCycles
    (min out.length ring.count.toNat) head <;> rfl

/-- A walk into a list is exact: what it answers is what the way from the head leads to, and what it
writes is the event slot at most. -/
structure WalksExactly (queue : Queue) (ring : ActiveRing) (space : AddressSpace) (head : UInt16)
    (out : List Segment) : Prop where
  /-- The buffers found, or the failure, are determined by the way from the head. -/
  walked : Chain.Walked (queue.descriptor space) ring.count queue.detectCycles
    (min out.length ring.count.toNat) head
    ((queue.walkInto space head out).1.map fun found => found.2.take found.1.segmentCount)
  /-- On success the buffers along the way are in the list. -/
  fills : ∀ (summary : ChainSummary) (filled : List Segment),
    (queue.walkInto space head out).1 = .ok (summary, filled) →
      Chain.Fills (queue.descriptor space) (min out.length ring.count.toNat) head out summary filled
  /-- On success the memory is what a write of the cursor to the event slot leaves of it, and the
  slot holds the cursor unless guest memory refuses that write. -/
  told : ∀ answer, (queue.walkInto space head out).1 = .ok answer →
    (queue.walkInto space head out).2 =
        (space.write16 ring.addresses.availableEvent ring.lastAvailable).2 ∧
      ((space.write16 ring.addresses.availableEvent ring.lastAvailable).1 = .ok () → ∀ place < 2,
        (queue.walkInto space head out).2.byteAt?
            (ring.addresses.availableEvent + UInt64.ofNat place) =
          (LittleEndian.encode16 ring.lastAvailable)[place]?)
  /-- A chain is malformed at an index on the way that leaves the table, or, if cycles are looked
  for, comes back to one that was visited. -/
  malformed : ∀ (index : UInt16) (reason : String),
    (queue.walkInto space head out).1 = .error (.malformedChain index reason) →
      ∃ links, Chain.reached (queue.descriptor space) head links = some index ∧
        (ring.count ≤ index.toUInt32 ∨ (queue.detectCycles = true ∧
          ∃ earlier < links, Chain.reached (queue.descriptor space) head earlier = some index))
  /-- A failure leaves guest memory as it was. -/
  failed : ∀ error, (queue.walkInto space head out).1 = .error error →
    (queue.walkInto space head out).2 = space
  /-- The answer depends on nothing but the table. -/
  confined : ∀ other : AddressSpace, other.memory.WellFormed →
    space.ReadAlike ring.addresses.descriptors (16 * ring.count.toNat) other →
      (queue.walkInto other head out).1 = (queue.walkInto space head out).1

/-- The event slot holds a value after a write of it that was not refused. -/
theorem byteAt?_write16_availableEvent (wellPlaced : ring.WellPlaced)
    (wellFormed : space.memory.WellFormed) {value : UInt16}
    (written : (space.write16 ring.addresses.availableEvent value).1 = .ok ())
    {place : Nat} (inside : place < 2) :
    (space.write16 ring.addresses.availableEvent value).2.byteAt?
        (ring.addresses.availableEvent + UInt64.ofNat place) =
      (LittleEndian.encode16 value)[place]? := by
  have hslot := wellPlaced.placed.toNat_availableEvent
  have hfits := wellPlaced.placed.used_fits
  have hlength := LittleEndian.length_encode16 value
  exact AddressSpace.byteAt?_writeAll wellFormed written (by omega) (by omega)

/-- Walking the chain at any head of any table into a list with room is exact. -/
theorem walksExactly (active : queue.ring = some ring) (wellPlaced : ring.WellPlaced)
    (wellFormed : space.memory.WellFormed) (head : UInt16) (nonempty : out ≠ []) :
    queue.WalksExactly ring space head out := by
  have hroom : 0 < min out.length ring.count.toNat :=
    Nat.lt_min.2 ⟨List.length_pos_iff.2 nonempty, wellPlaced.count_pos⟩
  have hshort : min out.length ring.count.toNat < UInt32.size :=
    Nat.lt_of_le_of_lt (Nat.min_le_right _ _) ring.count.toNat_lt_size
  have hwalk := walkInto_eq active space head nonempty
  have hconfined : ∀ other : AddressSpace, other.memory.WellFormed →
      space.ReadAlike ring.addresses.descriptors (16 * ring.count.toNat) other →
        (queue.walkInto other head out).1 = (queue.walkInto space head out).1 := by
    intro other wellFormed' alike
    rw [walkInto_eq active other head nonempty, hwalk,
      descriptor_eq_of_readAlike active wellPlaced wellFormed wellFormed' alike]
    cases Chain.collect (queue.descriptor space) ring.count queue.detectCycles
      (min out.length ring.count.toNat) head <;> rfl
  have hwalked := Chain.walked_collect (queue.descriptor space) ring.count queue.detectCycles head
    hroom
  cases hcollect : Chain.collect (queue.descriptor space) ring.count queue.detectCycles
      (min out.length ring.count.toNat) head with
  | error error =>
    rw [hcollect] at hwalk hwalked
    refine ⟨hwalk ▸ hwalked, fun _ _ impossible => ?_, fun _ impossible => ?_,
      fun index reason malformed => ?_, fun _ _ => by rw [hwalk], hconfined⟩
    · rw [hwalk] at impossible
      cases impossible
    · rw [hwalk] at impossible
      cases impossible
    · rw [hwalk] at malformed
      exact hwalked.of_malformed (Except.error.inj malformed) fun other =>
        descriptor_ne_malformedChain queue space other index reason
  | ok segments =>
    rw [hcollect] at hwalk hwalked
    obtain ⟨descriptors, trail, rfl, within, stops⟩ := hwalked.of_ok
    refine ⟨?_, fun summary filled success => ?_, fun _ _ => ?_, fun _ _ impossible => ?_,
      fun _ impossible => ?_, hconfined⟩
    · have hcount : (⟨head, descriptors.map (·.segment)⟩ : Chain).summary.segmentCount =
        (descriptors.map (·.segment)).length := rfl
      rw [hwalk, Except.map, hcount, List.take_left' rfl]
      exact hwalked
    · rw [hwalk] at success
      cases success
      exact trail.fills within (Nat.min_le_left _ _) hshort stops
    · rw [hwalk]
      exact ⟨rfl, fun written _ inside =>
        byteAt?_write16_availableEvent wellPlaced wellFormed written inside⟩
    · rw [hwalk] at impossible
      cases impossible
    · rw [hwalk] at impossible
      cases impossible

/-- Small memory with the table of the small ring: a chain of three descriptors at index 0, and at
index 1 a link that leaves the table. -/
def tableSpace : AddressSpace :=
  AddressSpace.store { memory := smallMemory } 4096
    (Descriptor.encode ⟨8192, 16, 1, 2⟩ ++ Descriptor.encode ⟨0, 4, 1, 9⟩ ++
      Descriptor.encode ⟨12288, 4294967295, 3, 3⟩ ++ Descriptor.encode ⟨16384, 5, 2, 0⟩)

/-- The memory with that table is well-formed. -/
theorem wellFormed_tableSpace : tableSpace.memory.WellFormed := by
  have hstores : AddressSpace.Writes (fun _ _ => True) { memory := smallMemory } tableSpace :=
    AddressSpace.Writes.refl.store trivial (Nat.le_refl _)
  exact hstores.wellFormed (Memory.wellFormed_of_build build_smallMemory)

/-- The small ring is well placed. -/
theorem wellPlaced_smallRing : smallRing.WellPlaced :=
  Queue.wellPlaced_of_setup (congrArg (·.2.ring) setup_smallRing)

/-- On the small ring, with the device at index 7, a chain of three buffers leaves two places of the
list alone, whatever its buffers hold, and leaves the index in the event slot, which held 0 before;
and a link that leaves the table is refused although there is no room to follow it. -/
theorem walksExactly_smallRing :
    let ring := smallRing.withCursors 7 0
    let queue := Queue.withRing { detectCycles := true } ring
    let out := List.replicate 5 Segment.empty
    ring.WellPlaced ∧ tableSpace.memory.WellFormed ∧
      queue.WalksExactly ring tableSpace 0 out ∧
      (queue.walkInto tableSpace 0 out).1 = .ok (⟨0, 3, 4294967316⟩,
        [⟨8192, 16, .fromGuest⟩, ⟨12288, 4294967295, .toGuest⟩, ⟨16384, 5, .toGuest⟩,
          .empty, .empty]) ∧
      tableSpace.byteAt? ring.addresses.availableEvent = some 0 ∧
      (queue.walkInto tableSpace 0 out).2.byteAt? ring.addresses.availableEvent = some 7 ∧
      (queue.walkInto (tableSpace.store 8192 [1, 2, 3]) 0 out).1 =
        (queue.walkInto tableSpace 0 out).1 ∧
      queue.WalksExactly ring tableSpace 1 [.empty] ∧
      (queue.walkInto tableSpace 1 [.empty]).1 = .error (.nextOutOfRange 9) := by
  intro ring queue out
  have hwellPlaced : ring.WellPlaced := wellPlaced_smallRing.withCursors 7 0
  have hexact : queue.WalksExactly ring tableSpace 0 out :=
    walksExactly rfl hwellPlaced wellFormed_tableSpace 0 (by decide)
  have hwalked : (queue.walkInto tableSpace 0 out).1 = .ok (⟨0, 3, 4294967316⟩,
      [⟨8192, 16, .fromGuest⟩, ⟨12288, 4294967295, .toGuest⟩, ⟨16384, 5, .toGuest⟩,
        .empty, .empty]) := by
    decide
  have hbefore : tableSpace.byteAt? ring.addresses.availableEvent = some 0 := by decide
  have hslot := (hexact.told _ hwalked).2 (by decide) 0 (by decide)
  have hrefused : (queue.walkInto tableSpace 1 [.empty]).1 = .error (.nextOutOfRange 9) := by
    decide
  have hstores : AddressSpace.Writes (Sparing (InSpan smallRing.addresses.descriptors
      (16 * smallRing.count.toNat))) tableSpace (tableSpace.store 8192 [1, 2, 3]) := by
    refine AddressSpace.Writes.refl.store (fun gpa stored inside => ?_) (Nat.le_refl 3)
    have hbuffer : (8192 : UInt64).toNat = 8192 := rfl
    have htable : smallRing.addresses.descriptors.toNat + 16 * smallRing.count.toNat = 4160 := rfl
    obtain ⟨hafter, -⟩ := stored
    obtain ⟨-, hbefore⟩ := inside
    omega
  exact ⟨hwellPlaced, wellFormed_tableSpace, hexact, hwalked, hbefore, hslot,
    hexact.confined _ (hstores.wellFormed wellFormed_tableSpace)
      (hstores.readAlike wellFormed_tableSpace),
    walksExactly rfl hwellPlaced wellFormed_tableSpace 1 (by decide), hrefused⟩

end Queue

end Paravirt

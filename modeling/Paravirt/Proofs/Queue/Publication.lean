import Paravirt.Proofs.Memory.Contents
import Paravirt.Proofs.Queue.Lifecycle
import Paravirt.Proofs.Ring.Slots

/-!
# A completion is there before its index

Returning a chain takes three accesses to guest memory: the used index is read, the element is
stored in the slot behind it, and the index is moved on. Each of them can fail, and a store that
fails can have transferred any part of its bytes. Whichever of them fails, the index that stands in
memory differs from the one before only where the whole element stands in its slot, so the driver
never finds an index whose element is not there.
-/

namespace Paravirt

namespace ActiveRing

variable {ring : ActiveRing} {space : AddressSpace}

/-- Where the element behind a used index is stored. -/
def elementAddress (ring : ActiveRing) (index : UInt16) : UInt64 :=
  ring.addresses.usedSlot (index.toUInt32 % ring.count)

/-- The store of an element in the slot behind a used index, complete or cut short. -/
def storeElement (ring : ActiveRing) (space : AddressSpace) (element : UsedElement)
    (index : UInt16) : Except MemoryError Unit × AddressSpace :=
  space.writeAll (ring.elementAddress index) element.encode

/-- The store of the used index behind the given one, complete or cut short. -/
def storeNextIndex (ring : ActiveRing) (space : AddressSpace) (index : UInt16) :
    Except MemoryError Unit × AddressSpace :=
  space.write16 ring.addresses.usedIndex (index + 1)

/-- Where the used index cannot be read, nothing else is done. -/
theorem publish_of_unread (element : UsedElement) {error : MemoryError}
    (unread : space.read16 ring.addresses.usedIndex = .error error) :
    ring.publish space element = (.error error, space) := by
  unfold publish
  rw [unread]

/-- Where the element cannot be stored, the index is not moved. -/
theorem publish_of_unstored {element : UsedElement} {index : UInt16} {error : MemoryError}
    (current : space.read16 ring.addresses.usedIndex = .ok index)
    (unstored : (ring.storeElement space element index).1 = .error error) :
    ring.publish space element = (.error error, (ring.storeElement space element index).2) := by
  have hstore : space.writeAll (ring.addresses.usedSlot (index.toUInt32 % ring.count))
      element.encode = (.error error, (ring.storeElement space element index).2) :=
    Prod.ext unstored rfl
  unfold publish
  rw [current]
  dsimp only
  rw [hstore]

/-- Where the element was stored, what is left is to move the index. -/
theorem publish_of_stored {element : UsedElement} {index : UInt16}
    (current : space.read16 ring.addresses.usedIndex = .ok index)
    (stored : (ring.storeElement space element index).1 = .ok ()) :
    ring.publish space element =
      ring.storeNextIndex (ring.storeElement space element index).2 index := by
  have hstore : space.writeAll (ring.addresses.usedSlot (index.toUInt32 % ring.count))
      element.encode = (.ok (), (ring.storeElement space element index).2) :=
    Prod.ext stored rfl
  unfold publish
  rw [current]
  dsimp only
  rw [hstore]
  rfl

/-- The three courses that publishing can take. -/
theorem publish_cases (ring : ActiveRing) (space : AddressSpace) (element : UsedElement) :
    (∃ error, space.read16 ring.addresses.usedIndex = .error error ∧
        ring.publish space element = (.error error, space)) ∨
      (∃ index error, space.read16 ring.addresses.usedIndex = .ok index ∧
        (ring.storeElement space element index).1 = .error error ∧
        ring.publish space element = (.error error, (ring.storeElement space element index).2)) ∨
      ∃ index, space.read16 ring.addresses.usedIndex = .ok index ∧
        (ring.storeElement space element index).1 = .ok () ∧
        ring.publish space element =
          ring.storeNextIndex (ring.storeElement space element index).2 index := by
  cases current : space.read16 ring.addresses.usedIndex with
  | error error => exact Or.inl ⟨error, rfl, publish_of_unread element current⟩
  | ok index =>
    cases stored : (ring.storeElement space element index).1 with
    | error error =>
      exact Or.inr (Or.inl ⟨index, error, rfl, stored, publish_of_unstored current stored⟩)
    | ok _ => exact Or.inr (Or.inr ⟨index, rfl, stored, publish_of_stored current stored⟩)

/-- Nothing but the slot of an element and the used index may differ between two memories. -/
def ChangedAt (ring : ActiveRing) (index : UInt16) (space later : AddressSpace) : Prop :=
  ∀ gpa, ¬InSpan (ring.elementAddress index) 8 gpa → ¬InSpan ring.addresses.usedIndex 2 gpa →
    later.byteAt? gpa = space.byteAt? gpa

section Stores

variable {element : UsedElement} {index : UInt16}

/-- Indices that agree modulo the number of descriptors share a slot of eight bytes. -/
theorem WellPlaced.toNat_elementAddress (wellPlaced : ring.WellPlaced) (index : UInt16) :
    (ring.elementAddress index).toNat =
      ring.addresses.used.toNat + 4 + 8 * (index.toNat % ring.count.toNat) := by
  have hslot := wellPlaced.slot_lt index
  unfold elementAddress
  rw [wellPlaced.placed.toNat_usedSlot (Nat.le_of_lt hslot), UInt32.toNat_mod,
    UInt16.toNat_toUInt32]

/-- The slot behind an index lies behind the used index and ends at a 64-bit address. -/
theorem WellPlaced.elementAddress_bounds (wellPlaced : ring.WellPlaced) (index : UInt16) :
    ring.addresses.usedIndex.toNat + 2 ≤ (ring.elementAddress index).toNat ∧
      (ring.elementAddress index).toNat + 8 < UInt64.size := by
  have haddress := wellPlaced.toNat_elementAddress index
  have hslot := Nat.mod_lt index.toNat wellPlaced.count_pos
  have hindex := wellPlaced.placed.toNat_usedIndex
  have hfits := wellPlaced.placed.used_fits
  rw [wellPlaced.count_addresses] at hfits
  omega

/-- The store of an element, complete or not, changes nothing but its slot. -/
theorem byteAt?_storeElement (wellFormed : space.memory.WellFormed) {gpa : UInt64}
    (outside : ¬InSpan (ring.elementAddress index) 8 gpa) :
    (ring.storeElement space element index).2.byteAt? gpa = space.byteAt? gpa :=
  AddressSpace.byteAt?_writeAll_of_not_inSpan wellFormed
    ((UsedElement.length_encode element).symm ▸ outside)

/-- An element whose store does not fail stands in its slot. -/
theorem WellPlaced.holds_storeElement (wellPlaced : ring.WellPlaced)
    (wellFormed : space.memory.WellFormed)
    (stored : (ring.storeElement space element index).1 = .ok ()) :
    (ring.storeElement space element index).2.Holds (ring.elementAddress index) element.encode := by
  have hlength : element.encode.length = 8 := UsedElement.length_encode element
  have hbounds := wellPlaced.elementAddress_bounds index
  exact AddressSpace.holds_writeAll wellFormed stored (by omega)

/-- The used index stays where it is while an element is stored, complete or not. -/
theorem WellPlaced.usedIndex_storeElement (wellPlaced : ring.WellPlaced)
    (wellFormed : space.memory.WellFormed) {value : UInt16}
    (holds : space.Holds ring.addresses.usedIndex (LittleEndian.encode16 value)) :
    (ring.storeElement space element index).2.Holds ring.addresses.usedIndex
      (LittleEndian.encode16 value) := by
  have hlength := LittleEndian.length_encode16 value
  have hbounds := wellPlaced.elementAddress_bounds index
  exact holds.writeAll_of_apart wellFormed (by omega) (by omega)

/-- An element stays in its slot while the index is moved, completely or not. -/
theorem WellPlaced.element_storeNextIndex (wellPlaced : ring.WellPlaced)
    (wellFormed : space.memory.WellFormed)
    (holds : space.Holds (ring.elementAddress index) element.encode) :
    (ring.storeNextIndex space index).2.Holds (ring.elementAddress index) element.encode := by
  have hlength : element.encode.length = 8 := UsedElement.length_encode element
  have hword := LittleEndian.length_encode16 (index + 1)
  have hbounds := wellPlaced.elementAddress_bounds index
  exact holds.writeAll_of_apart wellFormed (by omega) (by omega)

/-- An index whose store does not fail stands where the used index belongs. -/
theorem WellPlaced.holds_storeNextIndex (wellPlaced : ring.WellPlaced)
    (wellFormed : space.memory.WellFormed) (moved : (ring.storeNextIndex space index).1 = .ok ()) :
    (ring.storeNextIndex space index).2.Holds ring.addresses.usedIndex
      (LittleEndian.encode16 (index + 1)) := by
  have hlength := LittleEndian.length_encode16 (index + 1)
  have hbounds := wellPlaced.elementAddress_bounds index
  exact AddressSpace.holds_writeAll wellFormed moved (by omega)

/-- Both stores together, each complete or not, change nothing but the slot and the index. -/
theorem changedAt_storeNextIndex (wellFormed : space.memory.WellFormed) :
    ring.ChangedAt index space
      (ring.storeNextIndex (ring.storeElement space element index).2 index).2 := by
  intro gpa apart spared
  have hstored : (ring.storeElement space element index).2.memory.WellFormed :=
    AddressSpace.wellFormed_writeAll wellFormed _ _
  calc (ring.storeNextIndex (ring.storeElement space element index).2 index).2.byteAt? gpa
      = (ring.storeElement space element index).2.byteAt? gpa :=
        AddressSpace.byteAt?_writeAll_of_not_inSpan hstored
          ((LittleEndian.length_encode16 (index + 1)).symm ▸ spared)
    _ = space.byteAt? gpa := byteAt?_storeElement wellFormed apart

end Stores

end ActiveRing

namespace Queue

variable {queue : Queue} {ring : ActiveRing} {space : AddressSpace}

/-- A queue publishes on its ring and says the failures of memory as its own. -/
theorem publishUsed_of_active (active : queue.ring = some ring) (space : AddressSpace)
    (element : UsedElement) : queue.publishUsed space element =
      ((ring.publish space element).1.mapError .ofMemory, (ring.publish space element).2) := by
  unfold publishUsed
  rw [active]

/-- What publishing promises, whichever of its three accesses to memory fails and whatever part of
its bytes a failed store transfers. -/
structure PublishesSafely (queue : Queue) (ring : ActiveRing) (space : AddressSpace)
    (element : UsedElement) : Prop where
  /-- After success the element stands in the slot behind the index that was read, the index is one
  further, and nothing else has changed. -/
  published : (queue.publishUsed space element).1 = .ok () →
    ∃ index, space.read16 ring.addresses.usedIndex = .ok index ∧
      space.Holds ring.addresses.usedIndex (LittleEndian.encode16 index) ∧
      (queue.publishUsed space element).2.Holds (ring.elementAddress index) element.encode ∧
      (queue.publishUsed space element).2.Holds ring.addresses.usedIndex
        (LittleEndian.encode16 (index + 1)) ∧
      ring.ChangedAt index space (queue.publishUsed space element).2
  /-- If no access fails, neither does publishing. -/
  served : ∀ index, space.read16 ring.addresses.usedIndex = .ok index →
    (ring.storeElement space element index).1 = .ok () →
    (ring.storeNextIndex (ring.storeElement space element index).2 index).1 = .ok () →
      (queue.publishUsed space element).1 = .ok ()
  /-- If the index cannot be read, memory stays as it is. -/
  unread : ∀ error, space.read16 ring.addresses.usedIndex = .error error →
    queue.publishUsed space element = (.error (.ofMemory error), space)
  /-- If the element cannot be stored, the index stays as it is, and so does every byte outside the
  slot of the element. -/
  unstored : ∀ index error, space.read16 ring.addresses.usedIndex = .ok index →
    (ring.storeElement space element index).1 = .error error →
      (queue.publishUsed space element).1 = .error (.ofMemory error) ∧
      (queue.publishUsed space element).2.Holds ring.addresses.usedIndex
        (LittleEndian.encode16 index) ∧
      ∀ gpa, ¬InSpan (ring.elementAddress index) 8 gpa →
        (queue.publishUsed space element).2.byteAt? gpa = space.byteAt? gpa
  /-- If the index cannot be moved, the element stands in its slot, and no byte outside the slot and
  the index has changed. -/
  unmoved : ∀ index error, space.read16 ring.addresses.usedIndex = .ok index →
    (ring.storeElement space element index).1 = .ok () →
    (ring.storeNextIndex (ring.storeElement space element index).2 index).1 = .error error →
      (queue.publishUsed space element).1 = .error (.ofMemory error) ∧
      (queue.publishUsed space element).2.Holds (ring.elementAddress index) element.encode ∧
      ring.ChangedAt index space (queue.publishUsed space element).2
  /-- In every outcome, a byte of the index differs from before only if the whole element stands in
  the slot behind the index that was there. -/
  exposed : ∀ gpa, InSpan ring.addresses.usedIndex 2 gpa →
    (queue.publishUsed space element).2.byteAt? gpa ≠ space.byteAt? gpa →
      ∃ index, space.Holds ring.addresses.usedIndex (LittleEndian.encode16 index) ∧
        (queue.publishUsed space element).2.Holds (ring.elementAddress index) element.encode

/-- Publishing on a well-placed ring in any well-formed memory keeps these promises. -/
theorem publishesSafely (active : queue.ring = some ring) (wellPlaced : ring.WellPlaced)
    (wellFormed : space.memory.WellFormed) (element : UsedElement) :
    queue.PublishesSafely ring space element := by
  have hpublish := publishUsed_of_active active space element
  have hstored : ∀ index, (ring.storeElement space element index).2.memory.WellFormed :=
    fun index => AddressSpace.wellFormed_writeAll wellFormed _ _
  have hindex : ∀ index, space.read16 ring.addresses.usedIndex = .ok index →
      space.Holds ring.addresses.usedIndex (LittleEndian.encode16 index) :=
    fun _ current => AddressSpace.holds_of_read16 wellFormed current
  have helement : ∀ index, (ring.storeElement space element index).1 = .ok () →
      (ring.storeNextIndex (ring.storeElement space element index).2 index).2.Holds
        (ring.elementAddress index) element.encode := fun index stored =>
    wellPlaced.element_storeNextIndex (hstored index) (wellPlaced.holds_storeElement wellFormed stored)
  refine ⟨?published, ?served, ?unread, ?unstored, ?unmoved, ?exposed⟩
  case published =>
    intro success
    rw [hpublish] at success ⊢
    rcases ring.publish_cases space element with ⟨error, -, course⟩ | ⟨index, error, -, -, course⟩ |
      ⟨index, current, stored, course⟩
    · rw [course] at success
      cases success
    · rw [course] at success
      cases success
    · rw [course] at success ⊢
      cases moved : (ring.storeNextIndex (ring.storeElement space element index).2 index).1 with
      | error error =>
        rw [moved] at success
        cases success
      | ok _ =>
        exact ⟨index, current, hindex index current, helement index stored,
          wellPlaced.holds_storeNextIndex (hstored index) moved,
          ActiveRing.changedAt_storeNextIndex wellFormed⟩
  case served =>
    intro index current stored moved
    rw [hpublish, ActiveRing.publish_of_stored current stored, moved]
    rfl
  case unread =>
    intro error unread
    rw [hpublish, ActiveRing.publish_of_unread element unread]
    rfl
  case unstored =>
    intro index error current unstored
    rw [hpublish, ActiveRing.publish_of_unstored current unstored]
    exact ⟨rfl, wellPlaced.usedIndex_storeElement wellFormed (hindex index current),
      fun _ outside => ActiveRing.byteAt?_storeElement wellFormed outside⟩
  case unmoved =>
    intro index error current stored unmoved
    rw [hpublish, ActiveRing.publish_of_stored current stored, unmoved]
    exact ⟨rfl, helement index stored, ActiveRing.changedAt_storeNextIndex wellFormed⟩
  case exposed =>
    intro gpa inside changed
    rw [hpublish] at changed ⊢
    rcases ring.publish_cases space element with ⟨error, -, course⟩ |
      ⟨index, error, current, -, course⟩ | ⟨index, current, stored, course⟩
    · rw [course] at changed
      exact absurd rfl changed
    · -- The slot lies behind the index, so a store into the slot has not changed this byte.
      have houtside : ¬InSpan (ring.elementAddress index) 8 gpa := by
        have hbounds := wellPlaced.elementAddress_bounds index
        unfold InSpan at inside ⊢
        omega
      rw [course] at changed
      exact absurd (ActiveRing.byteAt?_storeElement wellFormed houtside) changed
    · rw [course]
      exact ⟨index, hindex index current, helement index stored⟩

end Queue

/-- In every state that a new queue can reach, with any accesses of its guests cut short, publishing
an element on its ring keeps these promises. The queue itself stays as it is, and so do all guests
but the one that holds the ring. -/
theorem QueueState.publishesSafely_run (detectCycles : Bool) (guests : Guests)
    (wellFormed : guests.WellFormed) (events : List QueueEvent) (element : UsedElement) :
    let before := (fresh detectCycles guests).run events
    ∀ ring, before.queue.ring = some ring →
      let space := before.guests.space ring.guest
      let later := before.guests.setSpace ring.guest (before.queue.publishUsed space element).2
      before.queue.publishIn before.guests element =
          ((before.queue.publishUsed space element).1, later) ∧
        before.perform (.onRing (.publishUsed element)) = ⟨before.queue, later⟩ ∧
        before.queue.PublishesSafely ring space element := by
  have hsound := (sound_fresh detectCycles wellFormed).run events
  generalize (fresh detectCycles guests).run events = before at hsound
  intro before ring active space later
  refine ⟨?_, ?_, Queue.publishesSafely active (hsound.wellPlaced ring active)
    (hsound.guests.space ring.guest) element⟩
  · rw [Queue.publishIn, Queue.guest_of_active active]
  · rw [perform_onRing_of_active active]
    rfl

/-- A queue on the small ring, whose used index is 255 and can be stored by its first byte only. -/
def QueueState.tornIndex : QueueState :=
  (fresh false [⟨0, "vm", { memory := smallMemory }⟩]).run [.operation (.setup 0 1 4096 4 4),
    .guest 0 (.store 4178 [255, 0]), .guest 0 (.limitWrites 4178 1)]

/-- The used index is 255 and only the first of its two bytes can be stored. Publishing fails and
leaves an index that is neither the old one nor the next, behind which the whole element stands. -/
theorem QueueState.publishesSafely_run_of_torn_index :
    let space := tornIndex.guests.space 0
    let answer := tornIndex.queue.publishUsed space ⟨2, 7⟩
    Guests.WellFormed [⟨0, "vm", { memory := smallMemory }⟩] ∧
      tornIndex.queue.ring = some smallRing ∧
      tornIndex.queue.PublishesSafely smallRing space ⟨2, 7⟩ ∧
      answer.1 = .error (.ofMemory (.shortWrite 4178 2 1)) ∧
      space.read16 4178 = .ok 255 ∧ answer.2.read16 4178 = .ok 0 ∧
      answer.2.Holds 4204 (UsedElement.encode ⟨2, 7⟩) := by
  have hwellFormed : Guests.WellFormed [⟨0, "vm", { memory := smallMemory }⟩] := by
    intro guest listed
    rw [List.mem_singleton.1 listed]
    exact Memory.wellFormed_of_build build_smallMemory
  have hactive : tornIndex.queue.ring = some smallRing := rfl
  have hsafe : tornIndex.queue.PublishesSafely smallRing (tornIndex.guests.space 0) ⟨2, 7⟩ :=
    (publishesSafely_run false _ hwellFormed _ ⟨2, 7⟩ smallRing hactive).2.2
  have hunmoved := hsafe.unmoved 255 (.shortWrite 4178 2 1) rfl rfl rfl
  exact ⟨hwellFormed, hactive, hsafe, hunmoved.1, rfl, rfl, hunmoved.2.1⟩

end Paravirt

import Paravirt.Proofs.Memory.Frame
import Paravirt.Proofs.Ring.Geometry
import Paravirt.Ring.Driver

/-!
# The two halves of a ring

The descriptor table and the available ring are written by the driver, the index and the elements of
the used ring by the device. What the device stores in a ring never reaches the driver's half, and
its event slot lies behind its own half. Stores that spare one half leave everything that is read
from it as it was.
-/

namespace Paravirt

namespace RingAddresses

variable {ring : RingAddresses} {start : UInt64} {width : Nat}

/-- The address lies in the descriptor table or in the available ring. -/
def DriverHalf (ring : RingAddresses) (gpa : UInt64) : Prop :=
  InSpan ring.descriptors (18 * ring.count.toNat + 6) gpa

/-- The address lies in the index or in an element of the used ring. -/
def UsedHalf (ring : RingAddresses) (gpa : UInt64) : Prop :=
  InSpan ring.usedIndex (8 * ring.count.toNat + 2) gpa

instance (ring : RingAddresses) (gpa : UInt64) : Decidable (ring.DriverHalf gpa) :=
  inferInstanceAs (Decidable (InSpan _ _ _))

instance (ring : RingAddresses) (gpa : UInt64) : Decidable (ring.UsedHalf gpa) :=
  inferInstanceAs (Decidable (InSpan _ _ _))

namespace Placed

/-- The device stores nothing in the driver's half. -/
theorem sparing_driverHalf (placed : ring.Placed) (span : ring.DeviceSpan start width) :
    Sparing ring.DriverHalf start width := by
  have hbounds := placed.deviceSpan_bounds span
  obtain ⟨_, _, havailable, hused, _⟩ := placed
  intro gpa inside held
  unfold DriverHalf InSpan at held
  unfold InSpan at inside
  omega

/-- The event slot of the device lies behind the index and the elements of the used ring. -/
theorem sparing_usedHalf (placed : ring.Placed) (span : ring.EventSpan start width) :
    Sparing ring.UsedHalf start width := by
  have hindex := placed.toNat_usedIndex
  have hslot := placed.toNat_availableEvent
  intro gpa inside held
  cases span with
  | slot =>
    unfold UsedHalf InSpan at held
    unfold InSpan at inside
    omega

section DriverHalf

variable {space last : AddressSpace}
  (placed : ring.Placed) (writes : AddressSpace.Writes (Sparing ring.DriverHalf) space last)
  (initial : space.memory.WellFormed)

include placed writes initial

/-- The index of the available ring is kept. -/
theorem availableIndex_kept :
    last.read16 ring.availableIndex = space.read16 ring.availableIndex := by
  have haddress := placed.toNat_availableIndex
  obtain ⟨hpositive, _, havailable, hused, hfits⟩ := placed
  exact writes.read16_kept initial fun index inside =>
    inSpan_add_ofNat (by omega) (by omega) (by omega) inside

/-- The slots of the available ring are kept. -/
theorem availableSlot_kept {slot : UInt32} (inside : slot.toNat < ring.count.toNat) :
    last.read16 (ring.availableSlot slot) = space.read16 (ring.availableSlot slot) := by
  have haddress := placed.toNat_availableSlot (Nat.le_of_lt inside)
  obtain ⟨_, _, havailable, hused, hfits⟩ := placed
  exact writes.read16_kept initial fun index within =>
    inSpan_add_ofNat (by omega) (by omega) (by omega) within

/-- The descriptors are kept. -/
theorem descriptor_kept {index : UInt16} (inside : index.toNat < ring.count.toNat) :
    last.readExact (ring.descriptor index) Descriptor.width =
      space.readExact (ring.descriptor index) Descriptor.width := by
  have haddress := placed.toNat_descriptor inside
  have hwidth : Descriptor.width = 16 := rfl
  obtain ⟨_, _, havailable, hused, hfits⟩ := placed
  exact writes.readExact_kept initial fun offset within =>
    inSpan_add_ofNat (by omega) (by omega) (by omega) within

end DriverHalf

section UsedHalf

variable {space last : AddressSpace}
  (placed : ring.Placed) (writes : AddressSpace.Writes (Sparing ring.UsedHalf) space last)
  (initial : space.memory.WellFormed)

include placed writes initial

/-- The index of the used ring is kept. -/
theorem usedIndex_kept : last.read16 ring.usedIndex = space.read16 ring.usedIndex := by
  have haddress := placed.toNat_usedIndex
  obtain ⟨hpositive, _, _, _, hfits⟩ := placed
  exact writes.read16_kept initial fun index inside =>
    inSpan_add_ofNat (by omega) (by omega) (by omega) inside

/-- The elements of the used ring are kept. -/
theorem usedSlot_kept {slot : UInt32} (inside : slot.toNat < ring.count.toNat) :
    ring.readUsed last slot = ring.readUsed space slot := by
  have hindex := placed.toNat_usedIndex
  have hhead := placed.toNat_usedSlot (Nat.le_of_lt inside)
  obtain ⟨_, _, _, _, hfits⟩ := placed
  have hwritten : (ring.usedSlot slot + 4).toNat = (ring.usedSlot slot).toNat + 4 :=
    toNat_add_ofNat (by omega : (ring.usedSlot slot).toNat + 4 < UInt64.size)
  have hfirst : last.read32 (ring.usedSlot slot) = space.read32 (ring.usedSlot slot) :=
    writes.read32_kept initial fun index within =>
      inSpan_add_ofNat (by omega) (by omega) (by omega) within
  have hsecond : last.read32 (ring.usedSlot slot + 4) = space.read32 (ring.usedSlot slot + 4) :=
    writes.read32_kept initial fun index within =>
      inSpan_add_ofNat (by omega) (by omega) (by omega) within
  unfold readUsed
  rw [hfirst, hsecond]

end UsedHalf

end Placed

end RingAddresses

end Paravirt

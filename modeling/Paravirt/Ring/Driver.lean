import Paravirt.Memory.AddressSpace
import Paravirt.Ring.Descriptor
import Paravirt.Ring.Layout
import Paravirt.Ring.UsedElement

/-!
# The driver's half of a ring

The driver of a guest fills the descriptor table, publishes heads on the available ring, and reads
what the device returns. It works through the same address space as the device, at the same
addresses. Each operation stops at the first access that is not served in full, and what was written
before that stays written.
-/

namespace Paravirt

/-- The words of a ring that are neither descriptors nor slots. -/
inductive RingField where
  /-- The flags of the available ring. -/
  | availableFlags
  /-- The index of the available ring. -/
  | availableIndex
  /-- The event slot of the available ring. -/
  | usedEvent
  /-- The flags of the used ring. -/
  | usedFlags
  /-- The index of the used ring. -/
  | usedIndex
  /-- The event slot of the used ring. -/
  | availableEvent
  deriving DecidableEq

/-- Where a word of the ring lies. -/
def RingField.address (ring : RingAddresses) : RingField → UInt64
  | .availableFlags => ring.availableFlags
  | .availableIndex => ring.availableIndex
  | .usedEvent => ring.usedEvent
  | .usedFlags => ring.usedFlags
  | .usedIndex => ring.usedIndex
  | .availableEvent => ring.availableEvent

namespace RingAddresses

variable (ring : RingAddresses)

/-- Write a descriptor one word after another: address, length, flags, link. -/
def writeDescriptor (space : AddressSpace) (index : UInt16) (descriptor : Descriptor) :
    Except MemoryError Unit × AddressSpace :=
  let start := ring.descriptor index
  match space.write64 start descriptor.address with
  | (.error error, space) => (.error error, space)
  | (.ok (), space) =>
    match space.write32 (start + 8) descriptor.length with
    | (.error error, space) => (.error error, space)
    | (.ok (), space) =>
      match space.write16 (start + 12) descriptor.flags with
      | (.error error, space) => (.error error, space)
      | (.ok (), space) => space.write16 (start + 14) descriptor.next

/-- Write descriptors at an index and those after it, each in one piece. -/
def storeDescriptors (space : AddressSpace) (index : UInt16) :
    List Descriptor → Except MemoryError Unit × AddressSpace
  | [] => (.ok (), space)
  | descriptor :: rest =>
    match space.writeAll (ring.descriptor index) descriptor.encode with
    | (.error error, space) => (.error error, space)
    | (.ok (), space) => storeDescriptors space (index + 1) rest

/-- Write heads into the available ring from an index on; the index behind the last one. -/
def storeHeads (space : AddressSpace) (index : UInt16) :
    List UInt16 → Except MemoryError UInt16 × AddressSpace
  | [] => (.ok index, space)
  | head :: rest =>
    match space.write16 (ring.availableSlot (index.toUInt32 % ring.count)) head with
    | (.error error, space) => (.error error, space)
    | (.ok (), space) => storeHeads space (index + 1) rest

/-- Publish heads on the available ring: write them behind those already there, then move the index
on. The new index is the answer. -/
def publishHeads (space : AddressSpace) (heads : List UInt16) :
    Except MemoryError UInt16 × AddressSpace :=
  match space.read16 ring.availableIndex with
  | .error error => (.error error, space)
  | .ok index =>
    match ring.storeHeads space index heads with
    | (.error error, space) => (.error error, space)
    | (.ok index, space) =>
      let (outcome, space) := space.write16 ring.availableIndex index
      (outcome.map fun _ => index, space)

/-- Publish heads in batches, each behind those already there. -/
def publishBatches (space : AddressSpace) :
    List (List UInt16) → Except MemoryError Unit × AddressSpace
  | [] => (.ok (), space)
  | heads :: rest =>
    match ring.publishHeads space heads with
    | (.error error, space) => (.error error, space)
    | (.ok _, space) => publishBatches space rest

/-- Read a word of the ring. -/
def readField (space : AddressSpace) (field : RingField) : Except MemoryError UInt16 :=
  space.read16 (field.address ring)

/-- Write a word of the ring. -/
def writeField (space : AddressSpace) (field : RingField) (value : UInt16) :
    Except MemoryError Unit × AddressSpace :=
  space.write16 (field.address ring) value

/-- Read the used element in a slot, its two words one after the other. -/
def readUsed (space : AddressSpace) (slot : UInt32) : Except MemoryError UsedElement :=
  match space.read32 (ring.usedSlot slot) with
  | .error error => .error error
  | .ok head =>
    match space.read32 (ring.usedSlot slot + 4) with
    | .error error => .error error
    | .ok written => .ok ⟨head, written⟩

/-- Read the used elements from an index on until another index is reached. -/
def readUsedUntil (space : AddressSpace) (last index : UInt16) :
    Except MemoryError (List UsedElement) :=
  if index = last then
    .ok []
  else
    match ring.readUsed space (index.toUInt32 % ring.count) with
    | .error error => .error error
    | .ok element => (readUsedUntil space last (index + 1)).map (element :: ·)
termination_by (last - index).toNat
decreasing_by
  have distinct : index.toNat ≠ last.toNat := fun same => ‹¬index = last› (UInt16.toNat_inj.1 same)
  have := index.toNat_lt
  have := last.toNat_lt
  simp only [UInt16.toNat_sub, UInt16.toNat_add, UInt16.toNat_one]
  omega

/-- Collect what the device has returned since the index up to which the driver has come; the used
elements, and the index up to which it has come now. -/
def reap (space : AddressSpace) (seen : UInt16) : Except MemoryError (List UsedElement × UInt16) :=
  match space.read16 ring.usedIndex with
  | .error error => .error error
  | .ok index => (ring.readUsedUntil space index seen).map fun elements => (elements, index)

end RingAddresses

end Paravirt

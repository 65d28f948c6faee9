import Paravirt.Word

/-!
# Layout of a split ring

A split ring consists of three tables that lie one after another in guest memory.

* The descriptor table: one descriptor of sixteen bytes per index.
* The available ring, written by the driver: flags and index of two bytes each, one slot of two
  bytes per descriptor, and the used-event slot of two bytes.
* The used ring, written by the device and starting at the next multiple of the alignment: flags and
  index of two bytes each, one element of eight bytes per descriptor, and the available-event slot
  of two bytes.

Driver and device compute the same offsets on their own, so these offsets are fixed.
-/

namespace Paravirt

/-- The size of a split ring: how many descriptors it has and how its used ring is aligned. -/
structure RingLayout where
  /-- The number of descriptors. -/
  count : UInt32
  /-- The alignment of the used ring, at least 1. -/
  align : UInt64
  deriving DecidableEq

namespace RingLayout

/-- The most descriptors that a split ring may have. -/
def maxCount : UInt32 := 32768

/-- The layout with the given count and alignment. An alignment of 0 counts as 1. -/
def ofAlign (count : UInt32) (align : UInt64) : RingLayout := ⟨count, max 1 align⟩

variable (layout : RingLayout)

/-- Where the descriptor table starts. -/
def descriptorOffset (_ : RingLayout) : UInt64 := 0

/-- The size of the descriptor table. -/
def descriptorSize : UInt64 := layout.count.toUInt64 * 16

/-- Where the available ring starts. -/
def availableOffset : UInt64 := layout.descriptorSize

/-- The size of the available ring with its used-event slot. -/
def availableSize : UInt64 := 4 + layout.count.toUInt64 * 2 + 2

/-- Where the used ring starts. -/
def usedOffset : UInt64 :=
  Word.roundUp (layout.availableOffset + layout.availableSize) layout.align

/-- The size of the used ring with its available-event slot. -/
def usedSize : UInt64 := 4 + layout.count.toUInt64 * 8 + 2

/-- The size of the whole ring. -/
def totalSize : UInt64 := layout.usedOffset + layout.usedSize

end RingLayout

/-- The size of a ring with the given count and alignment. -/
def ringSize (count : UInt32) (align : UInt64) : UInt64 :=
  (RingLayout.ofAlign count align).totalSize

/-- Where the three tables of one ring lie in guest memory. -/
structure RingAddresses where
  /-- The number of descriptors. -/
  count : UInt32 := 0
  /-- The descriptor table. -/
  descriptors : UInt64 := 0
  /-- The available ring. -/
  available : UInt64 := 0
  /-- The used ring. -/
  used : UInt64 := 0
  deriving DecidableEq

/-- The addresses of a ring that starts at `base`. -/
def RingLayout.addressesAt (layout : RingLayout) (base : UInt64) : RingAddresses where
  count := layout.count
  descriptors := base + layout.descriptorOffset
  available := base + layout.availableOffset
  used := base + layout.usedOffset

namespace RingAddresses

variable (ring : RingAddresses)

/-- The descriptor with the given index. -/
def descriptor (index : UInt16) : UInt64 := ring.descriptors + index.toUInt64 * 16

/-- The flags of the available ring. -/
def availableFlags : UInt64 := ring.available

/-- The index up to which the driver has published heads. -/
def availableIndex : UInt64 := ring.available + 2

/-- A slot of the available ring. -/
def availableSlot (slot : UInt32) : UInt64 := ring.available + 4 + slot.toUInt64 * 2

/-- The used index at which the driver wants to be told, behind the last available slot. -/
def usedEvent : UInt64 := ring.availableSlot ring.count

/-- The flags of the used ring. -/
def usedFlags : UInt64 := ring.used

/-- The index up to which the device has published used elements. -/
def usedIndex : UInt64 := ring.used + 2

/-- A slot of the used ring. -/
def usedSlot (slot : UInt32) : UInt64 := ring.used + 4 + slot.toUInt64 * 8

/-- The available index that the device has consumed up to, behind the last used slot. -/
def availableEvent : UInt64 := ring.usedSlot ring.count

end RingAddresses

end Paravirt

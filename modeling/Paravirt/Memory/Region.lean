import Paravirt.Memory.Mapping
import Paravirt.Memory.Storage

/-!
# Regions of guest-physical memory

A region is a run of guest-physical addresses of one kind. Memory regions have storage and take
reads and writes, fixed regions have storage and take reads, and windows have none. A transfer that
starts in a region ends at the region's end, whatever follows it.
-/

namespace Paravirt

/-- What stands behind the addresses of a region. -/
inductive Backing where
  /-- Bytes that are read and written. -/
  | ram (storage : Storage)
  /-- Bytes that are read only. -/
  | rom (storage : Storage)
  /-- Emulated registers: no bytes. -/
  | window

namespace Backing

/-- The bytes behind a region, where there are any. -/
def storage? : Backing → Option Storage
  | .ram storage => some storage
  | .rom storage => some storage
  | .window => none

/-- The attributes reported for a region. -/
def flags : Backing → RegionFlags
  | .ram _ => .union .ram .real
  | .rom _ => .union (.union .rom .readOnly) .real
  | .window => .union .io .emulated

end Backing

/-- A run of guest-physical addresses of one kind. -/
structure Region where
  /-- The first guest-physical address. -/
  base : UInt64
  /-- The number of addresses. -/
  size : UInt64
  /-- The host-physical address that the first address resolves to. -/
  hostBase : UInt64
  /-- What stands behind the addresses. -/
  backing : Backing

namespace Region

/-- The address behind the last one of the region. -/
def stop (region : Region) : UInt64 := region.base + region.size

/-- Whether an address lies in the region. -/
def contains (region : Region) (gpa : UInt64) : Bool :=
  region.base ≤ gpa && gpa < region.stop

/-- Whether two regions that are not empty share an address. -/
def overlaps (first second : Region) : Bool :=
  second.base < first.stop && first.base < second.stop

/-- The distance of an address from the start of the region. -/
def offsetOf (region : Region) (gpa : UInt64) : UInt64 := gpa - region.base

/-- The number of addresses from `gpa` to the end of the region. -/
def roomFrom (region : Region) (gpa : UInt64) : UInt64 := region.stop - gpa

/-- The bytes that a read of `count` bytes at an address of the region transfers. -/
def read (region : Region) (gpa : UInt64) (count : Nat) : List UInt8 :=
  match region.backing.storage? with
  | none => []
  | some storage =>
    storage.load (region.offsetOf gpa).toNat (min count (region.roomFrom gpa).toNat)

/-- Store bytes at an address of the region; the count of bytes stored, and the region after. -/
def write (region : Region) (gpa : UInt64) (bytes : List UInt8) : Nat × Region :=
  match region.backing with
  | .ram storage =>
    let stored := bytes.take (region.roomFrom gpa).toNat
    (stored.length,
      { region with backing := .ram (storage.store (region.offsetOf gpa).toNat stored) })
  | .rom _ | .window => (0, region)

/-- What an address of the region resolves to. -/
def map (region : Region) (gpa : UInt64) : MappedRegion where
  hostAddress := region.hostBase + region.offsetOf gpa
  availableSize := region.roomFrom gpa
  flags := region.backing.flags

/-- The byte at an address of the region, where it has bytes. -/
def byteAt? (region : Region) (gpa : UInt64) : Option UInt8 :=
  region.backing.storage?.map fun storage => storage.get (region.offsetOf gpa).toNat

end Region

end Paravirt

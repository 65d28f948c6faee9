/-!
# Resolved addresses

A guest-physical address that lies in a region resolves to a host-physical address, the span left
in that region, and the region's attributes. The span is reported as it is: a caller that needs
more compares it with its own request.
-/

namespace Paravirt

/-- Attributes of a region, one bit each. Bits without a meaning are kept. -/
structure RegionFlags where
  /-- The attribute bits. -/
  bits : UInt32
  deriving DecidableEq

namespace RegionFlags

/-- Backed by host memory that devices can address byte by byte. -/
def ram : RegionFlags := ⟨1⟩

/-- Holds fixed contents. -/
def rom : RegionFlags := ⟨2⟩

/-- A window of emulated registers, not addressable byte by byte. -/
def io : RegionFlags := ⟨4⟩

/-- Exists in the emulation alone. -/
def emulated : RegionFlags := ⟨8⟩

/-- Has a place in host memory. -/
def real : RegionFlags := ⟨16⟩

/-- Refuses writes. -/
def readOnly : RegionFlags := ⟨32⟩

/-- The attributes of either operand. -/
def union (x y : RegionFlags) : RegionFlags := ⟨x.bits ||| y.bits⟩

/-- Whether every attribute of `part` is among `flags`. -/
def contains (flags part : RegionFlags) : Bool :=
  flags.bits &&& part.bits == part.bits

end RegionFlags

/-- What a guest-physical address resolves to. -/
structure MappedRegion where
  /-- The host-physical address behind the guest-physical one. -/
  hostAddress : UInt64
  /-- Bytes from the address to the end of its region. -/
  availableSize : UInt64
  /-- Attributes of the region. -/
  flags : RegionFlags
  deriving DecidableEq

namespace MappedRegion

/-- Whether the address lies in memory that devices read and write. -/
def isRam (mapped : MappedRegion) : Bool := mapped.flags.contains .ram

/-- Whether memory of the given size starts at the address. -/
def coversRam (mapped : MappedRegion) (size : UInt64) : Bool :=
  mapped.isRam && size ≤ mapped.availableSize

end MappedRegion

end Paravirt

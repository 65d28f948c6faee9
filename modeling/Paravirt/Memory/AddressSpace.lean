import Paravirt.LittleEndian
import Paravirt.Memory.Basic

/-!
# Address spaces

Devices reach guest memory through its address space. A host can make the space fail on purpose:
a limit cuts every read or write that starts exactly at a chosen address, and an override answers
every mapping query in place of the memory. Reads and writes report how many bytes were transferred;
`readExact`, `writeAll` and the typed accesses turn a short transfer into a failure. Bytes that a
failed write did store stay stored.
-/

namespace Paravirt

/-- Longest transfers allowed at chosen addresses, the latest decision first. -/
abbrev TransferLimits := List (UInt64 × Nat)

/-- The length to which a transfer of `count` bytes starting at `gpa` is cut. -/
def TransferLimits.cut (limits : TransferLimits) (gpa : UInt64) (count : Nat) : Nat :=
  match limits.lookup gpa with
  | none => count
  | some limit => min count limit

/-- Guest memory as devices reach it. -/
structure AddressSpace where
  /-- The memory itself. -/
  memory : Memory
  /-- Limits on reads. -/
  readLimits : TransferLimits := []
  /-- Limits on writes. -/
  writeLimits : TransferLimits := []
  /-- The answer to every mapping query, where one is set. -/
  mapOverride : Option (Except MemoryError MappedRegion) := none

namespace AddressSpace

/-- An address space without any memory. -/
def empty : AddressSpace := { memory := ⟨[]⟩ }

/-- The byte at an address, where a region with bytes holds it. -/
def byteAt? (space : AddressSpace) (gpa : UInt64) : Option UInt8 :=
  space.memory.byteAt? gpa

/-- The bytes that a read of `count` bytes at an address transfers. -/
def read (space : AddressSpace) (gpa : UInt64) (count : Nat) : List UInt8 :=
  space.memory.read gpa (space.readLimits.cut gpa count)

/-- Store bytes at an address; the count of bytes stored, and the space after. -/
def write (space : AddressSpace) (gpa : UInt64) (bytes : List UInt8) : Nat × AddressSpace :=
  let (count, memory) :=
    space.memory.write gpa (bytes.take (space.writeLimits.cut gpa bytes.length))
  (count, { space with memory })

/-- Resolve an address. -/
def map (space : AddressSpace) (gpa size : UInt64) : Except MemoryError MappedRegion :=
  space.mapOverride.getD (space.memory.map gpa size)

/-- Limit reads that start exactly at `gpa`. -/
def limitReads (space : AddressSpace) (gpa : UInt64) (longest : Nat) : AddressSpace :=
  { space with readLimits := (gpa, longest) :: space.readLimits }

/-- Limit writes that start exactly at `gpa`. -/
def limitWrites (space : AddressSpace) (gpa : UInt64) (longest : Nat) : AddressSpace :=
  { space with writeLimits := (gpa, longest) :: space.writeLimits }

/-- Lift every limit on transfers. -/
def clearLimits (space : AddressSpace) : AddressSpace :=
  { space with readLimits := [], writeLimits := [] }

/-- Read into a buffer: the count of bytes transferred, and the buffer with those bytes at its
start and the rest as it was. -/
def readInto (space : AddressSpace) (gpa : UInt64) (buffer : List UInt8) : Nat × List UInt8 :=
  let bytes := space.read gpa buffer.length
  (bytes.length, bytes ++ buffer.drop bytes.length)

/-- Read exactly `count` bytes. -/
def readExact (space : AddressSpace) (gpa : UInt64) (count : Nat) :
    Except MemoryError (List UInt8) :=
  let bytes := space.read gpa count
  if bytes.length = count then .ok bytes else .error (.shortRead gpa count bytes.length)

/-- Store all of the given bytes. -/
def writeAll (space : AddressSpace) (gpa : UInt64) (bytes : List UInt8) :
    Except MemoryError Unit × AddressSpace :=
  let (count, space) := space.write gpa bytes
  (if count = bytes.length then .ok () else .error (.shortWrite gpa bytes.length count), space)

/-- Read a 16-bit word. -/
def read16 (space : AddressSpace) (gpa : UInt64) : Except MemoryError UInt16 :=
  (space.readExact gpa 2).map LittleEndian.decode16

/-- Read a 32-bit word. -/
def read32 (space : AddressSpace) (gpa : UInt64) : Except MemoryError UInt32 :=
  (space.readExact gpa 4).map LittleEndian.decode32

/-- Read a 64-bit word. -/
def read64 (space : AddressSpace) (gpa : UInt64) : Except MemoryError UInt64 :=
  (space.readExact gpa 8).map LittleEndian.decode64

/-- Store a 16-bit word. -/
def write16 (space : AddressSpace) (gpa : UInt64) (value : UInt16) :
    Except MemoryError Unit × AddressSpace :=
  space.writeAll gpa (LittleEndian.encode16 value)

/-- Store a 32-bit word. -/
def write32 (space : AddressSpace) (gpa : UInt64) (value : UInt32) :
    Except MemoryError Unit × AddressSpace :=
  space.writeAll gpa (LittleEndian.encode32 value)

/-- Store a 64-bit word. -/
def write64 (space : AddressSpace) (gpa : UInt64) (value : UInt64) :
    Except MemoryError Unit × AddressSpace :=
  space.writeAll gpa (LittleEndian.encode64 value)

end AddressSpace

end Paravirt

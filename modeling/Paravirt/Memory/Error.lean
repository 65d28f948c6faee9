import Paravirt.Text.Hexadecimal

/-!
# Failures of guest memory

The reasons for which a memory map cannot be built, an address cannot be resolved, or a transfer
that has to be complete was cut short.
-/

namespace Paravirt

/-- Why an operation on guest memory failed. -/
inductive MemoryError where
  /-- No region holds the address that was asked for. -/
  | unmapped (gpa size : UInt64)
  /-- The region to be added shares an address with an earlier one. -/
  | overlap (gpa size : UInt64)
  /-- The region to be added holds no address. -/
  | emptyRegion (gpa : UInt64)
  /-- A read delivered fewer bytes than it had to. -/
  | shortRead (gpa : UInt64) (expected actual : Nat)
  /-- A write stored fewer bytes than it had to. -/
  | shortWrite (gpa : UInt64) (expected actual : Nat)
  /-- The end of a range is not a 64-bit address. -/
  | overflow
  deriving DecidableEq

/-- The text shown for a failure: addresses and sizes in hexadecimal, counts in decimal. -/
def MemoryError.message : MemoryError → String
  | .unmapped gpa size =>
    "guest range not mapped: gpa=" ++ Text.markedHexadecimal gpa.toNat ++
      " size=" ++ Text.markedHexadecimal size.toNat
  | .overlap gpa size =>
    "region overlaps an existing region: gpa=" ++ Text.markedHexadecimal gpa.toNat ++
      " size=" ++ Text.markedHexadecimal size.toNat
  | .emptyRegion gpa => "zero-sized region at gpa=" ++ Text.markedHexadecimal gpa.toNat
  | .shortRead gpa expected actual =>
    "short read at gpa=" ++ Text.markedHexadecimal gpa.toNat ++ ": expected " ++ expected.repr ++
      " bytes, got " ++ actual.repr
  | .shortWrite gpa expected actual =>
    "short write at gpa=" ++ Text.markedHexadecimal gpa.toNat ++ ": expected " ++ expected.repr ++
      " bytes, wrote " ++ actual.repr
  | .overflow => "integer overflow while computing a guest-physical range"

end Paravirt

import Paravirt.LittleEndian

/-!
# Used elements

The device returns a chain by writing a used element: the index of the chain's first descriptor and
the number of bytes that it wrote into the chain. A used element occupies eight bytes.
-/

namespace Paravirt

/-- One entry of the used ring. -/
structure UsedElement where
  /-- Index of the first descriptor of the completed chain. -/
  head : UInt32
  /-- Bytes that the device wrote into the chain. -/
  written : UInt32
  deriving DecidableEq

namespace UsedElement

/-- The number of bytes that a used element occupies. -/
def width : Nat := 8

/-- The eight bytes of a used element. -/
def encode (element : UsedElement) : List UInt8 :=
  LittleEndian.encode32 element.head ++ LittleEndian.encode32 element.written

/-- The used element in eight bytes. -/
def decode (bytes : List UInt8) : UsedElement where
  head := LittleEndian.decode32 (bytes.take 4)
  written := LittleEndian.decode32 ((bytes.drop 4).take 4)

/-- Every used element is read back from its bytes. -/
@[simp]
theorem decode_encode (element : UsedElement) : decode (encode element) = element := by
  simp [decode, encode, List.take_of_length_le]

@[simp]
theorem length_encode (element : UsedElement) : (encode element).length = width := by
  simp [encode, width]

end UsedElement

end Paravirt

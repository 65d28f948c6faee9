import Paravirt.LittleEndian

/-!
# Descriptors

A descriptor names one guest buffer and, through its link, the descriptor that follows in the same
chain. It occupies sixteen bytes: address, length, flags and link, each little-endian. Flag bits
without a meaning are kept as the driver wrote them.
-/

namespace Paravirt

/-- One entry of the descriptor table. -/
structure Descriptor where
  /-- Guest-physical address of the buffer. -/
  address : UInt64
  /-- Length of the buffer in bytes. -/
  length : UInt32
  /-- Flag bits, known or not. -/
  flags : UInt16
  /-- Index of the descriptor that follows, where the flags say that one does. -/
  next : UInt16
  deriving DecidableEq

namespace Descriptor

/-- The number of bytes that a descriptor occupies. -/
def width : Nat := 16

/-- The flag of a descriptor that another one follows. -/
def nextFlag : UInt16 := 1

/-- The flag of a buffer that the device writes. -/
def writeFlag : UInt16 := 2

/-- The flag of a buffer that holds descriptors itself. -/
def indirectFlag : UInt16 := 4

/-- Whether another descriptor follows in the chain. -/
def hasNext (descriptor : Descriptor) : Bool := descriptor.flags &&& nextFlag != 0

/-- Whether the device writes the buffer. -/
def isWritable (descriptor : Descriptor) : Bool := descriptor.flags &&& writeFlag != 0

/-- Whether the buffer holds descriptors itself. -/
def isIndirect (descriptor : Descriptor) : Bool := descriptor.flags &&& indirectFlag != 0

/-- The sixteen bytes of a descriptor. -/
def encode (descriptor : Descriptor) : List UInt8 :=
  LittleEndian.encode64 descriptor.address ++ LittleEndian.encode32 descriptor.length ++
    LittleEndian.encode16 descriptor.flags ++ LittleEndian.encode16 descriptor.next

/-- The descriptor in sixteen bytes. -/
def decode (bytes : List UInt8) : Descriptor where
  address := LittleEndian.decode64 (bytes.take 8)
  length := LittleEndian.decode32 ((bytes.drop 8).take 4)
  flags := LittleEndian.decode16 ((bytes.drop 12).take 2)
  next := LittleEndian.decode16 ((bytes.drop 14).take 2)

/-- Every descriptor is read back from its bytes. -/
@[simp]
theorem decode_encode (descriptor : Descriptor) : decode (encode descriptor) = descriptor := by
  simp [decode, encode, List.drop_append, List.take_of_length_le,
    List.drop_of_length_le]

/-- Every sixteen bytes are those of the descriptor in them. -/
theorem encode_decode {bytes : List UInt8} (sixteen : bytes.length = width) :
    encode (decode bytes) = bytes := by
  have hwidth : bytes.length = 16 := sixteen
  have hnext : (bytes.drop 14).take 2 = bytes.drop 14 :=
    List.take_of_length_le (by rw [List.length_drop]; omega)
  have hflags : (bytes.drop 12).take 2 ++ bytes.drop 14 = bytes.drop 12 := by
    have hsplit := List.take_append_drop 2 (bytes.drop 12)
    rwa [List.drop_drop] at hsplit
  have hlength : (bytes.drop 8).take 4 ++ bytes.drop 12 = bytes.drop 8 := by
    have hsplit := List.take_append_drop 4 (bytes.drop 8)
    rwa [List.drop_drop] at hsplit
  rw [encode, decode, LittleEndian.encode64_decode64, LittleEndian.encode32_decode32,
    LittleEndian.encode16_decode16, LittleEndian.encode16_decode16, hnext, List.append_assoc,
    List.append_assoc, hflags, hlength, List.take_append_drop]
  all_goals
    simp only [List.length_take, List.length_drop]
    omega

@[simp]
theorem length_encode (descriptor : Descriptor) : (encode descriptor).length = width := by
  simp [encode, width]

end Descriptor

end Paravirt

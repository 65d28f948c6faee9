/-!
# Little-endian words

Numbers that device and driver exchange are stored least significant byte first. `encode` writes a
number in a given count of bytes and `decode` reads it back; the two are inverse to each other on
numbers that fit and on byte strings of that length.
-/

namespace Paravirt.LittleEndian

/-- The `width` low bytes of a number, least significant first. -/
def encode : (width value : Nat) → List UInt8
  | 0, _ => []
  | width + 1, value => UInt8.ofNat value :: encode width (value / 256)

/-- The number whose bytes are given, least significant first. -/
def decode : List UInt8 → Nat
  | [] => 0
  | byte :: rest => byte.toNat + 256 * decode rest

@[simp]
theorem length_encode (width value : Nat) : (encode width value).length = width := by
  induction width generalizing value with
  | zero => rfl
  | succ width ih => simp [encode, ih]

/-- Encoding gives back the bytes that were decoded. -/
theorem encode_decode (bytes : List UInt8) : encode bytes.length (decode bytes) = bytes := by
  induction bytes with
  | nil => rfl
  | cons byte rest ih =>
    have hbyte := byte.toNat_lt
    have low : UInt8.ofNat (byte.toNat + 256 * decode rest) = byte := by
      rw [← UInt8.toNat_inj, UInt8.toNat_ofNat']
      omega
    have high : (byte.toNat + 256 * decode rest) / 256 = decode rest := by omega
    rw [List.length_cons, decode, encode, low, high, ih]

/-- No number is larger than the one whose bytes are the largest. -/
theorem decode_le (bytes : List UInt8) :
    decode bytes ≤ decode (List.replicate bytes.length 255) := by
  induction bytes with
  | nil => exact Nat.le_refl _
  | cons byte rest ih =>
    have hbyte := byte.toNat_lt
    have hlargest : (255 : UInt8).toNat = 255 := rfl
    rw [List.length_cons, List.replicate_succ, decode, decode, hlargest]
    omega

/-- The two bytes of a 16-bit word. -/
def encode16 (value : UInt16) : List UInt8 := encode 2 value.toNat

/-- The four bytes of a 32-bit word. -/
def encode32 (value : UInt32) : List UInt8 := encode 4 value.toNat

/-- The eight bytes of a 64-bit word. -/
def encode64 (value : UInt64) : List UInt8 := encode 8 value.toNat

/-- The 16-bit word in the given bytes. -/
def decode16 (bytes : List UInt8) : UInt16 := UInt16.ofNat (decode bytes)

/-- The 32-bit word in the given bytes. -/
def decode32 (bytes : List UInt8) : UInt32 := UInt32.ofNat (decode bytes)

/-- The 64-bit word in the given bytes. -/
def decode64 (bytes : List UInt8) : UInt64 := UInt64.ofNat (decode bytes)

@[simp]
theorem length_encode16 (value : UInt16) : (encode16 value).length = 2 := length_encode 2 _

@[simp]
theorem length_encode32 (value : UInt32) : (encode32 value).length = 4 := length_encode 4 _

@[simp]
theorem length_encode64 (value : UInt64) : (encode64 value).length = 8 := length_encode 8 _

@[simp]
theorem decode16_encode16 (value : UInt16) : decode16 (encode16 value) = value := by
  have fits := value.toNat_lt
  rw [decode16, encode16, ← UInt16.toNat_inj, UInt16.toNat_ofNat']
  simp only [encode, decode, UInt8.toNat_ofNat']
  omega

@[simp]
theorem decode32_encode32 (value : UInt32) : decode32 (encode32 value) = value := by
  have fits := value.toNat_lt
  rw [decode32, encode32, ← UInt32.toNat_inj, UInt32.toNat_ofNat']
  simp only [encode, decode, UInt8.toNat_ofNat']
  omega

@[simp]
theorem decode64_encode64 (value : UInt64) : decode64 (encode64 value) = value := by
  have fits := value.toNat_lt
  rw [decode64, encode64, ← UInt64.toNat_inj, UInt64.toNat_ofNat']
  simp only [encode, decode, UInt8.toNat_ofNat']
  omega

/-- The two bytes that a 16-bit word was decoded from are those of the word. -/
theorem encode16_decode16 {bytes : List UInt8} (two : bytes.length = 2) :
    encode16 (decode16 bytes) = bytes := by
  have hlargest := decode_le bytes
  rw [two] at hlargest
  have hword : (decode16 bytes).toNat = decode bytes :=
    UInt16.toNat_ofNat_of_lt' (Nat.lt_of_le_of_lt hlargest (by decide))
  rw [encode16, hword, ← two, encode_decode]

/-- The four bytes that a 32-bit word was decoded from are those of the word. -/
theorem encode32_decode32 {bytes : List UInt8} (four : bytes.length = 4) :
    encode32 (decode32 bytes) = bytes := by
  have hlargest := decode_le bytes
  rw [four] at hlargest
  have hword : (decode32 bytes).toNat = decode bytes :=
    UInt32.toNat_ofNat_of_lt' (Nat.lt_of_le_of_lt hlargest (by decide))
  rw [encode32, hword, ← four, encode_decode]

/-- The eight bytes that a 64-bit word was decoded from are those of the word. -/
theorem encode64_decode64 {bytes : List UInt8} (eight : bytes.length = 8) :
    encode64 (decode64 bytes) = bytes := by
  have hlargest := decode_le bytes
  rw [eight] at hlargest
  have hword : (decode64 bytes).toNat = decode bytes :=
    UInt64.toNat_ofNat_of_lt' (Nat.lt_of_le_of_lt hlargest (by decide))
  rw [encode64, hword, ← eight, encode_decode]

end Paravirt.LittleEndian

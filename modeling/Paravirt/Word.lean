/-!
# Sixty-four-bit words with checked arithmetic

Guest addresses and sizes are unsigned words of 64 bits. A guest chooses them freely, so sums and
products that decide whether a range exists are computed by the checked operations of this module,
which answer `none` instead of wrapping around.
-/

namespace Paravirt.Word

/-- The sum of two words when it is a word itself. -/
def add? (x y : UInt64) : Option UInt64 :=
  if x.toNat + y.toNat < UInt64.size then some (x + y) else none

/-- The product of two words when it is a word itself. -/
def mul? (x y : UInt64) : Option UInt64 :=
  if x.toNat * y.toNat < UInt64.size then some (x * y) else none

/-- A checked sum is the sum of the natural numbers. -/
theorem add?_eq_some_iff {x y z : UInt64} :
    add? x y = some z ↔ z.toNat = x.toNat + y.toNat := by
  have hz := z.toNat_lt_size
  unfold add?
  split
  · rename_i fits
    rw [Option.some.injEq, ← UInt64.toNat_inj, UInt64.toNat_add, Nat.mod_eq_of_lt fits, eq_comm]
  · simp only [reduceCtorEq, false_iff]
    omega

/-- A checked product is the product of the natural numbers. -/
theorem mul?_eq_some_iff {x y z : UInt64} :
    mul? x y = some z ↔ z.toNat = x.toNat * y.toNat := by
  have hz := z.toNat_lt_size
  unfold mul?
  split
  · rename_i fits
    rw [Option.some.injEq, ← UInt64.toNat_inj, UInt64.toNat_mul, Nat.mod_eq_of_lt fits, eq_comm]
  · simp only [reduceCtorEq, false_iff]
    omega

/-- Whether a word is one of `1`, `2`, `4`, and so on. Zero is not. -/
def isPowerOfTwo (x : UInt64) : Bool :=
  x.toNat == 1 <<< x.toNat.log2

/-- The test accepts exactly the powers of two. -/
theorem isPowerOfTwo_iff {x : UInt64} : isPowerOfTwo x = true ↔ x.toNat.isPowerOfTwo := by
  rw [isPowerOfTwo, beq_iff_eq, Nat.one_shiftLeft]
  constructor
  · exact fun h => ⟨_, h⟩
  · rintro ⟨k, hk⟩
    rw [hk, Nat.log2_two_pow]

/-- The least multiple of `unit` that is not below `x`, computed in 64 bits. A `unit` of 0 counts
as 1. -/
def roundUp (x unit : UInt64) : UInt64 :=
  let unit := max 1 unit
  (if x % unit = 0 then x / unit else x / unit + 1) * unit

end Paravirt.Word

import Paravirt.Proofs.Memory.Access

/-!
# What stands at an address

Bytes stand in memory from an address on, whether or not a device could read them there. A word that
was read does stand at its address, a write that does not fail leaves its bytes there, and a write
that fails part-way has touched nothing outside the span that was meant for them.
-/

namespace Paravirt

namespace AddressSpace

variable {space later : AddressSpace} {gpa other : UInt64} {bytes : List UInt8}

/-- The bytes stand in memory, one after another from the address on. -/
def Holds (space : AddressSpace) (gpa : UInt64) (bytes : List UInt8) : Prop :=
  ∀ place < bytes.length, space.byteAt? (gpa + UInt64.ofNat place) = bytes[place]?

/-- Bytes stay where memory does not change. -/
theorem Holds.congr (holds : space.Holds gpa bytes)
    (same : ∀ place < bytes.length, later.byteAt? (gpa + UInt64.ofNat place) =
      space.byteAt? (gpa + UInt64.ofNat place)) : later.Holds gpa bytes :=
  fun place inside => (same place inside).trans (holds place inside)

/-- A read that does not fail gives as many bytes as were asked for. -/
theorem length_of_readExact {count : Nat} (read : space.readExact gpa count = .ok bytes) :
    bytes.length = count := by
  unfold readExact at read
  dsimp only at read
  split at read
  · rename_i complete
    cases read
    exact complete
  · cases read

/-- Bytes that were read stand at their address. -/
theorem holds_of_readExact (wellFormed : space.memory.WellFormed) {count : Nat}
    (read : space.readExact gpa count = .ok bytes) : space.Holds gpa bytes := by
  unfold readExact at read
  dsimp only at read
  split at read
  · cases read
    intro place inside
    exact (wellFormed.getElem?_read gpa inside).symm
  · cases read

/-- A word that was read stands at its address. -/
theorem holds_of_read16 (wellFormed : space.memory.WellFormed) {value : UInt16}
    (read : space.read16 gpa = .ok value) : space.Holds gpa (LittleEndian.encode16 value) := by
  unfold read16 at read
  cases exactly : space.readExact gpa 2 with
  | error error =>
    rw [exactly] at read
    cases read
  | ok bytes =>
    rw [exactly] at read
    cases read
    rw [LittleEndian.encode16_decode16 (length_of_readExact exactly)]
    exact holds_of_readExact wellFormed exactly

/-- A write that does not fail leaves its bytes at its address. -/
theorem holds_writeAll (wellFormed : space.memory.WellFormed)
    (stored : (space.writeAll gpa bytes).1 = .ok ())
    (fits : gpa.toNat + bytes.length ≤ UInt64.size) :
    (space.writeAll gpa bytes).2.Holds gpa bytes :=
  fun _ inside => byteAt?_writeAll wellFormed stored fits inside

/-- A write, complete or not, keeps memory well-formed. -/
theorem wellFormed_writeAll (wellFormed : space.memory.WellFormed) (gpa : UInt64)
    (bytes : List UInt8) : (space.writeAll gpa bytes).2.memory.WellFormed :=
  wellFormed.write gpa _

/-- A write, complete or not, changes no byte outside its span. -/
theorem byteAt?_writeAll_of_not_inSpan (wellFormed : space.memory.WellFormed)
    (outside : ¬InSpan gpa bytes.length other) :
    (space.writeAll gpa bytes).2.byteAt? other = space.byteAt? other := by
  have hwrites : Writes (fun start width => start = gpa ∧ width = bytes.length) space
      (space.writeAll gpa bytes).2 := Writes.refl.write ⟨rfl, rfl⟩
  refine hwrites.byteAt?_eq wellFormed ?_
  rintro start width ⟨rfl, rfl⟩
  exact outside

/-- Bytes that end before the span of a write, or start behind it, stay where they are. -/
theorem Holds.writeAll_of_apart {stored : List UInt8} (holds : space.Holds other stored)
    (wellFormed : space.memory.WellFormed) (fits : other.toNat + stored.length ≤ UInt64.size)
    (apart : other.toNat + stored.length ≤ gpa.toNat ∨ gpa.toNat + bytes.length ≤ other.toNat) :
    (space.writeAll gpa bytes).2.Holds other stored :=
  holds.congr fun _ inside =>
    byteAt?_writeAll_of_not_inSpan wellFormed (not_inSpan_of_apart fits apart inside)

end AddressSpace

end Paravirt

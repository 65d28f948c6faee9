import Paravirt.Proofs.Memory.Served

/-!
# Stores that spare given addresses

A series of stores is often known by what it leaves alone rather than by where it goes. Stores into
spans that hold none of a set of addresses keep every byte at these addresses, and every read that
stays among them gives what it gave before.
-/

namespace Paravirt

/-- Every address of a part of a span lies in the span. -/
theorem inSpan_add_ofNat {start gpa : UInt64} {width count index : Nat}
    (after : start.toNat ≤ gpa.toNat) (before : gpa.toNat + count ≤ start.toNat + width)
    (fits : start.toNat + width ≤ UInt64.size) (inside : index < count) :
    InSpan start width (gpa + UInt64.ofNat index) := by
  have haddress : (gpa + UInt64.ofNat index).toNat = gpa.toNat + index :=
    toNat_add_ofNat (by omega)
  unfold InSpan
  omega

/-- The span holds none of the given addresses. -/
def Sparing (kept : UInt64 → Prop) (start : UInt64) (width : Nat) : Prop :=
  ∀ gpa, InSpan start width gpa → ¬kept gpa

/-- A span that spares many addresses spares some of them. -/
theorem Sparing.mono {kept fewer : UInt64 → Prop} {start : UInt64} {width : Nat}
    (sparing : Sparing kept start width) (among : ∀ gpa, fewer gpa → kept gpa) :
    Sparing fewer start width :=
  fun gpa inside held => sparing gpa inside (among gpa held)

namespace AddressSpace

namespace Writes

variable {allowed allowed' : UInt64 → Nat → Prop} {kept : UInt64 → Prop}
  {space middle last : AddressSpace}

/-- Stores into allowed spans are stores into spans allowed more generously. -/
theorem mono (writes : Writes allowed space last)
    (weaker : ∀ start width, allowed start width → allowed' start width) :
    Writes allowed' space last := by
  induction writes with
  | refl => exact .refl
  | store _ here fits ih => exact ih.store (weaker _ _ here) fits

/-- Stores after stores are one series. -/
theorem trans (first : Writes allowed space middle) (second : Writes allowed middle last) :
    Writes allowed space last := by
  induction second with
  | refl => exact first
  | store _ here fits ih => exact ih.store here fits

/-- Spared bytes are kept. -/
theorem byteAt?_kept (writes : Writes (Sparing kept) space last)
    (initial : space.memory.WellFormed) {gpa : UInt64} (held : kept gpa) :
    last.byteAt? gpa = space.byteAt? gpa :=
  writes.byteAt?_eq initial fun _ _ here inside => here gpa inside held

/-- A read among spared addresses gives what it gave before. -/
theorem readExact_kept (writes : Writes (Sparing kept) space last)
    (initial : space.memory.WellFormed) {gpa : UInt64} {count : Nat}
    (held : ∀ index < count, kept (gpa + UInt64.ofNat index)) :
    last.readExact gpa count = space.readExact gpa count := by
  have hread : last.read gpa count = space.read gpa count :=
    writes.read_eq initial fun _ _ here index inside spanned =>
      here _ spanned (held index inside)
  unfold readExact
  rw [hread]

/-- A 16-bit word among spared addresses is kept. -/
theorem read16_kept (writes : Writes (Sparing kept) space last)
    (initial : space.memory.WellFormed) {gpa : UInt64}
    (held : ∀ index < 2, kept (gpa + UInt64.ofNat index)) :
    last.read16 gpa = space.read16 gpa := by
  unfold read16
  rw [writes.readExact_kept initial held]

/-- A 32-bit word among spared addresses is kept. -/
theorem read32_kept (writes : Writes (Sparing kept) space last)
    (initial : space.memory.WellFormed) {gpa : UInt64}
    (held : ∀ index < 4, kept (gpa + UInt64.ofNat index)) :
    last.read32 gpa = space.read32 gpa := by
  unfold read32
  rw [writes.readExact_kept initial held]

end Writes

/-- Two address spaces look the same to whoever reads within a span: transfers that start there are cut
alike, reads reach equally far, and the bytes of the span agree. -/
structure ReadAlike (start : UInt64) (width : Nat) (space other : AddressSpace) : Prop where
  /-- Transfers are cut alike. -/
  cut : ∀ gpa, InSpan start width gpa → ∀ count,
    other.readLimits.cut gpa count = space.readLimits.cut gpa count
  /-- Reads reach equally far. -/
  reach : ∀ gpa, InSpan start width gpa → other.memory.readReach gpa = space.memory.readReach gpa
  /-- The bytes agree. -/
  bytes : ∀ gpa, InSpan start width gpa → other.byteAt? gpa = space.byteAt? gpa

/-- What is read within the span is the same. -/
theorem ReadAlike.readExact_eq {start : UInt64} {width : Nat} {space other : AddressSpace}
    (alike : ReadAlike start width space other) (wellFormed : space.memory.WellFormed)
    (wellFormed' : other.memory.WellFormed) (fits : start.toNat + width ≤ UInt64.size) {gpa : UInt64}
    {count : Nat} (positive : 0 < count) (after : start.toNat ≤ gpa.toNat)
    (before : gpa.toNat + count ≤ start.toNat + width) :
    other.readExact gpa count = space.readExact gpa count := by
  have hstart : InSpan start width gpa := ⟨after, by omega⟩
  have hcut : space.readLimits.cut gpa count ≤ count := by
    unfold TransferLimits.cut
    split
    · exact Nat.le_refl _
    · exact Nat.min_le_left _ _
  have hread : other.read gpa count = space.read gpa count := by
    rw [AddressSpace.read, AddressSpace.read, alike.cut gpa hstart]
    refine wellFormed.read_congr wellFormed' (alike.reach gpa hstart) fun index inside => ?_
    exact alike.bytes _ (inSpan_add_ofNat after before fits (Nat.lt_of_lt_of_le inside hcut))
  rw [readExact, readExact, hread]

/-- Stores outside a span leave what is read within it. -/
theorem Writes.readAlike {start : UInt64} {width : Nat} {space last : AddressSpace}
    (writes : Writes (Sparing (InSpan start width)) space last)
    (initial : space.memory.WellFormed) : ReadAlike start width space last :=
  ⟨fun _ _ _ => by rw [writes.settings_eq.1], fun gpa _ => writes.readReach_eq initial gpa,
    fun _ inside => writes.byteAt?_kept initial inside⟩

section Store

variable {space : AddressSpace} {gpa other : UInt64} {bytes : List UInt8}

/-- A read that ends before a store or starts behind it gives what it gave before. -/
theorem readExact_store_of_apart (wellFormed : space.memory.WellFormed) {count : Nat}
    (fits : other.toNat + count ≤ UInt64.size)
    (apart : other.toNat + count ≤ gpa.toNat ∨ gpa.toNat + bytes.length ≤ other.toNat) :
    (space.store gpa bytes).readExact other count = space.readExact other count := by
  have hwrites : Writes (Sparing (InSpan other count)) space (space.store gpa bytes) := by
    refine Writes.refl.store ?_ (Nat.le_refl bytes.length)
    intro address stored held
    unfold InSpan at stored held
    omega
  exact hwrites.readExact_kept wellFormed fun index inside =>
    inSpan_add_ofNat (Nat.le_refl _) (Nat.le_refl _) fits inside

/-- A 16-bit word that is apart from a store is kept. -/
theorem read16_store_of_apart (wellFormed : space.memory.WellFormed)
    (fits : other.toNat + 2 ≤ UInt64.size)
    (apart : other.toNat + 2 ≤ gpa.toNat ∨ gpa.toNat + bytes.length ≤ other.toNat) :
    (space.store gpa bytes).read16 other = space.read16 other := by
  unfold read16
  rw [readExact_store_of_apart wellFormed fits apart]

/-- A 32-bit word that is apart from a store is kept. -/
theorem read32_store_of_apart (wellFormed : space.memory.WellFormed)
    (fits : other.toNat + 4 ≤ UInt64.size)
    (apart : other.toNat + 4 ≤ gpa.toNat ∨ gpa.toNat + bytes.length ≤ other.toNat) :
    (space.store gpa bytes).read32 other = space.read32 other := by
  unfold read32
  rw [readExact_store_of_apart wellFormed fits apart]

end Store

end AddressSpace

end Paravirt

import Paravirt.Memory.AddressSpace
import Paravirt.Memory.View

/-!
# Accesses to an address space, byte by byte

What stores do to guest memory seen through `byteAt?` and through reads. The guest itself stores
without regard to the limits of the address space, and a device's write is such a store of what the
limits leave of it. `Writes` relates two address spaces that differ by stores into allowed spans
only: it is proved here, once for every such series, which bytes, reads and attributes it keeps.
-/

namespace Paravirt

/-- The address is one of the `width` successive ones from `start` on. Spans do not wrap. -/
def InSpan (start : UInt64) (width : Nat) (gpa : UInt64) : Prop :=
  start.toNat ≤ gpa.toNat ∧ gpa.toNat < start.toNat + width

instance (start : UInt64) (width : Nat) (gpa : UInt64) : Decidable (InSpan start width gpa) :=
  inferInstanceAs (Decidable (_ ∧ _))

/-- An address behind another one, where the sum does not wrap. -/
theorem toNat_add_ofNat {gpa : UInt64} {offset : Nat} (fits : gpa.toNat + offset < UInt64.size) :
    (gpa + UInt64.ofNat offset).toNat = gpa.toNat + offset := by
  have hoffset : (UInt64.ofNat offset).toNat = offset := UInt64.toNat_ofNat_of_lt' (by omega)
  rw [UInt64.toNat_add, hoffset]
  exact Nat.mod_eq_of_lt fits

/-- The addresses of one span are outside another one that ends before or starts behind it. -/
theorem not_inSpan_of_apart {start gpa : UInt64} {width count index : Nat}
    (fits : gpa.toNat + count ≤ UInt64.size)
    (apart : gpa.toNat + count ≤ start.toNat ∨ start.toNat + width ≤ gpa.toNat)
    (inside : index < count) : ¬InSpan start width (gpa + UInt64.ofNat index) := by
  have haddress : (gpa + UInt64.ofNat index).toNat = gpa.toNat + index :=
    toNat_add_ofNat (by omega)
  unfold InSpan
  omega

namespace Memory

variable {memory : Memory} {gpa : UInt64}

/-- The addresses of a region are counted from its start to its end and from its place in host memory
on, and none of these sums and differences wraps. -/
theorem WellFormed.regionAt?_bounds (wellFormed : memory.WellFormed) {region : Region}
    (found : memory.regionAt? gpa = some region) :
    region.base.toNat + (region.offsetOf gpa).toNat = gpa.toNat ∧
      gpa.toNat + (region.roomFrom gpa).toNat = region.base.toNat + region.size.toNat ∧
      (region.map gpa).hostAddress.toNat = region.hostBase.toNat + (region.offsetOf gpa).toNat := by
  have hlisted := mem_of_regionAt? found
  have hinside := contains_of_regionAt? found
  have hbounded := (wellFormed.bounded region hlisted).2
  have hhosted := wellFormed.hosted region hlisted
  obtain ⟨hafter, hbefore⟩ := (Region.contains_iff hbounded).1 hinside
  have hoffset := Region.toNat_offsetOf hafter
  have hroom := Region.toNat_roomFrom hbounded hinside
  have hsize : UInt64.size = 2 ^ 64 := rfl
  refine ⟨by omega, by omega, ?_⟩
  rw [Region.map, UInt64.toNat_add]
  exact Nat.mod_eq_of_lt (by omega)

/-- A write stores no more than is offered. -/
theorem write_le_length (memory : Memory) (gpa : UInt64) (bytes : List UInt8) :
    (memory.write gpa bytes).1 ≤ bytes.length := by
  rw [write_fst]
  cases memory.regionAt? gpa with
  | none => exact Nat.zero_le _
  | some region => exact region.write_le_length gpa bytes

/-- A write leaves every byte outside the span of the offered bytes. -/
theorem WellFormed.byteAt?_write_of_not_inSpan (wellFormed : memory.WellFormed)
    {bytes : List UInt8} {other : UInt64} (outside : ¬InSpan gpa bytes.length other) :
    (memory.write gpa bytes).2.byteAt? other = memory.byteAt? other := by
  have hcount := memory.write_le_length gpa bytes
  have hmissed : ¬(gpa.toNat ≤ other.toNat ∧
      other.toNat < gpa.toNat + (memory.write gpa bytes).1) := by
    unfold InSpan at outside
    omega
  rw [wellFormed.byteAt?_write, if_neg hmissed]

/-- A write moves no region and gives or takes no storage, so reads reach as far as before. -/
theorem WellFormed.readReach_write (wellFormed : memory.WellFormed) (gpa : UInt64)
    (bytes : List UInt8) (other : UInt64) :
    (memory.write gpa bytes).2.readReach other = memory.readReach other := by
  unfold readReach
  rw [wellFormed.regionAt?_write]
  cases memory.regionAt? other with
  | none => rfl
  | some region =>
    have hstorage := region.length_storage_write gpa bytes
    have hbacked : (region.write gpa bytes).2.backing.storage?.isSome =
        region.backing.storage?.isSome := by
      rw [← Option.isSome_map (f := (·.length)), hstorage, Option.isSome_map]
    simp only [Option.map_some]
    split
    · simp only [hbacked, Region.roomFrom, Region.stop, Region.base_write, Region.size_write]
    · rfl

/-- Reads agree where the bytes agree and reads reach equally far. -/
theorem WellFormed.read_congr {memory' : Memory} (wellFormed : memory.WellFormed)
    (wellFormed' : memory'.WellFormed) (reach : memory'.readReach gpa = memory.readReach gpa)
    {count : Nat} (same : ∀ index < count,
      memory'.byteAt? (gpa + UInt64.ofNat index) = memory.byteAt? (gpa + UInt64.ofNat index)) :
    memory'.read gpa count = memory.read gpa count := by
  have hlength : (memory'.read gpa count).length = (memory.read gpa count).length := by
    rw [length_read, length_read, reach]
  apply List.ext_getElem?
  intro index
  by_cases inside : index < (memory.read gpa count).length
  · have hcount : index < count := by
      rw [length_read] at inside
      omega
    rw [wellFormed.getElem?_read gpa inside, wellFormed'.getElem?_read gpa (by omega),
      same index hcount]
  · rw [List.getElem?_eq_none (by omega), List.getElem?_eq_none (by omega)]

end Memory

namespace AddressSpace

/-- Store bytes as the guest does itself, without regard to the limits set for devices. -/
def store (space : AddressSpace) (gpa : UInt64) (bytes : List UInt8) : AddressSpace :=
  { space with memory := (space.memory.write gpa bytes).2 }

/-- A device stores what the limits leave of its bytes. -/
theorem write_snd (space : AddressSpace) (gpa : UInt64) (bytes : List UInt8) :
    (space.write gpa bytes).2 =
      space.store gpa (bytes.take (space.writeLimits.cut gpa bytes.length)) := rfl

/-- The address space that is left by stores into allowed spans, each named by its first address
and its width. -/
inductive Writes (allowed : UInt64 → Nat → Prop) (space : AddressSpace) : AddressSpace → Prop where
  /-- Nothing is stored. -/
  | refl : Writes allowed space space
  /-- After other stores, one more goes to an allowed span. -/
  | store {middle : AddressSpace} {gpa : UInt64} {width : Nat} {bytes : List UInt8}
      (earlier : Writes allowed space middle) (here : allowed gpa width)
      (fits : bytes.length ≤ width) : Writes allowed space (middle.store gpa bytes)

namespace Writes

variable {allowed : UInt64 → Nat → Prop} {space middle last : AddressSpace}

/-- One write of a device into an allowed span. -/
theorem write {gpa : UInt64} {bytes : List UInt8} (earlier : Writes allowed space middle)
    (here : allowed gpa bytes.length) : Writes allowed space (middle.write gpa bytes).2 := by
  rw [write_snd]
  exact earlier.store here (List.length_take_le' _ _)

/-- Stores leave the limits and the override of the mapping query as they are. -/
theorem settings_eq (writes : Writes allowed space last) :
    last.readLimits = space.readLimits ∧ last.writeLimits = space.writeLimits ∧
      last.mapOverride = space.mapOverride := by
  induction writes with
  | refl => exact ⟨rfl, rfl, rfl⟩
  | store _ _ _ ih => exact ih

/-- Stores keep memory well-formed. -/
theorem wellFormed (writes : Writes allowed space last) (initial : space.memory.WellFormed) :
    last.memory.WellFormed := by
  induction writes with
  | refl => exact initial
  | store _ _ _ ih => exact ih.write _ _

/-- Stores change no byte outside the allowed spans. -/
theorem byteAt?_eq (writes : Writes allowed space last) (initial : space.memory.WellFormed)
    {other : UInt64} (outside : ∀ gpa width, allowed gpa width → ¬InSpan gpa width other) :
    last.byteAt? other = space.byteAt? other := by
  induction writes with
  | refl => rfl
  | store earlier here fits ih =>
    have hspan := outside _ _ here
    unfold InSpan at hspan
    rw [← ih]
    exact (earlier.wellFormed initial).byteAt?_write_of_not_inSpan (by unfold InSpan; omega)

/-- A byte that stores have changed lies in an allowed span. -/
theorem inSpan_of_ne (writes : Writes allowed space last) (initial : space.memory.WellFormed)
    {other : UInt64} (changed : last.byteAt? other ≠ space.byteAt? other) :
    ∃ gpa width, allowed gpa width ∧ InSpan gpa width other := by
  by_cases spared : ∀ gpa width, allowed gpa width → ¬InSpan gpa width other
  · exact absurd (writes.byteAt?_eq initial spared) changed
  · simpa using spared

/-- Stores leave the reach of reads as it is. -/
theorem readReach_eq (writes : Writes allowed space last) (initial : space.memory.WellFormed)
    (gpa : UInt64) : last.memory.readReach gpa = space.memory.readReach gpa := by
  induction writes with
  | refl => rfl
  | store earlier _ _ ih =>
    rw [← ih]
    exact (earlier.wellFormed initial).readReach_write _ _ _

/-- A read outside the allowed spans gives what it gave before the stores, limits or not. -/
theorem read_eq (writes : Writes allowed space last) (initial : space.memory.WellFormed)
    {gpa : UInt64} {count : Nat} (outside : ∀ start width, allowed start width →
      ∀ index < count, ¬InSpan start width (gpa + UInt64.ofNat index)) :
    last.read gpa count = space.read gpa count := by
  have hcut : last.readLimits.cut gpa count ≤ count := by
    unfold TransferLimits.cut
    split
    · exact Nat.le_refl _
    · exact Nat.min_le_left _ _
  unfold AddressSpace.read
  rw [← writes.settings_eq.1]
  refine initial.read_congr (writes.wellFormed initial) (writes.readReach_eq initial gpa) ?_
  intro index hindex
  exact writes.byteAt?_eq initial fun start width here => outside start width here index (by omega)

/-- A word outside the allowed spans is read as it was before the stores. -/
theorem read16_eq (writes : Writes allowed space last) (initial : space.memory.WellFormed)
    {gpa : UInt64} (outside : ∀ start width, allowed start width →
      ∀ index < 2, ¬InSpan start width (gpa + UInt64.ofNat index)) :
    last.read16 gpa = space.read16 gpa := by
  unfold read16 readExact
  rw [writes.read_eq initial outside]

end Writes

/-- All bytes of a write that does not fail stand in memory afterwards. -/
theorem byteAt?_writeAll {space : AddressSpace} (wellFormed : space.memory.WellFormed) {gpa : UInt64}
    {bytes : List UInt8} (stored : (space.writeAll gpa bytes).1 = .ok ())
    (fits : gpa.toNat + bytes.length ≤ UInt64.size) {index : Nat} (inside : index < bytes.length) :
    (space.writeAll gpa bytes).2.byteAt? (gpa + UInt64.ofNat index) = bytes[index]? := by
  generalize hoffered : bytes.take (space.writeLimits.cut gpa bytes.length) = offered
  have hstate : (space.writeAll gpa bytes).2 = space.store gpa offered := hoffered ▸ rfl
  have hanswer : (space.writeAll gpa bytes).1 =
      if (space.memory.write gpa offered).1 = bytes.length then .ok ()
      else .error (.shortWrite gpa bytes.length (space.memory.write gpa offered).1) := hoffered ▸ rfl
  have hcount : (space.memory.write gpa offered).1 = bytes.length := by
    by_cases complete : (space.memory.write gpa offered).1 = bytes.length
    · exact complete
    · rw [hanswer, if_neg complete] at stored
      cases stored
  have hoffer := space.memory.write_le_length gpa offered
  have hall : offered = bytes := by
    rw [← hoffered] at hoffer hcount ⊢
    rw [hcount, List.length_take] at hoffer
    exact List.take_of_length_le (by omega)
  have haddress : (gpa + UInt64.ofNat index).toNat = gpa.toNat + index :=
    toNat_add_ofNat (by omega)
  rw [hstate, byteAt?, store, wellFormed.byteAt?_write, hcount, if_pos (by omega), hall, haddress,
    Nat.add_sub_cancel_left]

end AddressSpace

end Paravirt

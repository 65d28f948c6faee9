import Paravirt.Proofs.Memory.Frame

/-!
# Spans as lists of addresses

The addresses of a span one after another, and reads seen through the bytes at them: a read lists the
bytes of a span as far as it reaches, and reads of adjoining spans can be taken together or apart.
-/

namespace Paravirt

variable {start gpa : UInt64} {width : Nat}

/-- The successive addresses of a span. -/
def span (start : UInt64) (width : Nat) : List UInt64 :=
  (List.range width).map fun offset => start + UInt64.ofNat offset

@[simp]
theorem length_span (start : UInt64) (width : Nat) : (span start width).length = width := by
  rw [span, List.length_map, List.length_range]

theorem getElem?_span {offset : Nat} (inside : offset < width) :
    (span start width)[offset]? = some (start + UInt64.ofNat offset) := by
  rw [span, List.getElem?_map, List.getElem?_range inside, Option.map_some]

/-- A span goes on where its first part ends. -/
theorem span_add (start : UInt64) (first second : Nat) :
    span start (first + second) = span start first ++ span (start + UInt64.ofNat first) second := by
  unfold span
  rw [List.range_add, List.map_append, List.map_map]
  congr 2
  funext offset
  rw [Function.comp_apply, UInt64.ofNat_add, UInt64.add_assoc]

/-- The first addresses of a span. -/
theorem take_span (start : UInt64) (first width : Nat) :
    (span start width).take first = span start (min first width) := by
  unfold span
  rw [← List.map_take, List.take_range]

/-- The listed addresses of a span that does not wrap are those in it. -/
theorem mem_span_iff (fits : start.toNat + width ≤ UInt64.size) :
    gpa ∈ span start width ↔ InSpan start width gpa := by
  unfold span InSpan
  rw [List.mem_map]
  constructor
  · rintro ⟨offset, listed, rfl⟩
    have hoffset := List.mem_range.1 listed
    rw [toNat_add_ofNat (by omega)]
    omega
  · rintro ⟨after, before⟩
    refine ⟨gpa.toNat - start.toNat, List.mem_range.2 (by omega), ?_⟩
    rw [← UInt64.toNat_inj, toNat_add_ofNat (by omega)]
    omega

/-- A read lists the bytes at the successive addresses that it reaches. -/
theorem Memory.WellFormed.map_some_read {memory : Memory} (wellFormed : memory.WellFormed)
    (gpa : UInt64) (count : Nat) : (memory.read gpa count).map some =
      (span gpa (min count (memory.readReach gpa))).map memory.byteAt? := by
  have hlength := memory.length_read gpa count
  apply List.ext_getElem?
  intro offset
  rw [List.getElem?_map, List.getElem?_map]
  by_cases inside : offset < (memory.read gpa count).length
  · have hbyte := wellFormed.getElem?_read gpa inside
    rw [List.getElem?_eq_getElem inside] at hbyte
    rw [getElem?_span (by omega), List.getElem?_eq_getElem inside, Option.map_some, Option.map_some,
      hbyte]
  · rw [List.getElem?_eq_none (by omega), List.getElem?_eq_none (by rw [length_span]; omega)]
    rfl

namespace AddressSpace

variable {space : AddressSpace}

namespace FaultFree

/-- Without limits a read gives what the memory gives. -/
theorem read_eq (faultFree : space.FaultFree) (gpa : UInt64) (count : Nat) :
    space.read gpa count = space.memory.read gpa count := by
  unfold AddressSpace.read
  rw [faultFree.readLimits]
  rfl

/-- A read of a span in memory lists the bytes there. -/
theorem map_some_read (faultFree : space.FaultFree) (ram : space.memory.HoldsRam gpa width) :
    (space.read gpa width).map some = (span gpa width).map space.byteAt? := by
  have hreach := ram.le_readReach faultFree.wellFormed
  rw [faultFree.read_eq, faultFree.wellFormed.map_some_read, Nat.min_eq_left hreach]
  rfl

/-- A span in memory can be read in two parts. -/
theorem read_add (faultFree : space.FaultFree) {first second : Nat}
    (ram : space.memory.HoldsRam gpa (first + second)) :
    space.read gpa (first + second) =
      space.read gpa first ++ space.read (gpa + UInt64.ofNat first) second := by
  have hfits := ram.fits faultFree.wellFormed
  have hnext : (gpa + UInt64.ofNat first).toNat = gpa.toNat + first := toNat_add_ofNat (by omega)
  have hfirst : space.memory.HoldsRam gpa first := ram.part (Nat.le_refl _) (by omega)
  have hsecond : space.memory.HoldsRam (gpa + UInt64.ofNat first) second :=
    ram.part (by omega) (by omega)
  refine (List.map_inj_right fun _ _ same => Option.some.inj same).1 ?_
  rw [List.map_append, faultFree.map_some_read ram, faultFree.map_some_read hfirst,
    faultFree.map_some_read hsecond, span_add, List.map_append]

/-- A 32-bit word in memory can be read. -/
theorem read32_eq (faultFree : space.FaultFree) (ram : space.memory.HoldsRam gpa 4) :
    space.read32 gpa = .ok (LittleEndian.decode32 (space.read gpa 4)) := by
  rw [read32, faultFree.readExact_eq ram]
  rfl

end FaultFree

end AddressSpace

end Paravirt

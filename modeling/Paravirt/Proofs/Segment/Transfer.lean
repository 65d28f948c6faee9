import Mathlib.Algebra.GroupWithZero.Nat
import Paravirt.Proofs.Memory.Span
import Paravirt.Segment.Transfer

/-!
# Segments as lists of addresses

A transfer over segments goes through their addresses one after another. A segment that lies in one
region of memory occupies just these addresses, and stays in memory whatever is stored.
-/

namespace Paravirt

namespace Segment

/-- The guest addresses of segments, in the order in which they are transferred. -/
def addresses (segments : List Segment) : List UInt64 :=
  segments.flatMap fun segment => span segment.address segment.length.toNat

/-- The addresses of the first segment come first. -/
theorem addresses_cons (segment : Segment) (rest : List Segment) :
    addresses (segment :: rest) =
      span segment.address segment.length.toNat ++ addresses rest :=
  List.flatMap_cons

/-- The first addresses are those of the first segment and then those of the others. -/
theorem take_addresses_cons (segment : Segment) (rest : List Segment) (count : Nat) :
    (addresses (segment :: rest)).take count =
      span segment.address (min count segment.length.toNat) ++
        (addresses rest).take (count - segment.length.toNat) := by
  rw [addresses_cons, List.take_append, take_span, length_span]

/-- As many addresses are transferred as the segments have bytes. -/
theorem length_addresses (segments : List Segment) :
    (addresses segments).length = (segments.map (·.length.toNat)).sum := by
  rw [addresses, List.length_flatMap]
  simp only [length_span]

/-- The total length of segments is the number of their bytes, if that is a 64-bit number. -/
theorem toNat_totalLength {segments : List Segment}
    (fits : (segments.map (·.length.toNat)).sum < UInt64.size) :
    (totalLength segments).toNat = (segments.map (·.length.toNat)).sum := by
  induction segments with
  | nil => rfl
  | cons segment rest ih =>
    rw [List.map_cons, List.sum_cons] at fits ⊢
    rw [totalLength, UInt64.toNat_add, ih (by omega), UInt32.toNat_toUInt64]
    exact Nat.mod_eq_of_lt fits

/-- Where all segments that are read come first, splitting sorts them by direction. -/
theorem splitByDirection_of_ordered {segments : List Segment}
    (ordered : segments.filter (·.isReadable) ++ segments.filter (·.isWritable) = segments) :
    splitByDirection segments =
      (segments.filter (·.isReadable), segments.filter (·.isWritable)) := by
  have hreadable : ∀ segment ∈ segments.filter (·.isReadable), segment.isReadable = true :=
    fun segment listed => (List.mem_filter.1 listed).2
  have hwritable : ∀ segment ∈ segments.filter (·.isWritable), segment.isReadable = false := by
    intro segment listed
    have hdirection := (List.mem_filter.1 listed).2
    simp only [isWritable, isReadable, decide_eq_true_iff] at hdirection ⊢
    rw [hdirection]
    rfl
  generalize segments.filter (·.isReadable) = readable at ordered hreadable ⊢
  generalize segments.filter (·.isWritable) = writable at ordered hwritable ⊢
  subst ordered
  unfold splitByDirection
  rw [List.takeWhile_append_of_pos hreadable, List.dropWhile_append_of_pos hreadable]
  cases writable with
  | nil => rw [List.takeWhile_nil, List.dropWhile_nil, List.append_nil]
  | cons segment rest =>
    have hfirst : ¬segment.isReadable = true := by
      rw [hwritable segment List.mem_cons_self]
      exact Bool.false_ne_true
    rw [List.takeWhile_cons_of_neg hfirst, List.dropWhile_cons_of_neg hfirst, List.append_nil]

/-- The segment occupies the address. -/
def Covers (segment : Segment) (gpa : UInt64) : Prop :=
  InSpan segment.address segment.length.toNat gpa

instance (segment : Segment) (gpa : UInt64) : Decidable (segment.Covers gpa) :=
  inferInstanceAs (Decidable (InSpan _ _ _))

/-- Two segments share no address. -/
def Apart (first second : Segment) : Prop := ∀ gpa, first.Covers gpa → ¬second.Covers gpa

/-- Every segment lies in memory. -/
def InRam (memory : Memory) (segments : List Segment) : Prop :=
  ∀ segment ∈ segments, memory.HoldsRam segment.address segment.length.toNat

/-- The addresses of segments in memory are those that they occupy. -/
theorem InRam.mem_addresses {memory : Memory} {segments : List Segment}
    (ram : InRam memory segments) (wellFormed : memory.WellFormed) {gpa : UInt64} :
    gpa ∈ addresses segments ↔ ∃ segment ∈ segments, segment.Covers gpa := by
  rw [addresses, List.mem_flatMap]
  refine exists_congr fun segment => and_congr_right fun listed => ?_
  exact mem_span_iff (Nat.le_of_lt ((ram segment listed).fits wellFormed))

end Segment

namespace AddressSpace

variable {space last : AddressSpace} {segments : List Segment}

/-- Segments in memory stay there through stores. -/
theorem Writes.inRam {allowed : UInt64 → Nat → Prop} (writes : Writes allowed space last)
    (wellFormed : space.memory.WellFormed) (ram : Segment.InRam space.memory segments) :
    Segment.InRam last.memory segments :=
  fun segment listed => writes.holdsRam wellFormed (ram segment listed)

end AddressSpace

end Paravirt

import Paravirt.Proofs.Queue.Acceptance
import Paravirt.Ring.Driver

/-!
# Every byte of a ring belongs to one part of it

A ring is an array of descriptors, an array of available slots and an array of used elements, with six
words around them. Two of these words are addressed as the entry behind the last one of an array, and
in front of the used ring there is padding of any length up to the alignment. All the same the parts
never share a byte, and together they leave out nothing but that padding: in each of the two stretches
around the padding the parts follow one another without a gap.
-/

namespace Paravirt

section Tiling

variable {α : Type} {start width : α → Nat} {low middle high : Nat} {parts rest : List α}

/-- The parts follow one another without a gap from one place to another. -/
def Tiles (start width : α → Nat) (low : Nat) (parts : List α) (high : Nat) : Prop :=
  match parts with
  | [] => low = high
  | part :: rest => start part = low ∧ Tiles start width (low + width part) rest high

/-- The part takes up the place. -/
def Covers (start width : α → Nat) (part : α) (place : Nat) : Prop :=
  start part ≤ place ∧ place < start part + width part

/-- A tiling can be continued where it ends. -/
theorem Tiles.append (first : Tiles start width low parts middle)
    (second : Tiles start width middle rest high) : Tiles start width low (parts ++ rest) high := by
  induction parts generalizing low with
  | nil =>
    obtain rfl : low = middle := first
    exact second
  | cons part parts ih => exact ⟨first.1, ih first.2⟩

/-- Entries of the same width, one behind the other, are a tiling. -/
theorem tiles_array {unit count : Nat} {entry : Nat → α}
    (placed : ∀ index < count, start (entry index) = low + unit * index)
    (even : ∀ index, width (entry index) = unit) :
    Tiles start width low ((List.range count).map entry) (low + unit * count) := by
  induction count with
  | zero => exact (Nat.add_zero low).symm
  | succ count ih =>
    have hlast : Tiles start width (low + unit * count) [entry count] (low + unit * (count + 1)) := by
      refine ⟨placed count (Nat.lt_succ_self count), ?_⟩
      show low + unit * count + width (entry count) = low + unit * (count + 1)
      rw [even, Nat.mul_succ, Nat.add_assoc]
    rw [List.range_succ, List.map_append, List.map_singleton]
    exact (ih fun index inside => placed index (Nat.lt_succ_of_lt inside)).append hlast

namespace Tiles

/-- A tiling does not end before it starts. -/
theorem le (tiles : Tiles start width low parts high) : low ≤ high := by
  induction parts generalizing low with
  | nil => exact Nat.le_of_eq tiles
  | cons part rest ih => exact Nat.le_trans (Nat.le_add_right low _) (ih tiles.2)

/-- Each part lies between the ends of the tiling. -/
theorem bounds (tiles : Tiles start width low parts high) {part : α} (listed : part ∈ parts) :
    low ≤ start part ∧ start part + width part ≤ high := by
  induction parts generalizing low with
  | nil => cases listed
  | cons head rest ih =>
    obtain ⟨hstart, hrest⟩ := tiles
    rcases List.mem_cons.1 listed with rfl | later
    · exact ⟨Nat.le_of_eq hstart.symm, hstart ▸ hrest.le⟩
    · have hlater := ih hrest later
      omega

/-- Each place between the ends is taken up by some part. -/
theorem exists_covers (tiles : Tiles start width low parts high) {place : Nat} (after : low ≤ place)
    (before : place < high) : ∃ part ∈ parts, Covers start width part place := by
  induction parts generalizing low with
  | nil =>
    obtain rfl : low = high := tiles
    omega
  | cons head rest ih =>
    obtain ⟨hstart, hrest⟩ := tiles
    by_cases here : place < low + width head
    · exact ⟨head, List.mem_cons_self, by rw [hstart]; exact after, by rwa [hstart]⟩
    · obtain ⟨part, listed, covers⟩ := ih hrest (Nat.le_of_not_lt here)
      exact ⟨part, List.mem_cons_of_mem _ listed, covers⟩

/-- No place is taken up by two parts. -/
theorem eq_of_covers (tiles : Tiles start width low parts high) {first second : α} {place : Nat}
    (listed : first ∈ parts) (listed' : second ∈ parts) (covers : Covers start width first place)
    (covers' : Covers start width second place) : first = second := by
  induction parts generalizing low with
  | nil => cases listed
  | cons head rest ih =>
    obtain ⟨hstart, hrest⟩ := tiles
    obtain ⟨hafter, hbefore⟩ := covers
    obtain ⟨hafter', hbefore'⟩ := covers'
    -- Where one part is the head, the other one starts behind it.
    rcases List.mem_cons.1 listed with rfl | later <;> rcases List.mem_cons.1 listed' with rfl | later'
    · rfl
    · have hbehind := hrest.bounds later'
      omega
    · have hbehind := hrest.bounds later
      omega
    · exact ih hrest later later'

end Tiles

end Tiling

/-- Counting up to a bound gives the 16-bit words below it. -/
theorem exists_ofNat16_iff {bound : Nat} (small : bound ≤ 65536) {index : UInt16} :
    (∃ counted < bound, UInt16.ofNat counted = index) ↔ index.toNat < bound := by
  constructor
  · rintro ⟨counted, inside, rfl⟩
    rwa [UInt16.toNat_ofNat_of_lt' (Nat.lt_of_lt_of_le inside small)]
  · exact fun inside => ⟨index.toNat, inside, UInt16.ofNat_toNat⟩

/-- Counting up to a bound gives the 32-bit words below it. -/
theorem exists_ofNat32_iff {bound : Nat} (small : bound ≤ 4294967296) {slot : UInt32} :
    (∃ counted < bound, UInt32.ofNat counted = slot) ↔ slot.toNat < bound := by
  constructor
  · rintro ⟨counted, inside, rfl⟩
    rwa [UInt32.toNat_ofNat_of_lt' (Nat.lt_of_lt_of_le inside small)]
  · exact fun inside => ⟨slot.toNat, inside, UInt32.ofNat_toNat⟩

/-- A part of a ring that is read and written as one. -/
inductive RingPart where
  /-- An entry of the descriptor table. -/
  | descriptor (index : UInt16)
  /-- A slot of the available ring. -/
  | availableSlot (slot : UInt32)
  /-- An element of the used ring. -/
  | usedSlot (slot : UInt32)
  /-- A word that stands alone. -/
  | word (field : RingField)
  deriving DecidableEq

namespace RingPart

/-- Where the part lies. -/
def address (ring : RingAddresses) : RingPart → UInt64
  | .descriptor index => ring.descriptor index
  | .availableSlot slot => ring.availableSlot slot
  | .usedSlot slot => ring.usedSlot slot
  | .word field => field.address ring

/-- How many bytes the part takes up. -/
def width : RingPart → Nat
  | .descriptor _ => Descriptor.width
  | .usedSlot _ => UsedElement.width
  | .availableSlot _ | .word _ => 2

/-- A ring of the given number of descriptors has the part. -/
def Among (count : UInt32) : RingPart → Prop
  | .descriptor index => index.toNat < count.toNat
  | .availableSlot slot | .usedSlot slot => slot.toNat < count.toNat
  | .word _ => True

/-- How far the part lies behind the start of a ring, in natural numbers, given the number of
descriptors and the distance of the used ring. -/
def offset (count used : Nat) : RingPart → Nat
  | .descriptor index => 16 * index.toNat
  | .word .availableFlags => 16 * count
  | .word .availableIndex => 16 * count + 2
  | .availableSlot slot => 16 * count + 4 + 2 * slot.toNat
  | .word .usedEvent => 16 * count + 4 + 2 * count
  | .word .usedFlags => used
  | .word .usedIndex => used + 2
  | .usedSlot slot => used + 4 + 8 * slot.toNat
  | .word .availableEvent => used + 4 + 8 * count

/-- The parts in front of the padding, in the order of their addresses. -/
def beforePadding (count : Nat) : List RingPart :=
  (List.range count).map (fun index => descriptor (.ofNat index)) ++
    ([word .availableFlags, word .availableIndex] ++
      ((List.range count).map (fun index => availableSlot (.ofNat index)) ++ [word .usedEvent]))

/-- The parts behind the padding, in the order of their addresses. -/
def behindPadding (count : Nat) : List RingPart :=
  [word .usedFlags, word .usedIndex] ++
    ((List.range count).map (fun index => usedSlot (.ofNat index)) ++ [word .availableEvent])

section Stretches

variable {count : UInt32} {used : Nat}

/-- The parts of a ring are those in front of the padding and those behind it. -/
theorem among_iff_mem (small : count.toNat ≤ 32768) (part : RingPart) :
    part.Among count ↔ part ∈ beforePadding count.toNat ∨ part ∈ behindPadding count.toNat := by
  have hindices : count.toNat ≤ 65536 := Nat.le_trans small (by decide)
  have hslots : count.toNat ≤ 4294967296 := Nat.le_trans small (by decide)
  cases part with
  | descriptor index => simp [Among, beforePadding, behindPadding, exists_ofNat16_iff hindices]
  | availableSlot slot => simp [Among, beforePadding, behindPadding, exists_ofNat32_iff hslots]
  | usedSlot slot => simp [Among, beforePadding, behindPadding, exists_ofNat32_iff hslots]
  | word field => cases field <;> simp [Among, beforePadding, behindPadding]

/-- From the start of a ring to the padding its parts leave no gap. -/
theorem tiles_beforePadding (used : Nat) (small : count.toNat ≤ 32768) :
    Tiles (offset count.toNat used) width 0 (beforePadding count.toNat)
      (18 * count.toNat + 6) := by
  have hdescriptors : Tiles (offset count.toNat used) width 0
      ((List.range count.toNat).map fun index => descriptor (.ofNat index))
      (16 * count.toNat) := by
    have hentries : Tiles (offset count.toNat used) width 0
        ((List.range count.toNat).map fun index => descriptor (.ofNat index))
        (0 + 16 * count.toNat) := by
      refine tiles_array (fun index inside => ?_) fun _ => rfl
      have hindex : index < 65536 := Nat.lt_of_lt_of_le inside (Nat.le_trans small (by decide))
      simp only [offset, UInt16.toNat_ofNat_of_lt' hindex, Nat.zero_add]
    rwa [Nat.zero_add] at hentries
  have hslots : Tiles (offset count.toNat used) width (16 * count.toNat + 2 + 2)
      ((List.range count.toNat).map fun index => availableSlot (.ofNat index))
      (16 * count.toNat + 2 + 2 + 2 * count.toNat) := by
    refine tiles_array (fun index inside => ?_) fun _ => rfl
    simp only [offset, UInt32.toNat_ofNat_of_lt' (Nat.lt_trans inside count.toNat_lt)]
  refine hdescriptors.append ⟨rfl, rfl, hslots.append ⟨?_, ?_⟩⟩
  · simp only [offset]
  · simp only [Tiles, width]
    omega

/-- From the padding to the end of a ring its parts leave no gap. -/
theorem tiles_behindPadding (count : UInt32) (used : Nat) :
    Tiles (offset count.toNat used) width used (behindPadding count.toNat)
      (used + 8 * count.toNat + 6) := by
  have hslots : Tiles (offset count.toNat used) width (used + 2 + 2)
      ((List.range count.toNat).map fun index => usedSlot (.ofNat index))
      (used + 2 + 2 + 8 * count.toNat) := by
    refine tiles_array (fun index inside => ?_) fun _ => rfl
    simp only [offset, UInt32.toNat_ofNat_of_lt' (Nat.lt_trans inside count.toNat_lt)]
  refine ⟨rfl, rfl, hslots.append ⟨?_, ?_⟩⟩
  · simp only [offset]
  · simp only [Tiles, width]
    omega

/-- The padding starts behind the first stretch and ends where the used ring starts. So a place of the
ring is either in the padding or taken up by a part. -/
theorem exists_covers_iff (small : count.toNat ≤ 32768) (behind : 18 * count.toNat + 6 ≤ used)
    (place : Nat) :
    (∃ part : RingPart, part.Among count ∧ Covers (offset count.toNat used) width part place) ↔
      place < used + 8 * count.toNat + 6 ∧ ¬(18 * count.toNat + 6 ≤ place ∧ place < used) := by
  have hbefore := tiles_beforePadding used small
  have hbehind := tiles_behindPadding count used
  constructor
  · rintro ⟨part, among, hstart, hend⟩
    rcases (among_iff_mem small part).1 among with listed | listed
    · have hbounds := hbefore.bounds listed
      omega
    · have hbounds := hbehind.bounds listed
      omega
  · rintro ⟨inside, outside⟩
    by_cases front : place < 18 * count.toNat + 6
    · obtain ⟨part, listed, covers⟩ := hbefore.exists_covers (Nat.zero_le place) front
      exact ⟨part, (among_iff_mem small part).2 (Or.inl listed), covers⟩
    · obtain ⟨part, listed, covers⟩ := hbehind.exists_covers (by omega) inside
      exact ⟨part, (among_iff_mem small part).2 (Or.inr listed), covers⟩

/-- No place of the ring is taken up by two parts. -/
theorem eq_of_covers (small : count.toNat ≤ 32768) (behind : 18 * count.toNat + 6 ≤ used)
    {first second : RingPart} (among : first.Among count) (among' : second.Among count) {place : Nat}
    (covers : Covers (offset count.toNat used) width first place)
    (covers' : Covers (offset count.toNat used) width second place) : first = second := by
  have hbefore := tiles_beforePadding used small
  have hbehind := tiles_behindPadding count used
  obtain ⟨hstart, hend⟩ := covers
  obtain ⟨hstart', hend'⟩ := covers'
  rcases (among_iff_mem small first).1 among with listed | listed <;>
    rcases (among_iff_mem small second).1 among' with listed' | listed'
  · exact hbefore.eq_of_covers listed listed' ⟨hstart, hend⟩ ⟨hstart', hend'⟩
  · have hfirst := hbefore.bounds listed
    have hsecond := hbehind.bounds listed'
    omega
  · have hfirst := hbehind.bounds listed
    have hsecond := hbefore.bounds listed'
    omega
  · exact hbehind.eq_of_covers listed listed' ⟨hstart, hend⟩ ⟨hstart', hend'⟩

end Stretches

/-- The address of a part of a placed ring is computed without overflow. -/
theorem toNat_address {ring : RingAddresses} (placed : ring.Placed) {part : RingPart}
    (among : part.Among ring.count) : (part.address ring).toNat =
      ring.descriptors.toNat +
        part.offset ring.count.toNat (ring.used.toNat - ring.descriptors.toNat) := by
  have havailable := placed.available_eq
  have hused := placed.used_ge
  cases part with
  | descriptor index => exact placed.toNat_descriptor among
  | availableSlot slot =>
    have haddress := placed.toNat_availableSlot (Nat.le_of_lt among)
    simp only [address, offset]
    omega
  | usedSlot slot =>
    have haddress := placed.toNat_usedSlot (Nat.le_of_lt among)
    simp only [address, offset]
    omega
  | word field =>
    have hevent := placed.toNat_usedEvent
    have hevent' := placed.toNat_availableEvent
    have hindex := placed.toNat_availableIndex
    have hindex' := placed.toNat_usedIndex
    cases field <;>
      simp only [address, RingField.address, RingAddresses.availableFlags, RingAddresses.usedFlags,
        offset] <;>
      omega

end RingPart

namespace RingLayout

/-- How the parts of a ring with the given layout divide up the bytes from an address on. -/
structure Divides (layout : RingLayout) (base : UInt64) : Prop where
  /-- No sum and no product in the layout wraps, and the used ring starts at the least multiple of the
  alignment that is not below the end of the available ring. -/
  computed : layout.ComputesExactly
  /-- The ring ends with the used ring. -/
  totalSize : layout.totalSize.toNat = layout.usedOffset.toNat + 8 * layout.count.toNat + 6
  /-- Every part lies at its distance from the base, and no sum or product on the way to its address
  wraps. -/
  address : ∀ part : RingPart, part.Among layout.count →
    (part.address (layout.addressesAt base)).toNat =
      base.toNat + part.offset layout.count.toNat layout.usedOffset.toNat
  /-- Every part lies in the ring from its first byte to its last. -/
  inside : ∀ part : RingPart, part.Among layout.count →
    base.toNat ≤ (part.address (layout.addressesAt base)).toNat ∧
      (part.address (layout.addressesAt base)).toNat + part.width ≤
        base.toNat + layout.totalSize.toNat
  /-- Two parts share no byte. -/
  apart : ∀ first second : RingPart, first.Among layout.count → second.Among layout.count →
    first ≠ second → ∀ gpa, InSpan (first.address (layout.addressesAt base)) first.width gpa →
      ¬InSpan (second.address (layout.addressesAt base)) second.width gpa
  /-- Together they are the ring but for the padding in front of the used ring. -/
  covered : ∀ gpa, (∃ part : RingPart, part.Among layout.count ∧
      InSpan (part.address (layout.addressesAt base)) part.width gpa) ↔
    InSpan base layout.totalSize.toNat gpa ∧
      ¬(base.toNat + (layout.availableOffset + layout.availableSize).toNat ≤ gpa.toNat ∧
        gpa.toNat < base.toNat + layout.usedOffset.toNat)

/-- A ring of an allowed size and alignment that ends at a 64-bit address is divided up so. -/
theorem Admissible.divides {layout : RingLayout} (admissible : layout.Admissible) {base : UInt64}
    (fits : base.toNat + layout.totalSize.toNat < UInt64.size) : layout.Divides base := by
  obtain ⟨placed, hdescriptors, hend⟩ := admissible.placed fits
  have hsmall := admissible.count_le
  have hbehind := admissible.usedOffset_bounds.1
  have havailable := admissible.toNat_availableEnd
  have htotal := admissible.toNat_totalSize
  have haddress : ∀ part : RingPart, part.Among layout.count →
      (part.address (layout.addressesAt base)).toNat =
        base.toNat + part.offset layout.count.toNat layout.usedOffset.toNat := by
    intro part among
    have hused : (layout.addressesAt base).used.toNat - (layout.addressesAt base).descriptors.toNat =
        layout.usedOffset.toNat := by omega
    rw [RingPart.toNat_address placed among, hused, hdescriptors]
    rfl
  -- A part takes up an address exactly if it takes up the distance of the address from the base.
  have hcovers : ∀ (part : RingPart) (gpa : UInt64), part.Among layout.count →
      (InSpan (part.address (layout.addressesAt base)) part.width gpa ↔ base.toNat ≤ gpa.toNat ∧
        Covers (RingPart.offset layout.count.toNat layout.usedOffset.toNat) RingPart.width part
          (gpa.toNat - base.toNat)) := by
    intro part gpa among
    rw [InSpan, haddress part among, Covers]
    omega
  refine ⟨admissible.computesExactly, htotal, haddress, ?inside, ?apart, ?covered⟩
  case inside =>
    intro part among
    rw [haddress part among]
    rcases (RingPart.among_iff_mem hsmall part).1 among with listed | listed
    · have hbounds := (RingPart.tiles_beforePadding layout.usedOffset.toNat hsmall).bounds listed
      omega
    · have hbounds :=
        (RingPart.tiles_behindPadding layout.count layout.usedOffset.toNat).bounds listed
      omega
  case apart =>
    intro first second among among' distinct gpa here here'
    exact distinct (RingPart.eq_of_covers hsmall hbehind among among'
      ((hcovers first gpa among).1 here).2 ((hcovers second gpa among').1 here').2)
  case covered =>
    intro gpa
    have hplace := RingPart.exists_covers_iff hsmall hbehind (gpa.toNat - base.toNat)
    rw [havailable]
    constructor
    · rintro ⟨part, among, here⟩
      obtain ⟨hafter, covers⟩ := (hcovers part gpa among).1 here
      have hwithin := hplace.1 ⟨part, among, covers⟩
      unfold InSpan
      omega
    · rintro ⟨⟨hafter, hbefore⟩, outside⟩
      obtain ⟨part, among, covers⟩ := hplace.2 (by omega)
      exact ⟨part, among, (hcovers part gpa among).2 ⟨hafter, covers⟩⟩

/-- For every allowed number of descriptors, every alignment that is a power of two and every base from
which the ring ends at a 64-bit address, the parts of the ring divide up its bytes. -/
theorem divides_ofAlign {count : UInt32} {align base : UInt64} (positive : 1 ≤ count.toNat)
    (allowed : count.toNat ≤ 32768) (power : align.toNat.isPowerOfTwo)
    (fits : base.toNat + (ringSize count align).toNat < UInt64.size) :
    (ofAlign count align).align = align ∧
      (ofAlign count align).totalSize = ringSize count align ∧
      (ofAlign count align).Divides base :=
  ⟨align_ofAlign power, rfl, (Admissible.ofAlign positive allowed power).divides fits⟩

/-- The largest ring with the largest alignment, as high up as it fits: its last byte, which is the
second one of the event slot, is followed by the last 64-bit address. -/
theorem divides_largestRing :
    let layout := ofAlign 32768 0x8000000000000000
    layout.usedOffset = 0x8000000000000000 ∧
      ringSize 32768 0x8000000000000000 = 0x8000000000040006 ∧ layout.Divides 0x7ffffffffffbfff9 ∧
      (RingPart.word .availableEvent).address (layout.addressesAt 0x7ffffffffffbfff9) =
        0xfffffffffffffffd := by
  intro layout
  have hfits : (0x7ffffffffffbfff9 : UInt64).toNat +
      (ringSize 32768 0x8000000000000000).toNat < UInt64.size := by decide
  have hdivides := (divides_ofAlign (by decide) (by decide) ⟨63, by decide⟩ hfits).2.2
  exact ⟨by decide, by decide, hdivides, by decide⟩

end RingLayout

end Paravirt

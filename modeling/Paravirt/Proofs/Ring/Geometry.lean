import Paravirt.Proofs.Memory.Access
import Paravirt.Ring.Layout

/-!
# Geometry of a ring in guest memory

A ring of an admissible size and alignment that ends at a 64-bit address has its three tables one
behind the other, and none of its addresses wraps. Every word, slot and descriptor of such a ring is
located here once, as a natural number; whatever is said of two of them being apart or of one lying
inside the ring follows by arithmetic.
-/

namespace Paravirt

namespace Word

/-- Rounding up without overflow gives the multiple just behind the word before the next one. -/
theorem toNat_roundUp {x unit : UInt64} (positive : 0 < unit.toNat)
    (fits : x.toNat + unit.toNat ≤ UInt64.size) :
    (roundUp x unit).toNat = (x.toNat + unit.toNat - 1) / unit.toNat * unit.toNat := by
  have hone : (1 : UInt64).toNat ≤ unit.toNat := positive
  have hmax : max 1 unit = unit := if_pos (UInt64.le_iff_toNat_le.2 hone)
  have hsplit := Nat.div_add_mod x.toNat unit.toNat
  have hrest := Nat.mod_lt x.toNat positive
  have hcomm := Nat.mul_comm unit.toNat (x.toNat / unit.toNat)
  have hzero : x % unit = 0 ↔ x.toNat % unit.toNat = 0 := by
    rw [← UInt64.toNat_inj, UInt64.toNat_mod]
    rfl
  have hbound := x.toNat_lt_size
  unfold roundUp
  dsimp only
  rw [hmax]
  by_cases exact : x % unit = 0
  · have hremainder := hzero.1 exact
    have hquotient : (x.toNat + unit.toNat - 1) / unit.toNat = x.toNat / unit.toNat :=
      Nat.div_eq_of_lt_le (by omega) (by rw [Nat.succ_mul]; omega)
    rw [if_pos exact, hquotient, UInt64.toNat_mul, UInt64.toNat_div]
    exact Nat.mod_eq_of_lt (Nat.lt_of_le_of_lt (Nat.div_mul_le_self _ _) hbound)
  · have hremainder : x.toNat % unit.toNat ≠ 0 := fun h => exact (hzero.2 h)
    have hquotient : (x.toNat + unit.toNat - 1) / unit.toNat = x.toNat / unit.toNat + 1 :=
      Nat.div_eq_of_lt_le (by rw [Nat.succ_mul]; omega) (by rw [Nat.succ_mul, Nat.succ_mul]; omega)
    have hproduct : (x.toNat / unit.toNat + 1) * unit.toNat < UInt64.size := by
      rw [Nat.succ_mul]
      omega
    have hsum : (x / unit + 1).toNat = x.toNat / unit.toNat + 1 := by
      have hle := Nat.le_mul_of_pos_right (x.toNat / unit.toNat + 1) positive
      rw [UInt64.toNat_add, UInt64.toNat_div, UInt64.toNat_one]
      exact Nat.mod_eq_of_lt (Nat.lt_of_le_of_lt hle hproduct)
    rw [if_neg exact, hquotient, UInt64.toNat_mul, hsum]
    exact Nat.mod_eq_of_lt hproduct

/-- Rounding up without overflow moves a word up by less than the unit. -/
theorem roundUp_bounds {x unit : UInt64} (positive : 0 < unit.toNat)
    (fits : x.toNat + unit.toNat ≤ UInt64.size) :
    x.toNat ≤ (roundUp x unit).toNat ∧ (roundUp x unit).toNat < x.toNat + unit.toNat := by
  have hsplit := Nat.div_add_mod (x.toNat + unit.toNat - 1) unit.toNat
  have hrest := Nat.mod_lt (x.toNat + unit.toNat - 1) positive
  have hcomm := Nat.mul_comm unit.toNat ((x.toNat + unit.toNat - 1) / unit.toNat)
  rw [toNat_roundUp positive fits]
  omega

/-- A power of two among the 64-bit words is at most half their number. -/
theorem two_mul_le_of_isPowerOfTwo {x : UInt64} (power : x.toNat.isPowerOfTwo) :
    2 * x.toNat ≤ UInt64.size := by
  obtain ⟨exponent, hx⟩ := power
  have hbound := x.toNat_lt
  rw [hx] at hbound ⊢
  have hexponent := (Nat.pow_lt_pow_iff_right (by decide)).1 hbound
  calc 2 * 2 ^ exponent = 2 ^ (exponent + 1) := by rw [Nat.pow_succ, Nat.mul_comm]
    _ ≤ 2 ^ 64 := Nat.pow_le_pow_right (by decide) hexponent

end Word

namespace RingLayout

variable {layout : RingLayout}

/-- The sizes and alignments that a ring may have. -/
structure Admissible (layout : RingLayout) : Prop where
  /-- There is a descriptor. -/
  count_pos : 0 < layout.count.toNat
  /-- There are no more descriptors than a ring may have. -/
  count_le : layout.count.toNat ≤ 32768
  /-- The alignment is a power of two. -/
  align : layout.align.toNat.isPowerOfTwo

/-- An alignment that is a power of two counts as it is. -/
theorem align_ofAlign {count : UInt32} {align : UInt64} (power : align.toNat.isPowerOfTwo) :
    (ofAlign count align).align = align := by
  have hone : (1 : UInt64).toNat ≤ align.toNat := Nat.pos_of_isPowerOfTwo power
  exact if_pos (UInt64.le_iff_toNat_le.2 hone)

namespace Admissible

/-- A count and an alignment that are allowed make an admissible layout. -/
theorem ofAlign {count : UInt32} {align : UInt64} (positive : 0 < count.toNat)
    (allowed : count.toNat ≤ 32768) (power : align.toNat.isPowerOfTwo) :
    (RingLayout.ofAlign count align).Admissible := by
  refine ⟨positive, allowed, ?_⟩
  rw [align_ofAlign power]
  exact power

/-- The available ring ends within a megabyte of the start of the ring. -/
theorem toNat_availableEnd (admissible : layout.Admissible) :
    (layout.availableOffset + layout.availableSize).toNat = 18 * layout.count.toNat + 6 := by
  have hcount := admissible.count_le
  simp only [availableOffset, descriptorSize, availableSize, UInt64.toNat_add, UInt64.toNat_mul,
    UInt32.toNat_toUInt64, UInt64.reduceToNat]
  omega

/-- The used ring starts behind the available ring, by less than the alignment. -/
theorem usedOffset_bounds (admissible : layout.Admissible) :
    18 * layout.count.toNat + 6 ≤ layout.usedOffset.toNat ∧
      layout.usedOffset.toNat < 18 * layout.count.toNat + 6 + layout.align.toNat := by
  have hcount := admissible.count_le
  have hend := admissible.toNat_availableEnd
  have halign := Word.two_mul_le_of_isPowerOfTwo admissible.align
  have hpositive := Nat.pos_of_isPowerOfTwo admissible.align
  have hsize : UInt64.size = 2 ^ 64 := rfl
  have hbounds := Word.roundUp_bounds (x := layout.availableOffset + layout.availableSize)
    hpositive (by omega)
  rwa [hend] at hbounds

/-- The size of the ring is computed without overflow. -/
theorem toNat_totalSize (admissible : layout.Admissible) :
    layout.totalSize.toNat = layout.usedOffset.toNat + 8 * layout.count.toNat + 6 := by
  have hcount := admissible.count_le
  have hoffset := admissible.usedOffset_bounds
  have halign := Word.two_mul_le_of_isPowerOfTwo admissible.align
  have hsize : UInt64.size = 2 ^ 64 := rfl
  simp only [totalSize, usedSize, UInt64.toNat_add, UInt64.toNat_mul, UInt32.toNat_toUInt64,
    UInt64.reduceToNat]
  omega

end Admissible

end RingLayout

/-- A 16-bit index is below a 32-bit count if it is as a number. -/
theorem toUInt32_lt_iff {index : UInt16} {count : UInt32} :
    index.toUInt32 < count ↔ index.toNat < count.toNat := by
  rw [UInt32.lt_iff_toNat_lt, UInt16.toNat_toUInt32]

namespace RingAddresses

variable {ring : RingAddresses}

/-- The three tables lie behind one another, and the last one ends at a 64-bit address. -/
structure Placed (ring : RingAddresses) : Prop where
  /-- There is a descriptor. -/
  count_pos : 0 < ring.count.toNat
  /-- There are no more descriptors than a ring may have. -/
  count_le : ring.count.toNat ≤ 32768
  /-- The available ring starts where the descriptor table ends. -/
  available_eq : ring.available.toNat = ring.descriptors.toNat + 16 * ring.count.toNat
  /-- The used ring starts behind the available ring. -/
  used_ge : ring.available.toNat + 2 * ring.count.toNat + 6 ≤ ring.used.toNat
  /-- The used ring ends at a 64-bit address. -/
  used_fits : ring.used.toNat + 8 * ring.count.toNat + 6 < UInt64.size

namespace Placed

/-- The descriptor table ends at a 64-bit address. -/
theorem table_fits (placed : ring.Placed) :
    ring.descriptors.toNat + 16 * ring.count.toNat ≤ UInt64.size := by
  have hused := placed.used_ge
  have hfits := placed.used_fits
  rw [← placed.available_eq]
  omega

/-- A descriptor of the table. -/
theorem toNat_descriptor (placed : ring.Placed) {index : UInt16}
    (inside : index.toNat < ring.count.toNat) :
    (ring.descriptor index).toNat = ring.descriptors.toNat + 16 * index.toNat := by
  obtain ⟨hpos, hle, havailable, hused, hfits⟩ := placed
  have hsize : UInt64.size = 2 ^ 64 := rfl
  simp only [descriptor, UInt64.toNat_add, UInt64.toNat_mul, UInt16.toNat_toUInt64,
    UInt64.reduceToNat]
  omega

/-- The index of the available ring. -/
theorem toNat_availableIndex (placed : ring.Placed) :
    ring.availableIndex.toNat = ring.available.toNat + 2 := by
  obtain ⟨hpos, hle, havailable, hused, hfits⟩ := placed
  have hsize : UInt64.size = 2 ^ 64 := rfl
  simp only [availableIndex, UInt64.toNat_add, UInt64.reduceToNat]
  omega

/-- A slot of the available ring, or the place behind the last one. -/
theorem toNat_availableSlot (placed : ring.Placed) {slot : UInt32}
    (inside : slot.toNat ≤ ring.count.toNat) :
    (ring.availableSlot slot).toNat = ring.available.toNat + 4 + 2 * slot.toNat := by
  obtain ⟨hpos, hle, havailable, hused, hfits⟩ := placed
  have hsize : UInt64.size = 2 ^ 64 := rfl
  simp only [availableSlot, UInt64.toNat_add, UInt64.toNat_mul, UInt32.toNat_toUInt64,
    UInt64.reduceToNat]
  omega

/-- The event slot of the available ring. -/
theorem toNat_usedEvent (placed : ring.Placed) :
    ring.usedEvent.toNat = ring.available.toNat + 4 + 2 * ring.count.toNat :=
  placed.toNat_availableSlot (Nat.le_refl _)

/-- The index of the used ring. -/
theorem toNat_usedIndex (placed : ring.Placed) :
    ring.usedIndex.toNat = ring.used.toNat + 2 := by
  obtain ⟨hpos, hle, havailable, hused, hfits⟩ := placed
  have hsize : UInt64.size = 2 ^ 64 := rfl
  simp only [usedIndex, UInt64.toNat_add, UInt64.reduceToNat]
  omega

/-- A slot of the used ring, or the place behind the last one. -/
theorem toNat_usedSlot (placed : ring.Placed) {slot : UInt32}
    (inside : slot.toNat ≤ ring.count.toNat) :
    (ring.usedSlot slot).toNat = ring.used.toNat + 4 + 8 * slot.toNat := by
  obtain ⟨hpos, hle, havailable, hused, hfits⟩ := placed
  have hsize : UInt64.size = 2 ^ 64 := rfl
  simp only [usedSlot, UInt64.toNat_add, UInt64.toNat_mul, UInt32.toNat_toUInt64,
    UInt64.reduceToNat]
  omega

/-- The event slot of the used ring. -/
theorem toNat_availableEvent (placed : ring.Placed) :
    ring.availableEvent.toNat = ring.used.toNat + 4 + 8 * ring.count.toNat :=
  placed.toNat_usedSlot (Nat.le_refl _)

end Placed

/-- Where the slot for an index lies: one of the ring's. -/
theorem Placed.slot_lt (placed : ring.Placed) (index : UInt16) :
    (index.toUInt32 % ring.count).toNat < ring.count.toNat := by
  rw [UInt32.toNat_mod]
  exact Nat.mod_lt _ placed.count_pos

/-- The spans that returning chains to the driver may write. -/
inductive UsedSpan (ring : RingAddresses) : UInt64 → Nat → Prop where
  /-- The index of the used ring. -/
  | index : UsedSpan ring ring.usedIndex 2
  /-- An element of the used ring. -/
  | element (slot : UInt32) (inside : slot.toNat < ring.count.toNat) :
      UsedSpan ring (ring.usedSlot slot) 8

/-- The span in which the device tells the driver how far it has come. -/
inductive EventSpan (ring : RingAddresses) : UInt64 → Nat → Prop where
  /-- The event slot of the used ring. -/
  | slot : EventSpan ring ring.availableEvent 2

/-- The spans of a ring that are the device's to write. -/
def DeviceSpan (ring : RingAddresses) (start : UInt64) (width : Nat) : Prop :=
  ring.UsedSpan start width ∨ ring.EventSpan start width

/-- All that the device may write lies in the used ring behind its flags. -/
theorem Placed.deviceSpan_bounds (placed : ring.Placed) {start : UInt64} {width : Nat}
    (span : ring.DeviceSpan start width) : ring.used.toNat + 2 ≤ start.toNat ∧
      start.toNat + width ≤ ring.used.toNat + 8 * ring.count.toNat + 6 := by
  rcases span with used | event
  · cases used with
    | index =>
      have hindex := placed.toNat_usedIndex
      omega
    | element slot inside =>
      have hslot := placed.toNat_usedSlot (Nat.le_of_lt inside)
      omega
  · cases event with
    | slot =>
      have hevent := placed.toNat_availableEvent
      omega

end RingAddresses

/-- An admissible ring that ends at a 64-bit address has its tables behind one another, from its
first address to its last. -/
theorem RingLayout.Admissible.placed {layout : RingLayout} (admissible : layout.Admissible)
    {base : UInt64} (fits : base.toNat + layout.totalSize.toNat < UInt64.size) :
    (layout.addressesAt base).Placed ∧
      (layout.addressesAt base).descriptors.toNat = base.toNat ∧
      (layout.addressesAt base).used.toNat + 8 * layout.count.toNat + 6 =
        base.toNat + layout.totalSize.toNat := by
  have hcount := admissible.count_le
  have hoffset := admissible.usedOffset_bounds.1
  have htotal := admissible.toNat_totalSize
  have hsize : UInt64.size = 2 ^ 64 := rfl
  have hdescriptors : (layout.addressesAt base).descriptors.toNat = base.toNat := by
    simp only [addressesAt, descriptorOffset, UInt64.add_zero]
  have havailable : (layout.addressesAt base).available.toNat =
      base.toNat + 16 * layout.count.toNat := by
    simp only [addressesAt, availableOffset, descriptorSize, UInt64.toNat_add, UInt64.toNat_mul,
      UInt32.toNat_toUInt64, UInt64.reduceToNat]
    omega
  have hused : (layout.addressesAt base).used.toNat =
      base.toNat + layout.usedOffset.toNat := by
    simp only [addressesAt, UInt64.toNat_add]
    omega
  have hnumber : (layout.addressesAt base).count = layout.count := rfl
  refine ⟨⟨?_, ?_, ?_, ?_, ?_⟩, hdescriptors, by omega⟩ <;> rw [hnumber]
  · exact admissible.count_pos
  · exact hcount
  · omega
  · omega
  · omega

end Paravirt

import Mathlib.Data.Nat.ModEq
import Paravirt.Proofs.Ring.Geometry

/-!
# Slots of a ring

An index of a ring counts modulo 2^16, and its slot is the index modulo the number of descriptors.
A window of successive indices is served well only if they fall into different slots. They do if the
number of descriptors is a power of two. For other numbers the slots do not go on in order where the
index wraps around, and how long a window may be there is determined here exactly.
-/

namespace Paravirt

/-- Numbers that are less than a lap apart have different remainders. -/
theorem mod_ne_of_lt {lap first second : Nat} (ordered : first < second)
    (near : second < first + lap) : first % lap ≠ second % lap := by
  intro same
  have hdivides : lap ∣ second - first := (Nat.modEq_iff_dvd' (Nat.le_of_lt ordered)).1 same
  have hle := Nat.le_of_dvd (by omega) hdivides
  omega

/-- The remainder of a number that is a little below the end of a row of whole laps and a rest. -/
theorem sub_mod_of_lt {lap total back : Nat} (nonempty : 0 < lap) (near : back ≤ total % lap) :
    (total - back) % lap = total % lap - back := by
  have hsplit := Nat.div_add_mod total lap
  have hrest := Nat.mod_lt total nonempty
  have hsum : total - back = lap * (total / lap) + (total % lap - back) := by omega
  rw [hsum, Nat.mul_add_mod]
  exact Nat.mod_eq_of_lt (by omega)

/-- Whether successive indices modulo 2^16 keep apart modulo the number of slots: the slots divide the
range of the index, or the indices stop before it wraps around, or they are so few that those behind
the wrap-around do not reach back to the slots of those before it. -/
theorem window_mod_iff {count start length : Nat} (nonempty : 0 < count) (small : count ≤ 65536)
    (bounded : length ≤ count) (inside : start < 65536) :
    (∀ first second, first < second → second < length →
      (start + first) % 65536 % count ≠ (start + second) % 65536 % count) ↔
      count ∣ 65536 ∨ start + length ≤ 65536 ∨ length ≤ 65536 % count := by
  constructor
  · intro apart
    by_contra broken
    simp only [not_or] at broken
    obtain ⟨hdivides, hwraps, hlong⟩ := broken
    have hrest : 0 < 65536 % count :=
      Nat.pos_of_ne_zero fun zero => hdivides (Nat.dvd_of_mod_eq_zero zero)
    have hbound := Nat.mod_lt 65536 nonempty
    by_cases short : 65536 - start ≤ 65536 % count
    · -- The first index shares its slot with one behind the wrap-around.
      have hfirst : (start + 0) % 65536 % count = 65536 % count - (65536 - start) := by
        rw [Nat.mod_eq_of_lt (by omega : start + 0 < 65536)]
        have hback : start + 0 = 65536 - (65536 - start) := by omega
        rw [hback, sub_mod_of_lt nonempty short]
      have hsecond : (start + 65536 % count) % 65536 % count =
          65536 % count - (65536 - start) := by
        have hwrapped : (start + 65536 % count) % 65536 =
            65536 % count - (65536 - start) := by omega
        rw [hwrapped]
        exact Nat.mod_eq_of_lt (by omega)
      exact apart 0 (65536 % count) hrest (by omega) (hfirst.trans hsecond.symm)
    · -- Slot 0 comes up twice: where the last lap before the wrap-around starts, and behind it.
      have hfirst : (start + (65536 - start - 65536 % count)) % 65536 % count = 0 := by
        have hback : (start + (65536 - start - 65536 % count)) % 65536 =
            65536 - 65536 % count := by omega
        rw [hback, sub_mod_of_lt nonempty (Nat.le_refl _), Nat.sub_self]
      have hsecond : (start + (65536 - start)) % 65536 % count = 0 := by
        have hwrapped : (start + (65536 - start)) % 65536 = 0 := by omega
        rw [hwrapped, Nat.zero_mod]
      exact apart (65536 - start - 65536 % count) (65536 - start) (by omega) (by omega)
        (hfirst.trans hsecond.symm)
  · intro fits first second ordered last
    by_cases divides : count ∣ 65536
    · rw [Nat.mod_mod_of_dvd _ divides, Nat.mod_mod_of_dvd _ divides]
      exact mod_ne_of_lt (by omega) (by omega)
    · by_cases wrapped : start + first < 65536 ∧ 65536 ≤ start + second
      · -- Only a short window may wrap around; seen from there both slots are within one lap.
        have hshort : length ≤ 65536 % count := by omega
        have hfirst : (start + first) % 65536 % count = 65536 % count - (65536 - (start + first)) := by
          rw [Nat.mod_eq_of_lt wrapped.1]
          have hback : start + first = 65536 - (65536 - (start + first)) := by omega
          conv => lhs; rw [hback]
          exact sub_mod_of_lt nonempty (by omega)
        have hbound := Nat.mod_lt 65536 nonempty
        have hsecond : (start + second) % 65536 % count = start + second - 65536 := by
          have hvalue : (start + second) % 65536 = start + second - 65536 := by omega
          rw [hvalue]
          exact Nat.mod_eq_of_lt (by omega)
        rw [hfirst, hsecond]
        omega
      · have hnear : (start + first) % 65536 < (start + second) % 65536 ∧
            (start + second) % 65536 < (start + first) % 65536 + count := by omega
        exact mod_ne_of_lt hnear.1 hnear.2

/-- Indices that are less than 2^16 behind the same one differ if they are not equally far behind. -/
theorem add_ofNat_inj {start : UInt16} {first second : Nat} (near : first < 65536)
    (near' : second < 65536) :
    start + UInt16.ofNat first = start + UInt16.ofNat second ↔ first = second := by
  have hstart := start.toNat_lt
  rw [← UInt16.toNat_inj, UInt16.toNat_add, UInt16.toNat_add, UInt16.toNat_ofNat',
    UInt16.toNat_ofNat']
  omega

/-- Going on from an index in two steps is going on in one. -/
theorem add_ofNat_succ (start : UInt16) (count : Nat) :
    start + UInt16.ofNat count + 1 = start + UInt16.ofNat (count + 1) := by
  rw [UInt16.ofNat_add, UInt16.add_assoc]
  rfl

/-- The steps from the next index on are one fewer. -/
theorem succ_add_ofNat (start : UInt16) (count : Nat) :
    start + 1 + UInt16.ofNat count = start + UInt16.ofNat (count + 1) := by
  rw [UInt16.ofNat_add, UInt16.add_comm (UInt16.ofNat count), ← UInt16.add_assoc]
  rfl

@[simp]
theorem add_ofNat_zero (start : UInt16) : start + UInt16.ofNat 0 = start := UInt16.add_zero start

namespace RingAddresses

variable {ring : RingAddresses} {start : UInt16} {length : Nat}

/-- The slot that belongs to an index of the ring. -/
def slotOf (ring : RingAddresses) (index : UInt16) : UInt32 := index.toUInt32 % ring.count

theorem toNat_slotOf (ring : RingAddresses) (index : UInt16) :
    (ring.slotOf index).toNat = index.toNat % ring.count.toNat := by
  rw [slotOf, UInt32.toNat_mod, UInt16.toNat_toUInt32]

theorem Placed.slotOf_lt (placed : ring.Placed) (index : UInt16) :
    (ring.slotOf index).toNat < ring.count.toNat :=
  placed.slot_lt index

/-- Successive indices fall into different slots. -/
def SlotsApart (ring : RingAddresses) (start : UInt16) (length : Nat) : Prop :=
  ∀ first second, first < second → second < length →
    ring.slotOf (start + UInt16.ofNat first) ≠ ring.slotOf (start + UInt16.ofNat second)

/-- A part of a window has its slots apart if the window has. -/
theorem SlotsApart.mono {part : Nat} (apart : ring.SlotsApart start length)
    (shorter : part ≤ length) : ring.SlotsApart start part :=
  fun first second ordered last => apart first second ordered (by omega)

/-- Exactly these windows have their slots apart: all windows if the number of descriptors is a power
of two, otherwise those that end before the index wraps around and those that are no longer than what
the last lap before it falls short of. -/
theorem slotsApart_iff (placed : ring.Placed) (bounded : length ≤ ring.count.toNat) :
    ring.SlotsApart start length ↔ ring.count.toNat ∣ 65536 ∨ start.toNat + length ≤ 65536 ∨
      length ≤ 65536 % ring.count.toNat := by
  have hsmall : ring.count.toNat ≤ 65536 := Nat.le_trans placed.count_le (by decide)
  rw [← window_mod_iff placed.count_pos hsmall bounded start.toNat_lt]
  have hslot : ∀ offset, (ring.slotOf (start + UInt16.ofNat offset)).toNat =
      (start.toNat + offset) % 65536 % ring.count.toNat := by
    intro offset
    have hindex : (start + UInt16.ofNat offset).toNat = (start.toNat + offset) % 65536 := by
      rw [UInt16.toNat_add, UInt16.toNat_ofNat']
      omega
    rw [toNat_slotOf, hindex]
  simp only [SlotsApart, ne_eq, ← UInt32.toNat_inj, hslot]

/-- A ring with a power of two of descriptors has the slots of every window apart. -/
theorem slotsApart_of_isPowerOfTwo (placed : ring.Placed)
    (power : ring.count.toNat.isPowerOfTwo) (bounded : length ≤ ring.count.toNat) :
    ring.SlotsApart start length := by
  obtain ⟨exponent, hcount⟩ := power
  have hexponent : exponent ≤ 16 := by
    have hle := placed.count_le
    rw [hcount] at hle
    exact Nat.le_of_lt ((Nat.pow_lt_pow_iff_right (by decide : 1 < 2)).1
      (Nat.lt_of_le_of_lt hle (by decide : 32768 < 2 ^ 16)))
  refine (slotsApart_iff placed bounded).2 (Or.inl ?_)
  rw [hcount]
  exact Nat.pow_dvd_pow 2 hexponent

section Window

variable {α ε : Type} {fetch fetch' : UInt32 → Except ε α} {items : List α}

/-- The slots of successive indices hold the given items. -/
def Window (ring : RingAddresses) (fetch : UInt32 → Except ε α) (start : UInt16)
    (items : List α) : Prop :=
  ∀ offset item, items[offset]? = some item →
    fetch (ring.slotOf (start + UInt16.ofNat offset)) = .ok item

theorem window_nil (ring : RingAddresses) (fetch : UInt32 → Except ε α) (start : UInt16) :
    ring.Window fetch start [] := by
  intro offset item listed
  cases listed

/-- The first item of a window is in the first slot. -/
theorem Window.head {item : α} (window : ring.Window fetch start (item :: items)) :
    fetch (ring.slotOf start) = .ok item := by
  have hfirst := window 0 item rfl
  rwa [add_ofNat_zero] at hfirst

/-- The other items of a window start at the next index. -/
theorem Window.tail {item : α} (window : ring.Window fetch start (item :: items)) :
    ring.Window fetch (start + 1) items := by
  intro offset later listed
  have hlater := window (offset + 1) later listed
  rwa [← succ_add_ofNat] at hlater

/-- A window stays as long as its slots keep what they hold. -/
theorem Window.congr (window : ring.Window fetch start items) (placed : ring.Placed)
    (same : ∀ slot : UInt32, slot.toNat < ring.count.toNat → fetch' slot = fetch slot) :
    ring.Window fetch' start items := by
  intro offset item listed
  rw [same _ (placed.slotOf_lt _)]
  exact window offset item listed

/-- Filling the slot behind a window makes it longer by one item, if that slot is none of its own. -/
theorem Window.append_singleton {item : α} (window : ring.Window fetch start items)
    (placed : ring.Placed) (apart : ring.SlotsApart start (items.length + 1))
    (stored : fetch' (ring.slotOf (start + UInt16.ofNat items.length)) = .ok item)
    (same : ∀ slot : UInt32, slot.toNat < ring.count.toNat →
      slot ≠ ring.slotOf (start + UInt16.ofNat items.length) → fetch' slot = fetch slot) :
    ring.Window fetch' start (items ++ [item]) := by
  intro offset other listed
  by_cases earlier : offset < items.length
  · rw [List.getElem?_append_left earlier] at listed
    rw [same _ (placed.slotOf_lt _) (apart offset items.length earlier (Nat.lt_succ_self _))]
    exact window offset other listed
  · rw [List.getElem?_append_right (Nat.le_of_not_lt earlier)] at listed
    obtain ⟨hoffset, hitem⟩ := List.getElem?_eq_some_iff.1 listed
    have hlast : offset = items.length := by
      rw [List.length_singleton] at hoffset
      omega
    subst hlast
    rw [List.getElem_singleton] at hitem
    rw [stored, hitem]

end Window

end RingAddresses

end Paravirt

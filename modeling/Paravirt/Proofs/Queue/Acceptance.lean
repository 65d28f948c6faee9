import Mathlib.Order.Bounds.Basic
import Paravirt.Proofs.Queue.Lifecycle

/-!
# Which rings a queue takes

Page number, page size, alignment and count of a ring are the driver's to choose, and setting up
computes with them in 64 bits. That the computation never goes astray is said by comparing it with
natural numbers, in which nothing wraps: a ring is taken exactly if its count and alignment are
allowed and the whole of it, from the product of page number and page size on, lies in one region of
memory. Whatever ring a queue had before, it is forgotten.
-/

namespace Paravirt

namespace RingLayout

/-- Where the used ring starts, in natural numbers: behind the descriptor table and the available
ring, at a multiple of the alignment. -/
def usedStart (count align : Nat) : Nat :=
  (16 * count + (4 + 2 * count + 2) + align - 1) / align * align

/-- The size of a ring in natural numbers. -/
def extent (count align : Nat) : Nat := usedStart count align + (4 + 8 * count + 2)

/-- The used ring starts at the first multiple of the alignment that the other tables leave free. -/
theorem isLeast_usedStart (count : Nat) {align : Nat} (positive : 0 < align) :
    IsLeast {offset | align ∣ offset ∧ 16 * count + (4 + 2 * count + 2) ≤ offset}
      (usedStart count align) := by
  unfold usedStart
  generalize 16 * count + (4 + 2 * count + 2) = taken
  have hsplit := Nat.div_add_mod (taken + align - 1) align
  have hrest := Nat.mod_lt (taken + align - 1) positive
  rw [Nat.mul_comm] at hsplit
  refine ⟨⟨Nat.dvd_mul_left _ _, by omega⟩, ?_⟩
  rintro offset ⟨⟨multiple, rfl⟩, behind⟩
  rw [Nat.mul_comm align]
  apply Nat.mul_le_mul_right
  apply Nat.le_of_lt_succ
  rw [Nat.div_lt_iff_lt_mul positive, Nat.succ_mul, Nat.mul_comm multiple]
  omega

/-- No sum and no product in the layout of a ring wraps. -/
structure ComputesExactly (layout : RingLayout) : Prop where
  /-- The size of the descriptor table. -/
  descriptorSize : layout.descriptorSize.toNat = 16 * layout.count.toNat
  /-- The size of the available ring. -/
  availableSize : layout.availableSize.toNat = 4 + 2 * layout.count.toNat + 2
  /-- The end of the available ring. -/
  availableEnd : (layout.availableOffset + layout.availableSize).toNat =
    16 * layout.count.toNat + (4 + 2 * layout.count.toNat + 2)
  /-- The start of the used ring. -/
  usedOffset : layout.usedOffset.toNat = usedStart layout.count.toNat layout.align.toNat
  /-- It is the first multiple of the alignment behind the available ring. -/
  aligned : IsLeast {offset | layout.align.toNat ∣ offset ∧
    16 * layout.count.toNat + (4 + 2 * layout.count.toNat + 2) ≤ offset} layout.usedOffset.toNat
  /-- The size of the used ring. -/
  usedSize : layout.usedSize.toNat = 4 + 8 * layout.count.toNat + 2
  /-- The size of the ring. -/
  totalSize : layout.totalSize.toNat = extent layout.count.toNat layout.align.toNat

/-- The layout of every ring of an allowed size and alignment is computed exactly, up to the largest
alignment that 64 bits hold. -/
theorem Admissible.computesExactly {layout : RingLayout} (admissible : layout.Admissible) :
    layout.ComputesExactly := by
  have hcount := admissible.count_le
  have hend := admissible.toNat_availableEnd
  have htotal := admissible.toNat_totalSize
  have halign := Word.two_mul_le_of_isPowerOfTwo admissible.align
  have hsize : UInt64.size = 2 ^ 64 := rfl
  have hpositive := Nat.pos_of_isPowerOfTwo admissible.align
  have hused : layout.usedOffset.toNat = usedStart layout.count.toNat layout.align.toNat := by
    have hsum : 16 * layout.count.toNat + (4 + 2 * layout.count.toNat + 2) =
        18 * layout.count.toNat + 6 := by omega
    rw [RingLayout.usedOffset, Word.toNat_roundUp hpositive (by omega), hend, usedStart, hsum]
  refine ⟨?_, ?_, by omega, hused, hused ▸ isLeast_usedStart _ hpositive, ?_, ?_⟩
  · simp only [descriptorSize, UInt64.toNat_mul, UInt32.toNat_toUInt64, UInt64.reduceToNat]
    omega
  · simp only [availableSize, UInt64.toNat_add, UInt64.toNat_mul, UInt32.toNat_toUInt64,
      UInt64.reduceToNat]
    omega
  · simp only [usedSize, UInt64.toNat_add, UInt64.toNat_mul, UInt32.toNat_toUInt64,
      UInt64.reduceToNat]
    omega
  · rw [extent, ← hused]
    omega

end RingLayout

/-- The size of a ring of an allowed count and alignment is computed exactly. -/
theorem toNat_ringSize {count : UInt32} {align : UInt64} (positive : 0 < count.toNat)
    (allowed : count.toNat ≤ 32768) (power : align.toNat.isPowerOfTwo) :
    (ringSize count align).toNat = RingLayout.extent count.toNat align.toNat := by
  have htotal := (RingLayout.Admissible.ofAlign positive allowed power).computesExactly.totalSize
  rwa [RingLayout.align_ofAlign power] at htotal

namespace Memory

variable {memory : Memory} {start length : Nat}

/-- The addresses from one on, in natural numbers, lie in one region of memory. -/
def HoldsRamSpan (memory : Memory) (start length : Nat) : Prop :=
  ∃ region ∈ memory.regions, (∃ storage, region.backing = .ram storage) ∧
    region.base.toNat ≤ start ∧ start + length ≤ region.base.toNat + region.size.toNat

/-- Memory ends at a 64-bit address. -/
theorem HoldsRamSpan.fits (ram : memory.HoldsRamSpan start length)
    (wellFormed : memory.WellFormed) : start + length < UInt64.size := by
  obtain ⟨region, listed, -, -, hend⟩ := ram
  have hbounded := (wellFormed.bounded region listed).2
  omega

end Memory

namespace ActiveRing

variable {space : AddressSpace} {pageNumber pageSize : UInt64} {count : UInt32} {align : UInt64}
  {ring : ActiveRing}

/-- A count is taken exactly if it is none of those that setting up refuses. -/
theorem count_allowed_iff :
    ¬(decide (count = 0) || decide (RingLayout.maxCount < count)) = true ↔
      1 ≤ count.toNat ∧ count.toNat ≤ 32768 := by
  have hmax : RingLayout.maxCount.toNat = 32768 := rfl
  have hzero : (0 : UInt32).toNat = 0 := rfl
  rw [Bool.or_eq_true, decide_eq_true_iff, decide_eq_true_iff, UInt32.lt_iff_toNat_lt,
    ← UInt32.toNat_inj, hmax, hzero]
  omega

/-- The size on record is the extent of the ring that was asked for. -/
theorem toNat_totalSize_of_locate
    (found : RingGeometry.locate space pageNumber pageSize count align = .ok ring.toRingGeometry) :
    ring.totalSize.toNat = RingLayout.extent count.toNat align.toNat := by
  obtain ⟨wellPlaced, -, hgeometry⟩ := of_locate found
  obtain ⟨hcount, halign⟩ : ring.count = count ∧ ring.align = align := by
    rw [hgeometry]
    exact ⟨rfl, rfl⟩
  have hsize : ring.totalSize = ringSize ring.count ring.align := wellPlaced.totalSize
  rw [hsize, toNat_ringSize wellPlaced.count_pos wellPlaced.count_le wellPlaced.align, hcount,
    halign]

/-- A ring that was found has an allowed count and alignment and lies in memory. -/
theorem allowed_of_locate (wellFormed : space.memory.WellFormed) (answered : space.mapOverride = none)
    (found : RingGeometry.locate space pageNumber pageSize count align = .ok ring.toRingGeometry) :
    1 ≤ count.toNat ∧ count.toNat ≤ 32768 ∧ align.toNat.isPowerOfTwo ∧
      space.memory.HoldsRamSpan (pageNumber.toNat * pageSize.toNat)
        (RingLayout.extent count.toNat align.toNat) := by
  obtain ⟨wellPlaced, ⟨mapped, resolved, isRam, room⟩, hgeometry⟩ := of_locate found
  rw [AddressSpace.map_of_answered answered] at resolved
  have hram := Memory.holdsRam_of_map wellFormed resolved isRam room
  have haddress := wellPlaced.address
  obtain ⟨hcount, halign, hnumber, hpage⟩ : ring.count = count ∧ ring.align = align ∧
      ring.pageNumber = pageNumber ∧ ring.pageSize = pageSize := by
    rw [hgeometry]
    exact ⟨rfl, rfl, rfl, rfl⟩
  rw [toNat_totalSize_of_locate found] at hram
  rw [hnumber, hpage] at haddress
  refine ⟨hcount ▸ wellPlaced.count_pos, hcount ▸ wellPlaced.count_le,
    halign ▸ wellPlaced.align, ?_⟩
  rw [← haddress]
  exact hram

/-- A ring of an allowed count and alignment that lies in memory is found. -/
theorem exists_locate (wellFormed : space.memory.WellFormed) (answered : space.mapOverride = none)
    (positive : 1 ≤ count.toNat) (allowed : count.toNat ≤ 32768)
    (power : align.toNat.isPowerOfTwo)
    (ram : space.memory.HoldsRamSpan (pageNumber.toNat * pageSize.toNat)
      (RingLayout.extent count.toNat align.toNat)) :
    ∃ geometry, RingGeometry.locate space pageNumber pageSize count align = .ok geometry := by
  have hsize := toNat_ringSize positive allowed power
  rw [← hsize] at ram
  have hfits := ram.fits wellFormed
  have hproduct : (UInt64.ofNat (pageNumber.toNat * pageSize.toNat)).toNat =
      pageNumber.toNat * pageSize.toNat := UInt64.toNat_ofNat_of_lt' (by omega)
  generalize UInt64.ofNat (pageNumber.toNat * pageSize.toNat) = address at hproduct
  rw [← hproduct] at ram hfits
  have hsum : (UInt64.ofNat (address.toNat + (ringSize count align).toNat)).toNat =
      address.toNat + (ringSize count align).toNat := UInt64.toNat_ofNat_of_lt' hfits
  -- the start of the ring resolves to the region that holds all of it
  have hheld : space.memory.HoldsRam address (ringSize count align).toNat := ram
  have hnonempty : 0 < (ringSize count align).toNat := by
    rw [hsize, RingLayout.extent]
    omega
  obtain ⟨region, storage, hregion, hbacked, hroom⟩ := hheld.regionAt? wellFormed hnonempty
  have hmap : space.map address (ringSize count align) = .ok (region.map address) := by
    rw [AddressSpace.map_of_answered answered, Memory.map, hregion]
  have hisRam := (region.isRam_map_iff address).2 ⟨storage, hbacked⟩
  have hlarge : ¬(region.map address).availableSize < ringSize count align :=
    UInt64.not_lt.2 (UInt64.le_iff_toNat_le.2 hroom)
  refine ⟨.placedAt address (region.map address).hostAddress pageNumber pageSize count align, ?_⟩
  rw [RingGeometry.locate, if_neg (count_allowed_iff.2 ⟨positive, allowed⟩),
    Word.isPowerOfTwo_iff.2 power]
  simp only [Word.mul?_eq_some_iff.2 hproduct, Word.add?_eq_some_iff.2 hsum, hmap, hisRam, hlarge,
    Bool.not_true, Bool.false_eq_true, Option.isNone_some, if_false]

end ActiveRing

namespace Queue

variable {queue : Queue} {guests : Guests} {guest : Nat} {pageNumber pageSize : UInt64}
  {count : UInt32} {align : UInt64}

/-- Setting up does not depend on the ring that the queue had. -/
theorem setup_eq_of_detectCycles (queue : Queue) (space : AddressSpace) :
    queue.setup guest space pageNumber pageSize count align =
      ({ detectCycles := queue.detectCycles } : Queue).setup guest space pageNumber pageSize count
        align := by
  unfold setup
  cases RingGeometry.locate space pageNumber pageSize count align <;> rfl

/-- What setting up a queue does for given arguments. -/
structure SetsUpExactly (queue : Queue) (guests : Guests) (guest : Nat)
    (pageNumber pageSize : UInt64) (count : UInt32) (align : UInt64) : Prop where
  /-- It succeeds exactly for an allowed count and alignment and a ring that lies in one region of
  memory, from its first address to its last. -/
  accepts : (queue.setupIn guests guest pageNumber pageSize count align).1 = .ok () ↔
    1 ≤ count.toNat ∧ count.toNat ≤ 32768 ∧ align.toNat.isPowerOfTwo ∧
      (guests.space guest).memory.HoldsRamSpan (pageNumber.toNat * pageSize.toNat)
        (RingLayout.extent count.toNat align.toNat)
  /-- The queue afterwards is the one that a new queue would be. -/
  forgets : queue.setupIn guests guest pageNumber pageSize count align =
    ({ detectCycles := queue.detectCycles } : Queue).setupIn guests guest pageNumber pageSize count
      align
  /-- After success the ring that was named is on record, and the device has not come anywhere in
  it. -/
  taken : (queue.setupIn guests guest pageNumber pageSize count align).1 = .ok () →
    ∃ hostAddress, (queue.setupIn guests guest pageNumber pageSize count align).2 =
      { detectCycles := queue.detectCycles
        guest := some guest
        geometry :=
          { count, align, pageNumber, pageSize, hostAddress
            address := pageNumber * pageSize
            totalSize := ringSize count align
            addresses := (RingLayout.ofAlign count align).addressesAt (pageNumber * pageSize) }
        lastAvailable := 0
        lastSignalled := 0 }
  /-- After a refusal the queue is a new one. -/
  refused : ∀ error, (queue.setupIn guests guest pageNumber pageSize count align).1 = .error error →
    (queue.setupIn guests guest pageNumber pageSize count align).2 =
      { detectCycles := queue.detectCycles }
  /-- Guests are left as they are. -/
  untouched : ((⟨queue, guests⟩ : QueueState).perform
    (.setup guest pageNumber pageSize count align)).guests = guests
  /-- The layout is computed for an allowed count and alignment only, and exactly. -/
  layout : 1 ≤ count.toNat → count.toNat ≤ 32768 → align.toNat.isPowerOfTwo →
    (RingLayout.ofAlign count align).ComputesExactly
  /-- No end of a region wraps. -/
  ends : ∀ region ∈ (guests.space guest).memory.regions,
    region.stop.toNat = region.base.toNat + region.size.toNat
  /-- Nor does anything that is computed to resolve an address. -/
  resolved : ∀ gpa region, (guests.space guest).memory.regionAt? gpa = some region →
    region.base.toNat + (region.offsetOf gpa).toNat = gpa.toNat ∧
      gpa.toNat + (region.roomFrom gpa).toNat = region.stop.toNat ∧
      (region.map gpa).hostAddress.toNat = region.hostBase.toNat + (region.offsetOf gpa).toNat
  /-- Nor do the addresses of the ring that is taken. -/
  addresses : ∀ ring,
    (queue.setupIn guests guest pageNumber pageSize count align).2.ring = some ring →
      ring.address.toNat = pageNumber.toNat * pageSize.toNat ∧
      ring.totalSize.toNat = RingLayout.extent count.toNat align.toNat ∧
      ring.addresses.descriptors.toNat = ring.address.toNat ∧
      ring.addresses.available.toNat = ring.address.toNat + ring.layout.availableOffset.toNat ∧
      ring.addresses.used.toNat = ring.address.toNat + ring.layout.usedOffset.toNat ∧
      ring.address.toNat + ring.totalSize.toNat < UInt64.size

/-- Every queue is set up exactly so, on every guest whose memory answers its mapping queries. -/
theorem setsUpExactly (queue : Queue) (guests : Guests) (guest : Nat) (pageNumber pageSize : UInt64)
    (count : UInt32) (align : UInt64) (wellFormed : (guests.space guest).memory.WellFormed)
    (answered : (guests.space guest).mapOverride = none) :
    queue.SetsUpExactly guests guest pageNumber pageSize count align where
  accepts := by
    constructor
    · intro success
      obtain ⟨ring, found, -⟩ := locate_of_setup (Prod.ext success rfl)
      exact ActiveRing.allowed_of_locate wellFormed answered found
    · rintro ⟨positive, allowed, power, ram⟩
      obtain ⟨geometry, found⟩ :=
        ActiveRing.exists_locate wellFormed answered positive allowed power ram
      rw [setupIn, setup, found]
  forgets := setup_eq_of_detectCycles queue (guests.space guest)
  taken success := by
    obtain ⟨ring, found, hring, hqueue⟩ := locate_of_setup (Prod.ext success rfl)
    obtain ⟨-, -, hgeometry⟩ := ActiveRing.of_locate found
    refine ⟨ring.hostAddress, hqueue.trans ?_⟩
    rw [hring, withRing, hgeometry]
    rfl
  refused error failure := by
    rw [setupIn, setup] at failure ⊢
    cases found : RingGeometry.locate (guests.space guest) pageNumber pageSize count align with
    | error reason => rfl
    | ok ring =>
      rw [found] at failure
      cases failure
  untouched := rfl
  layout positive allowed power :=
    (RingLayout.Admissible.ofAlign positive allowed power).computesExactly
  ends region listed := Region.toNat_stop (wellFormed.bounded region listed).2
  resolved gpa region found := by
    obtain ⟨hoffset, hroom, hhost⟩ := wellFormed.regionAt?_bounds found
    have hbounded := wellFormed.bounded region (Memory.mem_of_regionAt? found)
    exact ⟨hoffset, hroom.trans (Region.toNat_stop hbounded.2).symm, hhost⟩
  addresses ring active := by
    have hfound := (locate_of_active active).1
    obtain ⟨wellPlaced, -, hgeometry⟩ := ActiveRing.of_locate hfound
    have hplaced := wellPlaced.placed
    have hdescriptors := wellPlaced.toNat_descriptors
    have havailable := hplaced.available_eq
    have hoffset := wellPlaced.admissible.computesExactly.descriptorSize
    have hend := wellPlaced.used_end
    have htotal := wellPlaced.admissible.toNat_totalSize
    have hcount : ring.addresses.count = ring.layout.count := wellPlaced.count_addresses
    have haddress : ring.address.toNat = pageNumber.toNat * pageSize.toNat := by
      rw [wellPlaced.address, hgeometry]
      rfl
    rw [hcount] at havailable hend
    refine ⟨haddress, ActiveRing.toNat_totalSize_of_locate hfound, hdescriptors, ?_, ?_,
      wellPlaced.fits⟩
    · rw [RingLayout.availableOffset, hoffset, havailable, hdescriptors]
    · rw [wellPlaced.totalSize, htotal] at hend
      omega

/-- In small memory, for a queue that is in the middle of another ring: a ring of four descriptors
takes 118 bytes, so with pages of a single byte it fits on page 65418 and not on the next one; a page
number and a page size whose product is 2 to the 64 are refused, and so is an alignment of 2 to the
63, which puts the used ring far behind memory. -/
theorem setsUpExactly_smallMemory :
    let guests : Guests := [⟨0, "vm", { memory := smallMemory }⟩]
    let queue := Queue.withRing { detectCycles := true } (smallRing.withCursors 7 5)
    queue.SetsUpExactly guests 0 65418 1 4 4 ∧ RingLayout.extent 4 4 = 118 ∧
      queue.setupIn guests 0 65418 1 4 4 =
        (.ok (), ⟨true, some 0,
          ⟨4, 4, 65418, 1, 65418, 0x10000ff8a, 118, ⟨4, 65418, 65482, 65498⟩⟩, 0, 0⟩) ∧
      queue.setupIn guests 0 65419 1 4 4 =
        (.error (.ringTooLarge 65419 118), { detectCycles := true }) ∧
      queue.setupIn guests 0 0x8000000000000000 2 4 4 =
        (.error .queueAddressOverflow, { detectCycles := true }) ∧
      queue.setupIn guests 0 1 4096 4 0x8000000000000000 =
        (.error (.ringTooLarge 4096 0x8000000000000026), { detectCycles := true }) := by
  have hwellFormed := Memory.wellFormed_of_build build_smallMemory
  exact ⟨setsUpExactly _ _ 0 65418 1 4 4 hwellFormed rfl, by decide, rfl, rfl, rfl, rfl⟩

end Queue

end Paravirt

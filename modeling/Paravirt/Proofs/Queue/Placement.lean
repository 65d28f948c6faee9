import Paravirt.Proofs.Memory.Served
import Paravirt.Proofs.Queue.Record
import Paravirt.Proofs.Ring.Slots
import Paravirt.Queue.Setup

/-!
# Where a queue is set up

Setting a queue up checks size, alignment and address of the ring and asks once for the region that
holds its start. From these checks follow the geometry of the ring and, where nothing overrides the
mapping query, that the whole ring lies in one region of memory. Nothing but the two cursors of a
ring changes until the queue is set up or cleaned up again.
-/

namespace Paravirt

namespace ActiveRing

variable {ring : ActiveRing}

/-- A ring as setting up records it: an allowed size and alignment, on the page that was named, with
the extent and the tables that the layout gives and its end at a 64-bit address. -/
structure WellPlaced (ring : ActiveRing) : Prop where
  /-- There is a descriptor. -/
  count_pos : 0 < ring.count.toNat
  /-- There are no more descriptors than a ring may have. -/
  count_le : ring.count.toNat ≤ 32768
  /-- The alignment is a power of two. -/
  align : ring.align.toNat.isPowerOfTwo
  /-- The ring starts on the page that was named. -/
  address : ring.address.toNat = ring.pageNumber.toNat * ring.pageSize.toNat
  /-- The size is that of the layout. -/
  totalSize : ring.totalSize = ring.layout.totalSize
  /-- The tables lie where the layout puts them. -/
  addresses : ring.addresses = ring.layout.addressesAt ring.address
  /-- The ring ends at a 64-bit address. -/
  fits : ring.address.toNat + ring.totalSize.toNat < UInt64.size

namespace WellPlaced

/-- The placement of a ring does not depend on how far the device has come in it. -/
theorem withCursors (wellPlaced : ring.WellPlaced) (lastAvailable lastSignalled : UInt16) :
    (ring.withCursors lastAvailable lastSignalled).WellPlaced :=
  ⟨wellPlaced.count_pos, wellPlaced.count_le, wellPlaced.align, wellPlaced.address,
    wellPlaced.totalSize, wellPlaced.addresses, wellPlaced.fits⟩

/-- The tables have as many descriptors as the ring. -/
theorem count_addresses (wellPlaced : ring.WellPlaced) :
    ring.addresses.count = ring.count := by
  rw [wellPlaced.addresses]
  rfl

/-- The layout of a well-placed ring is an admissible one. -/
theorem admissible (wellPlaced : ring.WellPlaced) : ring.layout.Admissible :=
  .ofAlign wellPlaced.count_pos wellPlaced.count_le wellPlaced.align

/-- The layout ends at a 64-bit address. -/
theorem layout_fits (wellPlaced : ring.WellPlaced) :
    ring.address.toNat + ring.layout.totalSize.toNat < UInt64.size :=
  wellPlaced.totalSize ▸ wellPlaced.fits

/-- The tables of a well-placed ring lie behind one another. -/
theorem placed (wellPlaced : ring.WellPlaced) : ring.addresses.Placed := by
  rw [wellPlaced.addresses]
  exact (wellPlaced.admissible.placed wellPlaced.layout_fits).1

/-- The descriptor table stands at the start of the ring. -/
theorem toNat_descriptors (wellPlaced : ring.WellPlaced) :
    ring.addresses.descriptors.toNat = ring.address.toNat := by
  rw [wellPlaced.addresses]
  exact (wellPlaced.admissible.placed wellPlaced.layout_fits).2.1

/-- The used ring ends with the ring. -/
theorem used_end (wellPlaced : ring.WellPlaced) :
    ring.addresses.used.toNat + 8 * ring.addresses.count.toNat + 6 =
      ring.address.toNat + ring.totalSize.toNat := by
  rw [wellPlaced.addresses, wellPlaced.totalSize]
  exact (wellPlaced.admissible.placed wellPlaced.layout_fits).2.2

/-- The slot of an index is found by the number of descriptors. -/
theorem slotOf_addresses (wellPlaced : ring.WellPlaced) (index : UInt16) :
    ring.addresses.slotOf index = index.toUInt32 % ring.count := by
  rw [RingAddresses.slotOf, wellPlaced.count_addresses]

/-- Every index falls on a slot of the tables. -/
theorem slot_lt (wellPlaced : ring.WellPlaced) (index : UInt16) :
    (index.toUInt32 % ring.count).toNat < ring.addresses.count.toNat := by
  rw [← wellPlaced.slotOf_addresses]
  exact wellPlaced.placed.slotOf_lt index

end WellPlaced

/-- What is known of a ring that was found: it is well placed, its start resolves to memory with
room for all of it, and all that is recorded of it is what follows from the arguments, but for where
its memory is on the host. -/
theorem of_locate {space : AddressSpace} {pageNumber pageSize : UInt64} {count : UInt32}
    {align : UInt64}
    (found : RingGeometry.locate space pageNumber pageSize count align = .ok ring.toRingGeometry) :
    ring.WellPlaced ∧
      (∃ mapped, space.map ring.address ring.totalSize = .ok mapped ∧ mapped.isRam = true ∧
        ring.totalSize ≤ mapped.availableSize) ∧
      ring.toRingGeometry =
        .placedAt (pageNumber * pageSize) ring.hostAddress pageNumber pageSize count align := by
  obtain ⟨geometry, guest, lastAvailable, lastSignalled⟩ := ring
  unfold RingGeometry.locate at found
  split at found
  · cases found
  rename_i sized
  split at found
  · cases found
  rename_i aligned
  dsimp only at found
  split at found
  · cases found
  rename_i address product
  split at found
  · cases found
  rename_i ends
  split at found
  · cases found
  rename_i mapped resolved
  split at found
  · cases found
  rename_i isRam
  split at found
  · cases found
  rename_i room
  cases found
  have hproduct := Word.mul?_eq_some_iff.1 product
  have haddress : address = pageNumber * pageSize := by
    rw [← UInt64.toNat_inj, UInt64.toNat_mul, hproduct]
    exact (Nat.mod_eq_of_lt (hproduct ▸ address.toNat_lt)).symm
  subst haddress
  obtain ⟨last, hsum⟩ := Option.ne_none_iff_exists'.1 (mt Option.isNone_iff_eq_none.2 ends)
  have hlast := Word.add?_eq_some_iff.1 hsum
  have hbound := last.toNat_lt_size
  have hsized : count.toNat ≠ 0 ∧ count.toNat ≤ 32768 := by
    rw [Bool.not_eq_true, Bool.or_eq_false_iff, decide_eq_false_iff_not, decide_eq_false_iff_not,
      UInt32.not_lt, UInt32.le_iff_toNat_le, ← UInt32.toNat_inj] at sized
    exact sized
  have haligned : Word.isPowerOfTwo align = true := by simpa using aligned
  refine ⟨⟨Nat.pos_of_ne_zero hsized.1, hsized.2, Word.isPowerOfTwo_iff.1 haligned, hproduct, rfl,
    rfl, ?_⟩, ⟨mapped, resolved, by simpa using isRam, UInt64.not_lt.1 room⟩, rfl⟩
  exact hlast ▸ hbound

end ActiveRing

namespace Queue

variable {queue queue' : Queue} {ring : ActiveRing} {guest : Nat} {space : AddressSpace}
  {pageNumber pageSize : UInt64} {count : UInt32} {align : UInt64}

/-- The ring of the given size on the given page of a guest, as a queue has it that was just set
up. -/
def freshRing (guest : Nat) (hostAddress pageNumber pageSize : UInt64) (count : UInt32)
    (align : UInt64) : ActiveRing where
  toRingGeometry := .placedAt (pageNumber * pageSize) hostAddress pageNumber pageSize count align
  guest := guest
  lastAvailable := 0
  lastSignalled := 0

@[simp]
theorem count_addresses_freshRing (guest : Nat) (hostAddress pageNumber pageSize : UInt64)
    (count : UInt32) (align : UInt64) :
    (freshRing guest hostAddress pageNumber pageSize count align).addresses.count = count := rfl

/-- A queue that was set up has the ring that was found, with the device at its start. -/
theorem locate_of_setup
    (setUp : queue.setup guest space pageNumber pageSize count align = (.ok (), queue')) :
    ∃ ring : ActiveRing,
      RingGeometry.locate space pageNumber pageSize count align = .ok ring.toRingGeometry ∧
      ring = ⟨ring.toRingGeometry, guest, 0, 0⟩ ∧ queue' = queue.withRing ring := by
  unfold setup at setUp
  cases found : RingGeometry.locate space pageNumber pageSize count align with
  | error error =>
    rw [found] at setUp
    cases setUp
  | ok geometry =>
    rw [found] at setUp
    cases setUp
    exact ⟨⟨geometry, guest, 0, 0⟩, rfl, rfl, rfl⟩

/-- The ring of a queue after setting up, whether that succeeded or not, is one that was found. -/
theorem locate_of_active
    (active : (queue.setup guest space pageNumber pageSize count align).2.ring = some ring) :
    RingGeometry.locate space pageNumber pageSize count align = .ok ring.toRingGeometry ∧
      ring = ⟨ring.toRingGeometry, guest, 0, 0⟩ := by
  unfold setup at active
  cases found : RingGeometry.locate space pageNumber pageSize count align with
  | error error =>
    rw [found] at active
    cases active
  | ok located =>
    rw [found] at active
    cases active
    exact ⟨rfl, rfl⟩

/-- So setting up leaves no ring or a well-placed one. -/
theorem wellPlaced_of_setup
    (active : (queue.setup guest space pageNumber pageSize count align).2.ring = some ring) :
    ring.WellPlaced :=
  (ActiveRing.of_locate (locate_of_active active).1).1

/-- On a fault-free address space a ring is set up in memory only. -/
theorem holdsRam_of_setup (faultFree : space.FaultFree)
    (setUp : queue.setup guest space pageNumber pageSize count align = (.ok (), queue')) :
    ∃ ring, queue' = queue.withRing ring ∧ ring.WellPlaced ∧
      space.memory.HoldsRam ring.address ring.totalSize.toNat ∧
      ring = freshRing guest ring.hostAddress pageNumber pageSize count align := by
  obtain ⟨ring, found, hring, rfl⟩ := locate_of_setup setUp
  obtain ⟨wellPlaced, ⟨mapped, resolved, isRam, room⟩, hgeometry⟩ := ActiveRing.of_locate found
  have hmap : space.memory.map ring.address ring.totalSize = .ok mapped := by
    rwa [AddressSpace.map_of_answered faultFree.mapOverride] at resolved
  refine ⟨ring, rfl, wellPlaced, Memory.holdsRam_of_map faultFree.wellFormed hmap isRam room, ?_⟩
  rw [freshRing, ← hgeometry]
  exact hring

end Queue

/-- Sixteen pages of memory from address 0 on. -/
def smallMemory : Memory :=
  ⟨[⟨0, 65536, Memory.defaultHostBase, .ram (.zeros 65536)⟩]⟩

/-- Small memory is what building a single region gives. -/
theorem build_smallMemory :
    Memory.build [.ram 0 65536] Memory.defaultHostBase = .ok smallMemory := rfl

/-- A ring of four descriptors on the second page of small memory. -/
def smallRing : ActiveRing where
  count := 4
  align := 4
  pageNumber := 1
  pageSize := 4096
  address := 4096
  hostAddress := 0x100001000
  totalSize := 118
  addresses := ⟨4, 4096, 4160, 4176⟩
  guest := 0
  lastAvailable := 0
  lastSignalled := 0

/-- Setting up finds the small ring. -/
theorem setup_smallRing :
    Queue.setup {} 0 { memory := smallMemory } 1 4096 4 4 = (.ok (), Queue.withRing {} smallRing) :=
  rfl

end Paravirt

import Paravirt.Proofs.Queue.Arrival
import Paravirt.Proofs.Queue.Containment
import Paravirt.Proofs.Queue.Draining
import Paravirt.Proofs.Queue.Path
import Paravirt.Proofs.Segment.Transfer

/-!
# Chains that a driver has prepared by the rules

A well-formed chain ends inside the table, has all buffers that the device reads before those that it
writes, and every buffer in memory. Pending chains are well-formed, stand in the available ring in
front of the device, and share no address with each other or with the ring. The device takes them one
by one; the others stay pending whatever it stores outside the driver's half of the ring.
-/

namespace Paravirt

namespace RingAddresses

variable {ring : RingAddresses} {start : UInt64} {width : Nat} {gpa : UInt64}

/-- A byte of the device's lies in one of its spans. -/
theorem exists_deviceSpan (owned : ring.DeviceOwned gpa) :
    ∃ start width, ring.DeviceSpan start width ∧ InSpan start width gpa := by
  rcases owned with index | ⟨slot, inside, element⟩ | event
  · exact ⟨_, _, Or.inl .index, index⟩
  · exact ⟨_, _, Or.inl (.element slot (UInt32.lt_iff_toNat_lt.1 inside)), element⟩
  · exact ⟨_, _, Or.inr .slot, event⟩

/-- A span of the device holds none of the bytes that are not the device's. -/
theorem sparing_not_deviceOwned (span : ring.DeviceSpan start width) :
    Sparing (fun gpa => ¬ring.DeviceOwned gpa) start width :=
  fun _ inside foreign => foreign (deviceOwned_of_span span inside)

/-- The driver's half holds none of the bytes that are the device's. -/
theorem Placed.not_deviceOwned_of_driverHalf (placed : ring.Placed) (half : ring.DriverHalf gpa) :
    ¬ring.DeviceOwned gpa := by
  intro owned
  obtain ⟨start, width, span, inside⟩ := exists_deviceSpan owned
  exact placed.sparing_driverHalf span gpa inside half

end RingAddresses

namespace ActiveRing.WellPlaced

variable {ring : ActiveRing} {gpa : UInt64}

/-- The driver's half lies in the ring. -/
theorem inSpan_of_driverHalf (wellPlaced : ring.WellPlaced)
    (half : ring.addresses.DriverHalf gpa) : InSpan ring.address ring.totalSize.toNat gpa := by
  have hstart := wellPlaced.toNat_descriptors
  have hend := wellPlaced.used_end
  obtain ⟨_, _, havailable, hused, _⟩ := wellPlaced.placed
  unfold RingAddresses.DriverHalf at half
  unfold InSpan at half ⊢
  omega

/-- The index and the elements of the used ring lie in the ring. -/
theorem inSpan_of_usedHalf (wellPlaced : ring.WellPlaced)
    (half : ring.addresses.UsedHalf gpa) : InSpan ring.address ring.totalSize.toNat gpa := by
  have hstart := wellPlaced.toNat_descriptors
  have hend := wellPlaced.used_end
  have hindex := wellPlaced.placed.toNat_usedIndex
  obtain ⟨_, _, havailable, hused, _⟩ := wellPlaced.placed
  unfold RingAddresses.UsedHalf at half
  unfold InSpan at half ⊢
  omega

/-- The bytes of the device lie in the ring. -/
theorem inSpan_of_deviceOwned (wellPlaced : ring.WellPlaced)
    (owned : ring.addresses.DeviceOwned gpa) : InSpan ring.address ring.totalSize.toNat gpa := by
  obtain ⟨start, width, span, inside⟩ := RingAddresses.exists_deviceSpan owned
  have hbounds := wellPlaced.placed.deviceSpan_bounds span
  have hstart := wellPlaced.toNat_descriptors
  have hend := wellPlaced.used_end
  obtain ⟨_, _, havailable, hused, _⟩ := wellPlaced.placed
  unfold InSpan at inside ⊢
  omega

end ActiveRing.WellPlaced

namespace Chain

/-- One of the buffers of the chain occupies the address. -/
def Covers (chain : Chain) (gpa : UInt64) : Prop := ∃ segment ∈ chain.segments, segment.Covers gpa

/-- A chain that keeps to the rules. -/
structure WellFormed (queue : Queue) (space : AddressSpace) (chain : Chain) : Prop where
  /-- The chain starts in the table. -/
  inside : chain.head.toUInt32 < queue.count
  /-- Its buffers are those of descriptors that end in the table, no more than there are, of which
  none is indirect. -/
  path : ∃ descriptors, Path (queue.descriptor space) queue.count chain.head descriptors ∧
    descriptors.length ≤ queue.count.toNat ∧
    (∀ descriptor ∈ descriptors, descriptor.isIndirect = false) ∧
    chain.segments = descriptors.map (·.segment)
  /-- The buffers that the device reads come first. -/
  ordered : chain.segments.filter (·.isReadable) ++ chain.segments.filter (·.isWritable) =
    chain.segments
  /-- The buffers have at most 64 KiB. -/
  short : (chain.segments.map (·.length.toNat)).sum ≤ 65536
  /-- Every buffer lies in one region of memory. -/
  ram : Segment.InRam space.memory chain.segments

namespace WellFormed

variable {queue queue' : Queue} {ring ring' : ActiveRing} {space last : AddressSpace} {chain : Chain}

/-- Walking a well-formed chain gives it. -/
theorem walk (wellFormed : chain.WellFormed queue space) (active : queue.ring = some ring) :
    (queue.walk space chain.head ring.count.toNat).1 = .ok chain := by
  obtain ⟨hinside, ⟨descriptors, hpath, hlength, hdirect, hsegments⟩, _, _, _⟩ := wellFormed
  rw [Queue.count_of_active active] at hinside hpath hlength
  rw [Queue.walk_of_path active hpath hinside hdirect hlength, ← hsegments]

/-- A chain stays well-formed as long as nothing is stored in the driver's half of the ring, wherever
the device is in the ring. -/
theorem kept (wellFormed : chain.WellFormed queue space) (active : queue.ring = some ring)
    (active' : queue'.ring = some ring') (same : ring'.toRingGeometry = ring.toRingGeometry)
    (wellPlaced : ring.WellPlaced)
    (writes : AddressSpace.Writes (Sparing ring.addresses.DriverHalf) space last)
    (initial : space.memory.WellFormed) : chain.WellFormed queue' last := by
  obtain ⟨hinside, hpath, hordered, hshort, hram⟩ := wellFormed
  have hcount : queue'.count = queue.count := by
    rw [Queue.count_of_active active, Queue.count_of_active active']
    exact congrArg (·.count) same
  have htable : queue'.descriptor last = queue.descriptor space :=
    funext (Queue.descriptor_kept active active' same wellPlaced writes initial)
  refine ⟨?_, ?_, hordered, hshort, writes.inRam initial hram⟩
  · rwa [hcount]
  · rwa [hcount, htable]

end WellFormed

end Chain

namespace Queue

/-- The driver has published chains from where the device is, each well-formed and with buffers of
its own. -/
structure Pending (queue : Queue) (addresses : RingAddresses) (space : AddressSpace)
    (chains : List Chain) : Prop where
  /-- The index is behind the last head. -/
  index : space.read16 addresses.availableIndex =
    .ok (queue.lastAvailable + UInt16.ofNat chains.length)
  /-- The slots hold the heads. -/
  heads : addresses.Window (fun slot => space.read16 (addresses.availableSlot slot))
    queue.lastAvailable (chains.map (·.head))
  /-- The chains keep to the rules. -/
  wellFormed : ∀ chain ∈ chains, chain.WellFormed queue space
  /-- No two buffers share an address. -/
  apart : (chains.flatMap (·.segments)).Pairwise Segment.Apart
  /-- No buffer reaches into the ring. -/
  outside : ∀ chain ∈ chains, ∀ gpa, chain.Covers gpa →
    ¬InSpan queue.address queue.totalSize.toNat gpa

namespace Pending

variable {queue : Queue} {ring : ActiveRing} {space last : AddressSpace} {chain : Chain}
  {rest chains : List Chain}

/-- The buffers of pending chains lie outside the ring. -/
theorem not_inSpan (pending : queue.Pending ring.addresses space chains)
    (active : queue.ring = some ring) (listed : chain ∈ chains) {gpa : UInt64}
    (covers : chain.Covers gpa) : ¬InSpan ring.address ring.totalSize.toNat gpa := by
  rw [← address_of_active active, ← totalSize_of_active active]
  exact pending.outside chain listed gpa covers

/-- The buffers of pending chains hold none of the device's bytes. -/
theorem not_deviceOwned (pending : queue.Pending ring.addresses space chains)
    (active : queue.ring = some ring) (wellPlaced : ring.WellPlaced) (listed : chain ∈ chains)
    {gpa : UInt64} (covers : chain.Covers gpa) : ¬ring.addresses.DeviceOwned gpa :=
  fun owned => pending.not_inSpan active listed covers (wellPlaced.inSpan_of_deviceOwned owned)

/-- The buffers of one chain share no address with those of a later one. -/
theorem not_covers (pending : queue.Pending ring.addresses space (chain :: rest)) {other : Chain}
    (listed : other ∈ rest) {gpa : UInt64} (covers : chain.Covers gpa) : ¬other.Covers gpa := by
  rintro ⟨second, hsecond, hcovers'⟩
  obtain ⟨first, hfirst, hcovers⟩ := covers
  have hapart := pending.apart
  rw [List.flatMap_cons, List.pairwise_append] at hapart
  exact hapart.2.2 first hfirst second (List.mem_flatMap.2 ⟨other, listed, hsecond⟩) gpa hcovers
    hcovers'

/-- If no chain is pending, there is no work. -/
theorem hasWork_nil (pending : queue.Pending ring.addresses space [])
    (active : queue.ring = some ring) : queue.hasWork space = false := by
  rw [hasWork_of_read active pending.index, lastAvailable_of_active active, List.length_nil,
    add_ofNat_zero, bne_self_eq_false]

/-- Once a chain is taken, the others are pending, if nothing was stored in the driver's half. -/
theorem tail (pending : queue.Pending ring.addresses space (chain :: rest))
    (active : queue.ring = some ring) (served : ring.ServedBy space)
    (writes : AddressSpace.Writes (Sparing ring.addresses.DriverHalf) space last) :
    (queue.withRing ring.advance).Pending ring.addresses last rest := by
  have hplaced := served.wellPlaced.placed
  have hwellFormed := served.faultFree.wellFormed
  have hcursor := lastAvailable_of_active active
  have hadvanced : (queue.withRing ring.advance).ring = some ring.advance := rfl
  have hnext : (queue.withRing ring.advance).lastAvailable =
      ring.lastAvailable + 1 := rfl
  have houtside : ∀ other ∈ rest, ∀ gpa, other.Covers gpa →
      ¬InSpan ring.address ring.totalSize.toNat gpa :=
    fun other listed gpa => pending.not_inSpan active (List.mem_cons_of_mem _ listed)
  obtain ⟨hindex, hheads, hrules, hapart, _⟩ := pending
  refine ⟨?_, ?_, ?_, ?_, houtside⟩
  · rw [hplaced.availableIndex_kept writes hwellFormed, hindex, hcursor, hnext, succ_add_ofNat]
    rfl
  · rw [hcursor] at hheads
    rw [hnext]
    exact hheads.tail.congr hplaced fun slot inside =>
      hplaced.availableSlot_kept writes hwellFormed inside
  · intro other listed
    exact (hrules other (List.mem_cons_of_mem _ listed)).kept active hadvanced rfl
      served.wellPlaced writes hwellFormed
  · rw [List.flatMap_cons, List.pairwise_append] at hapart
    exact hapart.2.1

/-- The first pending chain is taken, and nothing but the event slot is stored. -/
theorem popChain (pending : queue.Pending ring.addresses space (chain :: rest))
    (active : queue.ring = some ring) (served : ring.ServedBy space)
    (short : rest.length + 1 < 65536) :
    ∃ after, queue.popChain space = (.ok (some chain), queue.withRing ring.advance,
        after) ∧ AddressSpace.Writes ring.addresses.EventSpan space after := by
  have hcursor := lastAvailable_of_active active
  have hwork : queue.hasWork space = true := by
    rw [hasWork_of_read active pending.index, hcursor, List.length_cons, bne_iff_ne]
    intro same
    have hnone : ring.lastAvailable + UInt16.ofNat (rest.length + 1) =
        ring.lastAvailable + UInt16.ofNat 0 := same.trans (add_ofNat_zero _).symm
    have hzero := (add_ofNat_inj short (by decide)).1 hnone
    omega
  have hhead := pending.heads.head
  rw [hcursor, served.wellPlaced.slotOf_addresses] at hhead
  have htaken := popChain_of_work active hwork (tryPop_of_read active hhead)
  have hadvanced : (queue.withRing ring.advance).ring = some ring.advance := rfl
  have hwalked := (pending.wellFormed chain List.mem_cons_self).kept active hadvanced rfl
    served.wellPlaced .refl served.faultFree.wellFormed
  have hanswer := congrArg (Except.map some) (hwalked.walk hadvanced)
  have hwrites := writes_popChain active space
  rw [htaken] at hwrites
  refine ⟨_, ?_, hwrites⟩
  rw [htaken]
  exact Prod.ext hanswer rfl

end Pending

end Queue

end Paravirt

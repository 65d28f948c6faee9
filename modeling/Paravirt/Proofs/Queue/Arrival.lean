import Paravirt.Proofs.Queue.Service
import Paravirt.Proofs.Ring.Halves
import Paravirt.Proofs.Ring.Slots

/-!
# The order in which heads arrive

The driver publishes heads by filling slots and moving its index on, and the device takes them from
its own cursor on. As long as the slots of the published window are apart, the device takes exactly
the published heads in their order, wherever the cursor is. They are apart for every window if the
number of descriptors is a power of two. Other numbers are allowed as well: then a window that runs
over the wrap-around of the index may have two entries in one slot, of which the driver itself
overwrites the earlier one.
-/

namespace Paravirt

namespace ActiveRing

variable {ring : ActiveRing} {space : AddressSpace} {start : UInt16}

/-- The heads that the slots of the available ring hold from an index on. -/
def HoldsHeads (ring : ActiveRing) (space : AddressSpace) (start : UInt16)
    (heads : List UInt16) : Prop :=
  ring.addresses.Window (fun slot => space.read16 (ring.addresses.availableSlot slot)) start heads

/-- The driver has published heads from an index on: its own index is behind the last of them, and
the slots hold them, unless two of them share one. -/
structure Offers (ring : ActiveRing) (space : AddressSpace) (start : UInt16)
    (heads : List UInt16) : Prop where
  /-- The index is behind the last head. -/
  index : space.read16 ring.addresses.availableIndex = .ok (start + UInt16.ofNat heads.length)
  /-- The slots hold the heads. -/
  slots : ring.addresses.SlotsApart start heads.length → ring.HoldsHeads space start heads

namespace ServedBy

/-- The driver can fill every slot of the available ring. -/
theorem write16_availableSlot (served : ring.ServedBy space) (index head : UInt16) :
    space.write16 (ring.addresses.availableSlot (ring.addresses.slotOf index)) head =
      (.ok (), space.store (ring.addresses.availableSlot (ring.addresses.slotOf index))
        (LittleEndian.encode16 head)) := by
  have hslot := served.wellPlaced.placed.slotOf_lt index
  exact served.faultFree.write16_eq (served.ram_availableSlot (Nat.le_of_lt hslot)) head

/-- A store of the guest leaves the ring where it is. -/
theorem store (served : ring.ServedBy space) (gpa : UInt64) (bytes : List UInt8) :
    ring.ServedBy (space.store gpa bytes) := by
  have hwrites : AddressSpace.Writes (fun _ _ => True) space (space.store gpa bytes) :=
    AddressSpace.Writes.refl.store trivial (Nat.le_refl _)
  exact served.of_writes hwrites

/-- A head that is stored behind a window makes the window longer. -/
theorem holdsHeads_store (served : ring.ServedBy space) {heads : List UInt16} {head : UInt16}
    (held : ring.HoldsHeads space start heads)
    (apart : ring.addresses.SlotsApart start (heads.length + 1)) :
    ring.HoldsHeads
      (space.store (ring.addresses.availableSlot
        (ring.addresses.slotOf (start + UInt16.ofNat heads.length))) (LittleEndian.encode16 head))
      start (heads ++ [head]) := by
  have hplaced := served.wellPlaced.placed
  have hinside := hplaced.slotOf_lt (start + UInt16.ofNat heads.length)
  have haddress := hplaced.toNat_availableSlot (Nat.le_of_lt hinside)
  refine RingAddresses.Window.append_singleton held hplaced apart ?_ ?_
  · exact served.faultFree.read16_store (served.ram_availableSlot (Nat.le_of_lt hinside)) head
  · intro slot within other
    have hslot := hplaced.toNat_availableSlot (Nat.le_of_lt within)
    have hdistinct : slot.toNat ≠
        (ring.addresses.slotOf (start + UInt16.ofNat heads.length)).toNat :=
      fun same => other (UInt32.toNat_inj.1 same)
    have hfits := (served.ram_availableSlot (Nat.le_of_lt within)).fits
      served.faultFree.wellFormed
    refine AddressSpace.read16_store_of_apart served.faultFree.wellFormed (by omega) ?_
    rw [LittleEndian.length_encode16]
    omega

/-- Storing heads in the slots behind a window succeeds and makes the window longer. -/
theorem storeHeads (served : ring.ServedBy space) {earlier : List UInt16}
    (held : ring.addresses.SlotsApart start earlier.length → ring.HoldsHeads space start earlier)
    (heads : List UInt16) :
    ∃ last, ring.addresses.storeHeads space (start + UInt16.ofNat earlier.length) heads =
        (.ok (start + UInt16.ofNat (earlier ++ heads).length), last) ∧ ring.ServedBy last ∧
      (ring.addresses.SlotsApart start (earlier ++ heads).length →
        ring.HoldsHeads last start (earlier ++ heads)) := by
  induction heads generalizing space earlier with
  | nil => exact ⟨space, by rw [List.append_nil]; rfl, served, by rwa [List.append_nil]⟩
  | cons head rest ih =>
    have hwritten := served.write16_availableSlot (start + UInt16.ofNat earlier.length) head
    have hnext : start + UInt16.ofNat earlier.length + 1 =
        start + UInt16.ofNat (earlier ++ [head]).length := by
      rw [List.length_append, List.length_singleton, add_ofNat_succ]
    have hlonger : ring.addresses.SlotsApart start (earlier ++ [head]).length →
        ring.HoldsHeads
          (space.store (ring.addresses.availableSlot
            (ring.addresses.slotOf (start + UInt16.ofNat earlier.length)))
            (LittleEndian.encode16 head)) start (earlier ++ [head]) := by
      intro apart
      rw [List.length_append, List.length_singleton] at apart
      exact served.holdsHeads_store (held (apart.mono (Nat.le_succ _))) apart
    obtain ⟨last, hstored, hserved, hheld⟩ := ih (served.store _ _) hlonger
    rw [List.append_assoc, List.singleton_append] at hstored hheld
    refine ⟨last, ?_, hserved, hheld⟩
    rw [RingAddresses.storeHeads, ← RingAddresses.slotOf, hwritten, hnext]
    exact hstored

/-- Publishing heads behind those already there succeeds. -/
theorem publishHeads (served : ring.ServedBy space) {earlier : List UInt16}
    (offers : ring.Offers space start earlier) (heads : List UInt16) :
    ∃ last, ring.addresses.publishHeads space heads =
        (.ok (start + UInt16.ofNat (earlier ++ heads).length), last) ∧ ring.ServedBy last ∧
      ring.Offers last start (earlier ++ heads) := by
  obtain ⟨filled, hstored, hserved, hheld⟩ := served.storeHeads offers.slots heads
  have hram := hserved.ram_availableIndex
  have hwritten := hserved.faultFree.write16_eq hram
    (start + UInt16.ofNat (earlier ++ heads).length)
  refine ⟨_, ?_, hserved.store _ _, ⟨hserved.faultFree.read16_store hram _, ?_⟩⟩
  · unfold RingAddresses.publishHeads
    rw [offers.index]
    dsimp only
    rw [hstored]
    dsimp only
    rw [hwritten]
    rfl
  · intro apart
    -- The index stands in front of the slots, so that storing it leaves them alone.
    have hplaced := hserved.wellPlaced.placed
    have hindex := hplaced.toNat_availableIndex
    refine (hheld apart).congr hplaced fun slot inside => ?_
    have hslot := hplaced.toNat_availableSlot (Nat.le_of_lt inside)
    have hfits := (hserved.ram_availableSlot (Nat.le_of_lt inside)).fits
      hserved.faultFree.wellFormed
    refine AddressSpace.read16_store_of_apart hserved.faultFree.wellFormed (by omega) ?_
    rw [LittleEndian.length_encode16]
    omega

/-- Publishing heads batch by batch succeeds. -/
theorem publishBatches (served : ring.ServedBy space) {earlier : List UInt16}
    (offers : ring.Offers space start earlier) (batches : List (List UInt16)) :
    ∃ last, ring.addresses.publishBatches space batches = (.ok (), last) ∧ ring.ServedBy last ∧
      ring.Offers last start (earlier ++ batches.flatten) := by
  induction batches generalizing space earlier with
  | nil => exact ⟨space, rfl, served, by rwa [List.flatten_nil, List.append_nil]⟩
  | cons heads rest ih =>
    obtain ⟨middle, hpublished, hserved, hoffers⟩ := served.publishHeads offers heads
    obtain ⟨last, hrest, hserved', hoffers'⟩ := ih hserved hoffers
    refine ⟨last, ?_, hserved', ?_⟩
    · unfold RingAddresses.publishBatches
      rw [hpublished]
      exact hrest
    · rwa [List.flatten_cons, ← List.append_assoc]

end ServedBy

end ActiveRing

namespace Queue

variable {queue : Queue} {ring : ActiveRing} {space : AddressSpace}

/-- Taking a head gives what its slot holds. -/
theorem tryPop_of_read {head : UInt16} (active : queue.ring = some ring)
    (held : space.read16 (ring.addresses.availableSlot ring.nextSlot) = .ok head) :
    (queue.tryPop space).1 = .ok head := by
  unfold tryPop
  rw [active]
  exact congrArg (Except.mapError DeviceError.ofMemory) held

/-- There is work exactly if the index of the available ring is not where the device is. -/
theorem hasWork_of_read {index : UInt16} (active : queue.ring = some ring)
    (published : space.read16 ring.addresses.availableIndex = .ok index) :
    queue.hasWork space = (index != ring.lastAvailable) := by
  unfold hasWork
  rw [active]
  dsimp only
  unfold ActiveRing.hasWork
  rw [published]

end Queue

namespace RingState

variable {state : RingState} {ring : ActiveRing}

/-- Taking heads moves the device on and changes nothing else. -/
theorem run_replicate_tryPop (active : state.queue.ring = some ring) (taken : Nat) :
    state.run (List.replicate taken (.operation .tryPop)) =
      ⟨state.queue.withRing
        (ring.withCursors (ring.lastAvailable + UInt16.ofNat taken) ring.lastSignalled),
        state.space⟩ := by
  induction taken generalizing state ring with
  | zero =>
    have hring : ring.withCursors ring.lastAvailable ring.lastSignalled = ring := rfl
    rw [add_ofNat_zero, hring, Queue.withRing_of_active active]
    rfl
  | succ taken ih =>
    have hnext : state.next (.operation .tryPop) =
        ⟨state.queue.withRing ring.advance, state.space⟩ := by
      simp only [next, RingOperation.perform, Queue.tryPop_snd active]
    rw [List.replicate_succ, run_cons, hnext, ih (Queue.ring_withRing _ _), ← succ_add_ofNat]
    rfl

section Offered

variable {heads : List UInt16} {taken : Nat} (state : RingState)
  (active : state.queue.ring = some ring)

include active

/-- While heads are taken there is work until all are. -/
theorem hasWork_run_tryPop (offers : ring.Offers state.space ring.lastAvailable heads)
    (short : heads.length < 65536) (within : taken ≤ heads.length) :
    (state.run (List.replicate taken (.operation .tryPop))).queue.hasWork state.space =
      decide (taken < heads.length) := by
  have hwork : (state.run (List.replicate taken (.operation .tryPop))).queue.hasWork state.space =
      (ring.lastAvailable + UInt16.ofNat heads.length !=
        ring.lastAvailable + UInt16.ofNat taken) := by
    rw [run_replicate_tryPop active]
    exact Queue.hasWork_of_read (Queue.ring_withRing _ _) offers.index
  rw [hwork, Bool.eq_iff_iff, bne_iff_ne, decide_eq_true_iff, Ne,
    add_ofNat_inj short (Nat.lt_of_le_of_lt within short)]
  omega

section WellPlaced

variable (wellPlaced : ring.WellPlaced)

include wellPlaced

/-- What is taken next depends on the slot alone. -/
theorem tryPop_run_tryPop :
    ((state.run (List.replicate taken (.operation .tryPop))).queue.tryPop state.space).1 =
      (state.space.read16 (ring.addresses.availableSlot (ring.addresses.slotOf
        (ring.lastAvailable + UInt16.ofNat taken)))).mapError .ofMemory := by
  rw [run_replicate_tryPop active, wellPlaced.slotOf_addresses]
  rfl

/-- Heads whose slots are apart are taken in the order in which they were published. -/
theorem tryPop_of_slotsApart (offers : ring.Offers state.space ring.lastAvailable heads)
    (apart : ring.addresses.SlotsApart ring.lastAvailable heads.length) {head : UInt16}
    (listed : heads[taken]? = some head) :
    ((state.run (List.replicate taken (.operation .tryPop))).queue.tryPop state.space).1 =
      .ok head := by
  have hheld : state.space.read16 (ring.addresses.availableSlot (ring.addresses.slotOf
      (ring.lastAvailable + UInt16.ofNat taken))) = .ok head := offers.slots apart taken head listed
  rw [tryPop_run_tryPop state active wellPlaced, hheld]
  rfl

/-- If different heads are all taken in order, then their slots are apart. -/
theorem slotsApart_of_tryPop (distinct : heads.Nodup)
    (inOrder : ∀ taken head, heads[taken]? = some head →
      ((state.run (List.replicate taken (.operation .tryPop))).queue.tryPop state.space).1 =
        .ok head) :
    ring.addresses.SlotsApart ring.lastAvailable heads.length := by
  intro first second ordered last same
  have hfirst := inOrder first _ (List.getElem?_eq_getElem (by omega))
  have hsecond := inOrder second _ (List.getElem?_eq_getElem last)
  rw [tryPop_run_tryPop state active wellPlaced, same,
    ← tryPop_run_tryPop state active wellPlaced, hsecond] at hfirst
  exact List.pairwise_iff_getElem.1 distinct first second _ last ordered
    (Except.ok.inj hfirst).symm

end WellPlaced

end Offered

/-- Wherever the device is in the available ring, if it has taken all that was published and the
driver publishes no more heads than there are descriptors, then there is work before each of as many
heads is taken and none afterwards. The heads taken are those published, in their order, if the number
of descriptors divides 2^16, the indices stop before the wrap-around, or there are no more of them
than the remainder of 2^16. In no other case are different heads all taken in order. -/
theorem tryPop_publishBatches {space : AddressSpace} (faultFree : space.FaultFree)
    {queue queue' : Queue} {guest : Nat} {pageNumber pageSize : UInt64} {count : UInt32}
    {align : UInt64}
    (setUp : queue.setup guest space pageNumber pageSize count align = (.ok (), queue'))
    {addresses : RingAddresses} (located : queue'.addresses = some addresses)
    (events : List RingEvent) (batches : List (List UInt16)) :
    let state := (⟨queue', space⟩ : RingState).run events
    let cursor := state.queue.lastAvailable
    let heads := batches.flatten
    state.space.read16 addresses.availableIndex = .ok cursor → heads.length ≤ count.toNat →
      ∃ published, addresses.publishBatches state.space batches = (.ok (), published) ∧
        let device (taken : Nat) :=
          (⟨state.queue, published⟩ : RingState).run (List.replicate taken (.operation .tryPop))
        let inOrder := ∀ taken head, heads[taken]? = some head →
          ((device taken).queue.tryPop published).1 = .ok head
        let unbroken := count.toNat ∣ 65536 ∨ cursor.toNat + heads.length ≤ 65536 ∨
          heads.length ≤ 65536 % count.toNat
        (∀ taken ≤ heads.length,
          (device taken).queue.hasWork published = decide (taken < heads.length)) ∧
        (unbroken → inOrder) ∧ (heads.Nodup → inOrder → unbroken) := by
  intro state cursor heads synced bounded
  obtain ⟨ring, active', serves, hring⟩ := serves_of_setup faultFree setUp
  obtain rfl : ring.addresses = addresses := Queue.addresses_eq_of_located active' located
  have hnumber : ring.addresses.count = count := by
    rw [hring, Queue.count_addresses_freshRing]
  obtain ⟨current, active, hserved, haddresses⟩ := (serves.run events).current
  rw [← haddresses] at synced hnumber ⊢
  have hcursor : cursor = current.lastAvailable := Queue.lastAvailable_of_active active
  have hempty : current.Offers state.space current.lastAvailable [] := by
    refine ⟨?_, fun _ => RingAddresses.window_nil _ _ _⟩
    rw [List.length_nil, add_ofNat_zero, ← hcursor]
    exact synced
  obtain ⟨published, hpublished, _, hoffers⟩ := hserved.publishBatches hempty batches
  rw [List.nil_append] at hoffers
  have hplaced := hserved.wellPlaced.placed
  have hsmall : heads.length < 65536 := by
    have hle := hplaced.count_le
    rw [hnumber] at hle
    omega
  have hunbroken : current.addresses.SlotsApart current.lastAvailable heads.length ↔ _ :=
    RingAddresses.slotsApart_iff hplaced (hnumber ▸ bounded)
  rw [hnumber, ← hcursor] at hunbroken
  refine ⟨published, hpublished, ?_, ?_, ?_⟩
  · intro taken within
    exact hasWork_run_tryPop (⟨state.queue, published⟩ : RingState) active hoffers hsmall within
  · intro fits taken head listed
    have hapart := hunbroken.2 fits
    rw [hcursor] at hapart
    exact tryPop_of_slotsApart (⟨state.queue, published⟩ : RingState) active hserved.wellPlaced
      hoffers hapart listed
  · intro distinct inOrder
    rw [← hunbroken, hcursor]
    exact slotsApart_of_tryPop (⟨state.queue, published⟩ : RingState) active hserved.wellPlaced
      distinct inOrder

/-- After heads were taken the driver may store in memory, and the device is where it was. -/
theorem run_tryPop_guestStore (active : state.queue.ring = some ring) {taken : Nat}
    {pops : List RingEvent} (popped : List.replicate taken (.operation .tryPop) = pops)
    (gpa : UInt64) (bytes : List UInt8) :
    state.run (pops ++ [.guestStore gpa bytes]) =
      ⟨state.queue.withRing
        (ring.withCursors (ring.lastAvailable + UInt16.ofNat taken) ring.lastSignalled),
        state.space.store gpa bytes⟩ := by
  rw [← popped, run_append, run_replicate_tryPop active]
  rfl

/-- Three heads that run over the wrap-around of the index on a ring of four descriptors are taken in
order, be they published one after another or together. -/
theorem tryPop_publishBatches_smallRing :
    let start : RingState := ⟨Queue.withRing {} smallRing, { memory := smallMemory }⟩
    let state := start.run (List.replicate 65534 (.operation .tryPop) ++
      [.guestStore 4162 (LittleEndian.encode16 65534)])
    state.queue.lastAvailable = 65534 ∧
      state.space.read16 smallRing.addresses.availableIndex = .ok 65534 ∧
      ∃ published, smallRing.addresses.publishBatches state.space [[3], [1, 0]] =
          (.ok (), published) ∧
        ∀ taken head, [(3 : UInt16), 1, 0][taken]? = some head →
          (((⟨state.queue, published⟩ : RingState).run
            (List.replicate taken (.operation .tryPop))).queue.tryPop published).1 = .ok head := by
  -- No step may unfold the list.
  generalize hpops : List.replicate 65534 (RingEvent.operation .tryPop) = pops
  have hfifo := tryPop_publishBatches (AddressSpace.faultFree_of_build build_smallMemory)
    setup_smallRing rfl (pops ++ [.guestStore 4162 (LittleEndian.encode16 65534)]) [[3], [1, 0]]
  dsimp only at hfifo ⊢
  rw [run_tryPop_guestStore rfl hpops] at hfifo ⊢
  obtain ⟨published, hpublished, _, hordered, _⟩ := hfifo rfl (by decide)
  exact ⟨rfl, rfl, published, hpublished, hordered (Or.inl (by decide))⟩

/-- A ring of three descriptors on the second page of small memory. -/
def threeRing : ActiveRing where
  count := 3
  align := 4
  pageNumber := 1
  pageSize := 4096
  address := 4096
  hostAddress := 0x100001000
  totalSize := 90
  addresses := ⟨3, 4096, 4144, 4156⟩
  guest := 0
  lastAvailable := 0
  lastSignalled := 0

/-- On a ring of three descriptors the indices 65535 and 0 share a slot. Of three heads published from
index 65534 on the second is lost, and the third is taken twice. -/
theorem tryPop_threeRing_repeats :
    let start : RingState := ⟨Queue.withRing {} threeRing, { memory := smallMemory }⟩
    let state := start.run (List.replicate 65534 (.operation .tryPop) ++
      [.guestStore 4146 (LittleEndian.encode16 65534)])
    AddressSpace.FaultFree { memory := smallMemory } ∧
      Queue.setup {} 0 { memory := smallMemory } 1 4096 3 4 =
        (.ok (), Queue.withRing {} threeRing) ∧
      state.queue.lastAvailable = 65534 ∧
      state.space.read16 threeRing.addresses.availableIndex = .ok 65534 ∧
      ∃ published, threeRing.addresses.publishBatches state.space [[0], [1], [2]] =
          (.ok (), published) ∧
        (state.queue.tryPop published).1 = .ok 0 ∧
        ((state.queue.tryPop published).2.tryPop published).1 = .ok 2 ∧
        (((state.queue.tryPop published).2.tryPop published).2.tryPop published).1 = .ok 2 := by
  generalize hpops : List.replicate 65534 (RingEvent.operation .tryPop) = pops
  intro start state
  have hstate : state = ⟨Queue.withRing {} (threeRing.withCursors 65534 0),
      AddressSpace.store { memory := smallMemory } 4146 (LittleEndian.encode16 65534)⟩ :=
    run_tryPop_guestStore rfl hpops _ _
  rw [hstate]
  exact ⟨AddressSpace.faultFree_of_build build_smallMemory, rfl, rfl, rfl, _, rfl, rfl, rfl, rfl⟩

end RingState

end Paravirt

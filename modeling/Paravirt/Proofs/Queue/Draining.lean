import Paravirt.Proofs.Queue.Service
import Paravirt.Proofs.Queue.Walk
import Paravirt.Proofs.Ring.Halves
import Paravirt.Proofs.Ring.Slots

/-!
# Draining the available ring

How much work is pending is the distance modulo 2^16 from the device's cursor to the index that the
driver has published. The device reads that index anew before every chain and stores in the same ring
meanwhile, but never in the driver's half. So while the guest stores nothing, taking chains comes to
an end after exactly as many heads as were pending, each answered by what the table said of it from
the start, chain or refusal, and from then on there is nothing.
-/

namespace Paravirt

/-- The distance from one index to another is what leads there. -/
theorem add_ofNat_toNat_sub (start index : UInt16) :
    start + UInt16.ofNat (index - start).toNat = index := by
  rw [UInt16.ofNat_toNat, UInt16.add_comm, UInt16.sub_add_cancel]

/-- A device that has gone on by nothing stands where it stood. -/
theorem ActiveRing.withCursors_zero (ring : ActiveRing) :
    ring.withCursors (ring.lastAvailable + UInt16.ofNat 0) ring.lastSignalled = ring := by
  rw [add_ofNat_zero]
  rfl

namespace Queue

variable {queue queue' : Queue} {ring ring' : ActiveRing} {space last : AddressSpace}

/-- Without work no chain is taken and nothing changes. -/
theorem popChain_of_idle (idle : queue.hasWork space = false) :
    queue.popChain space = (.ok none, queue, space) := by
  unfold popChain
  rw [idle, if_neg Bool.false_ne_true]

/-- With work the next head is taken and its chain is walked. -/
theorem popChain_of_work {head : UInt16} (active : queue.ring = some ring)
    (work : queue.hasWork space = true) (popped : (queue.tryPop space).1 = .ok head) :
    queue.popChain space =
      (((queue.withRing ring.advance).walk space head ring.count.toNat).1.map some,
        queue.withRing ring.advance,
        ((queue.withRing ring.advance).walk space head ring.count.toNat).2) := by
  have htaken : queue.tryPop space = (.ok head, queue.withRing ring.advance) :=
    Prod.ext popped (tryPop_snd active space)
  unfold popChain
  rw [if_pos work, htaken]
  rfl

/-- Stores outside the driver's half change no descriptor. -/
theorem descriptor_kept (active : queue.ring = some ring) (active' : queue'.ring = some ring')
    (same : ring'.toRingGeometry = ring.toRingGeometry) (wellPlaced : ring.WellPlaced)
    (writes : AddressSpace.Writes (Sparing ring.addresses.DriverHalf) space last)
    (initial : space.memory.WellFormed) (index : UInt16) :
    queue'.descriptor last index = queue.descriptor space index := by
  unfold descriptor
  rw [active, active']
  dsimp only
  rw [same]
  by_cases outside : ring.count ≤ index.toUInt32
  · rw [if_pos outside, if_pos outside]
  · have hinside : index.toNat < ring.addresses.count.toNat := by
      rw [wellPlaced.count_addresses]
      exact toUInt32_lt_iff.1 (UInt32.not_le.1 outside)
    rw [if_neg outside, if_neg outside, wellPlaced.placed.descriptor_kept writes initial hinside]

/-- Walking a chain says the same wherever the device is in the ring, as long as the driver's half
stays. -/
theorem walk_kept (active : queue.ring = some ring) (active' : queue'.ring = some ring')
    (same : ring'.toRingGeometry = ring.toRingGeometry)
    (cycles : queue'.detectCycles = queue.detectCycles) (wellPlaced : ring.WellPlaced)
    (writes : AddressSpace.Writes (Sparing ring.addresses.DriverHalf) space last)
    (initial : space.memory.WellFormed) (head : UInt16) (capacity : Nat) :
    (queue'.walk last head capacity).1 = (queue.walk space head capacity).1 := by
  have htable : queue'.descriptor last = queue.descriptor space :=
    funext (descriptor_kept active active' same wellPlaced writes initial)
  unfold walk
  rw [active, active']
  dsimp only
  rw [same, htable, cycles]
  split
  · rfl
  · split
    · rfl
    · rfl

/-- A chain that was walked starts at the head that was asked for. -/
theorem head_of_walk {head : UInt16} {capacity : Nat} {chain : Chain}
    (active : queue.ring = some ring) (walked : (queue.walk space head capacity).1 = .ok chain) :
    chain.head = head := by
  unfold walk at walked
  rw [active] at walked
  dsimp only at walked
  split at walked
  · cases walked
  · split at walked
    · cases walked
    · cases walked
      rfl

end Queue

/-- The operation takes heads as chains or not at all. -/
def RingOperation.TakesChains : RingOperation → Prop
  | .pop | .tryPop | .popAndWalk _ => False
  | _ => True

namespace RingState

variable {initial state : RingState} {ring : ActiveRing} {taken : Nat} {index : UInt16}

/-- A state that differs from an initial one in that heads were taken and that something was stored
outside the driver's half of the ring. -/
structure Drained (initial : RingState) (ring : ActiveRing) (taken : Nat) (state : RingState) :
    Prop where
  /-- The cursor is past the heads that were taken. -/
  queue : ∃ lastSignalled, state.queue = initial.queue.withRing
    (ring.withCursors (ring.lastAvailable + UInt16.ofNat taken) lastSignalled)
  /-- The driver's half is untouched. -/
  writes : AddressSpace.Writes (Sparing ring.addresses.DriverHalf) initial.space state.space

/-- In the beginning no head was taken. -/
theorem drained_zero (active : initial.queue.ring = some ring) : initial.Drained ring 0 initial := by
  refine ⟨⟨ring.lastSignalled, ?_⟩, .refl⟩
  rw [ActiveRing.withCursors_zero, Queue.withRing_of_active active]

namespace Drained

/-- The cursor is past the heads that were taken. -/
theorem lastAvailable (drained : initial.Drained ring taken state) :
    state.queue.lastAvailable = ring.lastAvailable + UInt16.ofNat taken := by
  obtain ⟨⟨lastSignalled, hqueue⟩, _⟩ := drained
  rw [hqueue]
  rfl

/-- Every operation stores outside the driver's half. -/
theorem writes_next (drained : initial.Drained ring taken state) (wellPlaced : ring.WellPlaced)
    (operation : RingOperation) :
    AddressSpace.Writes (Sparing ring.addresses.DriverHalf) initial.space
      (state.next (.operation operation)).space := by
  obtain ⟨⟨lastSignalled, hqueue⟩, hwrites⟩ := drained
  have hactive : state.queue.ring = _ := congrArg (·.ring) hqueue
  have hstep := RingOperation.writes_perform hactive (wellPlaced.withCursors _ _) state.space
    operation
  exact hwrites.trans (hstep.mono fun start width here =>
    wellPlaced.placed.sparing_driverHalf (operation.deviceSpan_of_span here))

/-- An operation that takes no head leaves the cursor. -/
theorem next_of_keeps (drained : initial.Drained ring taken state)
    (wellPlaced : ring.WellPlaced) {operation : RingOperation}
    (takesChains : operation.TakesChains) (other : operation ≠ .popChain) :
    initial.Drained ring taken (state.next (.operation operation)) := by
  refine ⟨?_, drained.writes_next wellPlaced operation⟩
  obtain ⟨⟨lastSignalled, hqueue⟩, _⟩ := drained
  cases operation with
  | pop => exact takesChains.elim
  | tryPop => exact takesChains.elim
  | popAndWalk out => exact takesChains.elim
  | popChain => exact absurd rfl other
  | descriptor index => exact ⟨lastSignalled, hqueue⟩
  | hasWork => exact ⟨lastSignalled, hqueue⟩
  | walkInto head out => exact ⟨lastSignalled, hqueue⟩
  | publishUsed element => exact ⟨lastSignalled, hqueue⟩
  | updateAvailableEvent => exact ⟨lastSignalled, hqueue⟩
  | shouldNotify =>
    simp only [next, RingOperation.perform]
    rw [hqueue, Queue.shouldNotify_of_active rfl]
    split
    · exact ⟨lastSignalled, rfl⟩
    · rename_i signalled _
      exact ⟨signalled, rfl⟩

section Served

variable (active : initial.queue.ring = some ring) (served : ring.ServedBy initial.space)
  (published : initial.space.read16 ring.addresses.availableIndex = .ok index)

include served published

/-- There is work until as many heads were taken as were pending. -/
theorem hasWork (drained : initial.Drained ring taken state)
    (within : taken ≤ (index - ring.lastAvailable).toNat) :
    state.queue.hasWork state.space = decide (taken < (index - ring.lastAvailable).toNat) := by
  obtain ⟨⟨lastSignalled, hqueue⟩, hwrites⟩ := drained
  have hplaced := served.wellPlaced.placed
  have hindex := (hplaced.availableIndex_kept hwrites served.faultFree.wellFormed).trans published
  have hshort := (index - ring.lastAvailable).toNat_lt
  have hwork : state.queue.hasWork state.space =
      (index != ring.lastAvailable + UInt16.ofNat taken) := by
    rw [hqueue]
    simp only [Queue.hasWork, Queue.ring_withRing, ActiveRing.hasWork,
      ActiveRing.toRingGeometry_withCursors, hindex, ActiveRing.lastAvailable_withCursors]
  have hreached : index = ring.lastAvailable + UInt16.ofNat taken ↔
      taken = (index - ring.lastAvailable).toNat := by
    conv => lhs; lhs; rw [← add_ofNat_toNat_sub ring.lastAvailable index]
    rw [add_ofNat_inj hshort (Nat.lt_of_le_of_lt within hshort), eq_comm]
  rw [hwork, Bool.eq_iff_iff, bne_iff_ne, decide_eq_true_iff, Ne, hreached]
  omega

/-- After as many heads as were pending nothing is taken any more. -/
theorem popChain_idle
    (drained : initial.Drained ring (index - ring.lastAvailable).toNat state) :
    state.queue.popChain state.space = (.ok none, state.queue, state.space) := by
  refine Queue.popChain_of_idle ?_
  rw [drained.hasWork served published (Nat.le_refl _), decide_eq_false (Nat.lt_irrefl _)]

include active

/-- While heads are pending, the next chain is that of the next head, as the driver's half says of it
from the start. -/
theorem popChain_pending (drained : initial.Drained ring taken state)
    (pending : taken < (index - ring.lastAvailable).toNat) :
    ∃ head, initial.space.read16 (ring.addresses.availableSlot
          (ring.addresses.slotOf (ring.lastAvailable + UInt16.ofNat taken))) = .ok head ∧
      (state.queue.popChain state.space).1 =
        (initial.queue.walk initial.space head ring.count.toNat).1.map some ∧
      initial.Drained ring (taken + 1) (state.next (.operation .popChain)) := by
  have hplaced := served.wellPlaced.placed
  have hwellFormed := served.faultFree.wellFormed
  have hslot := hplaced.slotOf_lt (ring.lastAvailable + UInt16.ofNat taken)
  have hread := served.faultFree.read16_eq (served.ram_availableSlot (Nat.le_of_lt hslot))
  refine ⟨_, hread, ?_⟩
  generalize LittleEndian.decode16 _ = head at hread ⊢
  have hlater := drained.writes_next served.wellPlaced .popChain
  have hwork := drained.hasWork served published (Nat.le_of_lt pending)
  rw [decide_eq_true pending] at hwork
  obtain ⟨⟨lastSignalled, hqueue⟩, hwrites⟩ := drained
  have hactive : state.queue.ring = some (ring.withCursors (ring.lastAvailable + UInt16.ofNat taken)
      lastSignalled) := congrArg (·.ring) hqueue
  have hpopped : (state.queue.tryPop state.space).1 = .ok head := by
    have hkept := (hplaced.availableSlot_kept hwrites hwellFormed hslot).trans hread
    rw [served.wellPlaced.slotOf_addresses] at hkept
    rw [hqueue]
    exact congrArg (Except.mapError DeviceError.ofMemory) hkept
  have htaken := Queue.popChain_of_work hactive hwork hpopped
  refine ⟨?_, ⟨lastSignalled, ?_⟩, hlater⟩
  · have hcycles : state.queue.detectCycles = initial.queue.detectCycles := by
      rw [hqueue, Queue.detectCycles_withRing]
    have hafter := Queue.ring_withRing state.queue
      (ring.withCursors (ring.lastAvailable + UInt16.ofNat taken) lastSignalled).advance
    have hwalked := Queue.walk_kept active hafter rfl hcycles served.wellPlaced hwrites hwellFormed
      head ring.count.toNat
    rw [htaken]
    exact congrArg (Except.map some) hwalked
  · simp only [next, RingOperation.perform, htaken]
    rw [hqueue, ← add_ofNat_succ]
    rfl

/-- One operation more takes a head if it takes a chain and heads are pending. -/
theorem next (drained : initial.Drained ring taken state)
    (within : taken ≤ (index - ring.lastAvailable).toNat) {operation : RingOperation}
    (takesChains : operation.TakesChains) :
    initial.Drained ring
      (min (taken + if operation = .popChain then 1 else 0) (index - ring.lastAvailable).toNat)
      (state.next (.operation operation)) := by
  by_cases chain : operation = .popChain
  · subst chain
    rw [if_pos rfl]
    by_cases pending : taken < (index - ring.lastAvailable).toNat
    · obtain ⟨_, _, _, hnext⟩ := drained.popChain_pending active served published pending
      rwa [Nat.min_eq_left pending]
    · obtain rfl : taken = (index - ring.lastAvailable).toNat := by omega
      have hidle := drained.popChain_idle served published
      rw [Nat.min_eq_right (Nat.le_succ _)]
      simpa only [RingState.next, RingOperation.perform, hidle] using drained
  · rw [if_neg chain, Nat.add_zero, Nat.min_eq_left within]
    exact drained.next_of_keeps served.wellPlaced takesChains chain

/-- A run takes a head for every chain that it takes, until none is pending. -/
theorem run (drained : initial.Drained ring taken state)
    (within : taken ≤ (index - ring.lastAvailable).toNat) {operations : List RingOperation}
    (takesChains : ∀ operation ∈ operations, operation.TakesChains) :
    initial.Drained ring
      (min (taken + operations.count .popChain) (index - ring.lastAvailable).toNat)
      (state.run (operations.map .operation)) := by
  induction operations generalizing state taken with
  | nil => rwa [List.count_nil, Nat.add_zero, Nat.min_eq_left within]
  | cons operation rest ih =>
    have hnext := drained.next active served published within
      (takesChains operation List.mem_cons_self)
    have hrest := ih hnext (Nat.min_le_right _ _)
      fun later listed => takesChains later (List.mem_cons_of_mem _ listed)
    have hcount : (operation :: rest).count .popChain =
        rest.count .popChain + if operation = .popChain then 1 else 0 := by
      rw [List.count_cons]
      simp only [beq_iff_eq]
    have htotal : min (taken + (operation :: rest).count .popChain)
        (index - ring.lastAvailable).toNat =
        min (min (taken + if operation = .popChain then 1 else 0)
          (index - ring.lastAvailable).toNat + rest.count .popChain)
          (index - ring.lastAvailable).toNat := by
      rw [hcount]
      omega
    rw [htotal]
    exact hrest

end Served

end Drained

/-- Pending are as many heads as the driver's index is ahead of the device, modulo 2^16. While the
guest stores nothing and the device takes heads as chains only, whatever else it does in between, as
many chains as were pending are taken: each moves the device on by one head and is answered with the
chain at that head or with the refusal of it, as the way from the head through the table decides.
After that there is none, and the device stays where it is. -/
theorem popChain_drains {space : AddressSpace} (faultFree : space.FaultFree)
    {queue queue' : Queue} {guest : Nat} {pageNumber pageSize : UInt64} {count : UInt32}
    {align : UInt64}
    (setUp : queue.setup guest space pageNumber pageSize count align = (.ok (), queue'))
    {addresses : RingAddresses} (located : queue'.addresses = some addresses)
    (events : List RingEvent) :
    let state := (⟨queue', space⟩ : RingState).run events
    ∃ index, state.space.read16 addresses.availableIndex = .ok index ∧
      ∀ operations : List RingOperation, (∀ operation ∈ operations, operation.TakesChains) →
        let now := state.run (operations.map .operation)
        let cursor := state.queue.lastAvailable
        let pending := (index - cursor).toNat
        let taken := operations.count .popChain
        let outcome := (now.queue.popChain now.space).1
        let answer (head : UInt16) := (state.queue.walk state.space head count.toNat).1
        (taken < pending → ∃ head,
          state.space.read16 (addresses.availableSlot
            (addresses.slotOf (cursor + UInt16.ofNat taken))) = .ok head ∧
          Chain.Walked (state.queue.descriptor state.space) count state.queue.detectCycles
            count.toNat head ((answer head).map (·.segments)) ∧
          ((∃ chain, outcome = .ok (some chain) ∧ answer head = .ok chain ∧ chain.head = head) ∨
            ∃ error, outcome = .error error ∧ answer head = .error error ∧ error.RefusesChain) ∧
          now.queue.lastAvailable = cursor + UInt16.ofNat taken ∧
          (now.next (.operation .popChain)).queue.lastAvailable = now.queue.lastAvailable + 1) ∧
        (pending ≤ taken →
          now.queue.popChain now.space = (.ok none, now.queue, now.space)) := by
  intro state
  obtain ⟨ring, active', serves, hring⟩ := serves_of_setup faultFree setUp
  obtain rfl : ring.addresses = addresses := Queue.addresses_eq_of_located active' located
  obtain ⟨current, active, served, haddresses⟩ := (serves.run events).current
  have hcount : current.count = count := by
    rw [← served.wellPlaced.count_addresses, haddresses, hring, Queue.count_addresses_freshRing]
  rw [← haddresses]
  obtain ⟨index, hread⟩ : ∃ index,
      state.space.read16 current.addresses.availableIndex = .ok index :=
    ⟨_, served.faultFree.read16_eq served.ram_availableIndex⟩
  refine ⟨index, hread, ?_⟩
  intro operations takesChains now cursor pending taken outcome answer
  have hcursor : cursor = current.lastAvailable := Queue.lastAvailable_of_active active
  have hpending : pending = (index - current.lastAvailable).toNat :=
    congrArg (fun start => (index - start).toNat) hcursor
  have hdrained := (drained_zero active).run active served hread (Nat.zero_le _) takesChains
  rw [Nat.zero_add, ← hpending] at hdrained
  constructor
  · intro more
    rw [Nat.min_eq_left (Nat.le_of_lt more)] at hdrained
    obtain ⟨head, hhead, houtcome, hnext⟩ :=
      hdrained.popChain_pending active served hread (hpending ▸ more)
    rw [hcount] at houtcome
    have hlater : (now.next (.operation .popChain)).queue.lastAvailable =
        now.queue.lastAvailable + 1 := by
      rw [hnext.lastAvailable, hdrained.lastAvailable, add_ofNat_succ]
    have hpositive := served.wellPlaced.count_pos
    have hwalked := Queue.walked_walk active served.wellPlaced state.space head
      (Nat.ne_of_gt hpositive)
    rw [Nat.min_self, hcount] at hwalked
    refine ⟨head, hcursor ▸ hhead, hwalked, ?_, hcursor ▸ hdrained.lastAvailable, hlater⟩
    cases walked : answer head with
    | ok chain =>
      have hchain : outcome = .ok (some chain) :=
        houtcome.trans (congrArg (Except.map some) walked)
      exact Or.inl ⟨chain, hchain, rfl, Queue.head_of_walk active walked⟩
    | error error =>
      have herror : outcome = .error error :=
        houtcome.trans (congrArg (Except.map some) walked)
      have hserved := ((serves.run events).run (operations.map .operation)).servedInFull
      exact Or.inr ⟨error, herror, rfl, hserved.popChain error herror⟩
  · intro all
    rw [Nat.min_eq_right all, hpending] at hdrained
    exact hdrained.popChain_idle served hread

/-- Two heads are pending on the small ring. The second one is refused, and after that there is none,
although the device has returned a chain and told the driver how far it has come. -/
theorem popChain_drains_smallRing :
    let start : RingState := ⟨Queue.withRing {} smallRing, { memory := smallMemory }⟩
    let state := start.run [.guestStore 4162 [2, 0], .guestStore 4166 [9, 0]]
    let after (operations : List RingOperation) := state.run (operations.map .operation)
    let refused := after [.popChain, .publishUsed ⟨0, 0⟩]
    let drained := after [.popChain, .publishUsed ⟨0, 0⟩, .popChain, .updateAvailableEvent]
    state.space.read16 smallRing.addresses.availableIndex = .ok 2 ∧
      (refused.queue.popChain refused.space).1 = .error (.headOutOfRange 9) ∧
      drained.queue.popChain drained.space = (.ok none, drained.queue, drained.space) := by
  intro start state after refused drained
  have hindex : state.space.read16 smallRing.addresses.availableIndex = .ok 2 := rfl
  obtain ⟨index, hread, hdrains⟩ := popChain_drains
    (AddressSpace.faultFree_of_build build_smallMemory) setup_smallRing rfl
    [.guestStore 4162 [2, 0], .guestStore 4166 [9, 0]]
  obtain rfl : 2 = index := Except.ok.inj (hindex.symm.trans hread)
  have hfirst := hdrains [.popChain, .publishUsed ⟨0, 0⟩] (by simp [RingOperation.TakesChains])
  have hsecond := hdrains [.popChain, .publishUsed ⟨0, 0⟩, .popChain, .updateAvailableEvent]
    (by simp [RingOperation.TakesChains])
  obtain ⟨head, hhead, _, houtcome, _⟩ := hfirst.1 (by decide)
  obtain rfl : 9 = head := Except.ok.inj hhead
  refine ⟨hindex, ?_, hsecond.2 (by decide)⟩
  rcases houtcome with ⟨chain, _, hanswer, _⟩ | ⟨error, hrefused, hanswer, _⟩
  · cases hanswer
  · cases hanswer
    exact hrefused

end RingState

end Paravirt

import Paravirt.Proofs.Queue.Lifecycle

/-!
# Queues with a whole ring and queues without one

A queue is never half set up, although it records guest, geometry and cursors one by one. Whatever
operations it has gone through, on whatever guests and with whatever answers to its mapping queries,
it either records nothing at all, and then every accessor answers zero or nothing, or it records a
ring of an allowed size whose tables lie where the layout puts them and no address of which wraps.
Between setting up and cleaning up only the two cursors of the record move.
-/

namespace Paravirt

namespace Queue

/-- What a queue without a ring records and answers: no guest, no tables, and zero for every
number. -/
structure Unset (queue : Queue) : Prop where
  /-- No guest holds a ring. -/
  guest : queue.guest = none
  /-- There are no tables. -/
  addresses : queue.addresses = none
  /-- Nor are any left in the record. -/
  recorded : queue.geometry.addresses = ⟨0, 0, 0, 0⟩
  /-- There are no descriptors. -/
  count : queue.count = 0
  /-- There is no alignment. -/
  align : queue.align = 0
  /-- There is no page. -/
  pageNumber : queue.pageNumber = 0
  /-- There is no page size. -/
  pageSize : queue.pageSize = 0
  /-- There is no guest-physical address. -/
  address : queue.address = 0
  /-- There is no host-physical address. -/
  hostAddress : queue.hostAddress = 0
  /-- The ring has no size. -/
  totalSize : queue.totalSize = 0
  /-- The device has taken no heads. -/
  lastAvailable : queue.lastAvailable = 0
  /-- The driver was told of nothing. -/
  lastSignalled : queue.lastSignalled = 0

/-- What a queue with a ring records and answers: an allowed size and alignment, the address that
the page gives, and the tables that the layout puts there, with no address beyond 64 bits. -/
structure Whole (queue : Queue) : Prop where
  /-- A guest holds the ring. -/
  guest : queue.guest.isSome = true
  /-- There is a descriptor. -/
  count_pos : 1 ≤ queue.count.toNat
  /-- There are no more descriptors than a ring may have. -/
  count_le : queue.count.toNat ≤ 32768
  /-- The alignment is a power of two. -/
  align : queue.align.toNat.isPowerOfTwo
  /-- The ring starts on the page that was named. -/
  address : queue.address.toNat = queue.pageNumber.toNat * queue.pageSize.toNat
  /-- The size is that of a ring with this count and alignment. -/
  totalSize : queue.totalSize = ringSize queue.count queue.align
  /-- The ring ends at a 64-bit address. -/
  fits : queue.address.toNat + queue.totalSize.toNat < UInt64.size
  /-- The tables are those of the layout at the start of the ring. -/
  addresses : queue.addresses =
    some ((RingLayout.ofAlign queue.count queue.align).addressesAt queue.address)
  /-- These are the tables on record. -/
  recorded : queue.addresses = some queue.geometry.addresses
  /-- No address of a descriptor wraps. -/
  descriptor : ∀ tables, queue.addresses = some tables → ∀ index : UInt16,
    index.toNat < queue.count.toNat →
      (tables.descriptor index).toNat = queue.address.toNat + 16 * index.toNat
  /-- No address of an available slot or of the event slot behind them wraps. -/
  availableSlot : ∀ tables, queue.addresses = some tables → ∀ slot : UInt32,
    slot.toNat ≤ queue.count.toNat → (tables.availableSlot slot).toNat =
      queue.address.toNat + 16 * queue.count.toNat + 4 + 2 * slot.toNat
  /-- No address of a used slot or of the event slot behind them wraps, and the latter ends the
  ring. -/
  usedSlot : ∀ tables, queue.addresses = some tables → ∀ slot : UInt32,
    slot.toNat ≤ queue.count.toNat →
      (tables.usedSlot slot).toNat + 8 * (queue.count.toNat - slot.toNat) + 2 =
        queue.address.toNat + queue.totalSize.toNat

variable {queue : Queue} {ring : ActiveRing}

/-- A queue that was just made records nothing. -/
theorem unset_new (detectCycles : Bool) : ({ detectCycles } : Queue).Unset := by
  constructor <;> rfl

/-- A record can say something in between: a guest and nothing else. That it is never said takes an
argument about the operations. -/
theorem half_set (detectCycles : Bool) (guest : Nat) :
    ¬({ detectCycles, guest := some guest } : Queue).Unset ∧
      ¬({ detectCycles, guest := some guest } : Queue).Whole := by
  constructor
  · intro unset
    cases unset.guest
  · intro whole
    exact Nat.not_succ_le_zero 0 whole.count_pos

/-- A queue with a well-placed ring records and answers what belongs to that ring. -/
theorem whole_of_wellPlaced (active : queue.ring = some ring) (wellPlaced : ring.WellPlaced) :
    queue.Whole := by
  rw [← withRing_of_active active]
  have hplaced := wellPlaced.placed
  have hstart := wellPlaced.toNat_descriptors
  have hend := wellPlaced.used_end
  have havailable := hplaced.available_eq
  have hcount := wellPlaced.count_addresses
  have haddresses : (queue.withRing ring).addresses = some ring.addresses := rfl
  refine ⟨rfl, wellPlaced.count_pos, wellPlaced.count_le, wellPlaced.align, wellPlaced.address,
    wellPlaced.totalSize, wellPlaced.fits, haddresses.trans (congrArg some wellPlaced.addresses),
    haddresses, ?_, ?_, ?_⟩
  · rintro tables located index (inside : index.toNat < ring.count.toNat)
    obtain rfl := addresses_eq_of_located (ring_withRing queue ring) located
    exact (hplaced.toNat_descriptor (hcount ▸ inside)).trans (by rw [hstart]; rfl)
  · rintro tables located slot (inside : slot.toNat ≤ ring.count.toNat)
    obtain rfl := addresses_eq_of_located (ring_withRing queue ring) located
    rw [hplaced.toNat_availableSlot (hcount ▸ inside), havailable, hstart, hcount]
    rfl
  · rintro tables located slot (inside : slot.toNat ≤ ring.count.toNat)
    obtain rfl := addresses_eq_of_located (ring_withRing queue ring) located
    change (ring.addresses.usedSlot slot).toNat + 8 * (ring.count.toNat - slot.toNat) + 2 =
      ring.address.toNat + ring.totalSize.toNat
    rw [hcount] at hend
    rw [hplaced.toNat_usedSlot (hcount ▸ inside)]
    omega

/-- The queue after a series of operations, each of them among any guests. -/
def performEach (queue : Queue) (steps : List (Guests × QueueOperation)) : Queue :=
  steps.foldl (fun queue step => ((⟨queue, step.1⟩ : QueueState).perform step.2).queue) queue

/-- What the parts of a record have to do with one another: without a guest everything else is as in
a new queue, and with one the ring is well placed. -/
structure Settled (queue : Queue) : Prop where
  /-- Without a ring the queue is a new one. -/
  unset : queue.ring = none → queue = { detectCycles := queue.detectCycles }
  /-- A ring is well placed. -/
  wellPlaced : ∀ ring, queue.ring = some ring → ring.WellPlaced

/-- A queue without a ring, as it is made and as cleaning up and failing to set up leave it. -/
theorem settled_new (detectCycles : Bool) : ({ detectCycles } : Queue).Settled :=
  ⟨fun _ => rfl, fun _ active => by cases active⟩

/-- Of a settled queue the ring tells everything but how chains are walked. -/
theorem Settled.eq_of_ring_eq {other : Queue} (settled : queue.Settled) (settled' : other.Settled)
    (same : queue.ring = other.ring) (cycles : queue.detectCycles = other.detectCycles) :
    queue = other := by
  cases active : queue.ring with
  | none => rw [settled.unset active, settled'.unset (same ▸ active), cycles]
  | some ring =>
    have active' : other.ring = some ring := same ▸ active
    rw [← withRing_of_active active, ← withRing_of_active active']
    simp only [withRing, cycles]

end Queue

namespace QueueState

variable {state : QueueState}

/-- No operation changes whether cycles are detected. -/
theorem detectCycles_perform (state : QueueState) (operation : QueueOperation) :
    (state.perform operation).queue.detectCycles = state.queue.detectCycles := by
  cases operation with
  | setup guest pageNumber pageSize count align =>
    simp only [perform, Queue.setupIn, Queue.setup]
    split <;> rfl
  | cleanup => rfl
  | onRing operation =>
    cases active : state.queue.ring with
    | none => rw [perform_onRing_of_unset active]
    | some ring =>
      obtain ⟨lastAvailable, lastSignalled, hqueue, _⟩ :=
        RingOperation.queue_perform active (state.guests.space ring.guest) operation
      rw [perform_onRing_of_active active, hqueue, Queue.detectCycles_withRing]

/-- An operation on the ring moves the cursors and leaves the rest of the record. -/
theorem record_perform_onRing (state : QueueState) (operation : RingOperation) :
    (state.perform (.onRing operation)).queue.guest = state.queue.guest ∧
      (state.perform (.onRing operation)).queue.geometry = state.queue.geometry := by
  cases active : state.queue.ring with
  | none =>
    rw [perform_onRing_of_unset active]
    exact ⟨rfl, rfl⟩
  | some ring =>
    obtain ⟨lastAvailable, lastSignalled, hqueue, _⟩ :=
      RingOperation.queue_perform active (state.guests.space ring.guest) operation
    rw [perform_onRing_of_active active, hqueue, Queue.guest_of_active active,
      Queue.geometry_of_active active]
    exact ⟨rfl, rfl⟩

/-- Every operation leaves a settled queue, whether it succeeds or not. -/
theorem settled_perform (settled : state.queue.Settled) (operation : QueueOperation) :
    (state.perform operation).queue.Settled := by
  refine ⟨?_, wellPlaced_perform settled.wellPlaced operation⟩
  cases operation with
  | setup guest pageNumber pageSize count align =>
    simp only [perform, Queue.setupIn, Queue.setup]
    split
    · exact fun _ => rfl
    · exact fun unset => by cases unset
  | cleanup => exact fun _ => rfl
  | onRing operation =>
    cases active : state.queue.ring with
    | none =>
      rw [perform_onRing_of_unset active]
      exact settled.unset
    | some ring =>
      intro unset
      rw [Queue.ring_eq_none_iff, (record_perform_onRing state operation).1,
        Queue.guest_of_active active] at unset
      cases unset

/-- Without a ring only setting up does anything to a settled queue. -/
theorem perform_of_unset (settled : state.queue.Settled) (unset : state.queue.ring = none)
    {operation : QueueOperation}
    (other : ∀ guest pageNumber pageSize count align,
      operation ≠ .setup guest pageNumber pageSize count align) :
    state.perform operation = state := by
  cases operation with
  | setup guest pageNumber pageSize count align => exact absurd rfl (other _ _ _ _ _)
  | cleanup =>
    obtain ⟨queue, guests⟩ := state
    have hnew : queue = { detectCycles := queue.detectCycles } := settled.unset unset
    rw [hnew]
    rfl
  | onRing operation => exact perform_onRing_of_unset unset operation

end QueueState

namespace Queue

variable {queue : Queue}

/-- A settled queue is settled after any series of operations, and goes on to detect cycles or not
as before. -/
theorem settled_performEach (settled : queue.Settled) (steps : List (Guests × QueueOperation)) :
    (queue.performEach steps).Settled ∧
      (queue.performEach steps).detectCycles = queue.detectCycles := by
  induction steps generalizing queue with
  | nil => exact ⟨settled, rfl⟩
  | cons step rest ih =>
    have hnext : ((⟨queue, step.1⟩ : QueueState).perform step.2).queue.Settled :=
      QueueState.settled_perform settled step.2
    obtain ⟨hsettled, hcycles⟩ := ih hnext
    exact ⟨hsettled, hcycles.trans (QueueState.detectCycles_perform _ step.2)⟩

/-- In every state that a new queue can reach, by any operations with any arguments, among any guests
and with any answers to its mapping queries, it has no ring and nothing of one on record, or a whole
one. From there only setting up and cleaning up change the record but for its cursors, no operation
changes how chains are walked, and without a ring no operation but setting up changes the queue or
any guest. -/
theorem unset_or_whole (detectCycles : Bool) (steps : List (Guests × QueueOperation)) :
    let queue := performEach { detectCycles } steps
    (queue.Unset ∨ queue.Whole) ∧ queue.detectCycles = detectCycles ∧
      ∀ guests operation,
        let after := (⟨queue, guests⟩ : QueueState).perform operation
        after.queue.detectCycles = queue.detectCycles ∧
        (∀ onRing, operation = .onRing onRing →
          after.queue.guest = queue.guest ∧ after.queue.geometry = queue.geometry) ∧
        (queue.guest = none → (∀ guest pageNumber pageSize count align,
          operation ≠ .setup guest pageNumber pageSize count align) → after = ⟨queue, guests⟩) := by
  obtain ⟨hsettled, hcycles⟩ := settled_performEach (settled_new detectCycles) steps
  generalize performEach { detectCycles } steps = queue at hsettled hcycles
  intro queue
  refine ⟨?_, hcycles, fun guests operation => ⟨?_, ?_, ?_⟩⟩
  · cases active : queue.ring with
    | none =>
      have hnew : queue = { detectCycles := queue.detectCycles } := hsettled.unset active
      exact Or.inl (hnew ▸ unset_new queue.detectCycles)
    | some ring => exact Or.inr (whole_of_wellPlaced active (hsettled.wellPlaced ring active))
  · exact QueueState.detectCycles_perform _ operation
  · rintro onRing rfl
    exact QueueState.record_perform_onRing _ onRing
  · intro unset other
    exact QueueState.perform_of_unset hsettled (ring_eq_none_iff.2 unset) other

end Queue

end Paravirt

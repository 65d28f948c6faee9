import Paravirt.Proofs.Queue.Operation
import Paravirt.Queue.Guests

/-!
# The life of a queue among its guests

A queue is set up on one guest after another and cleaned up in between, while the guests store what
they like in their memory and the host limits transfers or overrides mapping queries. Whatever the
order, the memory of every guest stays well-formed and a queue has no ring or a well-placed one.
-/

namespace Paravirt

namespace Guests

/-- Every guest has memory that keeps what building it guarantees. -/
def WellFormed (guests : Guests) : Prop :=
  ∀ guest ∈ guests, guest.space.memory.WellFormed

variable {guests : Guests}

/-- A number that names no guest has an address space without memory. -/
theorem WellFormed.space (wellFormed : guests.WellFormed) (number : Nat) :
    (guests.space number).memory.WellFormed := by
  unfold Guests.space
  cases found : guests[number]? with
  | none => exact ⟨by simp [AddressSpace.empty], by simp [AddressSpace.empty],
      by simp [AddressSpace.empty], List.Pairwise.nil⟩
  | some guest => exact wellFormed guest (List.mem_of_getElem? found)

/-- A guest may be given any other well-formed memory. -/
theorem WellFormed.setSpace (wellFormed : guests.WellFormed) {number : Nat} {space : AddressSpace}
    (given : space.memory.WellFormed) : (guests.setSpace number space).WellFormed := by
  intro guest listed
  obtain ⟨index, inside, rfl⟩ := List.getElem_of_mem listed
  simp only [Guests.setSpace, List.getElem_modify]
  split
  · exact given
  · exact wellFormed _ (List.getElem_mem _)

/-- The space of a guest is the one it was given last, if there is such a guest. -/
theorem space_setSpace_eq (guests : Guests) (number other : Nat) (space : AddressSpace) :
    (guests.setSpace number space).space other =
      if other = number ∧ number < guests.length then space else guests.space other := by
  by_cases present : number < guests.length
  · rw [space_setSpace _ _ _ _ present]
    simp only [present, and_true]
  · have habsent : guests.setSpace number space = guests :=
      List.modify_eq_self (Nat.le_of_not_lt present)
    rw [habsent, if_neg fun here => present here.2]

/-- The space that a guest is given last is the one that stays. -/
theorem setSpace_setSpace (guests : Guests) (number : Nat) (first second : AddressSpace) :
    (guests.setSpace number first).setSpace number second = guests.setSpace number second := by
  unfold setSpace
  rw [List.modify_modify_eq]
  rfl

/-- A guest that is given the space which it has stays as it is. -/
theorem setSpace_space (guests : Guests) (number : Nat) :
    guests.setSpace number (guests.space number) = guests := by
  unfold setSpace
  apply List.ext_getElem (List.length_modify _ _ _)
  intro index _ inside
  rw [List.getElem_modify]
  split
  · rename_i same
    subst same
    simp only [Guests.space, List.getElem?_eq_getElem inside]
  · rfl

end Guests

/-- What changes the memory of a guest as devices reach it, other than a device. -/
inductive GuestEvent where
  /-- The guest stores bytes, anywhere in its memory. -/
  | store (gpa : UInt64) (bytes : List UInt8)
  /-- Reads that start at an address are cut from now on. -/
  | limitReads (gpa : UInt64) (longest : Nat)
  /-- Writes that start at an address are cut from now on. -/
  | limitWrites (gpa : UInt64) (longest : Nat)
  /-- Transfers are no longer cut. -/
  | clearLimits
  /-- Mapping queries have a fixed answer from now on, or none. -/
  | overrideMap (answer : Option (Except MemoryError MappedRegion))

/-- The address space after an event. -/
def GuestEvent.apply (space : AddressSpace) : GuestEvent → AddressSpace
  | .store gpa bytes => space.store gpa bytes
  | .limitReads gpa longest => space.limitReads gpa longest
  | .limitWrites gpa longest => space.limitWrites gpa longest
  | .clearLimits => space.clearLimits
  | .overrideMap answer => { space with mapOverride := answer }

/-- No event spoils memory. -/
theorem GuestEvent.wellFormed_apply {space : AddressSpace} (wellFormed : space.memory.WellFormed)
    (event : GuestEvent) : (event.apply space).memory.WellFormed := by
  cases event with
  | store gpa bytes => exact wellFormed.write gpa bytes
  | limitReads gpa longest => exact wellFormed
  | limitWrites gpa longest => exact wellFormed
  | clearLimits => exact wellFormed
  | overrideMap answer => exact wellFormed

/-- An operation of the device on a queue, with its arguments. -/
inductive QueueOperation where
  /-- Set the queue up on a ring of a guest. -/
  | setup (guest : Nat) (pageNumber pageSize : UInt64) (count : UInt32) (align : UInt64)
  /-- Take the ring away. -/
  | cleanup
  /-- Use the ring. -/
  | onRing (operation : RingOperation)
  deriving DecidableEq

/-- What happens to a queue and its guests, one thing at a time. -/
inductive QueueEvent where
  /-- The device performs an operation. -/
  | operation (operation : QueueOperation)
  /-- A guest or the host changes the memory of a guest. -/
  | guest (number : Nat) (event : GuestEvent)

/-- A queue and the guests that it can be set up on. -/
structure QueueState where
  /-- The queue. -/
  queue : Queue
  /-- The guests. -/
  guests : Guests

namespace QueueState

variable {state : QueueState} {ring : ActiveRing}

/-- The state after an operation. -/
def perform (state : QueueState) : QueueOperation → QueueState
  | .setup guest pageNumber pageSize count align =>
    { state with
      queue := (state.queue.setupIn state.guests guest pageNumber pageSize count align).2 }
  | .cleanup => { state with queue := state.queue.cleanup }
  | .onRing operation =>
    let (_, queue, guests) := state.queue.runOn state.guests fun queue space =>
      ((), operation.perform queue space)
    ⟨queue, guests⟩

/-- The state after one event. -/
def next (state : QueueState) : QueueEvent → QueueState
  | .operation operation => state.perform operation
  | .guest number event =>
    { state with guests := state.guests.setSpace number (event.apply (state.guests.space number)) }

/-- The state after a run. -/
def run (state : QueueState) (events : List QueueEvent) : QueueState :=
  events.foldl next state

/-- A queue that was just made, among its guests. -/
def fresh (detectCycles : Bool) (guests : Guests) : QueueState := ⟨{ detectCycles }, guests⟩

/-- An operation on a ring works on the memory of the guest that holds the ring, and on no other. -/
theorem perform_onRing_of_active (active : state.queue.ring = some ring)
    (operation : RingOperation) : state.perform (.onRing operation) =
      ⟨(operation.perform state.queue (state.guests.space ring.guest)).1,
        state.guests.setSpace ring.guest
          (operation.perform state.queue (state.guests.space ring.guest)).2⟩ := by
  simp only [perform, Queue.runOn, Queue.guest_of_active active]

/-- An operation on a ring does nothing where there is none. -/
theorem perform_onRing_of_unset (unset : state.queue.ring = none) (operation : RingOperation) :
    state.perform (.onRing operation) = state := by
  simp only [perform, Queue.runOn, Queue.ring_eq_none_iff.1 unset,
    RingOperation.perform_of_unset unset]

/-- An operation leaves no ring or a well-placed one. -/
theorem wellPlaced_perform (wellPlaced : ∀ ring, state.queue.ring = some ring → ring.WellPlaced)
    (operation : QueueOperation) :
    ∀ ring, (state.perform operation).queue.ring = some ring → ring.WellPlaced := by
  intro after hafter
  cases operation with
  | setup guest pageNumber pageSize count align => exact Queue.wellPlaced_of_setup hafter
  | cleanup => cases hafter
  | onRing operation =>
    cases active : state.queue.ring with
    | none =>
      rw [perform_onRing_of_unset active] at hafter
      exact wellPlaced after hafter
    | some ring =>
      obtain ⟨lastAvailable, lastSignalled, hqueue, _⟩ :=
        RingOperation.queue_perform active (state.guests.space ring.guest) operation
      rw [perform_onRing_of_active active, hqueue] at hafter
      cases hafter
      exact (wellPlaced ring active).withCursors _ _

/-- What holds at any time: every guest has well-formed memory, and the queue has no ring or a
well-placed one. -/
structure Sound (state : QueueState) : Prop where
  /-- Memory is well-formed. -/
  guests : state.guests.WellFormed
  /-- A ring is well-placed. -/
  wellPlaced : ∀ ring, state.queue.ring = some ring → ring.WellPlaced

namespace Sound

/-- Every operation keeps the state sound. -/
theorem perform (sound : state.Sound) (operation : QueueOperation) :
    (state.perform operation).Sound := by
  refine ⟨?_, wellPlaced_perform sound.wellPlaced operation⟩
  have wellFormed := sound.guests
  cases operation with
  | setup guest pageNumber pageSize count align => exact wellFormed
  | cleanup => exact wellFormed
  | onRing operation =>
    cases active : state.queue.ring with
    | none =>
      rw [perform_onRing_of_unset active]
      exact wellFormed
    | some ring =>
      have hplaced := sound.wellPlaced ring active
      have hwrites := RingOperation.writes_perform active hplaced
        (state.guests.space ring.guest) operation
      rw [perform_onRing_of_active active]
      exact wellFormed.setSpace (hwrites.wellFormed (wellFormed.space _))

/-- Every event keeps the state sound. -/
theorem next (sound : state.Sound) (event : QueueEvent) : (state.next event).Sound := by
  cases event with
  | operation operation => exact sound.perform operation
  | guest number event =>
    have hspace := event.wellFormed_apply (sound.guests.space number)
    exact ⟨sound.guests.setSpace hspace, sound.wellPlaced⟩

/-- Every run keeps the state sound. -/
theorem run (sound : state.Sound) (events : List QueueEvent) : (state.run events).Sound := by
  induction events generalizing state with
  | nil => exact sound
  | cons event rest ih => exact ih (sound.next event)

end Sound

/-- A queue that was just made has no ring yet. -/
theorem sound_fresh (detectCycles : Bool) {guests : Guests} (wellFormed : guests.WellFormed) :
    (fresh detectCycles guests).Sound :=
  ⟨wellFormed, fun _ active => by cases active⟩

end QueueState

end Paravirt

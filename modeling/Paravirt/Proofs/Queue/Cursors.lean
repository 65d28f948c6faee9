import Paravirt.Proofs.Queue.Draining
import Paravirt.Proofs.Queue.Lifecycle

/-!
# The two cursors of a queue

How far the device has come in the available ring counts the heads that it was asked to take, whether
or not they could be read and whether or not their chains were refused. About which used index the
driver was told last changes only when the driver is to be told again. Neither depends on what memory
holds or which transfers fail, so both are said here of any run between one setup and the next.
-/

namespace Paravirt

namespace Queue

variable {queue : Queue} {ring : ActiveRing} {space : AddressSpace}

/-- An available index that cannot be read counts as no work. -/
theorem hasWork_of_unread {error : MemoryError} (active : queue.ring = some ring)
    (unread : space.read16 ring.addresses.availableIndex = .error error) :
    queue.hasWork space = false := by
  simp only [hasWork, active, ActiveRing.hasWork, unread]

/-- Unless both the used index and the event slot can be read, the driver is not told, and the queue
stays as it is. -/
theorem shouldNotify_of_unread {error : MemoryError} (active : queue.ring = some ring)
    (unread : space.read16 ring.addresses.usedIndex = .error error ∨
      space.read16 ring.addresses.usedEvent = .error error) :
    queue.shouldNotify space = (false, queue) := by
  have hquiet : ring.dueSignal space = none := by
    refine Option.eq_none_iff_forall_ne_some.2 fun index due => ?_
    obtain ⟨event, hindex, hevent, -⟩ := ActiveRing.dueSignal_eq_some due
    rcases unread with failed | failed
    · rw [failed] at hindex
      cases hindex
    · rw [failed] at hevent
      cases hevent
  rw [shouldNotify_of_active active, hquiet]

/-- If the driver is not to be told, the queue stays as it is. -/
theorem shouldNotify_of_quiet (quiet : (queue.shouldNotify space).1 = false) :
    (queue.shouldNotify space).2 = queue := by
  unfold shouldNotify at quiet ⊢
  split at quiet
  · rfl
  · split at quiet
    · rfl
    · cases quiet

/-- If the driver is to be told, then of the used index that was read. -/
theorem shouldNotify_of_told (active : queue.ring = some ring)
    (told : (queue.shouldNotify space).1 = true) :
    ∃ index, space.read16 ring.addresses.usedIndex = .ok index ∧
      (queue.shouldNotify space).2 =
        queue.withRing (ring.withCursors ring.lastAvailable index) := by
  rw [shouldNotify_of_active active] at told ⊢
  cases due : ring.dueSignal space with
  | none =>
    rw [due] at told
    cases told
  | some index =>
    obtain ⟨event, hindex, -, -⟩ := ActiveRing.dueSignal_eq_some due
    exact ⟨index, hindex, rfl⟩

end Queue

namespace RingOperation

variable {queue : Queue} {ring : ActiveRing}

/-- Whether an operation takes a head off the available ring, successfully or not. -/
def takesHead (queue : Queue) (space : AddressSpace) : RingOperation → Bool
  | .pop | .tryPop | .popAndWalk _ => true
  | .popChain => queue.hasWork space
  | .descriptor _ | .hasWork | .walkInto _ _ | .publishUsed _ | .updateAvailableEvent
  | .shouldNotify => false

/-- An operation moves the device one slot further if it takes a head, and not at all otherwise. -/
theorem lastAvailable_perform (active : queue.ring = some ring) (space : AddressSpace)
    (operation : RingOperation) : (operation.perform queue space).1.lastAvailable =
      queue.lastAvailable + UInt16.ofNat (operation.takesHead queue space).toNat := by
  have hadvanced : (queue.withRing ring.advance).lastAvailable =
      queue.lastAvailable + UInt16.ofNat true.toNat := by
    rw [Queue.lastAvailable_of_active active]
    rfl
  have hsame : queue.lastAvailable = queue.lastAvailable + UInt16.ofNat false.toNat :=
    (add_ofNat_zero _).symm
  have hpopped := Queue.tryPop_snd active space
  cases operation with
  | descriptor index => exact hsame
  | hasWork => exact hsame
  | walkInto head out => exact hsame
  | publishUsed element => exact hsame
  | updateAvailableEvent => exact hsame
  | tryPop => exact (congrArg Queue.lastAvailable hpopped).trans hadvanced
  | pop =>
    have hqueue := (Queue.pop_snd queue space).trans hpopped
    exact (congrArg Queue.lastAvailable hqueue).trans hadvanced
  | popAndWalk out =>
    have hqueue := (Queue.pop_snd queue space).trans hpopped
    exact (congrArg Queue.lastAvailable hqueue).trans hadvanced
  | popChain =>
    simp only [perform, takesHead, Queue.popChain_queue active space]
    cases queue.hasWork space with
    | true => exact hadvanced
    | false => exact hsame
  | shouldNotify =>
    simp only [perform, Queue.shouldNotify_of_active active]
    split
    · exact hsame
    · exact (Queue.lastAvailable_of_active active).symm.trans hsame

/-- Only the question whether to notify changes about what the driver was told, and only if the
answer is yes. -/
theorem lastSignalled_perform (active : queue.ring = some ring) (space : AddressSpace)
    {operation : RingOperation}
    (changed : (operation.perform queue space).1.lastSignalled ≠ queue.lastSignalled) :
    operation = .shouldNotify ∧ (queue.shouldNotify space).1 = true := by
  obtain ⟨lastAvailable, lastSignalled, hqueue, hkept⟩ := queue_perform active space operation
  have hasked : operation = .shouldNotify := by
    by_contra other
    apply changed
    rw [hqueue, hkept other]
    exact (Queue.lastSignalled_of_active active).symm
  refine ⟨hasked, ?_⟩
  by_contra quiet
  subst hasked
  exact changed (congrArg _ (Queue.shouldNotify_of_quiet (Bool.eq_false_of_not_eq_true quiet)))

end RingOperation

/-- An event that leaves a queue on the ring that it has: anything but setting it up anew and taking
its ring away. -/
def QueueEvent.KeepsRing : QueueEvent → Prop
  | .operation (.setup ..) | .operation .cleanup => False
  | .operation (.onRing _) | .guest _ _ => True

namespace QueueState

variable {state : QueueState} {ring : ActiveRing}

/-- The memory that operations on the ring work on; none where there is no ring. -/
def space (state : QueueState) : AddressSpace :=
  (state.queue.guest.map state.guests.space).getD .empty

/-- Whether the driver has published heads that the device has not taken. -/
def hasWork (state : QueueState) : Bool := state.queue.hasWork state.space

/-- Whether the driver is to be told of what was returned. -/
def notifies (state : QueueState) : Bool := (state.queue.shouldNotify state.space).1

/-- Whether an event takes a head off the available ring, successfully or not. -/
def takesHead (state : QueueState) : QueueEvent → Bool
  | .operation (.onRing operation) => operation.takesHead state.queue state.space
  | .operation (.setup ..) | .operation .cleanup | .guest _ _ => false

/-- How many events of a run take a head. -/
def taken (state : QueueState) : List QueueEvent → Nat
  | [] => 0
  | event :: rest => (state.takesHead event).toNat + (state.next event).taken rest

/-- The memory is that of the guest that holds the ring. -/
theorem space_of_active (active : state.queue.ring = some ring) :
    state.space = state.guests.space ring.guest := by
  rw [space, Queue.guest_of_active active, Option.map_some, Option.getD_some]

/-- An operation leaves of the queue what it makes of it in that memory. -/
theorem queue_perform_onRing (active : state.queue.ring = some ring) (operation : RingOperation) :
    (state.perform (.onRing operation)).queue =
      (operation.perform state.queue state.space).1 := by
  rw [perform_onRing_of_active active, space_of_active active]

/-- An operation that leaves the queue and that memory as they are leaves everything as it is. -/
theorem perform_onRing_of_same (active : state.queue.ring = some ring) {operation : RingOperation}
    (same : operation.perform state.queue state.space = (state.queue, state.space)) :
    state.perform (.onRing operation) = state := by
  rw [space_of_active active] at same
  rw [perform_onRing_of_active active, same, Guests.setSpace_space]

/-- An event that keeps the ring leaves the queue alone or is an operation on the ring. -/
theorem next_cases (active : state.queue.ring = some ring) {event : QueueEvent}
    (keeps : event.KeepsRing) : (∃ number change, event = .guest number change) ∨
      ∃ operation : RingOperation, event = .operation (.onRing operation) ∧
        (state.next event).queue = (operation.perform state.queue state.space).1 := by
  cases event with
  | guest number change => exact Or.inl ⟨number, change, rfl⟩
  | operation operation =>
    cases operation with
    | setup guest pageNumber pageSize count align => exact keeps.elim
    | cleanup => exact keeps.elim
    | onRing operation => exact Or.inr ⟨operation, rfl, queue_perform_onRing active operation⟩

/-- An event that keeps the ring moves no more than the cursors. -/
theorem exists_withCursors_next (active : state.queue.ring = some ring) {event : QueueEvent}
    (keeps : event.KeepsRing) : ∃ lastAvailable lastSignalled,
      (state.next event).queue.ring = some (ring.withCursors lastAvailable lastSignalled) := by
  obtain ⟨number, change, rfl⟩ | ⟨operation, rfl, hqueue⟩ := next_cases active keeps
  · exact ⟨_, _, active⟩
  · obtain ⟨lastAvailable, lastSignalled, hmoved, -⟩ :=
      RingOperation.queue_perform active state.space operation
    exact ⟨lastAvailable, lastSignalled, congrArg (·.ring) (hqueue.trans hmoved)⟩

/-- An event that keeps the ring moves the device one slot further if it takes a head, and not at all
otherwise. -/
theorem lastAvailable_next (active : state.queue.ring = some ring) {event : QueueEvent}
    (keeps : event.KeepsRing) : (state.next event).queue.lastAvailable =
      state.queue.lastAvailable + UInt16.ofNat (state.takesHead event).toNat := by
  obtain ⟨number, change, rfl⟩ | ⟨operation, rfl, hqueue⟩ := next_cases active keeps
  · exact (add_ofNat_zero _).symm
  · rw [hqueue]
    exact RingOperation.lastAvailable_perform active state.space operation

/-- An event that keeps the ring changes about what the driver was told only by telling it again. -/
theorem lastSignalled_next (active : state.queue.ring = some ring) {event : QueueEvent}
    (keeps : event.KeepsRing)
    (changed : (state.next event).queue.lastSignalled ≠ state.queue.lastSignalled) :
    event = .operation (.onRing .shouldNotify) ∧ state.notifies = true := by
  obtain ⟨number, change, rfl⟩ | ⟨operation, rfl, hqueue⟩ := next_cases active keeps
  · exact absurd rfl changed
  · rw [hqueue] at changed
    obtain ⟨rfl, htold⟩ := RingOperation.lastSignalled_perform active state.space changed
    exact ⟨rfl, htold⟩

/-- A run that keeps the ring moves no more than the cursors, and the device by as many slots as
events take a head. -/
theorem exists_withCursors_run (active : state.queue.ring = some ring) {steps : List QueueEvent}
    (keeps : ∀ step ∈ steps, step.KeepsRing) : ∃ lastSignalled,
      (state.run steps).queue.ring = some (ring.withCursors
        (ring.lastAvailable + UInt16.ofNat (state.taken steps)) lastSignalled) := by
  induction steps generalizing state ring with
  | nil =>
    refine ⟨ring.lastSignalled, ?_⟩
    rw [taken, ActiveRing.withCursors_zero]
    exact active
  | cons step rest ih =>
    have hstep := keeps step List.mem_cons_self
    obtain ⟨lastAvailable, lastSignalled, hnext⟩ := exists_withCursors_next active hstep
    have hmoved := lastAvailable_next active hstep
    rw [Queue.lastAvailable_of_active hnext, Queue.lastAvailable_of_active active,
      ActiveRing.lastAvailable_withCursors] at hmoved
    obtain ⟨lastSignalled', hrest⟩ := ih hnext fun event later =>
      keeps event (List.mem_cons_of_mem _ later)
    refine ⟨lastSignalled', ?_⟩
    rw [ActiveRing.lastAvailable_withCursors, hmoved, UInt16.add_assoc, ← UInt16.ofNat_add] at hrest
    exact hrest

/-- What holds of the cursors after a setup and a run that has taken so many heads since, and what
the next event may do to them. -/
structure KeepsCursors (state : QueueState) (addresses : RingAddresses) (taken : Nat) : Prop where
  /-- The ring is still the one that was set up. -/
  ring : state.queue.addresses = some addresses
  /-- The device has come as far as heads were taken. -/
  lastAvailable : state.queue.lastAvailable.toNat = taken % 65536
  /-- About what the driver was told changes only by telling it again. -/
  changes : ∀ event : QueueEvent, event.KeepsRing →
    (state.next event).queue.lastSignalled ≠ state.queue.lastSignalled →
      event = .operation (.onRing .shouldNotify) ∧ state.notifies = true
  /-- The driver is told of the used index that was read. -/
  told : state.notifies = true → ∃ index, state.space.read16 addresses.usedIndex = .ok index ∧
    (state.perform (.onRing .shouldNotify)).queue.lastSignalled = index
  /-- Where the used index or the event slot cannot be read, the driver is not told and nothing
  changes. -/
  silent : ∀ error, state.space.read16 addresses.usedIndex = .error error ∨
      state.space.read16 addresses.usedEvent = .error error →
    state.notifies = false ∧ state.perform (.onRing .shouldNotify) = state
  /-- Where the available index cannot be read, there is no work, none is taken, and asking for it
  changes nothing. -/
  idle : ∀ error, state.space.read16 addresses.availableIndex = .error error →
    state.hasWork = false ∧ state.perform (.onRing .hasWork) = state ∧
      (state.queue.popChain state.space).1 = .ok none ∧
      state.perform (.onRing .popChain) = state

/-- After a setup that succeeds, whatever the queue and the guests were before, every run keeps to
this until the next setup or cleanup, whatever guests store and however transfers are cut. -/
theorem keepsCursors_of_setup {before : QueueState} {guest : Nat}
    {pageNumber pageSize align : UInt64} {count : UInt32}
    (accepted : (before.queue.setupIn before.guests guest pageNumber pageSize count align).1 =
      .ok ()) {steps : List QueueEvent} (keeps : ∀ step ∈ steps, step.KeepsRing) :
    let start := before.perform (.setup guest pageNumber pageSize count align)
    (start.run steps).KeepsCursors
      ((RingLayout.ofAlign count align).addressesAt (pageNumber * pageSize)) (start.taken steps) := by
  intro start
  obtain ⟨ring, hlocated, hfresh, hqueue⟩ := Queue.locate_of_setup (Prod.ext accepted rfl)
  obtain ⟨-, -, hgeometry⟩ := ActiveRing.of_locate hlocated
  have hstart : start.queue.ring = some ring := congrArg (·.ring) hqueue
  obtain ⟨lastSignalled, hrun⟩ := exists_withCursors_run hstart keeps
  have hcame : ring.lastAvailable = 0 := congrArg (·.lastAvailable) hfresh
  have haddresses : ring.addresses =
      (RingLayout.ofAlign count align).addressesAt (pageNumber * pageSize) := by
    rw [hgeometry]
    rfl
  rw [hcame, UInt16.zero_add] at hrun
  rw [← haddresses]
  generalize start.run steps = state at hrun ⊢
  refine ⟨?_, ?_, fun event => lastSignalled_next hrun, ?_, ?_, ?_⟩
  · rw [Queue.addresses_of_active hrun, ActiveRing.toRingGeometry_withCursors]
  · rw [Queue.lastAvailable_of_active hrun]
    exact UInt16.toNat_ofNat'
  · intro told
    obtain ⟨index, hindex, htold⟩ := Queue.shouldNotify_of_told hrun told
    refine ⟨index, hindex, ?_⟩
    rw [queue_perform_onRing hrun, RingOperation.perform, htold]
    rfl
  · intro error unread
    have hquiet := Queue.shouldNotify_of_unread hrun unread
    refine ⟨congrArg (·.1) hquiet, perform_onRing_of_same hrun ?_⟩
    rw [RingOperation.perform, hquiet]
  · intro error unread
    have hidle := Queue.hasWork_of_unread hrun unread
    have hnone := Queue.popChain_of_idle hidle
    refine ⟨hidle, perform_onRing_of_same hrun rfl, congrArg (·.1) hnone,
      perform_onRing_of_same hrun ?_⟩
    rw [RingOperation.perform, hnone]

/-- Three heads are taken after two were published: one whose slot cannot be read, one with its chain
and one that nobody published, while a question for more in between finds nothing. Thereafter neither
the available index nor the used index can be read, and the queue stays where it is. -/
theorem keepsCursors_smallRing :
    let before : QueueState :=
      ⟨Queue.withRing { detectCycles := true } (smallRing.withCursors 7 5),
        [⟨0, "vm", { memory := smallMemory }⟩]⟩
    let steps : List QueueEvent :=
      [.guest 0 (.store 4162 [2, 0]), .guest 0 (.limitReads 4164 1),
        .operation (.onRing .tryPop), .operation (.onRing .popChain),
        .operation (.onRing .popChain), .operation (.onRing .pop),
        .guest 0 (.limitReads 4162 0), .guest 0 (.limitReads 4178 1)]
    let state := (before.perform (.setup 0 1 4096 4 4)).run steps
    (before.queue.setupIn before.guests 0 1 4096 4 4).1 = .ok () ∧
      (∀ step ∈ steps, step.KeepsRing) ∧ state.KeepsCursors smallRing.addresses 3 ∧
      (state.queue.lastAvailable, state.queue.lastSignalled) = (3, 0) ∧
      state.space.read16 smallRing.addresses.availableIndex = .error (.shortRead 4162 2 0) ∧
      state.space.read16 smallRing.addresses.usedIndex = .error (.shortRead 4178 2 1) ∧
      state.hasWork = false ∧ state.notifies = false := by
  intro before steps state
  have haccepted : (before.queue.setupIn before.guests 0 1 4096 4 4).1 = .ok () := rfl
  have hkeeps : ∀ step ∈ steps, step.KeepsRing := by simp [steps, QueueEvent.KeepsRing]
  have htaken : (before.perform (.setup 0 1 4096 4 4)).taken steps = 3 := by decide
  have haddresses : (RingLayout.ofAlign 4 4).addressesAt (1 * 4096) = smallRing.addresses := rfl
  have hcursors := keepsCursors_of_setup haccepted hkeeps
  dsimp only at hcursors
  rw [htaken, haddresses] at hcursors
  have havailable : state.space.read16 smallRing.addresses.availableIndex =
      .error (.shortRead 4162 2 0) := by decide
  have hused : state.space.read16 smallRing.addresses.usedIndex =
      .error (.shortRead 4178 2 1) := by decide
  exact ⟨haccepted, hkeeps, hcursors, by decide, havailable, hused,
    (hcursors.idle _ havailable).1, (hcursors.silent _ (.inl hused)).1⟩

end QueueState

end Paravirt

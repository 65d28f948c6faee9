import Paravirt.Proofs.Queue.Placement
import Paravirt.Queue.Chain
import Paravirt.Queue.Used

/-!
# Operations on a ring, and runs of them

The operations of a device on a queue as data, with one description of what each of them can do: it
moves no more than the two cursors of the ring, and it stores only in the spans that belong to it.
A run is any order of operations and of stores that the guest makes meanwhile. An invariant of a run
is proved by showing that one event keeps it.
-/

namespace Paravirt

namespace ActiveRing

variable {ring : ActiveRing} {space : AddressSpace}

/-- Publishing stores in the used ring, and nothing but an element and the index. -/
theorem writes_publish (wellPlaced : ring.WellPlaced) (space : AddressSpace)
    (element : UsedElement) :
    AddressSpace.Writes ring.addresses.UsedSpan space (ring.publish space element).2 := by
  unfold publish
  cases indexRead : space.read16 ring.addresses.usedIndex with
  | error error => exact .refl
  | ok index =>
    have helement : AddressSpace.Writes ring.addresses.UsedSpan space
        (space.writeAll (ring.addresses.usedSlot (index.toUInt32 % ring.count)) element.encode).2 :=
      AddressSpace.Writes.refl.write
        ((UsedElement.length_encode element).symm ▸ .element _ (wellPlaced.slot_lt index))
    dsimp only
    split
    · rename_i error after stored
      rw [stored] at helement
      exact helement
    · rename_i after stored
      rw [stored] at helement
      exact helement.write (.index : ring.addresses.UsedSpan _ 2)

/-- Telling the driver how far the device has come stores in the event slot. -/
theorem writes_writeAvailableEvent (ring : ActiveRing) (space : AddressSpace) :
    AddressSpace.Writes ring.addresses.EventSpan space (ring.writeAvailableEvent space).2 :=
  AddressSpace.Writes.refl.write (.slot : ring.addresses.EventSpan _ 2)

/-- The driver is to be told about an index that can be read, if the event slot can be read and asks
for it. -/
theorem dueSignal_eq_some {used : UInt16} (due : ring.dueSignal space = some used) :
    ∃ event, space.read16 ring.addresses.usedIndex = .ok used ∧
      space.read16 ring.addresses.usedEvent = .ok event ∧
      needsEvent event used ring.lastSignalled = true := by
  unfold dueSignal at due
  split at due
  · rename_i index event current asked
    split at due
    · rename_i needed
      cases due
      exact ⟨event, current, asked, needed⟩
    · cases due
  · cases due

end ActiveRing

namespace Queue

variable {queue : Queue} {ring : ActiveRing}

/-- Taking a head moves the device one slot further, whether or not the slot can be read. -/
theorem tryPop_snd (active : queue.ring = some ring) (space : AddressSpace) :
    (queue.tryPop space).2 = queue.withRing ring.advance := by
  rw [withRing_advance active, tryPop, active]

/-- Both ways of taking a head leave the same queue. -/
theorem pop_snd (queue : Queue) (space : AddressSpace) :
    (queue.pop space).2 = (queue.tryPop space).2 := by
  unfold pop
  split
  · rename_i head after popped
    rw [popped]
  · rename_i error after popped
    rw [popped]

/-- Walking a chain stores nothing but the event slot. -/
theorem writes_walk (active : queue.ring = some ring) (space : AddressSpace) (head : UInt16)
    (capacity : Nat) :
    AddressSpace.Writes ring.addresses.EventSpan space (queue.walk space head capacity).2 := by
  unfold walk
  rw [active]
  dsimp only
  split
  · exact .refl
  · split
    · exact .refl
    · exact ring.writes_writeAvailableEvent space

/-- Taking a chain moves the device by one slot if there is work, and not at all otherwise. -/
theorem popChain_queue (active : queue.ring = some ring) (space : AddressSpace) :
    (queue.popChain space).2.1 =
      if queue.hasWork space then queue.withRing ring.advance else queue := by
  have hpopped := tryPop_snd active space
  unfold popChain
  split
  · split
    · rename_i error after popped
      rw [popped] at hpopped
      exact hpopped
    · rename_i head after popped
      rw [popped] at hpopped
      exact hpopped
  · rfl

/-- Taking a chain stores nothing but the event slot. -/
theorem writes_popChain (active : queue.ring = some ring) (space : AddressSpace) :
    AddressSpace.Writes ring.addresses.EventSpan space (queue.popChain space).2.2 := by
  have hpopped := tryPop_snd active space
  unfold popChain
  split
  · split
    · exact .refl
    · rename_i head after popped
      rw [popped] at hpopped
      have hactive : after.ring = some ring.advance := congrArg (·.ring) hpopped
      exact writes_walk hactive space head after.count.toNat
  · exact .refl

/-- Asking whether to notify records the used index if the answer is yes. -/
theorem shouldNotify_of_active (active : queue.ring = some ring) (space : AddressSpace) :
    queue.shouldNotify space = match ring.dueSignal space with
      | none => (false, queue)
      | some index =>
        (true, queue.withRing (ring.withCursors ring.lastAvailable index)) := by
  rw [shouldNotify, active]
  dsimp only
  cases ring.dueSignal space with
  | none => rfl
  | some index => exact congrArg (Prod.mk true) (withRing_signalled active index).symm

/-- Where the index of the used ring and the event slot can be read, they decide the answer. -/
theorem shouldNotify_of_read {space : AddressSpace} {index event : UInt16}
    (active : queue.ring = some ring)
    (indexRead : space.read16 ring.addresses.usedIndex = .ok index)
    (eventRead : space.read16 ring.addresses.usedEvent = .ok event) :
    queue.shouldNotify space =
      if needsEvent event index ring.lastSignalled then
        (true, queue.withRing (ring.withCursors ring.lastAvailable index))
      else (false, queue) := by
  rw [shouldNotify_of_active active]
  unfold ActiveRing.dueSignal
  rw [indexRead, eventRead]
  by_cases due : needsEvent event index ring.lastSignalled = true
  · simp only [due, if_true]
  · simp only [due, Bool.false_eq_true, if_false]

end Queue

/-- An operation of the device on a queue that keeps its ring, with its arguments. -/
inductive RingOperation where
  /-- Read a descriptor. -/
  | descriptor (index : UInt16)
  /-- Take the next head, or 0. -/
  | pop
  /-- Take the next head, or fail. -/
  | tryPop
  /-- Ask whether there are heads to take. -/
  | hasWork
  /-- Walk the chain at a head. -/
  | walkInto (head : UInt16) (out : List Segment)
  /-- Take the next head and walk its chain. -/
  | popAndWalk (out : List Segment)
  /-- Take the next chain, if there is one. -/
  | popChain
  /-- Return a completed chain. -/
  | publishUsed (element : UsedElement)
  /-- Tell the driver how far the device has come. -/
  | updateAvailableEvent
  /-- Ask whether the driver is to be told of what was returned. -/
  | shouldNotify
  deriving DecidableEq

namespace RingOperation

/-- What an operation leaves of a queue and of the memory that holds its ring. -/
def perform (queue : Queue) (space : AddressSpace) : RingOperation → Queue × AddressSpace
  | .descriptor _ | .hasWork => (queue, space)
  | .pop => ((queue.pop space).2, space)
  | .tryPop => ((queue.tryPop space).2, space)
  | .walkInto head out => (queue, (queue.walkInto space head out).2)
  | .popAndWalk out => (queue.popAndWalk space out).2
  | .popChain => (queue.popChain space).2
  | .publishUsed element => (queue, (queue.publishUsed space element).2)
  | .updateAvailableEvent => (queue, (queue.updateAvailableEvent space).2)
  | .shouldNotify => ((queue.shouldNotify space).2, space)

/-- The spans in which an operation may store. -/
def span (ring : RingAddresses) : RingOperation → UInt64 → Nat → Prop
  | .publishUsed _ => ring.UsedSpan
  | .walkInto _ _ | .popAndWalk _ | .popChain | .updateAvailableEvent => ring.EventSpan
  | .descriptor _ | .pop | .tryPop | .hasWork | .shouldNotify => fun _ _ => False

/-- Every span of an operation is the device's to write. -/
theorem deviceSpan_of_span {ring : RingAddresses} (operation : RingOperation) {start : UInt64}
    {width : Nat} (here : operation.span ring start width) : ring.DeviceSpan start width := by
  cases operation with
  | publishUsed element => exact Or.inl here
  | walkInto head out => exact Or.inr here
  | popAndWalk out => exact Or.inr here
  | popChain => exact Or.inr here
  | updateAvailableEvent => exact Or.inr here
  | descriptor index => exact here.elim
  | pop => exact here.elim
  | tryPop => exact here.elim
  | hasWork => exact here.elim
  | shouldNotify => exact here.elim

variable {queue : Queue} {ring : ActiveRing}

/-- An operation stores in its own spans only, failed or not. -/
theorem writes_perform (active : queue.ring = some ring) (wellPlaced : ring.WellPlaced)
    (space : AddressSpace) (operation : RingOperation) :
    AddressSpace.Writes (operation.span ring.addresses) space (operation.perform queue space).2 := by
  cases operation with
  | descriptor index => exact .refl
  | pop => exact .refl
  | tryPop => exact .refl
  | hasWork => exact .refl
  | shouldNotify => exact .refl
  | walkInto head out => exact Queue.writes_walk active space head out.length
  | popAndWalk out =>
    have hactive : (queue.pop space).2.ring = some ring.advance := by
      rw [Queue.pop_snd, Queue.tryPop_snd active, Queue.ring_withRing]
    exact Queue.writes_walk hactive space (queue.pop space).1 out.length
  | popChain => exact Queue.writes_popChain active space
  | publishUsed element =>
    simp only [perform, Queue.publishUsed, active]
    exact ActiveRing.writes_publish wellPlaced space element
  | updateAvailableEvent =>
    simp only [perform, Queue.updateAvailableEvent, active]
    exact ring.writes_writeAvailableEvent space

/-- An operation moves the cursors of the ring and leaves the rest of the queue. Only the question
whether to notify moves the cursor of what was signalled. -/
theorem queue_perform (active : queue.ring = some ring) (space : AddressSpace)
    (operation : RingOperation) : ∃ lastAvailable lastSignalled,
      (operation.perform queue space).1 =
        queue.withRing (ring.withCursors lastAvailable lastSignalled) ∧
      (operation ≠ .shouldNotify → lastSignalled = ring.lastSignalled) := by
  have hsame : queue = queue.withRing (ring.withCursors ring.lastAvailable ring.lastSignalled) :=
    (Queue.withRing_of_active active).symm
  have hpopped := Queue.tryPop_snd active space
  cases operation with
  | descriptor index => exact ⟨_, _, hsame, fun _ => rfl⟩
  | hasWork => exact ⟨_, _, hsame, fun _ => rfl⟩
  | walkInto head out => exact ⟨_, _, hsame, fun _ => rfl⟩
  | publishUsed element => exact ⟨_, _, hsame, fun _ => rfl⟩
  | updateAvailableEvent => exact ⟨_, _, hsame, fun _ => rfl⟩
  | pop => exact ⟨_, _, (Queue.pop_snd queue space).trans hpopped, fun _ => rfl⟩
  | tryPop => exact ⟨_, _, hpopped, fun _ => rfl⟩
  | popAndWalk out => exact ⟨_, _, (Queue.pop_snd queue space).trans hpopped, fun _ => rfl⟩
  | popChain =>
    have htaken := Queue.popChain_queue active space
    by_cases work : queue.hasWork space = true
    · rw [if_pos work] at htaken
      exact ⟨_, _, htaken, fun _ => rfl⟩
    · rw [if_neg work] at htaken
      exact ⟨_, _, htaken.trans hsame, fun _ => rfl⟩
  | shouldNotify =>
    simp only [perform, Queue.shouldNotify_of_active active]
    split
    · exact ⟨_, _, hsame, fun other => absurd rfl other⟩
    · exact ⟨_, _, rfl, fun other => absurd rfl other⟩

/-- Without a ring no operation does anything. -/
theorem perform_of_unset (unset : queue.ring = none) (space : AddressSpace)
    (operation : RingOperation) : operation.perform queue space = (queue, space) := by
  cases operation with
  | descriptor index => rfl
  | hasWork => rfl
  | pop => simp [perform, Queue.pop, Queue.tryPop, unset]
  | tryPop => simp [perform, Queue.tryPop, unset]
  | walkInto head out => simp [perform, Queue.walkInto, Queue.walk, unset]
  | popAndWalk out =>
    simp [perform, Queue.popAndWalk, Queue.walkInto, Queue.walk, Queue.pop, Queue.tryPop, unset]
  | popChain => simp [perform, Queue.popChain, Queue.hasWork, unset]
  | publishUsed element => simp [perform, Queue.publishUsed, unset]
  | updateAvailableEvent => simp [perform, Queue.updateAvailableEvent, unset]
  | shouldNotify => simp [perform, Queue.shouldNotify, unset]

end RingOperation

/-- A queue and the guest memory that holds its ring. -/
structure RingState where
  /-- The queue. -/
  queue : Queue
  /-- The memory of the guest. -/
  space : AddressSpace

/-- What happens to a ring, one thing at a time. -/
inductive RingEvent where
  /-- The device performs an operation. -/
  | operation (operation : RingOperation)
  /-- The guest stores bytes, anywhere in its memory. -/
  | guestStore (gpa : UInt64) (bytes : List UInt8)
  deriving DecidableEq

namespace RingState

/-- The state after one event. -/
def next (state : RingState) : RingEvent → RingState
  | .operation operation =>
    let (queue, space) := operation.perform state.queue state.space
    ⟨queue, space⟩
  | .guestStore gpa bytes => { state with space := state.space.store gpa bytes }

/-- The state after a run. -/
def run (state : RingState) (events : List RingEvent) : RingState :=
  events.foldl next state

/-- The events of a run, each with the state in which it happened. -/
def trace (state : RingState) : List RingEvent → List (RingState × RingEvent)
  | [] => []
  | event :: rest => (state, event) :: (state.next event).trace rest

@[simp]
theorem run_cons (state : RingState) (event : RingEvent) (events : List RingEvent) :
    state.run (event :: events) = (state.next event).run events := rfl

/-- A run in two parts goes on where the first part ended. -/
theorem run_append (state : RingState) (first second : List RingEvent) :
    state.run (first ++ second) = (state.run first).run second :=
  List.foldl_append

/-- The events of a run in two parts. -/
theorem trace_append (state : RingState) (first second : List RingEvent) :
    state.trace (first ++ second) = state.trace first ++ (state.run first).trace second := by
  induction first generalizing state with
  | nil => rfl
  | cons event rest ih => rw [List.cons_append, trace, trace, ih, run_cons, List.cons_append]

end RingState

end Paravirt

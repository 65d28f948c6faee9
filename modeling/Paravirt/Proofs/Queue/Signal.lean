import Paravirt.Proofs.Queue.Service

/-!
# Which completions the driver is told about

The index of the used ring and the cursor of the last signal count modulo 2^16. A run is followed by
two counters that never wrap: the entries published so far, and how many of them there were when the
device last decided to tell the driver. The index and the cursor are these counters modulo 2^16
throughout. While fewer than 2^16 entries are published beyond the last signal, the device decides
to tell the driver exactly if the driver asks about one of them. The cursor does not move on a
refusal, so the entries can be that many: after a whole lap the window looks empty, and the driver
is not told even about the entry that was just published.
-/

namespace Paravirt

/-- What the event rule compares, in counters that do not wrap. -/
theorem needsEvent_ofNat {event : UInt16} {published signalled : Nat}
    (ordered : signalled ≤ published) :
    needsEvent event (.ofNat published) (.ofNat signalled) = true ↔
      (event.toNat + 65536 - signalled % 65536) % 65536 < (published - signalled) % 65536 := by
  have hevent := event.toNat_lt
  rw [needsEvent_iff]
  simp only [UInt16.toNat_sub, UInt16.toNat_ofNat']
  omega

/-- While fewer than 2^16 entries are new, an event is due exactly if it names one of them. -/
theorem needsEvent_window {event : UInt16} {published signalled : Nat}
    (ordered : signalled ≤ published) (recent : published - signalled < 65536) :
    needsEvent event (.ofNat published) (.ofNat signalled) = true ↔
      ∃ index, signalled ≤ index ∧ index < published ∧ event = .ofNat index := by
  have hevent := event.toNat_lt
  rw [needsEvent_ofNat ordered]
  constructor
  · intro due
    refine ⟨signalled + (event.toNat + 65536 - signalled % 65536) % 65536, by omega, by omega, ?_⟩
    rw [← UInt16.toNat_inj, UInt16.toNat_ofNat']
    omega
  · rintro ⟨index, hfirst, hlast, rfl⟩
    rw [UInt16.toNat_ofNat']
    omega

/-- The entry that was published last is due unless the new entries are a number of whole laps. -/
theorem needsEvent_last {published signalled : Nat} (ordered : signalled ≤ published)
    (positive : 0 < published) :
    needsEvent (.ofNat (published - 1)) (.ofNat published) (.ofNat signalled) = true ↔
      ¬65536 ∣ published - signalled := by
  rw [needsEvent_ofNat ordered, UInt16.toNat_ofNat', Nat.dvd_iff_mod_eq_zero]
  omega

namespace RingAddresses

variable {ring : RingAddresses} {start : UInt64} {width : Nat}

/-- The event slot of the used ring holds no byte of its index. -/
theorem Placed.usedIndex_apart (placed : ring.Placed) (span : ring.EventSpan start width)
    {index : Nat} (inside : index < 2) :
    ¬InSpan start width (ring.usedIndex + UInt64.ofNat index) := by
  have hindex := placed.toNat_usedIndex
  have hslot := placed.toNat_availableEvent
  obtain ⟨hpositive, _, _, _, hfits⟩ := placed
  cases span with
  | slot => exact not_inSpan_of_apart (by omega) (by omega) inside

/-- Nothing that is the device's holds a byte of the driver's event slot. -/
theorem Placed.usedEvent_apart (placed : ring.Placed) (span : ring.DeviceSpan start width)
    {index : Nat} (inside : index < 2) :
    ¬InSpan start width (ring.usedEvent + UInt64.ofNat index) := by
  have hslot := placed.toNat_usedEvent
  obtain ⟨hlow, _⟩ := placed.deviceSpan_bounds span
  obtain ⟨_, _, _, hused, hfits⟩ := placed
  exact not_inSpan_of_apart (by omega) (by omega) inside

end RingAddresses

/-- Every operation but publishing stores at most in the event slot of the used ring. -/
theorem RingOperation.eventSpan_of_span {ring : RingAddresses} {operation : RingOperation}
    (unpublished : ∀ element, operation ≠ .publishUsed element) {start : UInt64} {width : Nat}
    (here : operation.span ring start width) : ring.EventSpan start width := by
  cases operation with
  | publishUsed element => exact absurd rfl (unpublished element)
  | walkInto | popAndWalk | popChain | updateAvailableEvent => exact here
  | descriptor | pop | tryPop | hasWork | shouldNotify => exact here.elim

namespace ActiveRing

/-- Publishing moves the index of the used ring on by one. -/
theorem ServedBy.publish_usedIndex {ring : ActiveRing} {space : AddressSpace}
    (served : ring.ServedBy space) {index : UInt16}
    (current : space.read16 ring.addresses.usedIndex = .ok index) (element : UsedElement) :
    (ring.publish space element).2.read16 ring.addresses.usedIndex = .ok (index + 1) := by
  have hserved := served.store_element index element
  rw [served.publish_eq current]
  exact hserved.faultFree.read16_store hserved.ram_usedIndex (index + 1)

end ActiveRing

/-- How many entries a device has published, and how many it had when it last decided to tell the
driver. -/
structure SignalTally where
  /-- The entries published. -/
  published : Nat := 0
  /-- The entries that were published at the last signal. -/
  signalled : Nat := 0
  deriving DecidableEq

namespace RingEvent

/-- The guest leaves these bytes alone. -/
def Spares (start : UInt64) (width : Nat) : RingEvent → Prop
  | .operation _ => True
  | .guestStore gpa bytes =>
    ∀ index < width, ¬InSpan gpa bytes.length (start + UInt64.ofNat index)

instance (start : UInt64) (width : Nat) (event : RingEvent) :
    Decidable (event.Spares start width) :=
  match event with
  | .operation _ => isTrue trivial
  | .guestStore gpa bytes => inferInstanceAs (Decidable (∀ index < width,
      ¬InSpan gpa bytes.length (start + UInt64.ofNat index)))

/-- The device publishes an entry. -/
def Publishes : RingEvent → Prop
  | .operation (.publishUsed _) => True
  | _ => False

end RingEvent

namespace RingState

/-- Whether the device decides to tell the driver if it is asked now. -/
def notifies (state : RingState) : Bool := (state.queue.shouldNotify state.space).1

/-- The tally after one more event, which happens in a given state. -/
def record (tally : SignalTally) : RingState × RingEvent → SignalTally
  | (_, .operation (.publishUsed _)) => { tally with published := tally.published + 1 }
  | (state, .operation .shouldNotify) =>
    if state.notifies then { tally with signalled := tally.published } else tally
  | _ => tally

/-- The tally of a run. -/
def tally (state : RingState) (events : List RingEvent) : SignalTally :=
  (state.trace events).foldl record {}

/-- A store of the guest counts for nothing. -/
theorem tally_guestStore (state : RingState) (gpa : UInt64) (bytes : List UInt8)
    (events : List RingEvent) :
    state.tally (.guestStore gpa bytes :: events) =
      (state.next (.guestStore gpa bytes)).tally events := rfl

/-- While the driver is not told and nothing is published the tally stays. -/
theorem record_of_not_publishes {state : RingState} {event : RingEvent} {tally : SignalTally}
    (unpublished : ¬event.Publishes) (quiet : state.notifies = false) :
    record tally (state, event) = tally := by
  cases event with
  | guestStore gpa bytes => rfl
  | operation operation =>
    cases operation with
    | publishUsed element => exact absurd trivial unpublished
    | shouldNotify => rw [record, quiet, if_neg Bool.false_ne_true]
    | _ => rfl

/-- The device publishes elements one by one and after each asks whether to tell the driver. -/
def publishEach (elements : List UsedElement) : List RingEvent :=
  elements.flatMap fun element => [.operation (.publishUsed element), .operation .shouldNotify]

/-- The operations of the device spare what the guest must not touch. -/
theorem spares_publishEach {elements : List UsedElement} {event : RingEvent}
    (listed : event ∈ publishEach elements) {start : UInt64} {width : Nat} :
    event.Spares start width := by
  obtain ⟨element, _, hevent⟩ := List.mem_flatMap.1 listed
  simp only [List.mem_cons, List.not_mem_nil, or_false] at hevent
  rcases hevent with rfl | rfl
  · trivial
  · trivial

/-- No operation of the device touches the event slot of the driver. -/
theorem Serves.usedEvent_operation {state : RingState} {ring : ActiveRing}
    (serves : state.Serves ring) (operation : RingOperation) :
    (state.next (.operation operation)).space.read16 ring.addresses.usedEvent =
      state.space.read16 ring.addresses.usedEvent := by
  obtain ⟨lastAvailable, lastSignalled, active⟩ := serves.active
  have hwellPlaced := serves.served.wellPlaced
  have hplaced := hwellPlaced.placed
  have hwrites := RingOperation.writes_perform active (hwellPlaced.withCursors _ _) state.space
    operation
  exact hwrites.read16_eq serves.served.faultFree.wellFormed
    fun start width here index inside =>
      hplaced.usedEvent_apart (operation.deviceSpan_of_span here) inside

/-- The wrapping counters of a ring agree with a tally. -/
structure Counts (state : RingState) (ring : ActiveRing) (tally : SignalTally) : Prop where
  /-- The ring is in use and served. -/
  serves : state.Serves ring
  /-- The index of the used ring counts the entries. -/
  published : state.space.read16 ring.addresses.usedIndex = .ok (.ofNat tally.published)
  /-- The cursor of the last signal counts the entries at that time. -/
  signalled : state.queue.lastSignalled = .ofNat tally.signalled
  /-- Signals are about entries that are published. -/
  ordered : tally.signalled ≤ tally.published

namespace Counts

variable {state : RingState} {ring : ActiveRing} {tally : SignalTally}

/-- The event slot of the driver decides whether it is told. -/
theorem notifies_eq (counts : state.Counts ring tally) :
    ∃ event, state.space.read16 ring.addresses.usedEvent = .ok event ∧
      state.notifies = needsEvent event (.ofNat tally.published) (.ofNat tally.signalled) := by
  obtain ⟨lastAvailable, lastSignalled, active⟩ := counts.serves.active
  obtain ⟨addresses, index, event, haddresses, hindex, hevent, hnotify⟩ :=
    counts.serves.servedInFull.shouldNotify
  obtain rfl : ring.addresses = addresses := Queue.addresses_eq_of_located active haddresses
  obtain rfl : UInt16.ofNat tally.published = index :=
    Except.ok.inj (counts.published.symm.trans hindex)
  refine ⟨event, hevent, ?_⟩
  rw [← counts.signalled]
  exact hnotify

/-- While fewer than 2^16 entries are new, the driver is told exactly if it asks about one. -/
theorem notifies_window (counts : state.Counts ring tally)
    (recent : tally.published - tally.signalled < 65536) :
    state.notifies = true ↔ ∃ index, tally.signalled ≤ index ∧ index < tally.published ∧
      state.space.read16 ring.addresses.usedEvent = .ok (.ofNat index) := by
  obtain ⟨event, hevent, hnotifies⟩ := counts.notifies_eq
  rw [hnotifies, needsEvent_window counts.ordered recent, hevent]
  simp only [Except.ok.injEq]

/-- A driver that asks about the entry published last is told unless the new entries are a number
of whole laps. -/
theorem notifies_last (counts : state.Counts ring tally) (positive : 0 < tally.published)
    (asked : state.space.read16 ring.addresses.usedEvent = .ok (.ofNat (tally.published - 1))) :
    state.notifies = true ↔ ¬65536 ∣ tally.published - tally.signalled := by
  obtain ⟨event, hevent, hnotifies⟩ := counts.notifies_eq
  obtain rfl : UInt16.ofNat (tally.published - 1) = event :=
    Except.ok.inj (asked.symm.trans hevent)
  rw [hnotifies, needsEvent_last counts.ordered positive]

/-- A store of the guest that spares the index changes neither counter. -/
theorem guestStore (counts : state.Counts ring tally) {gpa : UInt64} {bytes : List UInt8}
    (spared : (RingEvent.guestStore gpa bytes).Spares ring.addresses.usedIndex 2) :
    (state.next (.guestStore gpa bytes)).Counts ring tally := by
  have hwrites : AddressSpace.Writes (fun start width => start = gpa ∧ width = bytes.length)
      state.space (state.space.store gpa bytes) :=
    AddressSpace.Writes.refl.store ⟨rfl, rfl⟩ (Nat.le_refl _)
  have hindex : (state.space.store gpa bytes).read16 ring.addresses.usedIndex =
      state.space.read16 ring.addresses.usedIndex := by
    refine hwrites.read16_eq counts.serves.served.faultFree.wellFormed ?_
    rintro start width ⟨rfl, rfl⟩
    exact spared
  exact ⟨counts.serves.next _, hindex.trans counts.published, counts.signalled, counts.ordered⟩

/-- Publishing counts one entry more. -/
theorem publish (counts : state.Counts ring tally) (element : UsedElement) :
    (state.next (.operation (.publishUsed element))).Counts ring
      { tally with published := tally.published + 1 } := by
  obtain ⟨lastAvailable, lastSignalled, active⟩ := counts.serves.active
  have hpublished := (counts.serves.served.withCursors lastAvailable lastSignalled).publish_usedIndex
    counts.published element
  have hspace : (state.next (.operation (.publishUsed element))).space =
      ((ring.withCursors lastAvailable lastSignalled).publish state.space element).2 := by
    simp only [next, RingOperation.perform, Queue.publishUsed, active]
  refine ⟨counts.serves.next _, ?_, counts.signalled, Nat.le_succ_of_le counts.ordered⟩
  rw [hspace, UInt16.ofNat_add]
  exact hpublished

/-- Being asked moves the cursor of the last signal exactly if the answer is yes. -/
theorem ask (counts : state.Counts ring tally) :
    (state.next (.operation .shouldNotify)).Counts ring
      (if state.notifies then { tally with signalled := tally.published } else tally) := by
  obtain ⟨lastAvailable, lastSignalled, active⟩ := counts.serves.active
  obtain ⟨event, hevent, hnotifies⟩ := counts.notifies_eq
  have hcursor := Queue.lastSignalled_of_active active
  rw [counts.signalled] at hcursor
  have hasked := Queue.shouldNotify_of_read active counts.published hevent
  rw [← hcursor, ← hnotifies] at hasked
  have hserves := counts.serves.next (.operation .shouldNotify)
  by_cases told : state.notifies = true
  · rw [if_pos told] at hasked ⊢
    have hqueue : (state.next (.operation .shouldNotify)).queue.lastSignalled =
        .ofNat tally.published := by
      simp only [next, RingOperation.perform, hasked]
      rfl
    exact ⟨hserves, counts.published, hqueue, Nat.le_refl _⟩
  · rw [if_neg told] at hasked ⊢
    have hqueue : (state.next (.operation .shouldNotify)).queue.lastSignalled =
        .ofNat tally.signalled := by
      simp only [next, RingOperation.perform, hasked]
      exact counts.signalled
    exact ⟨hserves, counts.published, hqueue, counts.ordered⟩

/-- No other operation changes a counter. -/
theorem keep (counts : state.Counts ring tally) {operation : RingOperation}
    (unpublished : ∀ element, operation ≠ .publishUsed element)
    (unasked : operation ≠ .shouldNotify) :
    (state.next (.operation operation)).Counts ring tally := by
  obtain ⟨lastAvailable, lastSignalled, active⟩ := counts.serves.active
  have hwellPlaced := counts.serves.served.wellPlaced
  have hplaced := hwellPlaced.placed
  have hwrites := RingOperation.writes_perform active (hwellPlaced.withCursors _ _) state.space
    operation
  have hindex : (state.next (.operation operation)).space.read16 ring.addresses.usedIndex =
      state.space.read16 ring.addresses.usedIndex :=
    hwrites.read16_eq counts.serves.served.faultFree.wellFormed
      fun start width here index inside =>
        hplaced.usedIndex_apart (operation.eventSpan_of_span unpublished here) inside
  obtain ⟨lastAvailable', lastSignalled', hqueue, hkept⟩ :=
    RingOperation.queue_perform active state.space operation
  have hcursor : (state.next (.operation operation)).queue.lastSignalled =
      state.queue.lastSignalled := by
    simp only [next]
    rw [hqueue, Queue.lastSignalled_of_active active, Queue.lastSignalled_of_active rfl]
    exact hkept unasked
  exact ⟨counts.serves.next _, hindex.trans counts.published, hcursor.trans counts.signalled,
    counts.ordered⟩

/-- Every event that spares the index keeps the counters with the tally. -/
theorem next (counts : state.Counts ring tally) {event : RingEvent}
    (spared : event.Spares ring.addresses.usedIndex 2) :
    (state.next event).Counts ring (record tally (state, event)) := by
  cases event with
  | guestStore gpa bytes => exact counts.guestStore spared
  | operation operation =>
    cases operation with
    | publishUsed element => exact counts.publish element
    | shouldNotify => exact counts.ask
    | _ => exact counts.keep (by simp) (by simp)

/-- A run that spares the index keeps the counters with the tally. -/
theorem run (counts : state.Counts ring tally) {events : List RingEvent}
    (spared : ∀ event ∈ events, event.Spares ring.addresses.usedIndex 2) :
    (state.run events).Counts ring ((state.trace events).foldl record tally) := by
  induction events generalizing state tally with
  | nil => exact counts
  | cons event rest ih =>
    have hnext := counts.next (spared event List.mem_cons_self)
    exact ih hnext fun event listed => spared event (List.mem_cons_of_mem _ listed)

/-- Right after a signal nothing is new, and the driver is not told. -/
theorem notifies_settled (counts : state.Counts ring tally)
    (settled : tally.signalled = tally.published) : state.notifies = false := by
  rw [Bool.eq_false_iff, Ne, counts.notifies_window (by omega)]
  rintro ⟨index, hfirst, hlast, _⟩
  omega

/-- Once nothing is new, nothing is until the device publishes again. -/
theorem run_settled (counts : state.Counts ring tally)
    (settled : tally.signalled = tally.published) {events : List RingEvent}
    (spared : ∀ event ∈ events, event.Spares ring.addresses.usedIndex 2)
    (unpublished : ∀ event ∈ events, ¬event.Publishes) :
    (state.run events).Counts ring tally := by
  induction events generalizing state with
  | nil => exact counts
  | cons event rest ih =>
    have hnext := counts.next (spared event List.mem_cons_self)
    have hrecord : record tally (state, event) = tally :=
      record_of_not_publishes (unpublished event List.mem_cons_self)
        (counts.notifies_settled settled)
    rw [hrecord] at hnext
    exact ih hnext (fun event listed => spared event (List.mem_cons_of_mem _ listed))
      fun event listed => unpublished event (List.mem_cons_of_mem _ listed)

/-- A driver that asks about an entry further on is not told while the device gets there. -/
theorem tally_publishEach (counts : state.Counts ring tally) {target : Nat}
    (asked : state.space.read16 ring.addresses.usedEvent = .ok (.ofNat target))
    {elements : List UsedElement} (ahead : tally.published + elements.length ≤ target)
    (recent : target < tally.signalled + 65536) :
    (state.trace (publishEach elements)).foldl record tally =
        { tally with published := tally.published + elements.length } ∧
      (state.run (publishEach elements)).space.read16 ring.addresses.usedEvent =
        .ok (.ofNat target) := by
  induction elements generalizing state tally with
  | nil => exact ⟨rfl, asked⟩
  | cons element rest ih =>
    rw [List.length_cons] at ahead ⊢
    have hpublished := counts.publish element
    have hslot := (counts.serves.usedEvent_operation (.publishUsed element)).trans asked
    have hquiet : (state.next (.operation (.publishUsed element))).notifies = false := by
      rw [Bool.eq_false_iff, Ne, hpublished.notifies_window (by dsimp only; omega)]
      -- The entry asked about is still to come and less than a lap away from the last signal, so
      -- no published entry shares its index.
      rintro ⟨index, hfirst, hlast, hindex⟩
      have hsame := congrArg UInt16.toNat (Except.ok.inj (hslot.symm.trans hindex))
      rw [UInt16.toNat_ofNat', UInt16.toNat_ofNat'] at hsame
      dsimp only at hfirst hlast
      omega
    have hrecord : record { tally with published := tally.published + 1 }
        (state.next (.operation (.publishUsed element)), .operation .shouldNotify) =
          { tally with published := tally.published + 1 } :=
      record_of_not_publishes id hquiet
    have hasked := hpublished.ask
    rw [hquiet, if_neg Bool.false_ne_true] at hasked
    have hkept := (hpublished.serves.usedEvent_operation .shouldNotify).trans hslot
    obtain ⟨htally, hend⟩ := ih hasked hkept (by dsimp only; omega) recent
    refine ⟨?_, hend⟩
    calc (state.trace (publishEach (element :: rest))).foldl record tally
        = (((state.next (.operation (.publishUsed element))).next
            (.operation .shouldNotify)).trace (publishEach rest)).foldl record
            (record { tally with published := tally.published + 1 }
              (state.next (.operation (.publishUsed element)), .operation .shouldNotify)) := rfl
      _ = { tally with published := tally.published + 1 + rest.length } := by
        rw [hrecord, htally]
      _ = { tally with published := tally.published + (rest.length + 1) } := by
        rw [Nat.add_right_comm, Nat.add_assoc]

/-- After that the device may publish one element more, be it the one about which the driver asks. -/
theorem tally_publishUntil (counts : state.Counts ring tally) {target : Nat}
    (asked : state.space.read16 ring.addresses.usedEvent = .ok (.ofNat target))
    {elements : List UsedElement} (ahead : tally.published + elements.length ≤ target)
    (recent : target < tally.signalled + 65536) (last : UsedElement) :
    (state.trace (publishEach elements ++ [.operation (.publishUsed last)])).foldl record tally =
        { tally with published := tally.published + elements.length + 1 } ∧
      (state.run (publishEach elements ++ [.operation (.publishUsed last)])).space.read16
        ring.addresses.usedEvent = .ok (.ofNat target) := by
  obtain ⟨htally, hslot⟩ := counts.tally_publishEach asked ahead recent
  have hserves := counts.serves.run (publishEach elements)
  constructor
  · rw [trace_append, List.foldl_append, htally]
    rfl
  · rw [run_append]
    exact (hserves.usedEvent_operation (.publishUsed last)).trans hslot

end Counts

/-- Setting up on a ring whose used index is 0 starts both counters at 0. -/
theorem counts_of_setup {space : AddressSpace} (faultFree : space.FaultFree)
    {queue queue' : Queue} {guest : Nat} {pageNumber pageSize : UInt64} {count : UInt32}
    {align : UInt64}
    (setUp : queue.setup guest space pageNumber pageSize count align = (.ok (), queue'))
    {addresses : RingAddresses} (located : queue'.addresses = some addresses)
    (unused : space.read16 addresses.usedIndex = .ok 0) :
    ∃ ring : ActiveRing, ring.addresses = addresses ∧
      (⟨queue', space⟩ : RingState).Counts ring {} := by
  obtain ⟨ring, active, serves, hring⟩ := serves_of_setup faultFree setUp
  have hcursor : queue'.lastSignalled = 0 := by
    rw [Queue.lastSignalled_of_active active, hring]
    rfl
  obtain rfl : ring.addresses = addresses := Queue.addresses_eq_of_located active located
  exact ⟨ring, rfl, serves, unused, hcursor, Nat.le_refl 0⟩

/-- The counters of the small ring start at 0. -/
theorem counts_smallRing :
    (⟨Queue.withRing {} smallRing, { memory := smallMemory }⟩ : RingState).Counts smallRing {} := by
  obtain ⟨ring, active, serves, _⟩ :=
    serves_of_setup (AddressSpace.faultFree_of_build build_smallMemory) setup_smallRing
  obtain rfl : smallRing = ring := Option.some.inj active
  exact ⟨serves, rfl, rfl, Nat.le_refl 0⟩

/-- On the small ring the driver asks about one entry, and the device publishes at most up to that
entry. It asks after every entry but the last whether to tell the driver, and is refused. -/
theorem asked_smallRing {target : Nat} (recent : target < 65536) {elements : List UsedElement}
    (ahead : elements.length ≤ target) (last : UsedElement) :
    let start : RingState := ⟨Queue.withRing {} smallRing, { memory := smallMemory }⟩
    let events : List RingEvent := .guestStore 4172 (LittleEndian.encode16 (.ofNat target)) ::
      (publishEach elements ++ [.operation (.publishUsed last)])
    (∀ event ∈ events, event.Spares smallRing.addresses.usedIndex 2) ∧
      start.tally events = ⟨elements.length + 1, 0⟩ ∧
      (start.run events).space.read16 smallRing.addresses.usedEvent = .ok (.ofNat target) := by
  intro start events
  have hstore : (RingEvent.guestStore 4172 (LittleEndian.encode16 (.ofNat target))).Spares
      smallRing.addresses.usedIndex 2 := by
    simp only [RingEvent.Spares, LittleEndian.length_encode16]
    decide
  have hspared : ∀ event ∈ events, event.Spares smallRing.addresses.usedIndex 2 := by
    intro event listed
    rcases List.mem_cons.1 listed with rfl | later
    · exact hstore
    · rcases List.mem_append.1 later with published | last
      · exact spares_publishEach published
      · rw [List.mem_singleton.1 last]
        trivial
  have hserved := counts_smallRing.serves.served
  have hslot := hserved.faultFree.read16_store hserved.ram_usedEvent (.ofNat target)
  obtain ⟨htally, hkept⟩ := (counts_smallRing.guestStore hstore).tally_publishUntil hslot
    (by rwa [Nat.zero_add]) (by rwa [Nat.zero_add]) last
  refine ⟨hspared, ?_, ?_⟩
  · rw [tally_guestStore, tally, htally, Nat.zero_add]
  · rw [run_cons, hkept]

/-- After every run in which the guest spares the used index, that index and the cursor of the last
signal are the tally modulo 2^16. If fewer than 2^16 entries are new, the driver is told exactly if
it asks about one of them, and after that not again before the device publishes. -/
theorem notifies_exact {space : AddressSpace} (faultFree : space.FaultFree)
    {queue queue' : Queue} {guest : Nat} {pageNumber pageSize : UInt64} {count : UInt32}
    {align : UInt64}
    (setUp : queue.setup guest space pageNumber pageSize count align = (.ok (), queue'))
    {addresses : RingAddresses} (located : queue'.addresses = some addresses)
    (unused : space.read16 addresses.usedIndex = .ok 0) {events : List RingEvent}
    (spared : ∀ event ∈ events, event.Spares addresses.usedIndex 2) :
    let state := (⟨queue', space⟩ : RingState).run events
    let tally := (⟨queue', space⟩ : RingState).tally events
    state.space.read16 addresses.usedIndex = .ok (.ofNat tally.published) ∧
      state.queue.lastSignalled = .ofNat tally.signalled ∧
      (tally.published - tally.signalled < 65536 →
        (state.notifies = true ↔ ∃ index, tally.signalled ≤ index ∧ index < tally.published ∧
          state.space.read16 addresses.usedEvent = .ok (.ofNat index))) ∧
      (state.notifies = true → ∀ later : List RingEvent,
        (∀ event ∈ later, event.Spares addresses.usedIndex 2 ∧ ¬event.Publishes) →
          ((state.next (.operation .shouldNotify)).run later).notifies = false) := by
  obtain ⟨ring, rfl, hinitial⟩ := counts_of_setup faultFree setUp located unused
  have hcounts := hinitial.run spared
  refine ⟨hcounts.published, hcounts.signalled, hcounts.notifies_window, ?_⟩
  intro told later quiet
  have hasked := hcounts.ask
  rw [if_pos told] at hasked
  have hlater := hasked.run_settled rfl (fun event listed => (quiet event listed).1)
    fun event listed => (quiet event listed).2
  exact hlater.notifies_settled rfl

/-- A driver that asks about the third entry is told when the device has published three, and not
again when it asks about another entry next. -/
theorem notifies_exact_smallRing :
    let start : RingState := ⟨Queue.withRing {} smallRing, { memory := smallMemory }⟩
    let events : List RingEvent := .guestStore 4172 (LittleEndian.encode16 (.ofNat 2)) ::
      (publishEach [⟨0, 8⟩, ⟨1, 8⟩] ++ [.operation (.publishUsed ⟨2, 8⟩)])
    start.space.read16 smallRing.addresses.usedIndex = .ok 0 ∧
      (∀ event ∈ events, event.Spares smallRing.addresses.usedIndex 2) ∧
      start.tally events = ⟨3, 0⟩ ∧ (start.run events).notifies = true ∧
      (((start.run events).next (.operation .shouldNotify)).run
        [.guestStore 4172 [1, 0]]).notifies = false := by
  intro start events
  have hfaultFree := AddressSpace.faultFree_of_build build_smallMemory
  have hunused : start.space.read16 smallRing.addresses.usedIndex = .ok 0 := rfl
  obtain ⟨hspared, htally, hslot⟩ := asked_smallRing (by decide : 2 < 65536)
    (by decide : [(⟨0, 8⟩ : UsedElement), ⟨1, 8⟩].length ≤ 2) ⟨2, 8⟩
  obtain ⟨_, _, hexact, hquiet⟩ := notifies_exact hfaultFree setup_smallRing rfl hunused hspared
  rw [htally] at hexact
  have htold := (hexact (by decide)).2 ⟨2, by decide, by decide, hslot⟩
  refine ⟨hunused, hspared, htally, htold, hquiet htold _ ?_⟩
  intro event listed
  rw [List.mem_singleton.1 listed]
  exact ⟨by decide, id⟩

/-- If the driver asks about the entry that was published last, then it is told after every run in
which the guest spares the used index, except where the entries since the last signal are a number
of whole laps of the index. -/
theorem notifies_last_iff {space : AddressSpace} (faultFree : space.FaultFree)
    {queue queue' : Queue} {guest : Nat} {pageNumber pageSize : UInt64} {count : UInt32}
    {align : UInt64}
    (setUp : queue.setup guest space pageNumber pageSize count align = (.ok (), queue'))
    {addresses : RingAddresses} (located : queue'.addresses = some addresses)
    (unused : space.read16 addresses.usedIndex = .ok 0) {events : List RingEvent}
    (spared : ∀ event ∈ events, event.Spares addresses.usedIndex 2) :
    let state := (⟨queue', space⟩ : RingState).run events
    let tally := (⟨queue', space⟩ : RingState).tally events
    0 < tally.published →
      state.space.read16 addresses.usedEvent = .ok (.ofNat (tally.published - 1)) →
        (state.notifies = true ↔ ¬65536 ∣ tally.published - tally.signalled) := by
  obtain ⟨ring, rfl, hinitial⟩ := counts_of_setup faultFree setUp located unused
  exact (hinitial.run spared).notifies_last

/-- A driver that asks about the second entry is told when the second one is published. -/
theorem notifies_last_iff_smallRing :
    let start : RingState := ⟨Queue.withRing {} smallRing, { memory := smallMemory }⟩
    let events : List RingEvent := .guestStore 4172 (LittleEndian.encode16 (.ofNat 1)) ::
      (publishEach [⟨3, 8⟩] ++ [.operation (.publishUsed ⟨0, 8⟩)])
    start.space.read16 smallRing.addresses.usedIndex = .ok 0 ∧
      (∀ event ∈ events, event.Spares smallRing.addresses.usedIndex 2) ∧
      start.tally events = ⟨2, 0⟩ ∧
      (start.run events).space.read16 smallRing.addresses.usedEvent = .ok (.ofNat 1) ∧
      (start.run events).notifies = true := by
  intro start events
  have hfaultFree := AddressSpace.faultFree_of_build build_smallMemory
  have hunused : start.space.read16 smallRing.addresses.usedIndex = .ok 0 := rfl
  obtain ⟨hspared, htally, hslot⟩ := asked_smallRing (by decide : 1 < 65536)
    (by decide : [(⟨3, 8⟩ : UsedElement)].length ≤ 1) ⟨0, 8⟩
  have hlast := notifies_last_iff hfaultFree setup_smallRing rfl hunused hspared
  rw [htally] at hlast
  exact ⟨hunused, hspared, htally, hslot, (hlast (by decide) hslot).2 (by decide)⟩

/-- A driver that asks from the start about entry 65535 is not told when it is published: the used
index is back at 0, where the cursor of the last signal is, although the device asked whether to
tell the driver after every entry. -/
theorem lap_not_notified :
    let start : RingState := ⟨Queue.withRing {} smallRing, { memory := smallMemory }⟩
    let events : List RingEvent := .guestStore 4172 (LittleEndian.encode16 (.ofNat 65535)) ::
      (publishEach (List.replicate 65535 ⟨0, 0⟩) ++ [.operation (.publishUsed ⟨0, 0⟩)])
    AddressSpace.FaultFree { memory := smallMemory } ∧
      Queue.setup {} 0 { memory := smallMemory } 1 4096 4 4 =
        (.ok (), Queue.withRing {} smallRing) ∧
      start.space.read16 smallRing.addresses.usedIndex = .ok 0 ∧
      (∀ event ∈ events, event.Spares smallRing.addresses.usedIndex 2) ∧
      (start.tally events).published = 65536 ∧
      (start.run events).space.read16 smallRing.addresses.usedEvent = .ok (.ofNat 65535) ∧
      (start.run events).notifies = false := by
  have hlap : (List.replicate 65535 (⟨0, 0⟩ : UsedElement)).length = 65535 :=
    List.length_replicate
  -- Only the length matters from here on, and no step may unfold the list.
  generalize List.replicate 65535 (⟨0, 0⟩ : UsedElement) = elements at hlap ⊢
  intro start events
  obtain ⟨hspared, htally, hslot⟩ :=
    asked_smallRing (by decide : 65535 < 65536) (Nat.le_of_eq hlap) ⟨0, 0⟩
  rw [hlap] at htally
  have hcounts : (start.run events).Counts smallRing (start.tally events) :=
    counts_smallRing.run hspared
  rw [htally] at hcounts
  have hquiet : (start.run events).notifies = false := by
    rw [Bool.eq_false_iff, Ne, hcounts.notifies_last (by decide) hslot, Decidable.not_not]
    exact Nat.dvd_refl 65536
  refine ⟨AddressSpace.faultFree_of_build build_smallMemory, setup_smallRing, rfl, hspared, ?_,
    hslot, hquiet⟩
  rw [htally]

end RingState

end Paravirt

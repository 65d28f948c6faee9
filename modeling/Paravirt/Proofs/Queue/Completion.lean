import Mathlib.Data.List.Infix
import Paravirt.Proofs.Memory.Span
import Paravirt.Proofs.Queue.Signal
import Paravirt.Proofs.Ring.Halves
import Paravirt.Proofs.Ring.Slots

/-!
# The order in which completions are collected

The device puts a used element in the slot behind those that the driver has not collected and moves
its index on; the driver collects from its own index on until it has come to that of the device. The
slots between the two indices hold exactly the elements that were published and not collected, so
long as there are no more of them than slots. With a power of two of slots this goes on over any
number of laps of the index.
-/

namespace Paravirt

/-- Stores that spare a span byte for byte spare all addresses of the span. -/
theorem RingEvent.sparing_of_spares {start gpa : UInt64} {width : Nat} {bytes : List UInt8}
    (fits : start.toNat + width ≤ UInt64.size)
    (spared : (RingEvent.guestStore gpa bytes).Spares start width) :
    Sparing (InSpan start width) gpa bytes.length := by
  intro address stored inside
  obtain ⟨hafter, hbefore⟩ := inside
  have haddress : start + UInt64.ofNat (address.toNat - start.toNat) = address := by
    rw [← UInt64.toNat_inj, toNat_add_ofNat (by omega)]
    omega
  have hspared := spared (address.toNat - start.toNat) (by omega)
  rw [haddress] at hspared
  exact hspared stored

namespace RingAddresses

variable {ring : RingAddresses} {space : AddressSpace} {slot : UInt32}

/-- The second word of a used element stands behind the first. -/
theorem Placed.toNat_usedSlot_add (placed : ring.Placed) (inside : slot.toNat < ring.count.toNat) :
    (ring.usedSlot slot + 4).toNat = (ring.usedSlot slot).toNat + 4 := by
  have hslot := placed.toNat_usedSlot (Nat.le_of_lt inside)
  obtain ⟨_, _, _, _, hfits⟩ := placed
  exact toNat_add_ofNat (by omega : (ring.usedSlot slot).toNat + 4 < UInt64.size)

/-- A used element is kept by a store that is apart from it. -/
theorem Placed.readUsed_store_of_apart (placed : ring.Placed) (wellFormed : space.memory.WellFormed)
    (inside : slot.toNat < ring.count.toNat) {gpa : UInt64} {bytes : List UInt8}
    (apart : (ring.usedSlot slot).toNat + 8 ≤ gpa.toNat ∨
      gpa.toNat + bytes.length ≤ (ring.usedSlot slot).toNat) :
    ring.readUsed (space.store gpa bytes) slot = ring.readUsed space slot := by
  have hslot := placed.toNat_usedSlot (Nat.le_of_lt inside)
  have hsecond := placed.toNat_usedSlot_add inside
  obtain ⟨_, _, _, _, hfits⟩ := placed
  unfold readUsed
  rw [AddressSpace.read32_store_of_apart wellFormed (by omega) (by omega),
    AddressSpace.read32_store_of_apart wellFormed (by omega) (by omega)]

/-- A used element in memory is read back from where it was stored. -/
theorem readUsed_store (faultFree : space.FaultFree)
    (ram : space.memory.HoldsRam (ring.usedSlot slot) UsedElement.width) (element : UsedElement) :
    ring.readUsed (space.store (ring.usedSlot slot) element.encode) slot = .ok element := by
  have hlength := UsedElement.length_encode element
  have hwrites : AddressSpace.Writes (fun _ _ => True) space
      (space.store (ring.usedSlot slot) element.encode) :=
    AddressSpace.Writes.refl.store trivial (Nat.le_refl _)
  have hstored := faultFree.of_writes hwrites
  have hram : (space.store (ring.usedSlot slot) element.encode).memory.HoldsRam
      (ring.usedSlot slot) (4 + 4) := hwrites.holdsRam faultFree.wellFormed ram
  have hfits := hram.fits hstored.wellFormed
  have hnext : (ring.usedSlot slot + 4).toNat = (ring.usedSlot slot).toNat + 4 :=
    toNat_add_ofNat (by omega : (ring.usedSlot slot).toNat + 4 < UInt64.size)
  have hfirst : (space.store (ring.usedSlot slot) element.encode).memory.HoldsRam
      (ring.usedSlot slot) 4 := hram.part (Nat.le_refl _) (by omega)
  have hsecond : (space.store (ring.usedSlot slot) element.encode).memory.HoldsRam
      (ring.usedSlot slot + 4) 4 := hram.part (by omega) (by omega)
  have hbytes : (space.store (ring.usedSlot slot) element.encode).read (ring.usedSlot slot)
      (4 + 4) = element.encode := by
    have hread := faultFree.read_store (hlength.symm ▸ ram)
    rwa [hlength] at hread
  obtain ⟨hhead, hwritten⟩ := List.append_inj ((hstored.read_add hram).symm.trans hbytes)
    ((hstored.length_read hfirst).trans (LittleEndian.length_encode32 _).symm)
  have hwritten' : (space.store (ring.usedSlot slot) element.encode).read (ring.usedSlot slot + 4) 4 =
      LittleEndian.encode32 element.written := hwritten
  unfold readUsed
  rw [hstored.read32_eq hfirst, hstored.read32_eq hsecond, hhead, hwritten']
  simp only [LittleEndian.decode32_encode32]

/-- Reading used elements until an index gives what a window holds that ends there. -/
theorem Window.readUsedUntil {start : UInt16} {elements : List UsedElement}
    (window : ring.Window (ring.readUsed space) start elements)
    (short : elements.length < 65536) :
    ring.readUsedUntil space (start + UInt16.ofNat elements.length) start = .ok elements := by
  induction elements generalizing start with
  | nil =>
    rw [List.length_nil, add_ofNat_zero]
    unfold RingAddresses.readUsedUntil
    rw [if_pos rfl]
  | cons element rest ih =>
    rw [List.length_cons] at short
    have hmore : start ≠ start + UInt16.ofNat (rest.length + 1) := by
      intro same
      have hnothing : start + UInt16.ofNat 0 = start + UInt16.ofNat (rest.length + 1) := by
        rwa [add_ofNat_zero]
      have hzero := (add_ofNat_inj (by omega) short).1 hnothing
      omega
    have hrest := ih window.tail (by omega)
    rw [succ_add_ofNat] at hrest
    have hhead := window.head
    unfold RingAddresses.readUsedUntil
    rw [List.length_cons, if_neg hmore]
    rw [slotOf] at hhead
    rw [hhead]
    dsimp only
    rw [hrest]
    rfl

end RingAddresses

namespace ActiveRing

variable {ring : ActiveRing} {space last : AddressSpace} {start : UInt16}
  {elements : List UsedElement}

/-- The device has published elements from an index on: its own index is behind the last of them, and
the slots hold them. -/
structure Returns (ring : ActiveRing) (space : AddressSpace) (start : UInt16)
    (elements : List UsedElement) : Prop where
  /-- The index is behind the last element. -/
  index : space.read16 ring.addresses.usedIndex = .ok (start + UInt16.ofNat elements.length)
  /-- The slots hold the elements. -/
  slots : ring.addresses.Window (ring.addresses.readUsed space) start elements

/-- At the index of the used ring nothing is published yet. -/
theorem returns_nil (current : space.read16 ring.addresses.usedIndex = .ok start) :
    ring.Returns space start [] := by
  refine ⟨?_, RingAddresses.window_nil _ _ _⟩
  rwa [List.length_nil, add_ofNat_zero]

namespace Returns

/-- What is published stays where nothing is stored in the index and the elements. -/
theorem kept (returns : ring.Returns space start elements) (placed : ring.addresses.Placed)
    (writes : AddressSpace.Writes (Sparing ring.addresses.UsedHalf) space last)
    (initial : space.memory.WellFormed) : ring.Returns last start elements := by
  refine ⟨(placed.usedIndex_kept writes initial).trans returns.index, ?_⟩
  exact returns.slots.congr placed fun slot inside => placed.usedSlot_kept writes initial inside

/-- Publishing one more element in a slot that holds none of the others. -/
theorem publish (returns : ring.Returns space start elements) (served : ring.ServedBy space)
    (apart : ring.addresses.SlotsApart start (elements.length + 1)) (element : UsedElement) :
    ring.Returns (ring.publish space element).2 start (elements ++ [element]) := by
  have hplaced := served.wellPlaced.placed
  have hslot := hplaced.slotOf_lt (start + UInt16.ofNat elements.length)
  have haddress := hplaced.toNat_usedSlot (Nat.le_of_lt hslot)
  have hserved := served.store_element (start + UInt16.ofNat elements.length) element
  have hindex := served.publish_usedIndex returns.index element
  rw [add_ofNat_succ] at hindex
  refine ⟨by rwa [List.length_append, List.length_singleton], ?_⟩
  have hstored : ring.addresses.Window (ring.addresses.readUsed (space.store (ring.addresses.usedSlot
      (ring.addresses.slotOf (start + UInt16.ofNat elements.length))) element.encode)) start
      (elements ++ [element]) := by
    refine returns.slots.append_singleton hplaced apart ?_ ?_
    · exact RingAddresses.readUsed_store served.faultFree
        (served.ram_deviceSpan (Or.inl (.element _ hslot))) element
    · intro slot inside other
      have hother := hplaced.toNat_usedSlot (Nat.le_of_lt inside)
      have hdistinct : slot.toNat ≠
          (ring.addresses.slotOf (start + UInt16.ofNat elements.length)).toNat :=
        fun same => other (UInt32.toNat_inj.1 same)
      refine hplaced.readUsed_store_of_apart served.faultFree.wellFormed inside ?_
      have hlength : element.encode.length = 8 := UsedElement.length_encode element
      omega
  rw [← served.wellPlaced.slotOf_addresses] at hserved
  rw [served.publish_eq returns.index, ← served.wellPlaced.slotOf_addresses]
  -- The index stands in front of the elements, so that storing it leaves them alone.
  refine hstored.congr hplaced fun slot inside => ?_
  have hother := hplaced.toNat_usedSlot (Nat.le_of_lt inside)
  have hfront := hplaced.toNat_usedIndex
  refine hplaced.readUsed_store_of_apart hserved.faultFree.wellFormed inside ?_
  rw [LittleEndian.length_encode16]
  omega

/-- Collecting from the first element on gives all of them. -/
theorem reap (returns : ring.Returns space start elements) (short : elements.length < 65536) :
    ring.addresses.reap space start =
      .ok (elements, start + UInt16.ofNat elements.length) := by
  unfold RingAddresses.reap
  rw [returns.index]
  dsimp only
  rw [returns.slots.readUsedUntil short]
  rfl

/-- Publishing does not depend on where the device is in the available ring. -/
theorem withCursors (returns : ring.Returns space start elements)
    (lastAvailable lastSignalled : UInt16) :
    (ring.withCursors lastAvailable lastSignalled).Returns space start elements :=
  ⟨returns.index, returns.slots⟩

end Returns

end ActiveRing

/-- What happens between a device and a driver that share a used ring. -/
inductive ReturnEvent where
  /-- The device works on the ring, or the guest stores in its memory. -/
  | onRing (event : RingEvent)
  /-- The driver collects what the device has published. -/
  | reap
  deriving DecidableEq

namespace ReturnEvent

/-- What is published and not collected after one more event. -/
def unreaped (elements : List UsedElement) : ReturnEvent → List UsedElement
  | .onRing (.operation (.publishUsed element)) => elements ++ [element]
  | .onRing _ => elements
  | .reap => []

/-- The elements that the device publishes, in order. -/
def published (events : List ReturnEvent) : List UsedElement :=
  events.filterMap fun
    | .onRing (.operation (.publishUsed element)) => some element
    | _ => none

/-- The guest leaves these bytes alone. -/
def Spares (start : UInt64) (width : Nat) : ReturnEvent → Prop
  | .onRing event => event.Spares start width
  | .reap => True

end ReturnEvent

/-- A device with its ring, and how far the driver has come in collecting what it publishes. -/
structure ReturnState where
  /-- The device's queue and the memory of the guest. -/
  ring : RingState
  /-- The used index up to which the driver has collected. -/
  seen : UInt16
  /-- The elements collected so far. -/
  reaped : List UsedElement := []

namespace ReturnState

variable {state : ReturnState} {ring : ActiveRing} {pending : List UsedElement}

/-- The state after one event. Collecting can fail. -/
def next (addresses : RingAddresses) (state : ReturnState) :
    ReturnEvent → Except MemoryError ReturnState
  | .onRing event => .ok { state with ring := state.ring.next event }
  | .reap => (addresses.reap state.ring.space state.seen).map fun (elements, seen) =>
    { state with seen, reaped := state.reaped ++ elements }

/-- The state after a run. -/
def run (addresses : RingAddresses) (state : ReturnState) (events : List ReturnEvent) :
    Except MemoryError ReturnState :=
  events.foldlM (next addresses) state

/-- The slots from the driver's index on hold what is published and not collected, no more elements
than there are slots. -/
structure Holds (state : ReturnState) (ring : ActiveRing) (pending : List UsedElement) : Prop where
  /-- The ring is in use and served. -/
  serves : state.ring.Serves ring
  /-- The slots hold the elements. -/
  returns : ring.Returns state.ring.space state.seen pending
  /-- There is a slot for each of them. -/
  bounded : pending.length ≤ ring.addresses.count.toNat

namespace Holds

/-- Publishing adds an element to those that are not collected. -/
theorem publish (holds : state.Holds ring pending)
    (power : ring.addresses.count.toNat.isPowerOfTwo)
    (room : pending.length + 1 ≤ ring.addresses.count.toNat) (element : UsedElement) :
    Holds { state with ring := state.ring.next (.operation (.publishUsed element)) } ring
      (pending ++ [element]) := by
  obtain ⟨lastAvailable, lastSignalled, active⟩ := holds.serves.active
  have apart : ring.addresses.SlotsApart state.seen (pending.length + 1) :=
    RingAddresses.slotsApart_of_isPowerOfTwo holds.serves.served.wellPlaced.placed power room
  have hpublished := (holds.returns.withCursors lastAvailable lastSignalled).publish
    (holds.serves.served.withCursors lastAvailable lastSignalled) apart element
  have hspace : (state.ring.next (.operation (.publishUsed element))).space =
      ((ring.withCursors lastAvailable lastSignalled).publish state.ring.space element).2 := by
    simp only [RingState.next, RingOperation.perform, Queue.publishUsed, active]
  refine ⟨holds.serves.next (.operation (.publishUsed element)), ?_, by simpa using room⟩
  rw [hspace]
  exact ⟨hpublished.index, hpublished.slots⟩

/-- Other operations change nothing of what is not collected. -/
theorem keep (holds : state.Holds ring pending) {operation : RingOperation}
    (unpublished : ∀ element, operation ≠ .publishUsed element) :
    Holds { state with ring := state.ring.next (.operation operation) } ring pending := by
  obtain ⟨lastAvailable, lastSignalled, active⟩ := holds.serves.active
  have hwellPlaced := holds.serves.served.wellPlaced
  have hplaced := hwellPlaced.placed
  have hwrites := (RingOperation.writes_perform active (hwellPlaced.withCursors _ _)
    state.ring.space operation).mono fun start width here =>
      hplaced.sparing_usedHalf (operation.eventSpan_of_span unpublished here)
  exact ⟨holds.serves.next (.operation operation),
    holds.returns.kept hplaced hwrites holds.serves.served.faultFree.wellFormed, holds.bounded⟩

/-- Nor do stores of the guest that spare the index and the elements. -/
theorem guestStore (holds : state.Holds ring pending) {gpa : UInt64} {bytes : List UInt8}
    (spared : (RingEvent.guestStore gpa bytes).Spares ring.addresses.usedIndex
      (8 * ring.addresses.count.toNat + 2)) :
    Holds { state with ring := state.ring.next (.guestStore gpa bytes) } ring pending := by
  have hplaced := holds.serves.served.wellPlaced.placed
  have hindex := hplaced.toNat_usedIndex
  have hfits := hplaced.used_fits
  have hsparing := RingEvent.sparing_of_spares (by omega) spared
  have hwrites : AddressSpace.Writes (Sparing ring.addresses.UsedHalf) state.ring.space
      (state.ring.space.store gpa bytes) :=
    AddressSpace.Writes.refl.store hsparing (Nat.le_refl _)
  exact ⟨holds.serves.next (.guestStore gpa bytes),
    holds.returns.kept hplaced hwrites holds.serves.served.faultFree.wellFormed, holds.bounded⟩

/-- Collecting succeeds and gives what is not collected. -/
theorem reap_eq (holds : state.Holds ring pending) :
    ring.addresses.reap state.ring.space state.seen =
      .ok (pending, state.seen + UInt16.ofNat pending.length) := by
  have hcount := holds.serves.served.wellPlaced.placed.count_le
  exact holds.returns.reap (Nat.lt_of_le_of_lt (Nat.le_trans holds.bounded hcount) (by decide))

/-- Once the driver has collected, nothing is left to collect. -/
theorem reap (holds : state.Holds ring pending) :
    ∃ last, state.next ring.addresses .reap = .ok last ∧ last.Holds ring [] ∧
      last.reaped = state.reaped ++ pending := by
  refine ⟨_, congrArg (Except.map _) holds.reap_eq, ⟨holds.serves, ?_, Nat.zero_le _⟩, rfl⟩
  exact ActiveRing.returns_nil holds.returns.index

section PowerOfTwo

variable (power : ring.addresses.count.toNat.isPowerOfTwo)

include power

/-- One event more loses no element and keeps their order, if there is a slot for all that is not
collected. -/
theorem next (holds : state.Holds ring pending) {event : ReturnEvent}
    (spared : event.Spares ring.addresses.usedIndex (8 * ring.addresses.count.toNat + 2))
    (room : (event.unreaped pending).length ≤ ring.addresses.count.toNat) :
    ∃ last, state.next ring.addresses event = .ok last ∧ last.Holds ring (event.unreaped pending) ∧
      last.reaped ++ event.unreaped pending =
        state.reaped ++ pending ++ ReturnEvent.published [event] := by
  cases event with
  | reap =>
    obtain ⟨last, hnext, hholds, hreaped⟩ := holds.reap
    refine ⟨last, hnext, hholds, ?_⟩
    rw [hreaped]
    rfl
  | onRing event =>
    refine ⟨_, rfl, ?_⟩
    cases event with
    | guestStore gpa bytes => exact ⟨holds.guestStore spared, (List.append_nil _).symm⟩
    | operation operation =>
      cases operation with
      | publishUsed element =>
        rw [ReturnEvent.unreaped, List.length_append, List.length_singleton] at room
        exact ⟨holds.publish power room element, (List.append_assoc _ _ _).symm⟩
      | _ => exact ⟨holds.keep (by simp), (List.append_nil _).symm⟩

/-- A run loses no element and keeps their order, if there is always a slot for all that is not
collected. -/
theorem run (holds : state.Holds ring pending) {events : List ReturnEvent}
    (spared : ∀ event ∈ events,
      event.Spares ring.addresses.usedIndex (8 * ring.addresses.count.toNat + 2))
    (room : ∀ before, before <+: events →
      (before.foldl ReturnEvent.unreaped pending).length ≤ ring.addresses.count.toNat) :
    ∃ last, state.run ring.addresses events = .ok last ∧
      last.Holds ring (events.foldl ReturnEvent.unreaped pending) ∧
      last.reaped ++ events.foldl ReturnEvent.unreaped pending =
        state.reaped ++ pending ++ ReturnEvent.published events := by
  induction events generalizing state pending with
  | nil => exact ⟨state, rfl, holds, (List.append_nil _).symm⟩
  | cons event rest ih =>
    have hroom : ∀ before, before <+: rest → (before.foldl ReturnEvent.unreaped
        (event.unreaped pending)).length ≤ ring.addresses.count.toNat :=
      fun before first => room (event :: before) (List.cons_prefix_cons.2 ⟨rfl, first⟩)
    obtain ⟨middle, hnext, hholds, horder⟩ := holds.next power (spared event List.mem_cons_self)
      (hroom [] (List.nil_prefix))
    obtain ⟨last, hrun, hlast, horder'⟩ := ih hholds
      (fun later listed => spared later (List.mem_cons_of_mem _ listed)) hroom
    refine ⟨last, ?_, hlast, ?_⟩
    · rw [ReturnState.run, List.foldlM_cons, hnext]
      exact hrun
    · have hpublished : ReturnEvent.published (event :: rest) =
          ReturnEvent.published [event] ++ ReturnEvent.published rest :=
        List.filterMap_append (l := [event])
      rw [List.foldl_cons, horder', horder, hpublished, List.append_assoc]

end PowerOfTwo

end Holds

/-- On a ring with a power of two of descriptors, whatever its used index is when the driver starts to
collect there, and as long as never more elements are published and not collected than there are
descriptors: what the driver collects in a run and once more at its end is what the device publishes,
every element once and in order. The run may hold all other operations of the device as well and
stores of the guest that spare the index and the elements of the used ring. -/
theorem reap_run {space : AddressSpace} (faultFree : space.FaultFree)
    {queue queue' : Queue} {guest : Nat} {pageNumber pageSize : UInt64} {count : UInt32}
    {align : UInt64}
    (setUp : queue.setup guest space pageNumber pageSize count align = (.ok (), queue'))
    (power : count.toNat.isPowerOfTwo)
    {addresses : RingAddresses} (located : queue'.addresses = some addresses)
    (earlier : List RingEvent) {events : List ReturnEvent}
    (spared : ∀ event ∈ events, event.Spares addresses.usedIndex (8 * count.toNat + 2))
    (room : ∀ before, before <+: events →
      (before.foldl ReturnEvent.unreaped []).length ≤ count.toNat) :
    let state := (⟨queue', space⟩ : RingState).run earlier
    ∃ seen, state.space.read16 addresses.usedIndex = .ok seen ∧
      ∃ last, (⟨state, seen, []⟩ : ReturnState).run addresses events = .ok last ∧
        ∃ rest index, addresses.reap last.ring.space last.seen = .ok (rest, index) ∧
          last.reaped ++ rest = ReturnEvent.published events := by
  intro state
  obtain ⟨ring, active, serves, hring⟩ := RingState.serves_of_setup faultFree setUp
  obtain rfl : ring.addresses = addresses := Queue.addresses_eq_of_located active located
  obtain rfl : ring.addresses.count = count := by
    rw [hring, Queue.count_addresses_freshRing]
  have hserves := serves.run earlier
  obtain ⟨seen, hseen⟩ : ∃ seen, state.space.read16 ring.addresses.usedIndex = .ok seen :=
    ⟨_, hserves.served.faultFree.read16_eq hserves.served.ram_usedIndex⟩
  have hholds : Holds ⟨state, seen, []⟩ ring [] :=
    ⟨hserves, ActiveRing.returns_nil hseen, Nat.zero_le _⟩
  obtain ⟨last, hrun, hlast, horder⟩ := hholds.run power spared room
  exact ⟨seen, hseen, last, hrun, _, _, hlast.reap_eq, horder⟩

/-- A driver that starts at index 65535 collects three elements in two goes, the second one and those
behind it after the index has wrapped around. -/
theorem reap_run_smallRing :
    let start : RingState := ⟨Queue.withRing {} smallRing, { memory := smallMemory }⟩
    let state := start.run [.guestStore 4178 [255, 255]]
    let publish (element : UsedElement) : ReturnEvent :=
      .onRing (.operation (.publishUsed element))
    state.space.read16 smallRing.addresses.usedIndex = .ok 65535 ∧
      ∃ last, (⟨state, 65535, []⟩ : ReturnState).run smallRing.addresses
          [publish ⟨3, 5⟩, publish ⟨1, 6⟩, .reap, publish ⟨0, 7⟩] = .ok last ∧
        ∃ rest index, smallRing.addresses.reap last.ring.space last.seen = .ok (rest, index) ∧
          last.reaped ++ rest = [⟨3, 5⟩, ⟨1, 6⟩, ⟨0, 7⟩] := by
  intro start state publish
  have hseen : state.space.read16 smallRing.addresses.usedIndex = .ok 65535 := rfl
  have hroom : ∀ before ∈ List.inits [publish ⟨3, 5⟩, publish ⟨1, 6⟩, .reap, publish ⟨0, 7⟩],
      (before.foldl ReturnEvent.unreaped []).length ≤ (4 : UInt32).toNat := by
    decide
  have hspared : ∀ event ∈ [publish ⟨3, 5⟩, publish ⟨1, 6⟩, .reap, publish ⟨0, 7⟩],
      event.Spares smallRing.addresses.usedIndex (8 * (4 : UInt32).toNat + 2) := by
    simp [publish, ReturnEvent.Spares, RingEvent.Spares]
  obtain ⟨seen, hread, hreaped⟩ := reap_run (AddressSpace.faultFree_of_build build_smallMemory)
    setup_smallRing ⟨2, rfl⟩ rfl [.guestStore 4178 [255, 255]] hspared
    fun before first => hroom before ((List.mem_inits _ _).2 first)
  obtain rfl : 65535 = seen := Except.ok.inj (hseen.symm.trans hread)
  exact ⟨hseen, hreaped⟩

end ReturnState

end Paravirt

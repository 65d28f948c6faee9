import Paravirt.Proofs.Queue.Operation

/-!
# A ring that never faults

Setting a queue up compares the size of the ring once with the room that its region has. From then
on no access of the device to the ring is cut short, however the guest changes its memory and in
whatever order the device works: descriptors, slots, indices and event slots are read and written in
full, and a chain is refused for its contents only.
-/

namespace Paravirt

/-- A chain was refused for what its descriptors say. -/
def DeviceError.RefusesChain : DeviceError → Prop
  | .malformedChain _ _ | .unsupported _ => True
  | _ => False

namespace Chain

variable {fetch : UInt16 → Except DeviceError Descriptor} {count : UInt32}

/-- A link that is followed stays in the table. -/
theorem lt_of_link {seen : Option (Std.TreeSet Nat)} {descriptor : Descriptor} {next : UInt16}
    (linked : link count seen descriptor = .ok (some next)) : next.toUInt32 < count := by
  unfold link at linked
  split at linked
  · cases linked
  · split at linked
    · cases linked
    · rename_i inside
      split at linked
      · cases linked
      · cases linked
        exact UInt32.not_le.1 inside

/-- A link is refused for what the descriptor says. -/
theorem refusesChain_of_link {seen : Option (Std.TreeSet Nat)} {descriptor : Descriptor}
    {error : DeviceError} (refused : link count seen descriptor = .error error) :
    error.RefusesChain := by
  unfold link at refused
  split at refused
  · cases refused
  · split at refused
    · cases refused
      trivial
    · split at refused
      · cases refused
        trivial
      · cases refused

/-- Following links fails only by a refusal if the whole table can be read. -/
theorem refusesChain_of_follow
    (readable : ∀ index, index.toUInt32 < count → ∃ descriptor, fetch index = .ok descriptor)
    {room : Nat} {seen : Option (Std.TreeSet Nat)} {descriptor : Descriptor}
    {found : List Segment} {error : DeviceError}
    (failed : follow fetch count room seen descriptor found = .error error) :
    error.RefusesChain := by
  induction room generalizing seen descriptor found with
  | zero =>
    unfold follow at failed
    split at failed
    · rename_i refused
      cases failed
      exact refusesChain_of_link refused
    · cases failed
    · cases failed
  | succ room ih =>
    unfold follow at failed
    split at failed
    · rename_i refused
      cases failed
      exact refusesChain_of_link refused
    · cases failed
    · rename_i next linked
      obtain ⟨successor, hfetched⟩ := readable next (lt_of_link linked)
      rw [hfetched] at failed
      exact ih failed

/-- Collecting a chain fails only by a refusal if the whole table can be read. -/
theorem refusesChain_of_collect
    (readable : ∀ index, index.toUInt32 < count → ∃ descriptor, fetch index = .ok descriptor)
    {detectCycles : Bool} {limit : Nat} {head : UInt16} {error : DeviceError}
    (failed : collect fetch count detectCycles limit head = .error error) :
    error.RefusesChain := by
  unfold collect at failed
  split at failed
  · cases failed
    trivial
  · rename_i inside
    obtain ⟨descriptor, hfetched⟩ := readable head (UInt32.not_le.1 inside)
    rw [hfetched] at failed
    dsimp only at failed
    split at failed
    · cases failed
      trivial
    · exact refusesChain_of_follow readable failed

end Chain

namespace ActiveRing

variable {ring : ActiveRing} {space : AddressSpace}

/-- The whole ring lies in one region of memory, and nothing else decides about accesses. -/
structure ServedBy (ring : ActiveRing) (space : AddressSpace) : Prop where
  /-- No fault is injected. -/
  faultFree : space.FaultFree
  /-- The ring is one that setting up accepts. -/
  wellPlaced : ring.WellPlaced
  /-- The ring lies in memory. -/
  ram : space.memory.HoldsRam ring.address ring.totalSize.toNat

namespace ServedBy

/-- Stores leave the ring where it is. -/
theorem of_writes {allowed : UInt64 → Nat → Prop} {last : AddressSpace}
    (served : ring.ServedBy space) (writes : AddressSpace.Writes allowed space last) :
    ring.ServedBy last :=
  ⟨served.faultFree.of_writes writes, served.wellPlaced,
    writes.holdsRam served.faultFree.wellFormed served.ram⟩

/-- The placement of a ring does not depend on how far the device has come in it. -/
theorem withCursors (served : ring.ServedBy space) (lastAvailable lastSignalled : UInt16) :
    (ring.withCursors lastAvailable lastSignalled).ServedBy space :=
  ⟨served.faultFree, served.wellPlaced.withCursors _ _, served.ram⟩

/-- Every span from the descriptor table to the end of the used ring lies in memory. -/
theorem ram_part (served : ring.ServedBy space) {start : UInt64} {width : Nat}
    (low : ring.addresses.descriptors.toNat ≤ start.toNat)
    (high : start.toNat + width ≤
      ring.addresses.used.toNat + 8 * ring.addresses.count.toNat + 6) :
    space.memory.HoldsRam start width := by
  have hstart := served.wellPlaced.toNat_descriptors
  have hend := served.wellPlaced.used_end
  exact served.ram.part (by omega) (by omega)

/-- Descriptors lie in memory. -/
theorem ram_descriptor (served : ring.ServedBy space) {index : UInt16}
    (inside : index.toUInt32 < ring.addresses.count) :
    space.memory.HoldsRam (ring.addresses.descriptor index) Descriptor.width := by
  have hinside := toUInt32_lt_iff.1 inside
  have hplaced := served.wellPlaced.placed
  have haddress := hplaced.toNat_descriptor hinside
  have hwidth : Descriptor.width = 16 := rfl
  obtain ⟨_, _, havailable, hused, _⟩ := hplaced
  exact served.ram_part (by omega) (by omega)

/-- The index of the available ring lies in memory. -/
theorem ram_availableIndex (served : ring.ServedBy space) :
    space.memory.HoldsRam ring.addresses.availableIndex 2 := by
  have hplaced := served.wellPlaced.placed
  have haddress := hplaced.toNat_availableIndex
  obtain ⟨_, _, havailable, hused, _⟩ := hplaced
  exact served.ram_part (by omega) (by omega)

/-- The slots of the available ring lie in memory, and the event slot behind them. -/
theorem ram_availableSlot (served : ring.ServedBy space) {slot : UInt32}
    (inside : slot.toNat ≤ ring.addresses.count.toNat) :
    space.memory.HoldsRam (ring.addresses.availableSlot slot) 2 := by
  have hplaced := served.wellPlaced.placed
  have haddress := hplaced.toNat_availableSlot inside
  obtain ⟨_, _, havailable, hused, _⟩ := hplaced
  exact served.ram_part (by omega) (by omega)

/-- The event slot of the available ring lies in memory. -/
theorem ram_usedEvent (served : ring.ServedBy space) :
    space.memory.HoldsRam ring.addresses.usedEvent 2 :=
  served.ram_availableSlot (Nat.le_refl _)

/-- All that the device may write lies in memory. -/
theorem ram_deviceSpan (served : ring.ServedBy space) {start : UInt64} {width : Nat}
    (span : ring.addresses.DeviceSpan start width) : space.memory.HoldsRam start width := by
  have hplaced := served.wellPlaced.placed
  obtain ⟨hlow, hhigh⟩ := hplaced.deviceSpan_bounds span
  obtain ⟨_, _, havailable, hused, _⟩ := hplaced
  exact served.ram_part (by omega) hhigh

/-- The index of the used ring lies in memory. -/
theorem ram_usedIndex (served : ring.ServedBy space) :
    space.memory.HoldsRam ring.addresses.usedIndex 2 :=
  served.ram_deviceSpan (Or.inl .index)

/-- Storing an element in its slot leaves the ring where it is. -/
theorem store_element (served : ring.ServedBy space) (index : UInt16) (element : UsedElement) :
    ring.ServedBy
      (space.store (ring.addresses.usedSlot (index.toUInt32 % ring.count)) element.encode) := by
  have hwrites : AddressSpace.Writes ring.addresses.UsedSpan space
      (space.store (ring.addresses.usedSlot (index.toUInt32 % ring.count)) element.encode) :=
    AddressSpace.Writes.refl.store (.element _ (served.wellPlaced.slot_lt index))
      (Nat.le_of_eq (UsedElement.length_encode element))
  exact served.of_writes hwrites

/-- Publishing succeeds: the element of the slot is stored, then the index. -/
theorem publish_eq (served : ring.ServedBy space) {index : UInt16}
    (current : space.read16 ring.addresses.usedIndex = .ok index) (element : UsedElement) :
    ring.publish space element = (.ok (),
      (space.store (ring.addresses.usedSlot (index.toUInt32 % ring.count)) element.encode).store
        ring.addresses.usedIndex (LittleEndian.encode16 (index + 1))) := by
  have hslot := served.ram_deviceSpan (Or.inl (.element _ (served.wellPlaced.slot_lt index)))
  have helement : space.writeAll (ring.addresses.usedSlot (index.toUInt32 % ring.count))
      element.encode = (.ok (), space.store _ element.encode) :=
    served.faultFree.writeAll_eq ((UsedElement.length_encode element).symm ▸ hslot)
  have hserved := served.store_element index element
  unfold publish
  rw [current]
  dsimp only
  rw [helement]
  exact hserved.faultFree.write16_eq hserved.ram_usedIndex (index + 1)

end ServedBy

end ActiveRing

namespace Queue

variable {queue : Queue} {ring : ActiveRing} {space : AddressSpace}

/-- The whole descriptor table can be read. -/
theorem descriptor_of_served (active : queue.ring = some ring) (served : ring.ServedBy space)
    {index : UInt16} (inside : index.toUInt32 < ring.count) :
    ∃ descriptor, queue.descriptor space index = .ok descriptor := by
  unfold descriptor
  rw [active]
  dsimp only
  rw [if_neg (UInt32.not_le.2 inside)]
  rw [← served.wellPlaced.count_addresses] at inside
  rw [served.faultFree.readExact_eq (served.ram_descriptor inside)]
  exact ⟨_, rfl⟩

/-- Taking a head gives one. -/
theorem tryPop_of_served (active : queue.ring = some ring) (served : ring.ServedBy space) :
    ∃ head, (queue.tryPop space).1 = .ok head := by
  have hslot := served.wellPlaced.slot_lt ring.lastAvailable
  have hread := served.faultFree.read16_eq (served.ram_availableSlot (Nat.le_of_lt hslot))
  refine ⟨LittleEndian.decode16 (space.read (ring.addresses.availableSlot ring.nextSlot) 2), ?_⟩
  unfold tryPop
  rw [active]
  exact congrArg (Except.mapError DeviceError.ofMemory) hread

/-- Whether there is work is decided by the index of the available ring. -/
theorem hasWork_of_served (active : queue.ring = some ring) (served : ring.ServedBy space) :
    ∃ index, space.read16 ring.addresses.availableIndex = .ok index ∧
      queue.hasWork space = (index != ring.lastAvailable) := by
  have hread := served.faultFree.read16_eq served.ram_availableIndex
  refine ⟨_, hread, ?_⟩
  unfold hasWork
  rw [active]
  dsimp only
  unfold ActiveRing.hasWork
  rw [hread]

/-- Completed chains are returned. -/
theorem publishUsed_of_served (active : queue.ring = some ring) (served : ring.ServedBy space)
    (element : UsedElement) : (queue.publishUsed space element).1 = .ok () := by
  have hread := served.faultFree.read16_eq served.ram_usedIndex
  unfold publishUsed
  rw [active]
  dsimp only
  rw [served.publish_eq hread]
  rfl

/-- The driver is told how far the device has come. -/
theorem updateAvailableEvent_of_served (active : queue.ring = some ring)
    (served : ring.ServedBy space) : (queue.updateAvailableEvent space).1 = .ok () := by
  have hwritten := served.faultFree.write16_eq (served.ram_deviceSpan (Or.inr .slot))
    ring.lastAvailable
  unfold updateAvailableEvent
  rw [active]
  dsimp only
  unfold ActiveRing.writeAvailableEvent
  rw [hwritten]
  rfl

/-- Whether to notify is decided by the index of the used ring and the event slot of the driver. -/
theorem shouldNotify_of_served (active : queue.ring = some ring) (served : ring.ServedBy space) :
    ∃ index event, space.read16 ring.addresses.usedIndex = .ok index ∧
      space.read16 ring.addresses.usedEvent = .ok event ∧
      (queue.shouldNotify space).1 = needsEvent event index ring.lastSignalled := by
  have hindex := served.faultFree.read16_eq served.ram_usedIndex
  have hevent := served.faultFree.read16_eq served.ram_usedEvent
  refine ⟨_, _, hindex, hevent, ?_⟩
  rw [shouldNotify_of_read active hindex hevent]
  split
  · rename_i due
    exact due.symm
  · rename_i quiet
    exact (Bool.eq_false_iff.2 quiet).symm

/-- Walking a chain fails only if the chain is refused or there is no room for a buffer. -/
theorem refusesChain_of_walk (active : queue.ring = some ring) (served : ring.ServedBy space)
    {head : UInt16} {capacity : Nat} {error : DeviceError}
    (failed : (queue.walk space head capacity).1 = .error error) :
    error.RefusesChain ∨ (capacity = 0 ∧ error = .noRoomForSegments) := by
  have hreadable : ∀ index, index.toUInt32 < ring.count →
      ∃ descriptor, queue.descriptor space index = .ok descriptor :=
    fun index inside => descriptor_of_served active served inside
  unfold walk at failed
  rw [active] at failed
  dsimp only at failed
  split at failed
  · rename_i nothing
    cases failed
    exact Or.inr ⟨nothing, rfl⟩
  · split at failed
    · rename_i refused
      cases failed
      exact Or.inl (Chain.refusesChain_of_collect hreadable refused)
    · cases failed

/-- Walking a chain into a list fails only if the chain is refused or the list is empty. -/
theorem refusesChain_of_walkInto (active : queue.ring = some ring) (served : ring.ServedBy space)
    {head : UInt16} {out : List Segment} {error : DeviceError}
    (failed : (queue.walkInto space head out).1 = .error error) :
    error.RefusesChain ∨ (out = [] ∧ error = .noRoomForSegments) := by
  unfold walkInto at failed
  cases walked : (queue.walk space head out.length).1 with
  | error reason =>
    simp only [walked, Except.map] at failed
    cases failed
    simpa only [List.length_eq_zero_iff] using refusesChain_of_walk active served walked
  | ok chain =>
    simp only [walked, Except.map] at failed
    cases failed

/-- Taking a chain fails only if the chain is refused. -/
theorem refusesChain_of_popChain (active : queue.ring = some ring) (served : ring.ServedBy space)
    {error : DeviceError} (failed : (queue.popChain space).1 = .error error) :
    error.RefusesChain := by
  obtain ⟨head, hhead⟩ := tryPop_of_served active served
  have hafter := tryPop_snd active space
  have hpopped : queue.tryPop space = (.ok head, queue.withRing ring.advance) :=
    Prod.ext hhead hafter
  have hadvanced : ring.advance.ServedBy space := served.withCursors _ _
  unfold popChain at failed
  rw [hpopped] at failed
  split at failed
  · dsimp only at failed
    generalize hcapacity : (queue.withRing ring.advance).count.toNat =
      capacity at failed
    cases walked : ((queue.withRing ring.advance).walk space head capacity).1
      with
    | error reason =>
      simp only [walked, Except.map] at failed
      cases failed
      rcases refusesChain_of_walk rfl hadvanced walked with refused | ⟨empty, _⟩
      · exact refused
      · have hcount : ring.count.toNat = capacity := hcapacity
        have hpositive := served.wellPlaced.count_pos
        omega
    | ok chain =>
      simp only [walked, Except.map] at failed
      cases failed
  · cases failed

end Queue

namespace RingState

variable {state : RingState} {ring : ActiveRing}

/-- The queue uses a ring, wherever the device is in it, that its memory serves. -/
structure Serves (state : RingState) (ring : ActiveRing) : Prop where
  /-- The queue is on that ring. -/
  active : ∃ lastAvailable lastSignalled,
    state.queue.ring = some (ring.withCursors lastAvailable lastSignalled)
  /-- The ring is served. -/
  served : ring.ServedBy state.space

namespace Serves

/-- The ring with the device where it is now is served at the same addresses. -/
theorem current (serves : state.Serves ring) : ∃ current, state.queue.ring = some current ∧
    current.ServedBy state.space ∧ current.addresses = ring.addresses := by
  obtain ⟨⟨lastAvailable, lastSignalled, active⟩, served⟩ := serves
  exact ⟨_, active, served.withCursors _ _, rfl⟩

/-- The stores of one event, the device's or the guest's, go to some spans. -/
theorem writes_next (serves : state.Serves ring) (event : RingEvent) :
    ∃ allowed, AddressSpace.Writes allowed state.space (state.next event).space := by
  obtain ⟨⟨lastAvailable, lastSignalled, active⟩, served⟩ := serves
  cases event with
  | operation operation =>
    have hplaced := (served.withCursors lastAvailable lastSignalled).wellPlaced
    exact ⟨_, RingOperation.writes_perform active hplaced state.space operation⟩
  | guestStore gpa bytes =>
    exact ⟨fun _ _ => True, AddressSpace.Writes.refl.store trivial (Nat.le_refl _)⟩

/-- Every event leaves the ring in use and served. -/
theorem next (serves : state.Serves ring) (event : RingEvent) : (state.next event).Serves ring := by
  obtain ⟨allowed, hwrites⟩ := serves.writes_next event
  refine ⟨?_, serves.served.of_writes hwrites⟩
  obtain ⟨lastAvailable, lastSignalled, active⟩ := serves.active
  cases event with
  | operation operation =>
    obtain ⟨lastAvailable', lastSignalled', hqueue, _⟩ :=
      RingOperation.queue_perform active state.space operation
    exact ⟨lastAvailable', lastSignalled', congrArg (·.ring) hqueue⟩
  | guestStore gpa bytes => exact ⟨lastAvailable, lastSignalled, active⟩

/-- Every run leaves the ring in use and served. -/
theorem run (serves : state.Serves ring) (events : List RingEvent) :
    (state.run events).Serves ring := by
  induction events generalizing state with
  | nil => exact serves
  | cons event rest ih => exact ih (serves.next event)

/-- A span in memory stays there in every run. -/
theorem holdsRam_run (serves : state.Serves ring) {start : UInt64} {size : Nat}
    (ram : state.space.memory.HoldsRam start size) (events : List RingEvent) :
    (state.run events).space.memory.HoldsRam start size := by
  induction events generalizing state with
  | nil => exact ram
  | cons event rest ih =>
    obtain ⟨allowed, hwrites⟩ := serves.writes_next event
    exact ih (serves.next event) (hwrites.holdsRam serves.served.faultFree.wellFormed ram)

end Serves

/-- Setting up on a fault-free address space gives a queue whose ring is served. -/
theorem serves_of_setup {queue queue' : Queue} {guest : Nat} {space : AddressSpace}
    {pageNumber pageSize : UInt64} {count : UInt32} {align : UInt64}
    (faultFree : space.FaultFree)
    (setUp : queue.setup guest space pageNumber pageSize count align = (.ok (), queue')) :
    ∃ ring, queue'.ring = some ring ∧ (⟨queue', space⟩ : RingState).Serves ring ∧
      ring = Queue.freshRing guest ring.hostAddress pageNumber pageSize count align := by
  obtain ⟨ring, rfl, wellPlaced, ram, hring⟩ := Queue.holdsRam_of_setup faultFree setUp
  exact ⟨ring, rfl, ⟨⟨_, _, rfl⟩, ⟨faultFree, wellPlaced, ram⟩⟩, hring⟩

/-- Every access of the device to its ring is served in full. -/
structure ServedInFull (state : RingState) : Prop where
  /-- Every descriptor of the table can be read. -/
  descriptor : ∀ index, index.toUInt32 < state.queue.count →
    ∃ descriptor, state.queue.descriptor state.space index = .ok descriptor
  /-- The next slot of the available ring can be read. -/
  tryPop : ∃ head, (state.queue.tryPop state.space).1 = .ok head
  /-- A completed chain can be returned. -/
  publishUsed : ∀ element, (state.queue.publishUsed state.space element).1 = .ok ()
  /-- The event slot of the used ring can be written. -/
  updateAvailableEvent : (state.queue.updateAvailableEvent state.space).1 = .ok ()
  /-- Whether there is work is decided by the index of the available ring. -/
  hasWork : ∃ addresses index, state.queue.addresses = some addresses ∧
    state.space.read16 addresses.availableIndex = .ok index ∧
    state.queue.hasWork state.space = (index != state.queue.lastAvailable)
  /-- Whether to notify is decided by the index of the used ring and the driver's event slot. -/
  shouldNotify : ∃ addresses index event, state.queue.addresses = some addresses ∧
    state.space.read16 addresses.usedIndex = .ok index ∧
    state.space.read16 addresses.usedEvent = .ok event ∧
    (state.queue.shouldNotify state.space).1 = needsEvent event index state.queue.lastSignalled
  /-- Walking a chain fails only if the chain is refused or there is no room for a buffer. -/
  walkInto : ∀ head out error, (state.queue.walkInto state.space head out).1 = .error error →
    error.RefusesChain ∨ (out = [] ∧ error = .noRoomForSegments)
  /-- Taking a head and walking its chain fails for the same reasons. -/
  popAndWalk : ∀ out error, (state.queue.popAndWalk state.space out).1 = .error error →
    error.RefusesChain ∨ (out = [] ∧ error = .noRoomForSegments)
  /-- Taking a chain fails only if the chain is refused. -/
  popChain : ∀ error, (state.queue.popChain state.space).1 = .error error → error.RefusesChain

/-- A queue on a ring that its memory serves has every access served in full. -/
theorem Serves.servedInFull (serves : state.Serves ring) : state.ServedInFull := by
  obtain ⟨⟨lastAvailable, lastSignalled, active⟩, served⟩ := serves
  have hserved := served.withCursors lastAvailable lastSignalled
  have haddresses := Queue.addresses_of_active active
  obtain ⟨work, hwork, hasWork⟩ := Queue.hasWork_of_served active hserved
  obtain ⟨index, event, hindex, hevent, hnotify⟩ := Queue.shouldNotify_of_served active hserved
  refine ⟨?_, Queue.tryPop_of_served active hserved, Queue.publishUsed_of_served active hserved,
    Queue.updateAvailableEvent_of_served active hserved, ?_, ?_, ?_, ?_, ?_⟩
  · rw [Queue.count_of_active active]
    exact fun index inside => Queue.descriptor_of_served active hserved inside
  · rw [Queue.lastAvailable_of_active active]
    exact ⟨_, work, haddresses, hwork, hasWork⟩
  · rw [Queue.lastSignalled_of_active active]
    exact ⟨_, index, event, haddresses, hindex, hevent, hnotify⟩
  · exact fun head out error failed => Queue.refusesChain_of_walkInto active hserved failed
  · intro out error failed
    have hpopped : (state.queue.pop state.space).2.ring =
        some (ring.withCursors lastAvailable lastSignalled).advance := by
      rw [Queue.pop_snd, Queue.tryPop_snd active, Queue.ring_withRing]
    exact Queue.refusesChain_of_walkInto hpopped (hserved.withCursors _ _) failed
  · exact fun error failed => Queue.refusesChain_of_popChain active hserved failed

/-- On a fault-free address space, once setting up has succeeded, every access to the ring is served
in full after any run of operations and of stores that the guest makes anywhere in its memory. -/
theorem servedInFull_of_setup {space : AddressSpace} (faultFree : space.FaultFree)
    {queue queue' : Queue} {guest : Nat} {pageNumber pageSize : UInt64} {count : UInt32}
    {align : UInt64}
    (setUp : queue.setup guest space pageNumber pageSize count align = (.ok (), queue'))
    (events : List RingEvent) : ((⟨queue', space⟩ : RingState).run events).ServedInFull := by
  obtain ⟨ring, _, serves, _⟩ := serves_of_setup faultFree setUp
  exact (serves.run events).servedInFull

/-- A ring whose every byte the guest has overwritten is still served in full. -/
theorem servedInFull_smallRing :
    AddressSpace.FaultFree { memory := smallMemory } ∧
      Queue.setup {} 0 { memory := smallMemory } 1 4096 4 4 =
        (.ok (), Queue.withRing {} smallRing) ∧
      ((⟨Queue.withRing {} smallRing, { memory := smallMemory }⟩ : RingState).run
        [.guestStore 4096 (List.replicate 200 255), .operation .popChain,
          .operation (.publishUsed ⟨9, 9⟩)]).ServedInFull := by
  have hfaultFree := AddressSpace.faultFree_of_build build_smallMemory
  exact ⟨hfaultFree, setup_smallRing, servedInFull_of_setup hfaultFree setup_smallRing _⟩

end RingState

end Paravirt

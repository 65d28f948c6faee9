import Paravirt.Proofs.Memory.Bytewise
import Paravirt.Proofs.Memory.Contents
import Paravirt.Proofs.Queue.Completion

/-!
# What the driver writes into the descriptor table

The driver fills the table in one of two ways, one word of a descriptor after another or all sixteen
bytes at once. Both leave the same memory, so it does not matter which of them was used: the device
reads the last descriptor that was written at an index, bit by bit as it was written, and where none
was written the descriptor that stood there before.
-/

namespace Paravirt

namespace RingAddresses

variable {ring : RingAddresses} {space : AddressSpace} {index : UInt16}

/-- A descriptor that is written in one piece is stored. -/
theorem storeDescriptors_singleton (faultFree : space.FaultFree)
    (ram : space.memory.HoldsRam (ring.descriptor index) Descriptor.width)
    (descriptor : Descriptor) : ring.storeDescriptors space index [descriptor] =
      (.ok (), space.store (ring.descriptor index) descriptor.encode) := by
  have hram : space.memory.HoldsRam (ring.descriptor index) descriptor.encode.length := by
    rwa [Descriptor.length_encode]
  rw [storeDescriptors, faultFree.writeAll_eq hram]
  rfl

/-- A descriptor that is written word by word is stored as well, to the same effect. -/
theorem writeDescriptor_eq (faultFree : space.FaultFree)
    (ram : space.memory.HoldsRam (ring.descriptor index) Descriptor.width)
    (descriptor : Descriptor) : ring.writeDescriptor space index descriptor =
      (.ok (), space.store (ring.descriptor index) descriptor.encode) := by
  have hram : ∀ {width : Nat}, width ≤ 16 →
      space.memory.HoldsRam (ring.descriptor index) width := fun within =>
    ram.part (Nat.le_refl _) (Nat.add_le_add_left within _)
  unfold writeDescriptor Descriptor.encode
  generalize ring.descriptor index = start at hram ⊢
  obtain ⟨address, length, flags, next⟩ := descriptor
  have haddress : space.write64 start address =
      (.ok (), space.store start (LittleEndian.encode64 address)) :=
    faultFree.writeAll_eq (hram (by simp))
  have hlength : (space.store start (LittleEndian.encode64 address)).write32 (start + 8) length =
      (.ok (), space.store start
        (LittleEndian.encode64 address ++ LittleEndian.encode32 length)) :=
    faultFree.writeAll_store (hram (by simp))
  have hflags : (space.store start (LittleEndian.encode64 address ++
        LittleEndian.encode32 length)).write16 (start + 12) flags =
      (.ok (), space.store start (LittleEndian.encode64 address ++ LittleEndian.encode32 length ++
        LittleEndian.encode16 flags)) :=
    faultFree.writeAll_store (hram (by simp))
  have hnext : (space.store start (LittleEndian.encode64 address ++ LittleEndian.encode32 length ++
        LittleEndian.encode16 flags)).write16 (start + 14) next =
      (.ok (), space.store start (LittleEndian.encode64 address ++ LittleEndian.encode32 length ++
        LittleEndian.encode16 flags ++ LittleEndian.encode16 next)) :=
    faultFree.writeAll_store (hram (by simp))
  simp only [haddress, hlength, hflags, hnext]

end RingAddresses

/-- Where the table can be read, the bytes there decide what the device makes of a descriptor. -/
theorem Queue.descriptor_eq_ok_iff {queue : Queue} {ring : ActiveRing} {space : AddressSpace}
    (active : queue.ring = some ring) {index : UInt16} (inside : index.toUInt32 < ring.count)
    {descriptor : Descriptor} : queue.descriptor space index = .ok descriptor ↔
      space.readExact (ring.addresses.descriptor index) Descriptor.width =
        .ok descriptor.encode := by
  unfold Queue.descriptor
  rw [active]
  dsimp only
  rw [if_neg (UInt32.not_le.2 inside)]
  cases read : space.readExact (ring.addresses.descriptor index) Descriptor.width with
  | error error => simp
  | ok bytes =>
    have hbytes := Descriptor.encode_decode (AddressSpace.length_of_readExact read)
    constructor
    · intro decoded
      cases decoded
      rw [hbytes]
    · intro encoded
      cases encoded
      exact congrArg Except.ok (Descriptor.decode_encode descriptor)

/-- What happens to a descriptor table, one thing at a time. -/
inductive TableEvent where
  /-- The device works on the ring, or the guest stores in its memory. -/
  | onRing (event : RingEvent)
  /-- The driver writes a descriptor one word after another. -/
  | writeWords (index : UInt16) (descriptor : Descriptor)
  /-- The driver writes a descriptor in one piece. -/
  | writeWhole (index : UInt16) (descriptor : Descriptor)
  deriving DecidableEq

namespace TableEvent

/-- The driver writes entries of the table only, and all other stores of the guest leave the table
alone. -/
def Fits (addresses : RingAddresses) : TableEvent → Prop
  | .onRing event => event.Spares addresses.descriptors (16 * addresses.count.toNat)
  | .writeWords index _ | .writeWhole index _ => index.toUInt32 < addresses.count

instance (addresses : RingAddresses) (event : TableEvent) : Decidable (event.Fits addresses) :=
  match event with
  | .onRing event => inferInstanceAs (Decidable (event.Spares _ _))
  | .writeWords index _ | .writeWhole index _ =>
    inferInstanceAs (Decidable (index.toUInt32 < addresses.count))

/-- The descriptor that is written at an index, if one is. -/
def written? (index : UInt16) : TableEvent → Option Descriptor
  | .onRing _ => none
  | .writeWords other descriptor | .writeWhole other descriptor =>
    if other = index then some descriptor else none

/-- The last descriptor that is written at an index in a run; where none is, the initial one. -/
def lastWritten (initial : Descriptor) (index : UInt16) (events : List TableEvent) : Descriptor :=
  (events.filterMap (written? index)).getLastD initial

/-- What is written first is there before what is written later. -/
theorem lastWritten_cons (initial : Descriptor) (index : UInt16) (event : TableEvent)
    (rest : List TableEvent) : lastWritten initial index (event :: rest) =
      lastWritten ((event.written? index).getD initial) index rest := by
  unfold lastWritten
  cases written : event.written? index with
  | none => rw [List.filterMap_cons_none written, Option.getD_none]
  | some descriptor => rw [List.filterMap_cons_some written, List.getLastD_cons, Option.getD_some]

end TableEvent

namespace RingState

variable {state : RingState} {ring : ActiveRing} {table : UInt16 → Descriptor}

/-- The state after something happened to the table. Writes of the driver can fail. -/
def nextTable (addresses : RingAddresses) (state : RingState) :
    TableEvent → Except MemoryError RingState
  | .onRing event => .ok (state.next event)
  | .writeWords index descriptor =>
    let (outcome, space) := addresses.writeDescriptor state.space index descriptor
    outcome.map fun _ => { state with space }
  | .writeWhole index descriptor =>
    let (outcome, space) := addresses.storeDescriptors state.space index [descriptor]
    outcome.map fun _ => { state with space }

/-- The state after a run. -/
def runTable (addresses : RingAddresses) (state : RingState) (events : List TableEvent) :
    Except MemoryError RingState :=
  events.foldlM (nextTable addresses) state

/-- The table of a ring in use holds these descriptors. -/
structure Lists (state : RingState) (ring : ActiveRing) (table : UInt16 → Descriptor) : Prop where
  /-- The ring is in use and served. -/
  serves : state.Serves ring
  /-- Its table holds them. -/
  entries : ∀ index, index.toUInt32 < ring.addresses.count →
    state.space.readExact (ring.addresses.descriptor index) Descriptor.width =
      .ok (table index).encode

/-- A ring in use holds some descriptors. -/
theorem Serves.exists_lists (serves : state.Serves ring) : ∃ table, state.Lists ring table := by
  refine ⟨fun index => Descriptor.decode
    (state.space.read (ring.addresses.descriptor index) Descriptor.width), serves, ?_⟩
  intro index inside
  have hread := serves.served.faultFree.readExact_eq (serves.served.ram_descriptor inside)
  rw [Descriptor.encode_decode (AddressSpace.length_of_readExact hread)]
  exact hread

namespace Lists

/-- The device reads the descriptor that the table holds. -/
theorem descriptor_eq (lists : state.Lists ring table) {index : UInt16}
    (inside : index.toUInt32 < ring.addresses.count) :
    state.queue.descriptor state.space index = .ok (table index) := by
  obtain ⟨lastAvailable, lastSignalled, active⟩ := lists.serves.active
  have hcount := lists.serves.served.wellPlaced.count_addresses
  exact (Queue.descriptor_eq_ok_iff active (hcount ▸ inside)).2 (lists.entries index inside)

/-- The bytes of the descriptor stand in its entry. -/
theorem holds (lists : state.Lists ring table) {index : UInt16}
    (inside : index.toUInt32 < ring.addresses.count) :
    state.space.Holds (ring.addresses.descriptor index) (table index).encode :=
  AddressSpace.holds_of_readExact lists.serves.served.faultFree.wellFormed
    (lists.entries index inside)

/-- Neither the device nor stores of the guest beside the table change it. -/
theorem onRing (lists : state.Lists ring table) {event : RingEvent}
    (spares : event.Spares ring.addresses.descriptors (16 * ring.addresses.count.toNat)) :
    (state.next event).Lists ring table := by
  have hwellPlaced := lists.serves.served.wellPlaced
  have hplaced := hwellPlaced.placed
  have hwellFormed := lists.serves.served.faultFree.wellFormed
  have hwrites : AddressSpace.Writes (Sparing (InSpan ring.addresses.descriptors
      (16 * ring.addresses.count.toNat))) state.space (state.next event).space := by
    cases event with
    | guestStore gpa bytes =>
      exact AddressSpace.Writes.refl.store
        (RingEvent.sparing_of_spares hplaced.table_fits spares) (Nat.le_refl _)
    | operation operation =>
      obtain ⟨lastAvailable, lastSignalled, active⟩ := lists.serves.active
      refine (RingOperation.writes_perform active (hwellPlaced.withCursors _ _) state.space
        operation).mono fun start width here => ?_
      refine (hplaced.sparing_driverHalf (operation.deviceSpan_of_span here)).mono
        fun gpa inside => ?_
      unfold RingAddresses.DriverHalf
      unfold InSpan at inside ⊢
      omega
  refine ⟨lists.serves.next event, fun index inside => ?_⟩
  have hinside := toUInt32_lt_iff.1 inside
  have haddress := hplaced.toNat_descriptor hinside
  have hwidth : Descriptor.width = 16 := rfl
  rw [← lists.entries index inside]
  exact hwrites.readExact_kept hwellFormed fun offset within =>
    inSpan_add_ofNat (by omega) (by omega) hplaced.table_fits within

/-- A descriptor that is stored in its entry is there, and no other one changes. -/
theorem store (lists : state.Lists ring table) {index : UInt16}
    (inside : index.toUInt32 < ring.addresses.count) (descriptor : Descriptor) :
    Lists { state with
      space := state.space.store (ring.addresses.descriptor index) descriptor.encode } ring
      fun other => ((TableEvent.writeWhole index descriptor).written? other).getD (table other) := by
  have hfaultFree := lists.serves.served.faultFree
  have hplaced := lists.serves.served.wellPlaced.placed
  have hwidth : Descriptor.width = 16 := rfl
  have hlength := Descriptor.length_encode descriptor
  refine ⟨lists.serves.next (.guestStore _ _), fun other inside' => ?_⟩
  by_cases same : index = other
  · subst same
    have hram := lists.serves.served.ram_descriptor inside
    have hread := (hfaultFree.store _ descriptor.encode).readExact_eq
      (hram.write hfaultFree.wellFormed (ring.addresses.descriptor index) descriptor.encode)
    have hback := hfaultFree.read_store (hlength.symm ▸ hram)
    rw [hlength] at hback
    rw [TableEvent.written?, if_pos rfl, hread, hback, Option.getD_some]
  · have hindex := toUInt32_lt_iff.1 inside
    have hother := toUInt32_lt_iff.1 inside'
    have haddress := hplaced.toNat_descriptor hindex
    have haddress' := hplaced.toNat_descriptor hother
    have hdistinct : index.toNat ≠ other.toNat := fun equal => same (UInt16.toNat_inj.1 equal)
    have htable := hplaced.table_fits
    rw [TableEvent.written?, if_neg same, Option.getD_none, ← lists.entries other inside']
    exact AddressSpace.readExact_store_of_apart hfaultFree.wellFormed (by omega) (by omega)

/-- One event more leaves the descriptor that it writes, and where it writes none, the one before. -/
theorem next (lists : state.Lists ring table) {event : TableEvent}
    (fits : event.Fits ring.addresses) :
    ∃ last, state.nextTable ring.addresses event = .ok last ∧
      last.Lists ring fun index => (event.written? index).getD (table index) := by
  have hfaultFree := lists.serves.served.faultFree
  cases event with
  | onRing event => exact ⟨_, rfl, lists.onRing fits⟩
  | writeWords index descriptor =>
    have hram := lists.serves.served.ram_descriptor fits
    have hwrite := RingAddresses.writeDescriptor_eq hfaultFree hram descriptor
    refine ⟨_, ?_, lists.store fits descriptor⟩
    rw [nextTable, hwrite]
    rfl
  | writeWhole index descriptor =>
    have hram := lists.serves.served.ram_descriptor fits
    have hwrite := RingAddresses.storeDescriptors_singleton hfaultFree hram descriptor
    refine ⟨_, ?_, lists.store fits descriptor⟩
    rw [nextTable, hwrite]
    rfl

/-- A run leaves the descriptors that were written last, and where none was written, the one before. -/
theorem run (lists : state.Lists ring table) {events : List TableEvent}
    (fits : ∀ event ∈ events, event.Fits ring.addresses) :
    ∃ last, state.runTable ring.addresses events = .ok last ∧
      last.Lists ring fun index => TableEvent.lastWritten (table index) index events := by
  induction events generalizing state table with
  | nil => exact ⟨state, rfl, lists⟩
  | cons event rest ih =>
    obtain ⟨middle, hnext, hmiddle⟩ := lists.next (fits event List.mem_cons_self)
    obtain ⟨last, hrun, hlast⟩ := ih hmiddle fun later listed =>
      fits later (List.mem_cons_of_mem _ listed)
    refine ⟨last, ?_, ?_⟩
    · rw [runTable, List.foldlM_cons, hnext]
      exact hrun
    · simpa only [TableEvent.lastWritten_cons] using hlast

end Lists

/-- What becomes of a descriptor table that held some descriptors in the beginning. -/
structure ReadsBack (addresses : RingAddresses) (table : UInt16 → Descriptor)
    (events : List TableEvent) (state last : RingState) : Prop where
  /-- No write of the driver fails. -/
  succeeds : state.runTable addresses events = .ok last
  /-- The entries of the table hold these descriptors in the beginning. -/
  initial : ∀ index, index.toUInt32 < addresses.count →
    state.space.Holds (addresses.descriptor index) (table index).encode
  /-- The device reads what was written last in the end. -/
  reads : ∀ index, index.toUInt32 < addresses.count →
    last.queue.descriptor last.space index =
      .ok (TableEvent.lastWritten (table index) index events)
  /-- Every descriptor has sixteen bytes, which say what it is. -/
  decodes : ∀ descriptor : Descriptor,
    descriptor.encode.length = 16 ∧ Descriptor.decode descriptor.encode = descriptor
  /-- Every sixteen bytes are those of a descriptor. -/
  encodes : ∀ bytes : List UInt8, bytes.length = 16 → (Descriptor.decode bytes).encode = bytes

/-- On a fault-free address space, once setting up has succeeded and whatever the guest has stored
since: the device reads back what the driver writes into the table, in either way and in any order.
The run may hold all operations of the device as well and stores of the guest beside the table. -/
theorem readsBack_of_setup {space : AddressSpace} (faultFree : space.FaultFree)
    {queue queue' : Queue} {guest : Nat} {pageNumber pageSize : UInt64} {count : UInt32}
    {align : UInt64}
    (setUp : queue.setup guest space pageNumber pageSize count align = (.ok (), queue'))
    {addresses : RingAddresses} (located : queue'.addresses = some addresses)
    (earlier : List RingEvent) {events : List TableEvent}
    (fits : ∀ event ∈ events, event.Fits addresses) :
    ∃ table last,
      ReadsBack addresses table events ((⟨queue', space⟩ : RingState).run earlier) last := by
  obtain ⟨ring, active, serves, -⟩ := serves_of_setup faultFree setUp
  obtain rfl : ring.addresses = addresses := Queue.addresses_eq_of_located active located
  obtain ⟨table, hlists⟩ := (serves.run earlier).exists_lists
  obtain ⟨last, hrun, hlast⟩ := hlists.run fits
  exact ⟨table, last, hrun, fun index => hlists.holds, fun index => hlast.descriptor_eq,
    fun descriptor => ⟨descriptor.length_encode, descriptor.decode_encode⟩,
    fun bytes => Descriptor.encode_decode⟩

/-- Two descriptors are written twice, each in both ways, with flag bits that have no meaning, while the
device returns a chain and the guest publishes one. What was written last is read back, and an entry
between the two stays as it was. -/
theorem readsBack_smallRing :
    let start : RingState := ⟨Queue.withRing {} smallRing, { memory := smallMemory }⟩
    let events : List TableEvent :=
      [.writeWords 0 ⟨0x1122334455667788, 9, 0xfff1, 3⟩, .writeWhole 2 ⟨8192, 16, 2, 0⟩,
        .onRing (.operation (.publishUsed ⟨0, 9⟩)), .onRing (.guestStore 4160 [0, 0, 1, 0]),
        .writeWhole 0 ⟨12288, 64, 0xa5a5, 65535⟩, .writeWords 2 ⟨0, 1, 0x8000, 1⟩]
    (∀ event ∈ events, event.Fits smallRing.addresses) ∧
      ∃ table last, ReadsBack smallRing.addresses table events start last ∧
        last.queue.descriptor last.space 0 = .ok ⟨12288, 64, 0xa5a5, 65535⟩ ∧
        last.queue.descriptor last.space 1 = .ok (table 1) ∧
        last.queue.descriptor last.space 2 = .ok ⟨0, 1, 0x8000, 1⟩ := by
  intro start events
  have hfits : ∀ event ∈ events, event.Fits smallRing.addresses := by decide
  obtain ⟨table, last, hreads⟩ := readsBack_of_setup
    (AddressSpace.faultFree_of_build build_smallMemory) setup_smallRing rfl [] hfits
  exact ⟨hfits, table, last, hreads, hreads.reads 0 (by decide), hreads.reads 1 (by decide),
    hreads.reads 2 (by decide)⟩

end RingState

end Paravirt

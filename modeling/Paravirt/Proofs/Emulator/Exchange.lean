import Paravirt.Emulator.Echo
import Paravirt.Proofs.Queue.Completion
import Paravirt.Proofs.Queue.Request
import Paravirt.Proofs.Segment.Prefix

/-!
# What a driver gets back from the echo emulator

The emulator takes the pending chains one after another. Of each it copies the bytes that it may read
to those that it may write, as many as there are of both, and returns the chain with that number. As
no buffer meets another one or the ring, no answer disturbs a request that is still to be read, an
answer that was given before, the table or the rings, and the driver finds all answers after the last
chain. Nothing else has changed but what belongs to the device in the ring.
-/

namespace Paravirt

namespace Queue

variable {α : Type} {queue : Queue} {ring : ActiveRing} {guests : Guests} {space : AddressSpace}

/-- An operation on a queue works on the space of the guest that holds its ring. -/
theorem runOn_setSpace (active : queue.ring = some ring) (present : ring.guest < guests.length)
    (operation : Queue → AddressSpace → α × Queue × AddressSpace) :
    queue.runOn (guests.setSpace ring.guest space) operation =
      ((operation queue space).1, (operation queue space).2.1,
        guests.setSpace ring.guest (operation queue space).2.2) := by
  have hspace : (guests.setSpace ring.guest space).space ring.guest = space := by
    rw [Guests.space_setSpace _ _ _ _ present, if_pos rfl]
  simp only [runOn, guest_of_active active, hspace, Guests.setSpace_setSpace]

/-- A completed chain is returned in the space of the guest that holds the ring. -/
theorem publishIn_setSpace (active : queue.ring = some ring) (present : ring.guest < guests.length)
    (element : UsedElement) : queue.publishIn (guests.setSpace ring.guest space) element =
      ((queue.publishUsed space element).1,
        guests.setSpace ring.guest (queue.publishUsed space element).2) := by
  have hspace : (guests.setSpace ring.guest space).space ring.guest = space := by
    rw [Guests.space_setSpace _ _ _ _ present, if_pos rfl]
  simp only [publishIn, guest_of_active active, hspace, Guests.setSpace_setSpace]

end Queue

namespace Chain

variable (chain : Chain)

/-- The addresses from which the device reads. -/
def readable : List UInt64 := Segment.addresses (chain.segments.filter (·.isReadable))

/-- The addresses to which the device writes. -/
def writable : List UInt64 := Segment.addresses (chain.segments.filter (·.isWritable))

/-- How many bytes are echoed: as many as there are to be read, if there is room for them. -/
def echoed : Nat := min chain.readable.length chain.writable.length

/-- The addresses of the bytes that are echoed. -/
def requested : List UInt64 := chain.readable.take chain.echoed

/-- The addresses to which they are echoed. -/
def answered : List UInt64 := chain.writable.take chain.echoed

/-- The used element with which the chain is returned. -/
def completion : UsedElement := ⟨chain.head.toUInt32, UInt32.ofNat chain.echoed⟩

variable {chain} {memory : Memory} {gpa : UInt64}

/-- Every byte of an ordered chain can be read or written. -/
theorem length_readable_add_writable (ordered : chain.segments.filter (·.isReadable) ++
    chain.segments.filter (·.isWritable) = chain.segments) :
    chain.readable.length + chain.writable.length =
      (chain.segments.map (·.length.toNat)).sum := by
  conv => rhs; rw [← ordered]
  rw [List.map_append, List.sum_append, ← Segment.length_addresses, ← Segment.length_addresses]
  rfl

/-- A well-formed chain is returned with the number of bytes that are echoed. -/
theorem WellFormed.toNat_written_completion {queue : Queue} {space : AddressSpace}
    (wellFormed : chain.WellFormed queue space) :
    chain.completion.written.toNat = chain.echoed := by
  have hsum := length_readable_add_writable wellFormed.ordered
  have hshort := wellFormed.short
  have hechoed : chain.echoed < UInt32.size := by
    have hsize : UInt32.size = 4294967296 := rfl
    unfold echoed
    omega
  exact UInt32.toNat_ofNat_of_lt' hechoed

/-- Bytes are echoed to buffers of the chain. -/
theorem covers_of_answered (ram : Segment.InRam memory chain.segments)
    (wellFormed : memory.WellFormed) (listed : gpa ∈ chain.answered) : chain.Covers gpa := by
  have hwritable : Segment.InRam memory (chain.segments.filter (·.isWritable)) :=
    fun segment listed => ram segment (List.mem_of_mem_filter listed)
  obtain ⟨segment, hlisted, hcovers⟩ :=
    (hwritable.mem_addresses wellFormed).1 (List.mem_of_mem_take listed)
  exact ⟨segment, List.mem_of_mem_filter hlisted, hcovers⟩

/-- Bytes are echoed from buffers of the chain. -/
theorem covers_of_requested (ram : Segment.InRam memory chain.segments)
    (wellFormed : memory.WellFormed) (listed : gpa ∈ chain.requested) : chain.Covers gpa := by
  have hreadable : Segment.InRam memory (chain.segments.filter (·.isReadable)) :=
    fun segment listed => ram segment (List.mem_of_mem_filter listed)
  obtain ⟨segment, hlisted, hcovers⟩ :=
    (hreadable.mem_addresses wellFormed).1 (List.mem_of_mem_take listed)
  exact ⟨segment, List.mem_of_mem_filter hlisted, hcovers⟩

end Chain

namespace Echo

variable {longest : Option Nat}

/-- The buffer for a chain of at most 64 KiB has room for all of it, if buffers may be as long as
that. -/
theorem bufferLength_eq (roomy : ∀ most ∈ longest, 65536 ≤ most) {chain : Chain}
    (short : (chain.segments.map (·.length.toNat)).sum ≤ 65536) :
    bufferLength longest chain = (chain.segments.map (·.length.toNat)).sum := by
  have htotal : chain.totalLength.toNat = (chain.segments.map (·.length.toNat)).sum :=
    Segment.toNat_totalLength (Nat.lt_of_le_of_lt short (by decide))
  rw [← htotal] at short ⊢
  cases longest with
  | none => rfl
  | some most => exact Nat.min_eq_left (Nat.le_trans short (roomy most rfl))

/-- A well-formed chain is answered in full: what can be read is written where there is room, and
nothing else is stored. -/
theorem answer_spec {chain : Chain} {space : AddressSpace}
    (roomy : ∀ most ∈ longest, 65536 ≤ most) (faultFree : space.FaultFree)
    (ordered : chain.segments.filter (·.isReadable) ++
      chain.segments.filter (·.isWritable) = chain.segments)
    (short : (chain.segments.map (·.length.toNat)).sum ≤ 65536)
    (ram : Segment.InRam space.memory chain.segments)
    (apart : chain.segments.Pairwise Segment.Apart) :
    ∃ last, answer longest chain space = (chain.completion, last) ∧
      AddressSpace.Writes (Sparing (· ∉ chain.answered)) space last ∧
      chain.answered.map last.byteAt? = chain.requested.map space.byteAt? := by
  have hreadable : Segment.InRam space.memory (chain.segments.filter (·.isReadable)) :=
    fun segment listed => ram segment (List.mem_of_mem_filter listed)
  have hwritable : Segment.InRam space.memory (chain.segments.filter (·.isWritable)) :=
    fun segment listed => ram segment (List.mem_of_mem_filter listed)
  have hdistinct := hwritable.nodup_addresses faultFree.wellFormed (apart.filter _)
  -- The buffer of the device has room for all that can be read.
  have hroom : chain.readable.length ≤ bufferLength longest chain := by
    rw [bufferLength_eq roomy short, ← Chain.length_readable_add_writable ordered]
    exact Nat.le_add_right _ _
  have hgathered : (space.gather (chain.segments.filter (·.isReadable))
      (bufferLength longest chain)).map some =
        (chain.readable.take (bufferLength longest chain)).map space.byteAt? :=
    faultFree.map_some_gather hreadable _
  rw [List.take_of_length_le hroom] at hgathered
  generalize hbytes : space.gather (chain.segments.filter (·.isReadable))
    (bufferLength longest chain) = bytes at hgathered
  have hlength : bytes.length = chain.readable.length := by
    have hmapped := congrArg List.length hgathered
    rwa [List.length_map, List.length_map] at hmapped
  obtain ⟨last, hscattered, hwrites, hstored⟩ :
      ∃ last, space.scatter (chain.segments.filter (·.isWritable)) bytes =
          (min bytes.length chain.writable.length, last) ∧
        AddressSpace.Writes (Sparing (· ∉ chain.writable.take bytes.length)) space last ∧
        (chain.writable.take bytes.length).map last.byteAt? =
          (bytes.take chain.writable.length).map some :=
    faultFree.scatter_spec hwritable hdistinct bytes
  have hanswered : chain.writable.take bytes.length = chain.answered := by
    rw [List.take_eq_take_min, hlength]
    rfl
  have hechoed : bytes.take chain.writable.length = bytes.take chain.echoed := by
    rw [List.take_eq_take_min, hlength, Nat.min_comm]
    rfl
  rw [hanswered] at hwrites hstored
  refine ⟨last, ?_, hwrites, ?_⟩
  · unfold answer
    rw [Segment.splitByDirection_of_ordered ordered]
    dsimp only
    rw [hbytes, hscattered, hlength]
    rfl
  · rw [hstored, hechoed, List.map_take, hgathered, ← List.map_take]
    rfl

/-- The address is none of those at which taking and answering chains changes memory. -/
def Untouched (ring : RingAddresses) (chains : List Chain) (gpa : UInt64) : Prop :=
  ¬ring.DeviceOwned gpa ∧ ∀ chain ∈ chains, gpa ∉ chain.answered

/-- What many chains leave alone, fewer of them do. -/
theorem Untouched.mono {ring : RingAddresses} {chains fewer : List Chain} {gpa : UInt64}
    (untouched : Untouched ring chains gpa) (among : ∀ chain ∈ fewer, chain ∈ chains) :
    Untouched ring fewer gpa :=
  ⟨untouched.1, fun chain listed => untouched.2 chain (among chain listed)⟩

section Round

variable {queue : Queue} {ring : ActiveRing} {space : AddressSpace} {chain : Chain}
  {rest : List Chain} {start : UInt16} {elements : List UsedElement}

/-- The answer to a pending chain leaves the driver's half of the ring alone. -/
theorem untouched_of_driverHalf (pending : queue.Pending ring.addresses space (chain :: rest))
    (active : queue.ring = some ring) (served : ring.ServedBy space) {gpa : UInt64}
    (half : ring.addresses.DriverHalf gpa) : Untouched ring.addresses [chain] gpa := by
  refine ⟨served.wellPlaced.placed.not_deviceOwned_of_driverHalf half, fun other listed inside => ?_⟩
  rw [List.mem_singleton.1 listed] at inside
  exact pending.not_inSpan active List.mem_cons_self
    (Chain.covers_of_answered (pending.wellFormed chain List.mem_cons_self).ram
      served.faultFree.wellFormed inside) (served.wellPlaced.inSpan_of_driverHalf half)

/-- The first pending chain is taken, answered and returned. -/
theorem round_spec (roomy : ∀ most ∈ longest, 65536 ≤ most)
    (pending : queue.Pending ring.addresses space (chain :: rest))
    (active : queue.ring = some ring) (served : ring.ServedBy space)
    (returns : ring.Returns space start elements)
    (apart : ring.addresses.SlotsApart start (elements.length + 1))
    (short : rest.length + 1 < 65536) :
    ∃ taken filled last,
      queue.popChain space = (.ok (some chain), queue.withRing ring.advance, taken) ∧
      answer longest chain taken = (chain.completion, filled) ∧
      (queue.withRing ring.advance).publishUsed filled chain.completion = (.ok (), last) ∧
      ring.Returns last start (elements ++ [chain.completion]) ∧
      AddressSpace.Writes (Sparing (Untouched ring.addresses [chain])) space last ∧
      chain.answered.map last.byteAt? = chain.requested.map space.byteAt? := by
  have hplaced := served.wellPlaced.placed
  have hwellFormed := served.faultFree.wellFormed
  have hchain := pending.wellFormed chain List.mem_cons_self
  obtain ⟨taken, hpopped, hevent⟩ := pending.popChain active served short
  have hserved := served.of_writes hevent
  have hapart : chain.segments.Pairwise Segment.Apart := by
    have hall := pending.apart
    rw [List.flatMap_cons, List.pairwise_append] at hall
    exact hall.1
  obtain ⟨filled, hanswer, hfill, hechoed⟩ := answer_spec roomy hserved.faultFree hchain.ordered
    hchain.short (hevent.inRam hwellFormed hchain.ram) hapart
  have hserved' := hserved.of_writes hfill
  have hnext := Queue.ring_withRing queue ring.advance
  have hreturned : (queue.withRing ring.advance).publishUsed filled chain.completion =
      (.ok (), (ring.publish filled chain.completion).2) :=
    Prod.ext (Queue.publishUsed_of_served hnext (hserved'.withCursors _ _) _) rfl
  have hpublish := ActiveRing.writes_publish served.wellPlaced filled chain.completion
  -- What is taken, answered and returned changes nothing but the device's own bytes and the answer.
  have hforeign : ∀ gpa, chain.Covers gpa → ¬ring.addresses.DeviceOwned gpa := fun _ covers =>
    pending.not_deviceOwned active served.wellPlaced List.mem_cons_self covers
  have hevent' := hevent.mono fun _ _ here => RingAddresses.sparing_not_deviceOwned (Or.inr here)
  have hpublish' := hpublish.mono fun _ _ here => RingAddresses.sparing_not_deviceOwned (Or.inl here)
  refine ⟨taken, filled, _, hpopped, hanswer, hreturned, ?_, ?_, ?_⟩
  · have htaken := returns.kept hplaced
      (hevent.mono fun _ _ here => hplaced.sparing_usedHalf here) hwellFormed
    have hfilled := htaken.kept hplaced (hfill.mono fun _ _ here => here.mono fun gpa half listed =>
      pending.not_inSpan active List.mem_cons_self
        (Chain.covers_of_answered hchain.ram hwellFormed listed)
        (served.wellPlaced.inSpan_of_usedHalf half)) hserved.faultFree.wellFormed
    exact hfilled.publish hserved' apart chain.completion
  · have hanswered : ∀ gpa, Untouched ring.addresses [chain] gpa → gpa ∉ chain.answered :=
      fun gpa untouched => untouched.2 chain List.mem_cons_self
    exact ((hevent'.mono fun _ _ here => here.mono fun _ untouched => untouched.1).trans
      (hfill.mono fun _ _ here => here.mono hanswered)).trans
        (hpublish'.mono fun _ _ here => here.mono fun _ untouched => untouched.1)
  · calc chain.answered.map (ring.publish filled chain.completion).2.byteAt?
        = chain.answered.map filled.byteAt? := List.map_congr_left fun gpa listed =>
          hpublish'.byteAt?_kept hserved'.faultFree.wellFormed
            (hforeign gpa (Chain.covers_of_answered hchain.ram hwellFormed listed))
      _ = chain.requested.map taken.byteAt? := hechoed
      _ = chain.requested.map space.byteAt? := List.map_congr_left fun gpa listed =>
          hevent'.byteAt?_kept hwellFormed
            (hforeign gpa (Chain.covers_of_requested hchain.ram hwellFormed listed))

end Round

section Drain

variable {queue : Queue} {ring : ActiveRing} {space : AddressSpace} {guests : Guests}

/-- Draining ends where there is no chain. -/
theorem drain_of_idle (active : queue.ring = some ring) (present : ring.guest < guests.length)
    (idle : queue.popChain space = (.ok none, queue, space)) (fuel answered : Nat) :
    drain ring.guest longest (fuel + 1) queue (guests.setSpace ring.guest space) answered =
      (.ok answered, queue, guests.setSpace ring.guest space) := by
  rw [drain, Queue.runOn_setSpace active present, idle]

/-- Draining goes on with the next chain after one was answered. -/
theorem drain_of_round {chain : Chain} {taken filled last : AddressSpace} {element : UsedElement}
    (active : queue.ring = some ring) (present : ring.guest < guests.length)
    (popped : queue.popChain space = (.ok (some chain), queue.withRing ring.advance, taken))
    (filling : answer longest chain taken = (element, filled))
    (returned : (queue.withRing ring.advance).publishUsed filled element = (.ok (), last))
    (fuel answered : Nat) :
    drain ring.guest longest (fuel + 1) queue (guests.setSpace ring.guest space) answered =
      drain ring.guest longest fuel (queue.withRing ring.advance)
        (guests.setSpace ring.guest last) (answered + 1) := by
  have hnext := Queue.ring_withRing queue ring.advance
  have htaken : (guests.setSpace ring.guest taken).space ring.guest = taken := by
    rw [Guests.space_setSpace _ _ _ _ present, if_pos rfl]
  have hpublished : (queue.withRing ring.advance).publishIn
      (guests.setSpace ring.guest filled) element = (.ok (), guests.setSpace ring.guest last) := by
    have hreturned : (queue.withRing ring.advance).publishIn
        (guests.setSpace ring.guest filled) element = _ :=
      Queue.publishIn_setSpace hnext present element
    rw [returned] at hreturned
    exact hreturned
  rw [drain, Queue.runOn_setSpace active present, popped]
  dsimp only
  rw [htaken, filling]
  dsimp only
  rw [Guests.setSpace_setSpace, hpublished]

/-- Answering other chains changes no byte of a pending chain's buffers. -/
theorem byteAt?_kept_of_covers {chains others : List Chain} {chain : Chain}
    (pending : queue.Pending ring.addresses space chains) (active : queue.ring = some ring)
    (served : ring.ServedBy space) (listed : chain ∈ chains) (among : others ⊆ chains)
    (apart : ∀ other ∈ others, ∀ gpa, chain.Covers gpa → ¬other.Covers gpa)
    {before last : AddressSpace} (initial : before.memory.WellFormed)
    (writes : AddressSpace.Writes (Sparing (Untouched ring.addresses others)) before last)
    {gpa : UInt64} (covers : chain.Covers gpa) : last.byteAt? gpa = before.byteAt? gpa := by
  refine writes.byteAt?_kept initial
    ⟨pending.not_deviceOwned active served.wellPlaced listed covers, fun other hother inside => ?_⟩
  have hram := (pending.wellFormed other (among hother)).ram
  exact apart other hother gpa covers
    (Chain.covers_of_answered hram served.faultFree.wellFormed inside)

/-- All pending chains are answered, in their order. -/
theorem drain_pending {chains : List Chain} {start : UInt16} {elements : List UsedElement}
    (roomy : ∀ most ∈ longest, 65536 ≤ most)
    (pending : queue.Pending ring.addresses space chains) (active : queue.ring = some ring)
    (served : ring.ServedBy space) (returns : ring.Returns space start elements)
    (power : ring.addresses.count.toNat.isPowerOfTwo)
    (room : elements.length + chains.length ≤ ring.addresses.count.toNat)
    (present : ring.guest < guests.length) {fuel : Nat} (enough : chains.length < fuel)
    (answered : Nat) :
    ∃ last, drain ring.guest longest fuel queue (guests.setSpace ring.guest space) answered =
        (.ok (answered + chains.length), queue.withRing (ring.withCursors
          (ring.lastAvailable + UInt16.ofNat chains.length) ring.lastSignalled),
          guests.setSpace ring.guest last) ∧
      ring.Returns last start (elements ++ chains.map Chain.completion) ∧
      AddressSpace.Writes (Sparing (Untouched ring.addresses chains)) space last ∧
      ∀ chain ∈ chains, chain.answered.map last.byteAt? = chain.requested.map space.byteAt? := by
  obtain ⟨fuel, rfl⟩ : ∃ left, fuel = left + 1 := ⟨fuel - 1, by omega⟩
  induction chains generalizing queue ring space elements fuel answered with
  | nil =>
    have hidle := Queue.popChain_of_idle (pending.hasWork_nil active)
    refine ⟨space, ?_, ?_, .refl, fun chain listed => by cases listed⟩
    · rw [drain_of_idle active present hidle, List.length_nil, ActiveRing.withCursors_zero,
        Queue.withRing_of_active active]
      rfl
    · rwa [List.map_nil, List.append_nil]
  | cons chain rest ih =>
    have hplaced := served.wellPlaced.placed
    have hwellFormed := served.faultFree.wellFormed
    rw [List.length_cons] at room enough
    have hcount := hplaced.count_le
    have hchain := pending.wellFormed chain List.mem_cons_self
    obtain ⟨taken, filled, middle, hpopped, hanswer, hreturned, hreturns, hwrites, hechoed⟩ :=
      round_spec roomy pending active served returns
        (RingAddresses.slotsApart_of_isPowerOfTwo hplaced power (by omega)) (by omega)
    have hserved := served.of_writes hwrites
    have hnext := Queue.ring_withRing queue ring.advance
    have hrest : (queue.withRing ring.advance).Pending ring.advance.addresses middle rest :=
      pending.tail active served (hwrites.mono fun _ _ here => here.mono fun _ half =>
        untouched_of_driverHalf pending active served half)
    obtain ⟨fuel, rfl⟩ : ∃ left, fuel = left + 1 := ⟨fuel - 1, by omega⟩
    have hroom : (elements ++ [chain.completion]).length + rest.length ≤
        ring.advance.addresses.count.toNat := by
      rw [List.length_append, List.length_singleton]
      exact Nat.le_trans (Nat.le_of_eq (by omega)) room
    obtain ⟨last, hdrained, hreturns', hwrites', hechoed'⟩ := ih hrest hnext
      (hserved.withCursors _ _) (hreturns.withCursors _ _) power hroom present
      (answered + 1) fuel (by omega)
    refine ⟨last, ?_, ?_, ?_, ?_⟩
    · have hcursor : ring.advance.lastAvailable + UInt16.ofNat rest.length =
          ring.lastAvailable + UInt16.ofNat (rest.length + 1) := succ_add_ofNat _ _
      have htotal : answered + 1 + rest.length = answered + (rest.length + 1) := by omega
      rw [drain_of_round active present hpopped hanswer hreturned]
      rw [hcursor, htotal] at hdrained
      exact hdrained
    · rw [List.map_cons, ← List.singleton_append, ← List.append_assoc]
      exact ⟨hreturns'.index, hreturns'.slots⟩
    · have hearlier := hwrites.mono fun _ _ here => here.mono fun _ untouched =>
        Untouched.mono untouched (List.cons_subset_cons chain (List.nil_subset rest))
      have hlater := hwrites'.mono fun _ _ here => here.mono fun _ untouched =>
        Untouched.mono untouched fun _ => List.mem_cons_of_mem chain
      exact hearlier.trans hlater
    · intro other listed
      rcases List.mem_cons.1 listed with rfl | later
      · -- No later answer meets this one.
        rw [← hechoed]
        exact List.map_congr_left fun gpa inside =>
          byteAt?_kept_of_covers pending active served listed (List.subset_cons_self _ _)
            (fun third hthird gpa covers => pending.not_covers hthird covers)
            hserved.faultFree.wellFormed hwrites'
            (Chain.covers_of_answered hchain.ram hwellFormed inside)
      · -- The first answer does not meet a later request.
        have hram := (pending.wellFormed other listed).ram
        rw [hechoed' other later]
        refine List.map_congr_left fun gpa inside =>
          byteAt?_kept_of_covers pending active served listed
            (List.cons_subset_cons chain (List.nil_subset rest)) ?_ hwellFormed hwrites
            (Chain.covers_of_requested hram hwellFormed inside)
        intro first hfirst gpa covers met
        rw [List.mem_singleton.1 hfirst] at met
        exact pending.not_covers later met covers

end Drain

/-- A guest whose memory holds something is one of the guests. -/
theorem lt_length_of_holdsRam {guests : Guests} {guest : Nat} {start : UInt64} {size : Nat}
    (ram : (guests.space guest).memory.HoldsRam start size) : guest < guests.length := by
  by_contra absent
  obtain ⟨region, listed, _⟩ := ram
  rw [Guests.space, List.getElem?_eq_none (Nat.le_of_not_lt absent)] at listed
  cases listed

/-- On a ring with a power of two of descriptors, wherever device and driver are in it, the emulator
answers all pending chains and then stops, if its buffers are as long as the chains or may at least
be 64 KiB long. Every chain is returned once, in order, with the number of bytes that could be read
of it and that it had room for, and holds these bytes where it may be written. Nothing else has
changed but what belongs to the device in the ring. -/
theorem drain_answers {space : AddressSpace} (faultFree : space.FaultFree)
    {queue queue' : Queue} {guest : Nat} {pageNumber pageSize : UInt64} {count : UInt32}
    {align : UInt64}
    (setUp : queue.setup guest space pageNumber pageSize count align = (.ok (), queue'))
    (power : count.toNat.isPowerOfTwo)
    {addresses : RingAddresses} (located : queue'.addresses = some addresses)
    (roomy : ∀ most ∈ longest, 65536 ≤ most) (events : List RingEvent) {guests : Guests}
    {chains : List Chain} {fuel : Nat} :
    let state := (⟨queue', space⟩ : RingState).run events
    guests.space guest = state.space → state.queue.Pending addresses state.space chains →
      chains.length ≤ count.toNat → chains.length < fuel →
      ∃ used, state.space.read16 addresses.usedIndex = .ok used ∧
        ∃ after last, drain guest longest fuel state.queue guests 0 =
            (.ok chains.length, after, guests.setSpace guest last) ∧
          after.lastAvailable = state.queue.lastAvailable + UInt16.ofNat chains.length ∧
          last.read16 addresses.usedIndex = .ok (used + UInt16.ofNat chains.length) ∧
          (∀ offset chain, chains[offset]? = some chain → ∃ element,
            addresses.readUsed last (addresses.slotOf (used + UInt16.ofNat offset)) = .ok element ∧
            element.head = chain.head.toUInt32 ∧
            element.written.toNat = min chain.readable.length chain.writable.length) ∧
          (∀ chain ∈ chains,
            chain.answered.map last.byteAt? = chain.requested.map state.space.byteAt?) ∧
          ∀ gpa, ¬addresses.DeviceOwned gpa → (∀ chain ∈ chains, gpa ∉ chain.answered) →
            last.byteAt? gpa = state.space.byteAt? gpa := by
  intro state held pending bounded enough
  obtain ⟨ring, active', serves, hring⟩ := RingState.serves_of_setup faultFree setUp
  obtain rfl : ring.addresses = addresses := Queue.addresses_eq_of_located active' located
  obtain rfl : ring.addresses.count = count := by
    rw [hring, Queue.count_addresses_freshRing]
  have hguest : ring.guest = guest := by
    rw [hring]
    rfl
  have hserves := serves.run events
  obtain ⟨lastAvailable, lastSignalled, active⟩ := hserves.active
  have hserved := hserves.served.withCursors lastAvailable lastSignalled
  obtain ⟨used, hused⟩ : ∃ used, state.space.read16 ring.addresses.usedIndex = .ok used :=
    ⟨_, hserves.served.faultFree.read16_eq hserves.served.ram_usedIndex⟩
  have hreturns := (ActiveRing.returns_nil hused).withCursors lastAvailable lastSignalled
  have hpresent : guest < guests.length := by
    have hram := hserves.served.ram
    rw [← held] at hram
    exact lt_length_of_holdsRam hram
  have hroom : ([] : List UsedElement).length + chains.length ≤ ring.addresses.count.toNat := by
    rwa [List.length_nil, Nat.zero_add]
  have hpending : state.queue.Pending (ring.withCursors lastAvailable lastSignalled).addresses
      state.space chains := pending
  obtain ⟨last, hdrained, hreturns', hwrites, hechoed⟩ := drain_pending roomy hpending active
    hserved hreturns power hroom (hguest.symm ▸ hpresent) enough 0
  have hguests : guests.setSpace guest state.space = guests := by
    rw [← held, Guests.setSpace_space]
  rw [Nat.zero_add, ActiveRing.guest_withCursors, hguest, hguests] at hdrained
  have hindex := hreturns'.index
  rw [List.nil_append, List.length_map] at hindex
  refine ⟨used, hused, _, last, hdrained, ?_, hindex, ?_, hechoed, ?_⟩
  · rw [Queue.lastAvailable_of_active active]
    rfl
  · intro offset chain listed
    have hchain := pending.wellFormed chain (List.mem_of_getElem? listed)
    have helement := hreturns'.slots offset chain.completion (by
      rw [List.nil_append, List.getElem?_map, listed, Option.map_some])
    exact ⟨_, helement, rfl, hchain.toNat_written_completion⟩
  · intro gpa foreign untouched
    exact hwrites.byteAt?_kept hserved.faultFree.wellFormed ⟨foreign, untouched⟩

/-- Three bytes are offered with room for two, and two of them are echoed. -/
theorem drain_answers_smallRing :
    let start : RingState := ⟨Queue.withRing {} smallRing, { memory := smallMemory }⟩
    let state := start.run [
      .guestStore 4096 ((⟨8192, 3, 1, 1⟩ : Descriptor).encode ++
        (⟨8448, 2, 2, 0⟩ : Descriptor).encode),
      .guestStore 4162 [1, 0], .guestStore 8192 [7, 8, 9]]
    ∃ after last, drain 0 none 2 state.queue [⟨1, "guest", state.space⟩] 0 =
        (.ok 1, after, [⟨1, "guest", last⟩]) ∧
      smallRing.addresses.readUsed last 0 = .ok ⟨0, 2⟩ ∧
      last.byteAt? 8448 = some 7 ∧ last.byteAt? 8449 = some 8 := by
  intro start state
  have hfaultFree := AddressSpace.faultFree_of_build build_smallMemory
  have hram : ∀ start width, start.toNat + width ≤ 65536 →
      state.space.memory.HoldsRam start width := by
    intro start width fits
    have hsmall : smallMemory.HoldsRam start width :=
      ⟨_, List.mem_singleton.2 rfl, ⟨_, rfl⟩, Nat.zero_le _, by simpa using fits⟩
    exact RingState.counts_smallRing.serves.holdsRam_run hsmall _
  have hchain : (⟨0, [⟨8192, 3, .fromGuest⟩, ⟨8448, 2, .toGuest⟩]⟩ : Chain).WellFormed state.queue
      state.space := by
    refine ⟨by decide, ⟨[⟨8192, 3, 1, 1⟩, ⟨8448, 2, 2, 0⟩], ?_, by decide, by decide, rfl⟩, rfl,
      by decide, ?_⟩
    · exact .link (by decide) rfl (by decide) (.last (by decide) rfl)
    · intro segment listed
      simp only [List.mem_cons, List.not_mem_nil, or_false] at listed
      rcases listed with rfl | rfl
      · exact hram _ _ (by decide)
      · exact hram _ _ (by decide)
  have hpending : state.queue.Pending smallRing.addresses state.space
      [⟨0, [⟨8192, 3, .fromGuest⟩, ⟨8448, 2, .toGuest⟩]⟩] := by
    refine ⟨rfl, ?_, ?_, ?_, ?_⟩
    · intro offset head listed
      cases offset with
      | zero =>
        cases listed
        have hslot : state.space.read16 4164 = .ok 0 := rfl
        exact hslot
      | succ offset => cases listed
    · intro chain listed
      rw [List.mem_singleton.1 listed]
      exact hchain
    · refine List.pairwise_pair.2 fun gpa here there => ?_
      simp only [Segment.Covers, InSpan, UInt64.reduceToNat, UInt32.reduceToNat] at here there
      omega
    · rintro chain listed gpa ⟨segment, hsegment, hcovers⟩
      have haddress : state.queue.address = 4096 := rfl
      have hsize : state.queue.totalSize = 118 := rfl
      rw [List.mem_singleton.1 listed] at hsegment
      simp only [List.mem_cons, List.not_mem_nil, or_false] at hsegment
      rw [haddress, hsize]
      rcases hsegment with rfl | rfl
      · simp only [Segment.Covers, InSpan, UInt64.reduceToNat, UInt32.reduceToNat] at hcovers ⊢
        omega
      · simp only [Segment.Covers, InSpan, UInt64.reduceToNat, UInt32.reduceToNat] at hcovers ⊢
        omega
  have hroomy : ∀ most ∈ (none : Option Nat), 65536 ≤ most := fun _ bound => by cases bound
  obtain ⟨used, hused, after, last, hdrained, _, _, hreturned, hechoed, _⟩ := drain_answers hfaultFree
    setup_smallRing ⟨2, rfl⟩ rfl hroomy _
    (rfl : Guests.space [⟨1, "guest", state.space⟩] 0 = state.space) hpending (by decide)
    (by decide : 1 < 2)
  have hunused : state.space.read16 smallRing.addresses.usedIndex = .ok 0 := rfl
  obtain rfl : 0 = used := Except.ok.inj (hunused.symm.trans hused)
  obtain ⟨⟨head, written⟩, helement, hhead, hwritten⟩ := hreturned 0 _ rfl
  have hcount : written = 2 := UInt32.toNat_inj.1 hwritten
  obtain rfl : head = 0 := hhead
  have hbytes : [last.byteAt? 8448, last.byteAt? 8449] = [some 7, some 8] :=
    hechoed _ List.mem_cons_self
  obtain ⟨hfirst, hrest⟩ := List.cons.inj hbytes
  exact ⟨after, last, hdrained, hcount ▸ helement, hfirst, (List.cons.inj hrest).1⟩

end Echo

end Paravirt

import Paravirt.Proofs.Memory.Bytewise
import Paravirt.Proofs.Memory.Resolution
import Paravirt.Proofs.Segment.Extent

/-!
# Transfers over segments are exact prefixes

Whatever segments a guest names, a transfer moves bytes one after another through their addresses as
they are listed, and leaves off at the first one that it cannot move: what was read are the first bytes
at these addresses, and what was written stands there as if it had been stored byte by byte, the later
byte where an address occurs twice. How many there are is said by the declaration of the memory alone.
-/

namespace Paravirt

namespace Segment

/-- A transfer moves a prefix of what is wanted: it stops for a reason, and at once. What it hands back
besides the count can be a buffer or a memory. -/
structure MovesPrefix {β : Type} (room : UInt64 → Nat) (wanted : Nat)
    (transfer : List Segment → Nat × β) (segments : List Segment) : Prop where
  /-- It moves no more than is wanted and no more than the segments hold. -/
  count_le : (transfer segments).1 ≤ min wanted (total segments)
  /-- None of the addresses that it moves bytes at has wrapped. -/
  unwrapped : Unwrapped segments (transfer segments).1
  /-- If it moves less, then a segment was not served in full by its region: the bytes of the segments
  before it and those in the region were moved, and whatever stands behind that segment in the list
  makes no difference. -/
  stops : (transfer segments).1 < min wanted (total segments) →
    ∃ earlier segment later, segments = earlier ++ segment :: later ∧
      (transfer segments).1 = total earlier + room segment.address ∧
      room segment.address < min (wanted - total earlier) segment.length.toNat ∧
      ∀ others, transfer (earlier ++ segment :: others) = transfer segments
  /-- And wherever a segment is not, no more is moved than that. -/
  halts : ∀ earlier segment later, segments = earlier ++ segment :: later →
    room segment.address < min (wanted - total earlier) segment.length.toNat →
      (transfer segments).1 ≤ total earlier + room segment.address
  /-- A segment without bytes makes no difference wherever it stands, memory or not. -/
  passesOver : ∀ earlier later empty, segments = earlier ++ later → empty.length = 0 →
    transfer (earlier ++ empty :: later) = transfer segments

variable {β : Type} {room : UInt64 → Nat} {wanted : Nat} {transfer : List Segment → Nat × β}

/-- The first addresses up to some in a list of segments are not changed by what follows them. -/
theorem take_addresses_append {earlier : List Segment} {count : Nat} (within : count ≤ total earlier)
    (later : List Segment) :
    (addresses (earlier ++ later)).take count = (addresses earlier).take count := by
  rw [addresses_append, List.take_append_of_le_length]
  rwa [length_addresses]

/-- A transfer moves a prefix if it comes as far as the room goes and depends on nothing else than the
addresses up to there. -/
theorem movesPrefix_of_served (fits : ∀ gpa, gpa.toNat + room gpa < UInt64.size)
    (count_eq : ∀ segments, (transfer segments).1 = served room segments wanted)
    (congr : ∀ segments segments',
      reached room segments wanted = reached room segments' wanted →
        transfer segments = transfer segments')
    (segments : List Segment) : MovesPrefix room wanted transfer segments where
  count_le := by
    rw [count_eq]
    exact served_le room segments wanted
  unwrapped := by
    rw [count_eq]
    exact unwrapped_served fits segments wanted
  stops short := by
    rw [count_eq] at short
    obtain ⟨earlier, segment, later, split, hserved, hshort, hothers⟩ :=
      exists_short_of_served_lt short
    refine ⟨earlier, segment, later, split, by rw [count_eq, hserved], hshort, fun others => ?_⟩
    have hwithin : served room segments wanted ≤ total (earlier ++ [segment]) := by
      rw [total_append, total_cons, total_nil]
      omega
    have hsame (behind : List Segment) :
        (addresses (earlier ++ segment :: behind)).take (served room segments wanted) =
          (addresses (earlier ++ [segment])).take (served room segments wanted) := by
      rw [List.append_cons]
      exact take_addresses_append hwithin behind
    refine congr _ _ ?_
    rw [reached, hothers others, hsame others, ← hsame later, ← split, reached]
  halts earlier segment later split short := by
    rw [count_eq, split]
    exact served_le_of_short short
  passesOver earlier later empty split nothing := by
    have hlength : empty.length.toNat = 0 := by rw [nothing, UInt32.toNat_zero]
    subst split
    refine congr _ _ ?_
    rw [reached, reached, served_append_empty hlength, addresses_append_empty hlength]

/-- Segments in memory that are apart have no address twice. -/
theorem InRam.nodup_addresses {memory : Memory} {segments : List Segment}
    (ram : InRam memory segments) (wellFormed : memory.WellFormed)
    (apart : segments.Pairwise Apart) : (addresses segments).Nodup := by
  have hfitting : ∀ segment ∈ segments,
      segment.length.toNat ≤ memory.writeReach segment.address :=
    fun segment listed => (ram segment listed).le_writeReach wellFormed
  have hdistinct :=
    (unwrapped_served wellFormed.writeReach_fits segments (total segments)).nodup apart
  rwa [served_of_fitting hfitting, take_total_addresses] at hdistinct

end Segment

/-- Writes reach as far as the declaration says. -/
theorem Memory.DeclaredBy.writeReach_eq {memory : Memory} {specs : List RegionSpec}
    (declared : memory.DeclaredBy specs) (gpa : UInt64) :
    memory.writeReach gpa = RegionSpec.writeRoom specs gpa := by
  -- Enough bytes for both let the count tell them apart.
  have hcount := declared.write_fst gpa
    (List.replicate (memory.writeReach gpa + RegionSpec.writeRoom specs gpa) 0)
  rw [Memory.write_fst_eq, List.length_replicate] at hcount
  omega

namespace AddressSpace

open Segment (addresses reached served)

variable {space : AddressSpace}

namespace FaultFree

/-- Reading segments lists the bytes at the addresses that reads come to. -/
theorem map_some_gather_eq (faultFree : space.FaultFree) (segments : List Segment) (room : Nat) :
    (space.gather segments room).map some =
      (reached space.memory.readReach segments room).map space.byteAt? := by
  induction segments generalizing room with
  | nil => rfl
  | cons segment rest ih =>
    by_cases full : room = 0
    · rw [gather, if_pos full, reached, full, Segment.served_zero]
      rfl
    generalize hpart : min room segment.length.toNat = part
    have hread := faultFree.wellFormed.map_some_read segment.address part
    have hlength := space.memory.length_read segment.address part
    have hnext : room - part = room - segment.length.toNat := by omega
    rw [gather, if_neg full, hpart]
    dsimp only
    rw [faultFree.read_eq]
    by_cases enough : part ≤ space.memory.readReach segment.address
    · rw [Nat.min_eq_left enough] at hread hlength
      rw [if_pos hlength, hnext, List.map_append, hread, ih,
        Segment.reached_cons_of_le (hpart ▸ enough), hpart, List.map_append]
      rfl
    · have hshort := Nat.lt_of_not_le enough
      rw [Nat.min_eq_right (Nat.le_of_lt hshort)] at hread hlength
      rw [if_neg (by omega), hread, Segment.reached_cons_of_lt (hpart ▸ hshort)]
      rfl

/-- So many bytes are read. -/
theorem length_gather (faultFree : space.FaultFree) (segments : List Segment) (room : Nat) :
    (space.gather segments room).length = served space.memory.readReach segments room := by
  rw [← List.length_map some, faultFree.map_some_gather_eq, List.length_map,
    Segment.length_reached]

/-- Writing segments stores the bytes one after another at the addresses that writes come to. -/
theorem scatter_eq (faultFree : space.FaultFree) (segments : List Segment) (bytes : List UInt8) :
    space.scatter segments bytes = (served space.memory.writeReach segments bytes.length,
      space.storeEach ((reached space.memory.writeReach segments bytes.length).zip bytes)) := by
  induction segments generalizing space bytes with
  | nil => rfl
  | cons segment rest ih =>
    by_cases nothing : bytes = []
    · rw [nothing, scatter, reached, List.length_nil, Segment.served_zero]
      rfl
    generalize hpart : min bytes.length segment.length.toNat = part
    have hlength : (bytes.take segment.length.toNat).length = part := by
      rw [List.length_take, Nat.min_comm, hpart]
    rw [scatter, if_neg (by simpa using nothing)]
    dsimp only
    rw [faultFree.write_eq_storeEach, hlength]
    dsimp only
    by_cases enough : part ≤ space.memory.writeReach segment.address
    · have hzip (places : List UInt64) : (span segment.address part ++ places).zip bytes =
          (span segment.address part).zip (bytes.take segment.length.toNat) ++
            places.zip (bytes.drop segment.length.toNat) := by
        conv => lhs; rw [← List.take_append_drop segment.length.toNat bytes]
        exact List.zip_append ((length_span _ _).trans hlength.symm)
      rw [Nat.min_eq_left enough, if_pos rfl, ih (faultFree.storeEach _),
        faultFree.writeReach_storeEach, List.length_drop,
        Segment.served_cons_of_le (hpart ▸ enough), Segment.reached_cons_of_le (hpart ▸ enough),
        hpart, hzip, storeEach_append]
    · have hshort := Nat.lt_of_not_le enough
      have hspan : (span segment.address (space.memory.writeReach segment.address)).length ≤
          segment.length.toNat := by
        rw [length_span]
        omega
      rw [Nat.min_eq_right (Nat.le_of_lt hshort), if_neg (Nat.ne_of_lt hshort),
        Segment.served_cons_of_lt (hpart ▸ hshort), Segment.reached_cons_of_lt (hpart ▸ hshort),
        zip_take hspan]

/-- What stands at each address after writing segments. -/
theorem byteAt?_scatter (faultFree : space.FaultFree) (segments : List Segment)
    (bytes : List UInt8) : (space.scatter segments bytes).2.byteAt? = overlay space.byteAt?
      ((reached space.memory.writeReach segments bytes.length).zip bytes) := by
  rw [faultFree.scatter_eq]
  refine faultFree.byteAt?_storeEach fun stored listed => ?_
  have hwellFormed := faultFree.wellFormed
  refine Segment.of_mem_reached (0 < space.memory.writeReach ·) (fun gpa offset inside => ?_)
    (List.of_mem_zip listed).1
  rw [hwellFormed.writeReach_add inside]
  omega

section InRam

variable {segments : List Segment}

/-- Reading segments in memory lists the bytes at their addresses as far as there is room. -/
theorem map_some_gather (faultFree : space.FaultFree) (ram : Segment.InRam space.memory segments)
    (room : Nat) : (space.gather segments room).map some =
      ((addresses segments).take room).map space.byteAt? := by
  have hfitting : ∀ segment ∈ segments,
      segment.length.toNat ≤ space.memory.readReach segment.address :=
    fun segment listed => (ram segment listed).le_readReach faultFree.wellFormed
  have htotal : (addresses segments).length = Segment.total segments :=
    Segment.length_addresses segments
  rw [faultFree.map_some_gather_eq, reached, Segment.served_eq_min hfitting, ← htotal,
    ← List.take_eq_take_min]

/-- Writing segments in memory puts bytes at their addresses until the bytes or the addresses run out,
and changes nothing else. -/
theorem scatter_spec (faultFree : space.FaultFree) (ram : Segment.InRam space.memory segments)
    (distinct : (addresses segments).Nodup) (bytes : List UInt8) :
    ∃ last, space.scatter segments bytes = (min bytes.length (addresses segments).length, last) ∧
      Writes (Sparing (· ∉ (addresses segments).take bytes.length)) space last ∧
      ((addresses segments).take bytes.length).map last.byteAt? =
        (bytes.take (addresses segments).length).map some := by
  have htotal : (addresses segments).length = Segment.total segments :=
    Segment.length_addresses segments
  have hserved : served space.memory.writeReach segments bytes.length =
      min bytes.length (addresses segments).length := by
    rw [htotal]
    exact Segment.served_eq_min
      (fun segment listed => (ram segment listed).le_writeReach faultFree.wellFormed) _
  have hplaces : reached space.memory.writeReach segments bytes.length =
      (addresses segments).take bytes.length := by
    rw [reached, hserved, ← List.take_eq_take_min]
  have hscattered := faultFree.scatter_eq segments bytes
  have hbytes := faultFree.byteAt?_scatter segments bytes
  rw [hplaces] at hscattered hbytes
  rw [hserved] at hscattered
  refine ⟨_, hscattered, Writes.refl.storeEach fun stored listed gpa inside outside => ?_, ?_⟩
  · have hsame : gpa = stored.1 := by
      rw [← UInt64.toNat_inj]
      simp only [InSpan] at inside
      omega
    exact outside (hsame ▸ (List.of_mem_zip listed).1)
  · have henough : ((addresses segments).take bytes.length).length ≤ bytes.length := by
      rw [List.length_take]
      exact Nat.min_le_left _ _
    rw [hscattered] at hbytes
    dsimp only at hbytes
    rw [hbytes, map_overlay_zip (distinct.sublist (List.take_sublist _ _)) henough,
      List.length_take, Nat.min_comm, ← List.take_eq_take_min]

end InRam

/-- Spaces built alike stay free of faults through all accesses. -/
theorem of_recalls {specs : List RegionSpec} {accesses : List MemoryAccess}
    (recalls : space.Recalls specs accesses) (answered : space.mapOverride = none) :
    space.FaultFree :=
  ⟨recalls.declared.wellFormed, recalls.readLimits, recalls.writeLimits, answered⟩

end FaultFree

/-- What reading and writing segments of declared memory comes to. Reading hands back a count and a
buffer and no address space, so it leaves memory as it is. -/
structure MovesExactly (space : AddressSpace) (specs : List RegionSpec) (segments : List Segment) :
    Prop where
  /-- Reading moves a prefix, as far as the declared regions with bytes reach. -/
  reads : ∀ buffer, Segment.MovesPrefix (RegionSpec.readRoom specs) buffer.length
    (space.gatherInto · buffer) segments
  /-- The bytes read are those at the first addresses of the segments, in their order. -/
  readBytes : ∀ buffer,
    ((space.gatherInto segments buffer).2.take (space.gatherInto segments buffer).1).map some =
      ((addresses segments).take (space.gatherInto segments buffer).1).map space.byteAt?
  /-- Reading leaves the rest of the buffer alone. -/
  readRest : ∀ buffer, (space.gatherInto segments buffer).2.length = buffer.length ∧
    (space.gatherInto segments buffer).2.drop (space.gatherInto segments buffer).1 =
      buffer.drop (space.gatherInto segments buffer).1
  /-- Writing moves a prefix, as far as the declared memory regions reach. -/
  writes : ∀ bytes, Segment.MovesPrefix (RegionSpec.writeRoom specs) bytes.length
    (space.scatter · bytes) segments
  /-- At each address then stands what storing the first bytes one after another at the first
  addresses of the segments leaves there. -/
  writtenBytes : ∀ bytes, (space.scatter segments bytes).2.byteAt? = overlay space.byteAt?
    (((addresses segments).take (space.scatter segments bytes).1).zip bytes)
  /-- Not only the bytes, but the whole address space is as if they had been stored so. -/
  writtenSingly : ∀ bytes, (space.scatter segments bytes).2 = space.storeEach
    (((addresses segments).take (space.scatter segments bytes).1).zip bytes)
  /-- No other byte changes. -/
  writtenOnly : ∀ bytes gpa,
    gpa ∉ (addresses segments).take (space.scatter segments bytes).1 →
      (space.scatter segments bytes).2.byteAt? gpa = space.byteAt? gpa
  /-- The number of bytes that segments hold is the total length computed of them, as long as it is
  a 64-bit number. -/
  total : Segment.total segments < UInt64.size →
    (Segment.totalLength segments).toNat = Segment.total segments

/-- Transfers over any segments of declared memory without limits are exact prefixes. -/
theorem FaultFree.movesExactly {specs : List RegionSpec} (faultFree : space.FaultFree)
    (declared : space.memory.DeclaredBy specs) (segments : List Segment) :
    space.MovesExactly specs segments := by
  have hreads : space.memory.readReach = RegionSpec.readRoom specs := funext declared.readReach_eq
  have hwrites : space.memory.writeReach = RegionSpec.writeRoom specs :=
    funext declared.writeReach_eq
  have hcount (buffer : List UInt8) (listed : List Segment) :
      (space.gatherInto listed buffer).1 =
        served (RegionSpec.readRoom specs) listed buffer.length := by
    rw [← hreads]
    exact faultFree.length_gather listed buffer.length
  have hstored (bytes : List UInt8) (listed : List Segment) :
      (space.scatter listed bytes).1 =
        served (RegionSpec.writeRoom specs) listed bytes.length := by
    rw [faultFree.scatter_eq, hwrites]
  constructor
  case reads =>
    intro buffer
    refine Segment.movesPrefix_of_served ?_ (hcount buffer) ?_ segments
    · exact hreads ▸ faultFree.wellFormed.readReach_fits
    · intro listed listed' same
      have hbytes : (space.gather listed buffer.length).map some =
          (space.gather listed' buffer.length).map some := by
        rw [faultFree.map_some_gather_eq, faultFree.map_some_gather_eq, hreads, same]
      rw [gatherInto, gatherInto,
        (List.map_inj_right fun _ _ equal => Option.some.inj equal).1 hbytes]
  case readBytes =>
    intro buffer
    have hbytes := faultFree.map_some_gather_eq segments buffer.length
    rw [hreads, reached, ← hcount buffer segments] at hbytes
    rw [← hbytes]
    exact congrArg (List.map some) List.take_left
  case readRest =>
    intro buffer
    have hle := Segment.served_le (RegionSpec.readRoom specs) segments buffer.length
    have hlength : (space.gather segments buffer.length).length ≤ buffer.length := by
      rw [← hcount buffer segments] at hle
      exact Nat.le_trans hle (Nat.min_le_left _ _)
    constructor
    · rw [gatherInto, List.length_append, List.length_drop]
      omega
    · exact List.drop_left
  case writes =>
    intro bytes
    refine Segment.movesPrefix_of_served ?_ (hstored bytes) ?_ segments
    · exact hwrites ▸ faultFree.wellFormed.writeReach_fits
    · intro listed listed' same
      have hserved : served (RegionSpec.writeRoom specs) listed bytes.length =
          served (RegionSpec.writeRoom specs) listed' bytes.length := by
        rw [← Segment.length_reached, same, Segment.length_reached]
      rw [faultFree.scatter_eq, faultFree.scatter_eq, hwrites, same, hserved]
  case writtenBytes =>
    intro bytes
    rw [hstored, faultFree.byteAt?_scatter, hwrites, reached]
  case writtenSingly =>
    intro bytes
    rw [hstored, faultFree.scatter_eq, hwrites, reached]
  case writtenOnly =>
    intro bytes gpa outside
    rw [faultFree.byteAt?_scatter, hwrites]
    refine overlay_of_not_mem fun stored listed equal => outside ?_
    rw [hstored, ← equal]
    exact (List.of_mem_zip listed).1
  case total => exact Segment.toNat_totalLength

/-- Memory that was built moves exact prefixes over any segments, after every series of accesses. -/
theorem movesExactly_of_build {specs : List RegionSpec} {hostBase : UInt64} {memory : Memory}
    (built : Memory.build specs hostBase = .ok memory) (accesses : List MemoryAccess)
    (segments : List Segment) :
    MovesExactly (accesses.foldl MemoryAccess.apply { memory }) specs segments := by
  have hrecalls := (Recalls.of_build built).foldl accesses
  exact (FaultFree.of_recalls hrecalls (mapOverride_foldl _ accesses)).movesExactly
    hrecalls.declared segments

/-- In memory built from the mixed map, a transfer over segments that overlap passes over one without
bytes and ends with the region of the next one although memory follows, and of two bytes for one
address the later one stays. -/
theorem movesExactly_mixedMemory :
    let accesses : List MemoryAccess := [.write 0x2ffd [7, 8, 9], .read 0x1ffe [0, 0]]
    let space : AddressSpace := accesses.foldl MemoryAccess.apply { memory := mixedMemory }
    let segments : List Segment := [⟨0x2ffc, 3, .toGuest⟩, ⟨0xdead0000, 0, .fromGuest⟩,
      ⟨0x2ffd, 6, .toGuest⟩, ⟨0x3000, 4, .toGuest⟩]
    let last := (space.scatter segments [1, 2, 3, 4, 5, 6, 7, 8]).2
    Memory.build mixedMap Memory.defaultHostBase = .ok mixedMemory ∧
      space.MovesExactly mixedMap segments ∧
      space.gatherInto segments [255, 255, 255, 255, 255, 255, 255, 255] =
        (6, [0, 7, 8, 7, 8, 9, 255, 255]) ∧
      (space.scatter segments [1, 2, 3, 4, 5, 6, 7, 8]).1 = 6 ∧
      last.readInto 0x2ffc [0, 0, 0, 0] = (4, [1, 4, 5, 6]) ∧
      last.readInto 0x3000 [255, 255] = (2, [0, 0]) := by
  have hbuilt : Memory.build mixedMap Memory.defaultHostBase = .ok mixedMemory := rfl
  exact ⟨hbuilt, movesExactly_of_build hbuilt _ _, by decide +kernel, by decide +kernel,
    by decide +kernel, by decide +kernel⟩

end AddressSpace

end Paravirt

import Paravirt.Proofs.Segment.Prefix

/-!
# Clearing segments in chunks

Clearing goes through a segment in chunks of a fixed width and stops at the first chunk that is not
stored in full. A chunk is attempted only where all earlier ones of its segment were stored, and no
region reaches to the last address, so the address of a chunk never wraps, whatever address and length
the guest named.
-/

namespace Paravirt

open AddressSpace (zeroChunk)

namespace Segment

variable {room : UInt64 → Nat} {gpa : UInt64} {chunks chunks' width : Nat}

/-- How many bytes can be cleared from an address on in so many chunks, where `room` says how many one
write can store. -/
def chunkRoom (room : UInt64 → Nat) : (chunks : Nat) → UInt64 → Nat
  | 0, _ => 0
  | chunks + 1, gpa =>
    if zeroChunk ≤ room gpa then
      zeroChunk + chunkRoom room chunks (gpa + UInt64.ofNat zeroChunk)
    else room gpa

/-- A full chunk is counted, and then the others. -/
theorem chunkRoom_of_le (full : zeroChunk ≤ room gpa) :
    chunkRoom room (chunks + 1) gpa =
      zeroChunk + chunkRoom room chunks (gpa + UInt64.ofNat zeroChunk) :=
  if_pos full

/-- A chunk that is not full is the last one. -/
theorem chunkRoom_of_lt (short : room gpa < zeroChunk) :
    chunkRoom room (chunks + 1) gpa = room gpa :=
  if_neg (Nat.not_le_of_lt short)

/-- Chunks clear a byte exactly where one write can store one. -/
theorem chunkRoom_pos : 0 < chunkRoom room (chunks + 1) gpa ↔ 0 < room gpa := by
  have hchunk : 0 < zeroChunk := by decide
  rw [chunkRoom]
  split <;> omega

/-- Within a width, a first chunk that is stored in full is followed by the others. -/
theorem min_chunkRoom_of_le (stored : min width zeroChunk ≤ room gpa) :
    min width (chunkRoom room (chunks + 1) gpa) = min width zeroChunk +
      min (width - min width zeroChunk)
        (chunkRoom room chunks (gpa + UInt64.ofNat (min width zeroChunk))) := by
  by_cases more : zeroChunk ≤ width
  · rw [Nat.min_eq_right more] at stored ⊢
    rw [chunkRoom_of_le stored]
    omega
  · have hpart : min width zeroChunk = width := by omega
    rw [hpart] at stored ⊢
    rw [chunkRoom]
    split <;> omega

/-- One that is not ends the clearing. -/
theorem min_chunkRoom_of_lt (short : room gpa < min width zeroChunk) :
    min width (chunkRoom room (chunks + 1) gpa) = room gpa := by
  rw [chunkRoom_of_lt (by omega)]
  omega

/-- Within a width, all numbers of chunks that are enough for it come equally far. -/
theorem min_chunkRoom (enough : width ≤ zeroChunk * chunks) (enough' : width ≤ zeroChunk * chunks') :
    min width (chunkRoom room chunks gpa) = min width (chunkRoom room chunks' gpa) := by
  induction chunks generalizing width chunks' gpa with
  | zero =>
    have hnothing : width = 0 := by omega
    rw [hnothing, Nat.zero_min, Nat.zero_min]
  | succ chunks ih =>
    cases chunks' with
    | zero =>
      have hnothing : width = 0 := by omega
      rw [hnothing, Nat.zero_min, Nat.zero_min]
    | succ chunks' =>
      rw [Nat.mul_succ] at enough enough'
      by_cases full : zeroChunk ≤ room gpa
      · have hrest : min (width - zeroChunk)
              (chunkRoom room chunks (gpa + UInt64.ofNat zeroChunk)) =
            min (width - zeroChunk) (chunkRoom room chunks' (gpa + UInt64.ofNat zeroChunk)) :=
          ih (by omega) (by omega)
        rw [chunkRoom_of_le full, chunkRoom_of_le full]
        omega
      · have hshort := Nat.lt_of_not_le full
        rw [chunkRoom_of_lt hshort, chunkRoom_of_lt hshort]

/-- How many bytes can be cleared from an address on in a segment. Its length is a 32-bit number, so
these chunks are enough. -/
def clearRoom (room : UInt64 → Nat) : UInt64 → Nat := chunkRoom room (2 ^ 28)

/-- Where no write reaches beyond the 64-bit addresses, no series of chunks does. -/
theorem chunkRoom_fits (fits : ∀ gpa, gpa.toNat + room gpa < UInt64.size) (chunks : Nat)
    (gpa : UInt64) : gpa.toNat + chunkRoom room chunks gpa < UInt64.size := by
  induction chunks generalizing gpa with
  | zero => exact gpa.toNat_lt_size
  | succ chunks ih =>
    have hfits := fits gpa
    by_cases full : zeroChunk ≤ room gpa
    · have hrest := ih (gpa + UInt64.ofNat zeroChunk)
      rw [toNat_add_ofNat (by omega)] at hrest
      rw [chunkRoom_of_le full]
      omega
    · rwa [chunkRoom_of_lt (Nat.lt_of_not_le full)]

/-- Chunks that end before they are used up end at one that is not stored in full. -/
theorem exists_short_chunk (short : chunkRoom room chunks gpa < zeroChunk * chunks) :
    ∃ offset, zeroChunk ∣ offset ∧
      chunkRoom room chunks gpa = offset + room (gpa + UInt64.ofNat offset) ∧
      room (gpa + UInt64.ofNat offset) < zeroChunk := by
  induction chunks generalizing gpa with
  | zero => exact absurd short (Nat.not_lt_zero _)
  | succ chunks ih =>
    by_cases full : zeroChunk ≤ room gpa
    · rw [chunkRoom_of_le full, Nat.mul_succ] at short
      have hrest : chunkRoom room chunks (gpa + UInt64.ofNat zeroChunk) < zeroChunk * chunks := by
        omega
      obtain ⟨offset, grid, ends, hshort⟩ := ih hrest
      rw [UInt64.add_assoc, ← UInt64.ofNat_add] at ends hshort
      refine ⟨zeroChunk + offset, Nat.dvd_add (Nat.dvd_refl _) grid, ?_, hshort⟩
      rw [chunkRoom_of_le full, ends, Nat.add_assoc]
    · have hshort := Nat.lt_of_not_le full
      have hstart : gpa + UInt64.ofNat 0 = gpa := UInt64.add_zero gpa
      refine ⟨0, Nat.dvd_zero _, ?_, ?_⟩
      · rw [chunkRoom_of_lt hshort, hstart, Nat.zero_add]
      · rwa [hstart]

/-- The room at an address goes on at the addresses behind it. -/
def Continued (room : UInt64 → Nat) : Prop :=
  ∀ gpa offset, offset < room gpa → room (gpa + UInt64.ofNat offset) = room gpa - offset

/-- At each address that chunks come to, a write can store a byte. -/
theorem Continued.room_pos (continued : Continued room) {offset : Nat}
    (inside : offset < chunkRoom room chunks gpa) : 0 < room (gpa + UInt64.ofNat offset) := by
  induction chunks generalizing gpa offset with
  | zero => exact absurd inside (Nat.not_lt_zero _)
  | succ chunks ih =>
    by_cases near : offset < room gpa
    · rw [continued gpa offset near]
      omega
    · have hfull : zeroChunk ≤ room gpa := Nat.le_of_not_lt fun short => by
        rw [chunkRoom_of_lt short] at inside
        exact near inside
      rw [chunkRoom_of_le hfull] at inside
      have hrest : 0 < room (gpa + UInt64.ofNat zeroChunk + UInt64.ofNat (offset - zeroChunk)) :=
        ih (by omega)
      rwa [UInt64.add_assoc, ← UInt64.ofNat_add, Nat.add_sub_cancel' (by omega)] at hrest

/-- Segments have enough chunks in their room for clearing. -/
theorem length_le_chunks (segment : Segment) : segment.length.toNat ≤ zeroChunk * 2 ^ 28 := by
  have hlength := segment.length.toNat_lt
  rw [zeroChunk]
  omega

end Segment

namespace AddressSpace

open Segment (addresses chunkRoom clearRoom reached served)

variable {space : AddressSpace} {segments : List Segment} {room : UInt64 → Nat}

/-- Store a zero byte at each of some addresses, one after another. -/
def clear (space : AddressSpace) (places : List UInt64) : AddressSpace :=
  space.storeEach (places.map fun gpa => (gpa, 0))

/-- Clearing addresses after others is one series. -/
theorem clear_append (space : AddressSpace) (first second : List UInt64) :
    space.clear (first ++ second) = (space.clear first).clear second := by
  rw [clear, List.map_append, storeEach_append, clear, clear]

/-- Putting zeros at addresses is clearing them. -/
theorem zip_replicate_zero {places : List UInt64} {count : Nat} (enough : places.length ≤ count) :
    places.zip (List.replicate count (0 : UInt8)) = places.map fun gpa => (gpa, 0) := by
  rw [← zip_take (Nat.le_refl _), List.take_replicate, Nat.min_eq_left enough, ← List.map_const',
    ← List.map_prod_left_eq_zip]

/-- Clear a segment from an offset on, but with the sum that gives the address of each chunk checked. -/
def zeroFrom? (segment : Segment) :
    (chunks : Nat) → (offset : Nat) → AddressSpace → Option (Nat × AddressSpace)
  | 0, offset, space => some (offset, space)
  | chunks + 1, offset, space => do
    let gpa ← Word.add? segment.address (UInt64.ofNat offset)
    let wanted := min (segment.length.toNat - offset) zeroChunk
    let (count, space) := space.write gpa (List.replicate wanted 0)
    if count = wanted then zeroFrom? segment chunks (offset + wanted) space
    else some (offset + count, space)

/-- Clear one segment with its addresses checked. -/
def zeroSegment? (space : AddressSpace) (segment : Segment) : Option (Nat × AddressSpace) :=
  zeroFrom? segment ((segment.length.toNat + (zeroChunk - 1)) / zeroChunk) 0 space

/-- Clear segments with all addresses checked. -/
def zeroFill? (space : AddressSpace) : List Segment → Option (Nat × AddressSpace)
  | [] => some (0, space)
  | segment :: rest => do
    let (count, space) ← space.zeroSegment? segment
    if count = segment.length.toNat then
      let (further, space) ← space.zeroFill? rest
      return (count + further, space)
    else
      return (count, space)

namespace FaultFree

/-- Clearing injects no fault. -/
theorem clear (faultFree : space.FaultFree) (places : List UInt64) :
    (space.clear places).FaultFree :=
  faultFree.storeEach _

/-- And leaves the reach of writes as it is. -/
theorem writeReach_clear (faultFree : space.FaultFree) (places : List UInt64) :
    (space.clear places).memory.writeReach = space.memory.writeReach :=
  faultFree.writeReach_storeEach _

/-- The reach of writes goes on within a region. -/
theorem continued_writeReach (faultFree : space.FaultFree) :
    Segment.Continued space.memory.writeReach :=
  fun _ _ => faultFree.wellFormed.writeReach_add

/-- One chunk clears as far as writes reach. -/
theorem write_replicate_zero (faultFree : space.FaultFree) (gpa : UInt64) (wanted : Nat) :
    space.write gpa (List.replicate wanted 0) = (min wanted (space.memory.writeReach gpa),
      space.clear (span gpa (min wanted (space.memory.writeReach gpa)))) := by
  have henough : (span gpa (min wanted (space.memory.writeReach gpa))).length ≤ wanted := by
    rw [length_span]
    exact Nat.min_le_left _ _
  rw [faultFree.write_eq_storeEach, List.length_replicate, zip_replicate_zero henough,
    AddressSpace.clear]

/-- Clearing a segment from an offset on comes as far as the chunks do, in the rest of it. -/
theorem zeroFrom_eq (faultFree : space.FaultFree) {segment : Segment} {chunks offset width : Nat}
    (left : offset + width = segment.length.toNat) (enough : width ≤ zeroChunk * chunks) :
    zeroFrom segment chunks offset space =
      (offset + min width (chunkRoom space.memory.writeReach chunks
          (segment.address + UInt64.ofNat offset)),
        space.clear (span (segment.address + UInt64.ofNat offset)
          (min width (chunkRoom space.memory.writeReach chunks
            (segment.address + UInt64.ofNat offset))))) := by
  -- The chunks are used up as the offset grows, so what they still have to cover shrinks with them.
  induction chunks generalizing space offset width with
  | zero =>
    have hnothing : width = 0 := by omega
    rw [hnothing, Nat.zero_min]
    rfl
  | succ chunks ih =>
    generalize hgpa : segment.address + UInt64.ofNat offset = gpa
    have hwanted : min (segment.length.toNat - offset) zeroChunk = min width zeroChunk := by omega
    rw [zeroFrom, hgpa, hwanted]
    dsimp only
    rw [faultFree.write_replicate_zero]
    dsimp only
    by_cases stored : min width zeroChunk ≤ space.memory.writeReach gpa
    · have hleft : offset + min width zeroChunk + (width - min width zeroChunk) =
          segment.length.toNat := by omega
      have hrest := ih (faultFree.clear (span gpa (min width zeroChunk))) hleft
        (by rw [Nat.mul_succ] at enough; omega)
      rw [faultFree.writeReach_clear, UInt64.ofNat_add, ← UInt64.add_assoc, hgpa] at hrest
      rw [Nat.min_eq_left stored, if_pos rfl, hrest, ← clear_append, ← span_add,
        Segment.min_chunkRoom_of_le stored, Nat.add_assoc]
    · have hshort := Nat.lt_of_not_le stored
      rw [Nat.min_eq_right (Nat.le_of_lt hshort), if_neg (Nat.ne_of_lt hshort),
        Segment.min_chunkRoom_of_lt hshort]

/-- Clearing a segment comes as far as there is room for clearing, in the segment. -/
theorem zeroSegment_eq (faultFree : space.FaultFree) (segment : Segment) :
    space.zeroSegment segment =
      (min segment.length.toNat (clearRoom space.memory.writeReach segment.address),
        space.clear (span segment.address
          (min segment.length.toNat (clearRoom space.memory.writeReach segment.address)))) := by
  have henough : segment.length.toNat ≤
      zeroChunk * ((segment.length.toNat + (zeroChunk - 1)) / zeroChunk) := by
    rw [zeroChunk]
    omega
  have hstart : segment.address + UInt64.ofNat 0 = segment.address := UInt64.add_zero _
  rw [zeroSegment, faultFree.zeroFrom_eq (Nat.zero_add _) henough, hstart, Nat.zero_add, clearRoom,
    Segment.min_chunkRoom henough segment.length_le_chunks]

/-- Clearing segments stores zeros one after another at the addresses that it comes to. -/
theorem zeroFill_eq (faultFree : space.FaultFree) (segments : List Segment) :
    space.zeroFill segments =
      (served (clearRoom space.memory.writeReach) segments (Segment.total segments),
        space.clear (reached (clearRoom space.memory.writeReach) segments
          (Segment.total segments))) := by
  induction segments generalizing space with
  | nil => rfl
  | cons segment rest ih =>
    rw [zeroFill, faultFree.zeroSegment_eq]
    dsimp only
    by_cases enough : segment.length.toNat ≤ clearRoom space.memory.writeReach segment.address
    · rw [Nat.min_eq_left enough, if_pos rfl, ih (faultFree.clear _), faultFree.writeReach_clear,
        ← clear_append, Segment.served_total_of_le enough, Segment.reached_total_of_le enough]
    · have hshort := Nat.lt_of_not_le enough
      rw [Nat.min_eq_right (Nat.le_of_lt hshort), if_neg (Nat.ne_of_lt hshort),
        Segment.served_total_of_lt hshort, Segment.reached_total_of_lt hshort]

/-- No address wraps while a segment is cleared: a chunk that was stored in full ends in a region, and so
before the last address. -/
theorem zeroFrom?_eq (faultFree : space.FaultFree) (segment : Segment) (chunks : Nat) {offset : Nat}
    (fits : segment.address.toNat + offset < UInt64.size) :
    zeroFrom? segment chunks offset space = some (zeroFrom segment chunks offset space) := by
  induction chunks generalizing space offset with
  | zero => rfl
  | succ chunks ih =>
    generalize hgpa : segment.address + UInt64.ofNat offset = gpa
    generalize hwanted : min (segment.length.toNat - offset) zeroChunk = wanted
    have haddress : gpa.toNat = segment.address.toNat + offset := by
      rw [← hgpa, toNat_add_ofNat fits]
    have hsum : Word.add? segment.address (UInt64.ofNat offset) = some gpa := by
      rw [Word.add?_eq_some_iff, haddress, UInt64.toNat_ofNat_of_lt' (by omega)]
    have hreach := faultFree.wellFormed.writeReach_fits gpa
    rw [zeroFrom?, zeroFrom, hsum, hgpa, hwanted]
    simp only [Option.bind_eq_bind, Option.bind_some]
    rw [faultFree.write_replicate_zero]
    dsimp only
    by_cases stored : wanted ≤ space.memory.writeReach gpa
    · rw [Nat.min_eq_left stored, if_pos rfl, if_pos rfl]
      exact ih (faultFree.clear _) (by omega)
    · have hshort := Nat.lt_of_not_le stored
      rw [Nat.min_eq_right (Nat.le_of_lt hshort), if_neg (Nat.ne_of_lt hshort),
        if_neg (Nat.ne_of_lt hshort)]

/-- So none wraps while segments are. -/
theorem zeroFill?_eq (faultFree : space.FaultFree) (segments : List Segment) :
    space.zeroFill? segments = some (space.zeroFill segments) := by
  induction segments generalizing space with
  | nil => rfl
  | cons segment rest ih =>
    have hfirst : space.zeroSegment? segment = some (space.zeroSegment segment) :=
      faultFree.zeroFrom?_eq segment _ segment.address.toNat_lt_size
    rw [zeroFill?, zeroFill, hfirst, faultFree.zeroSegment_eq]
    simp only [Option.bind_eq_bind, Option.bind_some, ih (faultFree.clear _)]
    split <;> rfl

/-- A byte that stands where reads reach is read. -/
theorem read_one (faultFree : space.FaultFree) {gpa : UInt64} {byte : UInt8}
    (readable : 0 < space.memory.readReach gpa) (stands : space.byteAt? gpa = some byte) :
    space.read gpa 1 = [byte] := by
  have hbytes := faultFree.wellFormed.map_some_read gpa 1
  rw [Nat.min_eq_left readable, span_succ] at hbytes
  rw [faultFree.read_eq]
  refine (List.map_inj_right fun _ _ equal => Option.some.inj equal).1 (hbytes.trans ?_)
  exact congrArg (fun here => [here]) stands

/-- What stands at each address after clearing segments. -/
theorem byteAt?_zeroFill (faultFree : space.FaultFree) (segments : List Segment) :
    (space.zeroFill segments).2.byteAt? = overlay space.byteAt?
      ((reached (clearRoom space.memory.writeReach) segments (Segment.total segments)).map
        fun gpa => (gpa, 0)) := by
  rw [faultFree.zeroFill_eq]
  refine faultFree.byteAt?_storeEach fun stored listed => ?_
  obtain ⟨gpa, among, rfl⟩ := List.mem_map.1 listed
  exact Segment.of_mem_reached (0 < space.memory.writeReach ·)
    (fun _ _ => faultFree.continued_writeReach.room_pos) among

/-- A zero stands wherever one was counted. -/
theorem byteAt?_zeroFill_of_mem (faultFree : space.FaultFree) {gpa : UInt64}
    (among : gpa ∈ (addresses segments).take (space.zeroFill segments).1) :
    (space.zeroFill segments).2.byteAt? gpa = some 0 := by
  rw [faultFree.byteAt?_zeroFill]
  refine overlay_of_mem (fun stored listed => ?_) ?_
  · obtain ⟨_, -, rfl⟩ := List.mem_map.1 listed
    rfl
  · rw [faultFree.zeroFill_eq] at among
    rw [List.map_map]
    exact List.mem_map.2 ⟨gpa, among, rfl⟩

/-- If all bytes of segments are counted, there was room for clearing each of them. -/
theorem fitting_of_zeroFill (faultFree : space.FaultFree)
    (all : (space.zeroFill segments).1 = Segment.total segments) :
    ∀ segment ∈ segments,
      segment.length.toNat ≤ clearRoom space.memory.writeReach segment.address := by
  rw [faultFree.zeroFill_eq] at all
  rcases Segment.fitting_or_exists_short (clearRoom space.memory.writeReach) segments with
    fitting | ⟨earlier, segment, later, split, fitting, hshort⟩
  · exact fitting
  · rw [split, Segment.served_of_short fitting hshort, Segment.total_append,
      Segment.total_cons] at all
    omega

/-- And then each of their bytes reads as zero. -/
theorem read_zeroFill (faultFree : space.FaultFree)
    (all : (space.zeroFill segments).1 = Segment.total segments) {segment : Segment}
    (listed : segment ∈ segments) {offset : Nat} (inside : offset < segment.length.toNat) :
    segment.address.toNat + offset < UInt64.size ∧
      (space.zeroFill segments).2.read (segment.address + UInt64.ofNat offset) 1 = [0] := by
  have hroom := Nat.lt_of_lt_of_le inside (faultFree.fitting_of_zeroFill all segment listed)
  have hfits : segment.address.toNat + clearRoom space.memory.writeReach segment.address <
      UInt64.size := Segment.chunkRoom_fits faultFree.wellFormed.writeReach_fits _ _
  have hstored := faultFree.continued_writeReach.room_pos hroom
  have hamong : segment.address + UInt64.ofNat offset ∈
      (addresses segments).take (space.zeroFill segments).1 := by
    rw [all, Segment.take_total_addresses]
    exact List.mem_flatMap.2 ⟨segment, listed, List.mem_map_of_mem (List.mem_range.2 inside)⟩
  have hzero := faultFree.byteAt?_zeroFill_of_mem hamong
  rw [faultFree.zeroFill_eq] at hzero ⊢
  refine ⟨by omega, (faultFree.clear _).read_one ?_ hzero⟩
  rw [AddressSpace.clear, faultFree.readReach_storeEach]
  exact Nat.lt_of_lt_of_le hstored (space.memory.writeReach_le_readReach _)

/-- If there is no room for clearing all of a segment, what follows it makes no difference. -/
theorem zeroFill_of_short (faultFree : space.FaultFree) {earlier : List Segment} {segment : Segment}
    (fitting : ∀ other ∈ earlier,
      other.length.toNat ≤ clearRoom space.memory.writeReach other.address)
    (short : clearRoom space.memory.writeReach segment.address < segment.length.toNat)
    (later : List Segment) : space.zeroFill (earlier ++ segment :: later) =
      (Segment.total earlier + clearRoom space.memory.writeReach segment.address,
        space.clear ((addresses (earlier ++ [segment])).take
          (Segment.total earlier + clearRoom space.memory.writeReach segment.address))) := by
  rw [faultFree.zeroFill_eq, reached, Segment.served_of_short fitting short, List.append_cons,
    Segment.take_addresses_append]
  rw [Segment.total_append, Segment.total_cons]
  omega

end FaultFree

/-- What clearing segments of declared memory comes to. -/
structure ClearsSafely (space : AddressSpace) (specs : List RegionSpec) (segments : List Segment) :
    Prop where
  /-- It clears no more bytes than the segments hold. -/
  count_le : (space.zeroFill segments).1 ≤ Segment.total segments
  /-- At the first addresses of the segments, as many as are counted, zeros stand. -/
  zeroed : ∀ gpa ∈ (addresses segments).take (space.zeroFill segments).1,
    (space.zeroFill segments).2.byteAt? gpa = some 0
  /-- No other byte changes. -/
  zeroedOnly : ∀ gpa, gpa ∉ (addresses segments).take (space.zeroFill segments).1 →
    (space.zeroFill segments).2.byteAt? gpa = space.byteAt? gpa
  /-- Not only the bytes, but the whole address space is as if zeros had been stored one by one. -/
  zeroedSingly : (space.zeroFill segments).2 =
    space.clear ((addresses segments).take (space.zeroFill segments).1)
  /-- None of the addresses that are cleared has wrapped. -/
  unwrapped : Segment.Unwrapped segments (space.zeroFill segments).1
  /-- Nor does the address of any chunk that is attempted. -/
  checked : space.zeroFill? segments = some (space.zeroFill segments)
  /-- If all bytes of the segments are counted, then each byte of each segment reads as zero. -/
  complete : (space.zeroFill segments).1 = Segment.total segments →
    ∀ segment ∈ segments, ∀ offset < segment.length.toNat,
      segment.address.toNat + offset < UInt64.size ∧
        (space.zeroFill segments).2.read (segment.address + UInt64.ofNat offset) 1 = [0]
  /-- If less are, then a chunk was not stored in full: the bytes before it and those in its region were
  cleared, and whatever stands behind its segment makes no difference. -/
  stops : (space.zeroFill segments).1 < Segment.total segments →
    ∃ earlier segment later offset, segments = earlier ++ segment :: later ∧
      zeroChunk ∣ offset ∧ (space.zeroFill segments).1 = Segment.total earlier + (offset +
        RegionSpec.writeRoom specs (segment.address + UInt64.ofNat offset)) ∧
      RegionSpec.writeRoom specs (segment.address + UInt64.ofNat offset) <
        min (segment.length.toNat - offset) zeroChunk ∧
      ∀ others, space.zeroFill (earlier ++ segment :: others) = space.zeroFill segments
  /-- The number of bytes that segments hold is the total length computed of them, as long as it is a
  64-bit number. -/
  total : Segment.total segments < UInt64.size →
    (Segment.totalLength segments).toNat = Segment.total segments

/-- Any segments of declared memory without limits are cleared safely. -/
theorem FaultFree.clearsSafely {specs : List RegionSpec} (faultFree : space.FaultFree)
    (declared : space.memory.DeclaredBy specs) (segments : List Segment) :
    space.ClearsSafely specs segments := by
  have hwrites : space.memory.writeReach = RegionSpec.writeRoom specs :=
    funext declared.writeReach_eq
  have hcount : (space.zeroFill segments).1 =
      served (clearRoom space.memory.writeReach) segments (Segment.total segments) := by
    rw [faultFree.zeroFill_eq]
  constructor
  case count_le =>
    have hle := Segment.served_le (clearRoom space.memory.writeReach) segments
      (Segment.total segments)
    omega
  case zeroed => exact fun gpa => faultFree.byteAt?_zeroFill_of_mem
  case zeroedOnly =>
    intro gpa outside
    rw [faultFree.byteAt?_zeroFill]
    refine overlay_of_not_mem fun stored listed equal => outside ?_
    obtain ⟨place, among, rfl⟩ := List.mem_map.1 listed
    rw [hcount, ← equal]
    exact among
  case zeroedSingly => rw [hcount, faultFree.zeroFill_eq, reached]
  case unwrapped =>
    rw [hcount]
    exact Segment.unwrapped_served
      (Segment.chunkRoom_fits faultFree.wellFormed.writeReach_fits _) segments _
  case checked => exact faultFree.zeroFill?_eq segments
  case complete =>
    exact fun all segment listed offset inside => faultFree.read_zeroFill all listed inside
  case stops =>
    intro short
    rcases Segment.fitting_or_exists_short (clearRoom space.memory.writeReach) segments with
      fitting | ⟨earlier, segment, later, split, fitting, hshort⟩
    · rw [hcount, Segment.served_of_fitting fitting] at short
      exact absurd short (Nat.lt_irrefl _)
    · obtain ⟨offset, grid, ends, hchunk⟩ :=
        Segment.exists_short_chunk (Nat.lt_of_lt_of_le hshort segment.length_le_chunks)
      have hends : clearRoom space.memory.writeReach segment.address = offset +
        space.memory.writeReach (segment.address + UInt64.ofNat offset) := ends
      have hstops := faultFree.zeroFill_of_short fitting hshort
      refine ⟨earlier, segment, later, offset, split, grid, ?_, ?_, fun others => ?_⟩
      · rw [split, hstops, hends, hwrites]
      · rw [← hwrites]
        omega
      · rw [split, hstops, hstops]
  case total => exact Segment.toNat_totalLength

/-- Memory that was built clears any segments safely, after every series of accesses. -/
theorem clearsSafely_of_build {specs : List RegionSpec} {hostBase : UInt64} {memory : Memory}
    (built : Memory.build specs hostBase = .ok memory) (accesses : List MemoryAccess)
    (segments : List Segment) :
    ClearsSafely (accesses.foldl MemoryAccess.apply { memory }) specs segments := by
  have hrecalls := (Recalls.of_build built).foldl accesses
  exact (FaultFree.of_recalls hrecalls (mapOverride_foldl _ accesses)).clearsSafely
    hrecalls.declared segments

/-- In memory built from the mixed map, clearing goes on from one memory region into the next, clears
nothing behind its segments and stops at one that ends behind the last address. -/
theorem clearsSafely_mixedMemory :
    let accesses : List MemoryAccess := [.write 0x2ffe [6, 7], .write 0x3000 [8, 9, 10]]
    let space : AddressSpace := accesses.foldl MemoryAccess.apply { memory := mixedMemory }
    let segments : List Segment := [⟨0x2ff0, 18, .toGuest⟩, ⟨0x2fff, 1, .toGuest⟩,
      ⟨0xfffffffffffffff8, 0xffffffff, .toGuest⟩, ⟨0x2000, 4, .toGuest⟩]
    let cleared := space.zeroFill segments
    Memory.build mixedMap Memory.defaultHostBase = .ok mixedMemory ∧
      space.ClearsSafely mixedMap segments ∧ cleared.1 = 19 ∧
      space.readInto 0x2ffd [255, 255, 255] = (3, [0, 6, 7]) ∧
      cleared.2.readInto 0x2ffd [255, 255, 255] = (3, [0, 0, 0]) ∧
      cleared.2.readInto 0x3000 [255, 255, 255] = (3, [0, 0, 10]) := by
  have hbuilt : Memory.build mixedMap Memory.defaultHostBase = .ok mixedMemory := rfl
  exact ⟨hbuilt, clearsSafely_of_build hbuilt _ _, by decide +kernel, by decide +kernel,
    by decide +kernel, by decide +kernel⟩

end AddressSpace

end Paravirt

import Mathlib.Data.List.Nodup
import Paravirt.Proofs.Segment.Transfer

/-!
# How far a transfer over segments comes

A transfer goes through segments in their order and stops for one of three reasons: all that is wanted
has been moved, the segments are at an end, or a segment is not served in full. How far it comes depends
only on how much can be moved from the start of each segment on, the room there, which is the same for
reading and writing apart from where there is any. What lies behind the segment that stops it, and
segments without bytes, make no difference.
-/

namespace Paravirt

/-- The numbers of the addresses of a span that does not wrap. -/
theorem map_toNat_span {start : UInt64} {width : Nat} (fits : start.toNat + width ≤ UInt64.size) :
    (span start width).map UInt64.toNat = (List.range width).map (start.toNat + ·) := by
  rw [span, List.map_map]
  refine List.map_congr_left fun offset listed => ?_
  have hoffset := List.mem_range.1 listed
  rw [Function.comp_apply, toNat_add_ofNat (by omega)]

namespace Segment

variable {segments : List Segment} {segment : Segment} {rest earlier later : List Segment}
  {room : UInt64 → Nat} {wanted count : Nat}

/-- The number of bytes of segments. -/
def total (segments : List Segment) : Nat := (segments.map (·.length.toNat)).sum

@[simp]
theorem total_nil : total [] = 0 := rfl

@[simp]
theorem total_cons (segment : Segment) (rest : List Segment) :
    total (segment :: rest) = segment.length.toNat + total rest := by
  rw [total, List.map_cons, List.sum_cons, total]

@[simp]
theorem total_append (earlier later : List Segment) :
    total (earlier ++ later) = total earlier + total later := by
  rw [total, List.map_append, List.sum_append, total, total]

/-- The addresses of segments one after another are those of the first ones and then the others. -/
theorem addresses_append (earlier later : List Segment) :
    addresses (earlier ++ later) = addresses earlier ++ addresses later :=
  List.flatMap_append

/-- There are as many addresses as bytes. -/
theorem take_total_addresses (segments : List Segment) :
    (addresses segments).take (total segments) = addresses segments :=
  List.take_of_length_le (Nat.le_of_eq (length_addresses segments))

/-- The numbers that the addresses of segments would have if there were more than 64 bits for them. -/
def positions (segments : List Segment) : List Nat :=
  segments.flatMap fun segment =>
    (List.range segment.length.toNat).map (segment.address.toNat + ·)

/-- The first positions are those of the first segment and then those of the others. -/
theorem take_positions_cons (segment : Segment) (rest : List Segment) (count : Nat) :
    (positions (segment :: rest)).take count =
      (List.range (min count segment.length.toNat)).map (segment.address.toNat + ·) ++
        (positions rest).take (count - segment.length.toNat) := by
  rw [positions, List.flatMap_cons, List.take_append, ← List.map_take, List.take_range,
    List.length_map, List.length_range, positions]

/-- The first addresses of segments are numbers as they should be: none of them wraps. -/
def Unwrapped (segments : List Segment) (count : Nat) : Prop :=
  ((addresses segments).take count).map UInt64.toNat = (positions segments).take count

/-- No address wraps if none of the first segment does and none of the others. -/
theorem Unwrapped.cons (fits : segment.address.toNat + min count segment.length.toNat ≤ UInt64.size)
    (others : Unwrapped rest (count - segment.length.toNat)) :
    Unwrapped (segment :: rest) count := by
  unfold Unwrapped at others ⊢
  rw [take_addresses_cons, take_positions_cons, List.map_append, map_toNat_span fits, others]

/-- How far a transfer of at most `wanted` bytes comes over segments, where `room` says how many bytes
can be moved from an address on. -/
def served (room : UInt64 → Nat) : List Segment → (wanted : Nat) → Nat
  | [], _ => 0
  | segment :: rest, wanted =>
    let part := min wanted segment.length.toNat
    if part ≤ room segment.address then
      part + served room rest (wanted - segment.length.toNat)
    else room segment.address

/-- A first segment that is served in full is counted, and then the others. -/
theorem served_cons_of_le (enough : min wanted segment.length.toNat ≤ room segment.address) :
    served room (segment :: rest) wanted =
      min wanted segment.length.toNat + served room rest (wanted - segment.length.toNat) :=
  if_pos enough

/-- One that is not ends the transfer. -/
theorem served_cons_of_lt (short : room segment.address < min wanted segment.length.toNat) :
    served room (segment :: rest) wanted = room segment.address :=
  if_neg (Nat.not_le_of_lt short)

/-- No transfer moves more than is wanted or more than the segments hold. -/
theorem served_le (room : UInt64 → Nat) (segments : List Segment) (wanted : Nat) :
    served room segments wanted ≤ min wanted (total segments) := by
  induction segments generalizing wanted with
  | nil => exact Nat.zero_le _
  | cons segment rest ih =>
    rw [total_cons]
    by_cases enough : min wanted segment.length.toNat ≤ room segment.address
    · have hrest := ih (wanted - segment.length.toNat)
      rw [served_cons_of_le enough]
      omega
    · rw [served_cons_of_lt (Nat.lt_of_not_le enough)]
      omega

/-- Nothing is moved where nothing is wanted. -/
theorem served_zero (room : UInt64 → Nat) (segments : List Segment) :
    served room segments 0 = 0 := by
  have hle := served_le room segments 0
  omega

/-- The addresses that a transfer over segments comes to. -/
def reached (room : UInt64 → Nat) (segments : List Segment) (wanted : Nat) : List UInt64 :=
  (addresses segments).take (served room segments wanted)

/-- Each byte that is moved has an address. -/
@[simp]
theorem length_reached (room : UInt64 → Nat) (segments : List Segment) (wanted : Nat) :
    (reached room segments wanted).length = served room segments wanted := by
  have hle := served_le room segments wanted
  have htotal : (addresses segments).length = total segments := length_addresses segments
  rw [reached, List.length_take, htotal]
  omega

/-- A first segment that is served in full is gone through, and then the others. -/
theorem reached_cons_of_le (enough : min wanted segment.length.toNat ≤ room segment.address) :
    reached room (segment :: rest) wanted =
      span segment.address (min wanted segment.length.toNat) ++
        reached room rest (wanted - segment.length.toNat) := by
  have hle := served_le room rest (wanted - segment.length.toNat)
  rw [reached, served_cons_of_le enough, take_addresses_cons, reached]
  congr 2 <;> omega

/-- One that is not is gone through as far as there is room. -/
theorem reached_cons_of_lt (short : room segment.address < min wanted segment.length.toNat) :
    reached room (segment :: rest) wanted = span segment.address (room segment.address) := by
  have hnone : room segment.address - segment.length.toNat = 0 := by omega
  rw [reached, served_cons_of_lt short, take_addresses_cons, hnone, List.take_zero, List.append_nil]
  congr 1
  omega

/-- If all bytes of segments are wanted, all of the first one are. -/
theorem min_total_cons (segment : Segment) (rest : List Segment) :
    min (total (segment :: rest)) segment.length.toNat = segment.length.toNat := by
  rw [total_cons]
  omega

/-- A first segment for which there is room is then counted, and then all the others. -/
theorem served_total_of_le (enough : segment.length.toNat ≤ room segment.address) :
    served room (segment :: rest) (total (segment :: rest)) =
      segment.length.toNat + served room rest (total rest) := by
  rw [served_cons_of_le (by rwa [min_total_cons]), min_total_cons, total_cons, Nat.add_sub_cancel_left]

/-- One for which there is no room ends the transfer. -/
theorem served_total_of_lt (short : room segment.address < segment.length.toNat) :
    served room (segment :: rest) (total (segment :: rest)) = room segment.address :=
  served_cons_of_lt (by rwa [min_total_cons])

/-- A first segment for which there is room is gone through, and then all the others. -/
theorem reached_total_of_le (enough : segment.length.toNat ≤ room segment.address) :
    reached room (segment :: rest) (total (segment :: rest)) =
      span segment.address segment.length.toNat ++ reached room rest (total rest) := by
  rw [reached_cons_of_le (by rwa [min_total_cons]), min_total_cons, total_cons,
    Nat.add_sub_cancel_left]

/-- One for which there is no room is gone through as far as there is. -/
theorem reached_total_of_lt (short : room segment.address < segment.length.toNat) :
    reached room (segment :: rest) (total (segment :: rest)) =
      span segment.address (room segment.address) :=
  reached_cons_of_lt (by rwa [min_total_cons])

/-- What holds of every address from one on, as far as there is room, holds of those that a transfer
comes to. -/
theorem of_mem_reached (property : UInt64 → Prop)
    (goesOn : ∀ gpa offset, offset < room gpa → property (gpa + UInt64.ofNat offset)) {gpa : UInt64}
    (among : gpa ∈ reached room segments wanted) : property gpa := by
  have hspan {start : UInt64} {width : Nat} (within : width ≤ room start)
      (here : gpa ∈ span start width) : property gpa := by
    obtain ⟨offset, listed, rfl⟩ := List.mem_map.1 here
    exact goesOn start offset (Nat.lt_of_lt_of_le (List.mem_range.1 listed) within)
  induction segments generalizing wanted with
  | nil => simp [reached, addresses] at among
  | cons segment rest ih =>
    by_cases enough : min wanted segment.length.toNat ≤ room segment.address
    · rw [reached_cons_of_le enough, List.mem_append] at among
      exact among.elim (hspan enough) ih
    · rw [reached_cons_of_lt (Nat.lt_of_not_le enough)] at among
      exact hspan (Nat.le_refl _) among

/-- A transfer that ends before all is moved does so at a segment that is not served in full, and what
follows that segment makes no difference. -/
theorem exists_short_of_served_lt
    (short : served room segments wanted < min wanted (total segments)) :
    ∃ earlier segment later, segments = earlier ++ segment :: later ∧
      served room segments wanted = total earlier + room segment.address ∧
      room segment.address < min (wanted - total earlier) segment.length.toNat ∧
      ∀ others, served room (earlier ++ segment :: others) wanted = served room segments wanted := by
  induction segments generalizing wanted with
  | nil =>
    rw [total_nil, Nat.min_zero] at short
    exact absurd short (Nat.not_lt_zero _)
  | cons first rest ih =>
    by_cases enough : min wanted first.length.toNat ≤ room first.address
    · rw [total_cons, served_cons_of_le enough] at short
      have hrest : served room rest (wanted - first.length.toNat) <
          min (wanted - first.length.toNat) (total rest) := by
        have hle := served_le room rest (wanted - first.length.toNat)
        omega
      obtain ⟨earlier, segment, later, split, hserved, hshort, hothers⟩ := ih hrest
      refine ⟨first :: earlier, segment, later, by rw [split, List.cons_append], ?_, ?_,
        fun others => ?_⟩
      · rw [served_cons_of_le enough, hserved, total_cons]
        omega
      · rw [total_cons]
        omega
      · rw [List.cons_append, served_cons_of_le enough, hothers others, served_cons_of_le enough]
    · have hshort := Nat.lt_of_not_le enough
      refine ⟨[], first, rest, rfl, ?_, by simpa using hshort, fun others => ?_⟩
      · rw [served_cons_of_lt hshort, total_nil, Nat.zero_add]
      · rw [List.nil_append, served_cons_of_lt hshort, served_cons_of_lt hshort]

/-- No transfer comes farther than a segment that is not served in full. -/
theorem served_le_of_short
    (short : room segment.address < min (wanted - total earlier) segment.length.toNat) :
    served room (earlier ++ segment :: later) wanted ≤ total earlier + room segment.address := by
  induction earlier generalizing wanted with
  | nil =>
    rw [total_nil, Nat.sub_zero] at short
    rw [List.nil_append, served_cons_of_lt short]
    exact Nat.le_add_left _ _
  | cons first rest ih =>
    rw [total_cons] at short ⊢
    rw [List.cons_append]
    by_cases enough : min wanted first.length.toNat ≤ room first.address
    · have hrest : served room (rest ++ segment :: later) (wanted - first.length.toNat) ≤
          total rest + room segment.address := ih (by omega)
      rw [served_cons_of_le enough]
      omega
    · rw [served_cons_of_lt (Nat.lt_of_not_le enough)]
      omega

/-- A segment without bytes is passed over. -/
theorem served_append_empty {empty : Segment} (nothing : empty.length.toNat = 0) :
    served room (earlier ++ empty :: later) wanted = served room (earlier ++ later) wanted := by
  induction earlier generalizing wanted with
  | nil =>
    have hpart : min wanted empty.length.toNat = 0 := by omega
    rw [List.nil_append, served_cons_of_le (by omega), hpart, nothing, Nat.zero_add, Nat.sub_zero]
    rfl
  | cons first rest ih =>
    rw [List.cons_append, List.cons_append, served, served, ih]

/-- A segment without bytes has no addresses. -/
theorem addresses_append_empty {empty : Segment} (nothing : empty.length.toNat = 0) :
    addresses (earlier ++ empty :: later) = addresses (earlier ++ later) := by
  rw [addresses_append, addresses_append, addresses_cons, nothing]
  rfl

/-- Segments for which there is room are all served before the others. -/
theorem served_append (fitting : ∀ other ∈ earlier, other.length.toNat ≤ room other.address)
    (later : List Segment) (wanted : Nat) :
    served room (earlier ++ later) (total earlier + wanted) =
      total earlier + served room later wanted := by
  induction earlier with
  | nil => rw [List.nil_append, total_nil, Nat.zero_add, Nat.zero_add]
  | cons first rest ih =>
    have hfirst := fitting first List.mem_cons_self
    have hrest := ih fun other listed => fitting other (List.mem_cons_of_mem _ listed)
    have hleft : total (first :: rest) + wanted - first.length.toNat = total rest + wanted := by
      rw [total_cons]
      omega
    rw [List.cons_append, served_cons_of_le (by omega), hleft, hrest, total_cons]
    omega

/-- If there is room for all of them, nothing stops a transfer before it is at an end. -/
theorem served_eq_min (fitting : ∀ segment ∈ segments, segment.length.toNat ≤ room segment.address)
    (wanted : Nat) : served room segments wanted = min wanted (total segments) := by
  induction segments generalizing wanted with
  | nil => exact (Nat.min_zero wanted).symm
  | cons segment rest ih =>
    have hfirst := fitting segment List.mem_cons_self
    rw [served_cons_of_le (by omega),
      ih fun other listed => fitting other (List.mem_cons_of_mem _ listed), total_cons]
    omega

/-- And all their bytes are served. -/
theorem served_of_fitting
    (fitting : ∀ segment ∈ segments, segment.length.toNat ≤ room segment.address) :
    served room segments (total segments) = total segments :=
  (served_eq_min fitting _).trans (Nat.min_self _)

/-- If there is room for those before a segment, but not for the segment, theirs and those in its room
are. -/
theorem served_of_short (fitting : ∀ other ∈ earlier, other.length.toNat ≤ room other.address)
    (short : room segment.address < segment.length.toNat) (later : List Segment) :
    served room (earlier ++ segment :: later) (total (earlier ++ segment :: later)) =
      total earlier + room segment.address := by
  rw [total_append, served_append fitting, served_total_of_lt short]

/-- Either there is room for all segments, or there is a first one for which there is not. -/
theorem fitting_or_exists_short (room : UInt64 → Nat) (segments : List Segment) :
    (∀ segment ∈ segments, segment.length.toNat ≤ room segment.address) ∨
      ∃ earlier segment later, segments = earlier ++ segment :: later ∧
        (∀ other ∈ earlier, other.length.toNat ≤ room other.address) ∧
        room segment.address < segment.length.toNat := by
  cases found : segments.find? (fun segment => room segment.address < segment.length.toNat) with
  | none => exact Or.inl (by simpa using List.find?_eq_none.1 found)
  | some segment =>
    obtain ⟨short, earlier, later, split, fitting⟩ := List.find?_eq_some_iff_append.1 found
    have hfitting : ∀ other ∈ earlier, other.length.toNat ≤ room other.address := by
      simpa using fitting
    exact Or.inr ⟨earlier, segment, later, split, hfitting, of_decide_eq_true short⟩

/-- Where there is as much room, a shorter transfer moves all that is wanted of it. -/
theorem served_eq_of_le {room' : UInt64 → Nat} (wider : ∀ gpa, room gpa ≤ room' gpa) {fewer : Nat}
    (within : fewer ≤ served room segments wanted) : served room' segments fewer = fewer := by
  induction segments generalizing wanted fewer with
  | nil => exact (Nat.le_zero.1 within).symm
  | cons segment rest ih =>
    have hwider := wider segment.address
    by_cases enough : min wanted segment.length.toNat ≤ room segment.address
    · rw [served_cons_of_le enough] at within
      have hle := served_le room rest (wanted - segment.length.toNat)
      have hwithin : fewer - segment.length.toNat ≤
          served room rest (wanted - segment.length.toNat) := by omega
      rw [served_cons_of_le (by omega), ih hwithin]
      omega
    · rw [served_cons_of_lt (Nat.lt_of_not_le enough)] at within
      have hnothing : fewer - segment.length.toNat = 0 := by omega
      rw [served_cons_of_le (by omega), hnothing, served_zero]
      omega

/-- Where no room wraps, no address that is moved does. -/
theorem unwrapped_served (fits : ∀ gpa, gpa.toNat + room gpa < UInt64.size) (segments : List Segment)
    (wanted : Nat) : Unwrapped segments (served room segments wanted) := by
  induction segments generalizing wanted with
  | nil => simp [Unwrapped, addresses, positions]
  | cons segment rest ih =>
    have hfits := fits segment.address
    by_cases enough : min wanted segment.length.toNat ≤ room segment.address
    · rw [served_cons_of_le enough]
      have hle := served_le room rest (wanted - segment.length.toNat)
      have hrest := ih (wanted - segment.length.toNat)
      refine Unwrapped.cons (by omega) ?_
      by_cases last : wanted ≤ segment.length.toNat
      · have hnothing : min wanted segment.length.toNat +
            served room rest (wanted - segment.length.toNat) - segment.length.toNat = 0 := by omega
        rw [hnothing]
        exact rfl
      · have hleft : min wanted segment.length.toNat +
            served room rest (wanted - segment.length.toNat) - segment.length.toNat =
              served room rest (wanted - segment.length.toNat) := by omega
        rwa [hleft]
    · have hshort := Nat.lt_of_not_le enough
      rw [served_cons_of_lt hshort]
      refine Unwrapped.cons (by omega) ?_
      have hnothing : room segment.address - segment.length.toNat = 0 := by omega
      rw [hnothing]
      exact rfl

/-- Segments that are apart have no 64-bit position twice. -/
theorem nodup_filter_positions (apart : segments.Pairwise Apart) :
    ((positions segments).filter (· < UInt64.size)).Nodup := by
  induction segments with
  | nil => exact List.nodup_nil
  | cons segment rest ih =>
    rw [List.pairwise_cons] at apart
    rw [positions, List.flatMap_cons, ← positions, List.filter_append, List.nodup_append]
    refine ⟨(List.nodup_range.map (add_right_injective _)).filter _, ih apart.2, ?_⟩
    rintro position here _ later rfl
    rw [List.mem_filter, List.mem_map] at here
    rw [List.mem_filter, positions, List.mem_flatMap] at later
    obtain ⟨⟨offset, inside, rfl⟩, fits⟩ := here
    obtain ⟨⟨other, listed, covered⟩, -⟩ := later
    obtain ⟨offset', inside', same⟩ := List.mem_map.1 covered
    have hoffset := List.mem_range.1 inside
    have hoffset' := List.mem_range.1 inside'
    have hnumber : (UInt64.ofNat (segment.address.toNat + offset)).toNat =
        segment.address.toNat + offset := UInt64.toNat_ofNat_of_lt' (of_decide_eq_true fits)
    refine apart.1 other listed (UInt64.ofNat (segment.address.toNat + offset)) ?_ ?_
    · rw [Covers, InSpan, hnumber]
      omega
    · rw [Covers, InSpan, hnumber]
      omega

/-- So none of the addresses that are moved occurs twice. -/
theorem Unwrapped.nodup (unwrapped : Unwrapped segments count) (apart : segments.Pairwise Apart) :
    ((addresses segments).take count).Nodup := by
  have hfits : ∀ position ∈ (positions segments).take count,
      decide (position < UInt64.size) = true := by
    intro position listed
    rw [← unwrapped, List.mem_map] at listed
    obtain ⟨gpa, -, rfl⟩ := listed
    exact decide_eq_true gpa.toNat_lt_size
  have hsublist := (List.take_sublist count (positions segments)).filter (· < UInt64.size)
  rw [List.filter_eq_self.2 hfits] at hsublist
  refine List.Nodup.of_map UInt64.toNat ?_
  have hpositions : ((addresses segments).take count).map UInt64.toNat =
      (positions segments).take count := unwrapped
  rw [hpositions]
  exact (nodup_filter_positions apart).sublist hsublist

end Segment

end Paravirt

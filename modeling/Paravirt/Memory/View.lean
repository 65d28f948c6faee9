import Paravirt.Memory.Build

/-!
# Memory seen byte by byte

Reads and writes of a well-formed memory described through `byteAt?`: a read lists the bytes at
successive addresses as far as its region reaches, and a write changes the bytes at the addresses
that it counts and no other. Writing keeps a memory well-formed.

With the regions of a well-formed memory put into the order of their first addresses, each of them
ends before the next one starts. The only one that can hold an address is then the last of those
that start no later, so a search for that one finds the same region as going through all of them.
-/

namespace Paravirt

namespace Region

variable {region : Region} {gpa : UInt64}

/-- The end of a bounded region does not wrap. -/
theorem toNat_stop (bounded : region.base.toNat + region.size.toNat < UInt64.size) :
    region.stop.toNat = region.base.toNat + region.size.toNat := by
  rw [stop, UInt64.toNat_add, Nat.mod_eq_of_lt bounded]

/-- An address lies in a bounded region exactly when it is none before and none behind it. -/
theorem contains_iff (bounded : region.base.toNat + region.size.toNat < UInt64.size) :
    region.contains gpa = true ↔
      region.base.toNat ≤ gpa.toNat ∧ gpa.toNat < region.base.toNat + region.size.toNat := by
  rw [contains, Bool.and_eq_true, decide_eq_true_iff, decide_eq_true_iff, UInt64.le_iff_toNat_le,
    UInt64.lt_iff_toNat_lt, toNat_stop bounded]

/-- The offset of an address that is not before the region. -/
theorem toNat_offsetOf (after : region.base.toNat ≤ gpa.toNat) :
    (region.offsetOf gpa).toNat = gpa.toNat - region.base.toNat := by
  rw [offsetOf, UInt64.toNat_sub_of_le _ _ (UInt64.le_iff_toNat_le.2 after)]

/-- The room from an address of the region on. -/
theorem toNat_roomFrom (bounded : region.base.toNat + region.size.toNat < UInt64.size)
    (inside : region.contains gpa = true) :
    (region.roomFrom gpa).toNat = region.base.toNat + region.size.toNat - gpa.toNat := by
  obtain ⟨_, before⟩ := (contains_iff bounded).1 inside
  have ordered : gpa ≤ region.stop := by
    rw [UInt64.le_iff_toNat_le, toNat_stop bounded]
    omega
  rw [roomFrom, UInt64.toNat_sub_of_le _ _ ordered, toNat_stop bounded]

@[simp]
theorem base_write (region : Region) (gpa : UInt64) (bytes : List UInt8) :
    (region.write gpa bytes).2.base = region.base := by
  unfold write
  split <;> rfl

@[simp]
theorem size_write (region : Region) (gpa : UInt64) (bytes : List UInt8) :
    (region.write gpa bytes).2.size = region.size := by
  unfold write
  split <;> rfl

@[simp]
theorem hostBase_write (region : Region) (gpa : UInt64) (bytes : List UInt8) :
    (region.write gpa bytes).2.hostBase = region.hostBase := by
  unfold write
  split <;> rfl

/-- A write keeps the length of the storage. -/
theorem length_storage_write (region : Region) (gpa : UInt64) (bytes : List UInt8) :
    (region.write gpa bytes).2.backing.storage?.map (·.length) =
      region.backing.storage?.map (·.length) := by
  unfold write
  split
  · rename_i storage backed
    simp [Backing.storage?, backed]
  · rfl
  · rfl

/-- A write leaves the addresses of the region as they are. -/
theorem contains_write (region : Region) (gpa : UInt64) (bytes : List UInt8) (other : UInt64) :
    (region.write gpa bytes).2.contains other = region.contains other := by
  unfold write
  split <;> rfl

/-- A write stores no more than is offered. -/
theorem write_le_length (region : Region) (gpa : UInt64) (bytes : List UInt8) :
    (region.write gpa bytes).1 ≤ bytes.length := by
  unfold write
  split
  · exact List.length_take_le' _ _
  · exact Nat.zero_le _
  · exact Nat.zero_le _

/-- A write stores no more than there is room for. -/
theorem write_le_roomFrom (region : Region) (gpa : UInt64) (bytes : List UInt8) :
    (region.write gpa bytes).1 ≤ (region.roomFrom gpa).toNat := by
  unfold write
  split
  · exact List.length_take_le _ _
  · exact Nat.zero_le _
  · exact Nat.zero_le _

/-- A write changes the bytes that it counts and no other. -/
theorem byteAt?_write (bounded : region.base.toNat + region.size.toNat < UInt64.size)
    (inside : region.contains gpa = true) (bytes : List UInt8) {other : UInt64}
    (among : region.contains other = true) :
    (region.write gpa bytes).2.byteAt? other =
      if gpa.toNat ≤ other.toNat ∧ other.toNat < gpa.toNat + (region.write gpa bytes).1 then
        bytes[other.toNat - gpa.toNat]?
      else region.byteAt? other := by
  have start := ((contains_iff bounded).1 inside).1
  have start' := ((contains_iff bounded).1 among).1
  unfold write
  split
  · rename_i storage backed
    generalize stored_def : bytes.take (region.roomFrom gpa).toNat = stored
    have offset : (region.offsetOf other).toNat - (region.offsetOf gpa).toNat =
        other.toNat - gpa.toNat := by
      rw [toNat_offsetOf start, toNat_offsetOf start']
      omega
    have ordered : (region.offsetOf gpa).toNat ≤ (region.offsetOf other).toNat ↔
        gpa.toNat ≤ other.toNat := by
      rw [toNat_offsetOf start, toNat_offsetOf start']
      omega
    have kept : region.byteAt? other = some (storage.get (region.offsetOf other).toNat) := by
      simp [byteAt?, backed, Backing.storage?]
    have moved : ({ region with
        backing := .ram (storage.store (region.offsetOf gpa).toNat stored) } : Region).byteAt?
          other = some (if gpa.toNat ≤ other.toNat then
            (stored[other.toNat - gpa.toNat]?).getD (storage.get (region.offsetOf other).toNat)
          else storage.get (region.offsetOf other).toNat) := by
      simp only [byteAt?, Backing.storage?, Option.map_some, offsetOf]
      rw [← offsetOf, ← offsetOf, Storage.get_store, offset]
      simp only [ordered]
    dsimp only
    rw [moved, kept]
    by_cases before : gpa.toNat ≤ other.toNat
    · rw [if_pos before]
      by_cases within : other.toNat - gpa.toNat < stored.length
      · have held : stored[other.toNat - gpa.toNat]? = bytes[other.toNat - gpa.toNat]? := by
          rw [← stored_def, List.length_take] at within
          rw [← stored_def, List.getElem?_take, if_pos (by omega)]
        rw [if_pos ⟨before, by omega⟩, ← held, List.getElem?_eq_getElem within, Option.getD_some]
      · rw [if_neg (by omega), List.getElem?_eq_none (Nat.le_of_not_lt within), Option.getD_none]
    · rw [if_neg before, if_neg (by omega)]
  · rw [if_neg (by simp only; omega)]
  · rw [if_neg (by simp only; omega)]

/-- Two disjoint bounded regions share no address. -/
theorem not_contains_both {first second : Region}
    (bounded : first.base.toNat + first.size.toNat < UInt64.size)
    (bounded' : second.base.toNat + second.size.toNat < UInt64.size)
    (apart : first.stop ≤ second.base ∨ second.stop ≤ first.base) :
    ¬(first.contains gpa = true ∧ second.contains gpa = true) := by
  rintro ⟨inFirst, inSecond⟩
  have := (contains_iff bounded).1 inFirst
  have := (contains_iff bounded').1 inSecond
  rw [UInt64.le_iff_toNat_le, UInt64.le_iff_toNat_le, toNat_stop bounded, toNat_stop bounded']
    at apart
  omega

end Region

namespace Memory

variable {memory : Memory} {gpa : UInt64}

/-- A region that holds an address is the one found for it. -/
theorem WellFormed.regionAt?_eq (wellFormed : memory.WellFormed) {region : Region}
    (listed : region ∈ memory.regions) (inside : region.contains gpa = true) :
    memory.regionAt? gpa = some region := by
  obtain ⟨bounded, _, _, disjoint⟩ := wellFormed
  unfold regionAt?
  generalize memory.regions = regions at listed bounded disjoint
  induction regions with
  | nil => cases listed
  | cons head rest ih =>
    rw [List.pairwise_cons] at disjoint
    rcases List.mem_cons.1 listed with same | later
    · subst same
      simp [inside]
    · have head_bounded := (bounded head List.mem_cons_self).2
      have region_bounded := (bounded region listed).2
      have alone : ¬head.contains gpa = true := fun shared =>
        Region.not_contains_both head_bounded region_bounded (disjoint.1 region later)
          ⟨shared, inside⟩
      rw [List.find?_cons_of_neg (by simpa using alone)]
      exact ih later (fun other member => bounded other (List.mem_cons_of_mem _ member))
        disjoint.2

/-- Putting the regions in order neither loses a region nor adds one. -/
theorem mem_ordered {region : Region} : region ∈ memory.ordered ↔ region ∈ memory.regions :=
  List.mem_mergeSort

/-- Each region ends before those behind it start. -/
theorem WellFormed.pairwise_ordered (wellFormed : memory.WellFormed) :
    memory.ordered.Pairwise fun first second => first.stop ≤ second.base := by
  have hsorted : memory.ordered.Pairwise fun first second =>
      decide (first.base ≤ second.base) = true := by
    refine List.pairwise_mergeSort ?_ ?_ memory.regions
    · intro first second third below above
      exact decide_eq_true (UInt64.le_trans (of_decide_eq_true below) (of_decide_eq_true above))
    · intro first second
      rw [Bool.or_eq_true, decide_eq_true_iff, decide_eq_true_iff]
      exact UInt64.le_total first.base second.base
  have hapart : memory.ordered.Pairwise fun first second =>
      first.stop ≤ second.base ∨ second.stop ≤ first.base :=
    ((List.mergeSort_perm _ _).pairwise_iff Or.symm).2 wellFormed.disjoint
  refine (hsorted.and hapart).imp_of_mem ?_
  rintro first second - listed ⟨below, before | behind⟩
  · exact before
  · -- a region that starts no earlier and ends no later than the first one starts is empty
    obtain ⟨nonempty, bounded⟩ := wellFormed.bounded second (mem_ordered.1 listed)
    have hbelow := UInt64.le_iff_toNat_le.1 (of_decide_eq_true below)
    have hbehind := UInt64.le_iff_toNat_le.1 behind
    rw [Region.toNat_stop bounded] at hbehind
    omega

/-- Among the regions in order, those before the one that holds an address start no later than that
address, and those after it start behind the address. -/
theorem WellFormed.ordered_around (wellFormed : memory.WellFormed) {region : Region}
    (listed : region ∈ memory.regions) (inside : region.contains gpa = true) :
    ∃ earlier later, memory.ordered = earlier ++ region :: later ∧
      (∀ other ∈ earlier, other.base ≤ gpa) ∧ ∀ other ∈ later, gpa < other.base := by
  have hbounded := (wellFormed.bounded region listed).2
  have hstop := Region.toNat_stop hbounded
  obtain ⟨hstart, hend⟩ := (Region.contains_iff hbounded).1 inside
  obtain ⟨earlier, later, split⟩ := List.append_of_mem (mem_ordered.2 listed)
  have horder := wellFormed.pairwise_ordered
  rw [split, List.pairwise_append, List.pairwise_cons] at horder
  obtain ⟨-, ⟨hlater, -⟩, hearlier⟩ := horder
  refine ⟨earlier, later, split, fun other member => ?_, fun other member => ?_⟩
  · have hmember := mem_ordered.1 (split ▸ List.mem_append_left _ member)
    have hother := (wellFormed.bounded other hmember).2
    have hstops := UInt64.le_iff_toNat_le.1 (hearlier other member region List.mem_cons_self)
    rw [Region.toNat_stop hother] at hstops
    rw [UInt64.le_iff_toNat_le]
    omega
  · have hstarts := UInt64.le_iff_toNat_le.1 (hlater other member)
    rw [UInt64.lt_iff_toNat_lt]
    omega

/-- A search among the regions in order finds the region that holds the address. -/
theorem WellFormed.search?_eq (wellFormed : memory.WellFormed) (gpa : UInt64) :
    memory.search? gpa = memory.regionAt? gpa := by
  cases found : memory.regionAt? gpa with
  | none =>
    rw [search?, Option.filter_eq_none_iff]
    intro region last holds
    have hlisted := (List.takeWhile_sublist _).mem (List.mem_of_getLast? last)
    rw [wellFormed.regionAt?_eq (mem_ordered.1 hlisted) holds] at found
    cases found
  | some region =>
    have hinside := contains_of_regionAt? found
    obtain ⟨earlier, later, split, hearlier, hlater⟩ :=
      wellFormed.ordered_around (mem_of_regionAt? found) hinside
    have hstart : region.base ≤ gpa := of_decide_eq_true (Bool.and_eq_true_iff.1 hinside).1
    have hbehind : later.takeWhile (fun other => decide (other.base ≤ gpa)) = [] := by
      cases later with
      | nil => rfl
      | cons other rest =>
        have hstarts := hlater other List.mem_cons_self
        exact List.takeWhile_cons_of_neg fun below =>
          UInt64.not_le.2 hstarts (of_decide_eq_true below)
    rw [search?, split,
      List.takeWhile_append_of_pos fun other member => decide_eq_true (hearlier other member),
      List.takeWhile_cons, if_pos (decide_eq_true hstart), hbehind, List.getLast?_concat,
      Option.filter_some, if_pos hinside]

/-- The count of a write is that of the region which holds the address. -/
theorem write_fst (memory : Memory) (gpa : UInt64) (bytes : List UInt8) :
    (memory.write gpa bytes).1 =
      match memory.regionAt? gpa with
      | none => 0
      | some region => (region.write gpa bytes).1 := by
  unfold regionAt? write
  generalize memory.regions = regions
  induction regions with
  | nil => rfl
  | cons head rest ih =>
    by_cases here : head.contains gpa = true
    · simp [writeFirst, here]
    · simpa [writeFirst, here] using ih

/-- A write replaces the region which holds the address. -/
theorem WellFormed.regions_write (wellFormed : memory.WellFormed) (gpa : UInt64)
    (bytes : List UInt8) :
    (memory.write gpa bytes).2.regions = memory.regions.map fun region =>
      if region.contains gpa then (region.write gpa bytes).2 else region := by
  obtain ⟨bounded, _, _, disjoint⟩ := wellFormed
  unfold write
  generalize memory.regions = regions at bounded disjoint
  induction regions with
  | nil => rfl
  | cons head rest ih =>
    rw [List.pairwise_cons] at disjoint
    have rest_bounded := fun other member => bounded other (List.mem_cons_of_mem head member)
    by_cases here : head.contains gpa = true
    · have unchanged : rest.map (fun region =>
          if region.contains gpa then (region.write gpa bytes).2 else region) = rest := by
        conv => rhs; rw [← List.map_id rest]
        refine List.map_congr_left fun region later => ?_
        rw [if_neg, id]
        exact fun shared => Region.not_contains_both (bounded head List.mem_cons_self).2
          (rest_bounded region later).2 (disjoint.1 region later) ⟨here, shared⟩
      simp [writeFirst, here, unchanged]
    · simpa [writeFirst, here] using ih rest_bounded disjoint.2

/-- The region found for an address after a write is the one found before, with the write done. -/
theorem WellFormed.regionAt?_write (wellFormed : memory.WellFormed) (gpa : UInt64)
    (bytes : List UInt8) (other : UInt64) :
    (memory.write gpa bytes).2.regionAt? other = (memory.regionAt? other).map fun region =>
      if region.contains gpa then (region.write gpa bytes).2 else region := by
  unfold regionAt?
  rw [wellFormed.regions_write, List.find?_map]
  congr 2
  funext region
  simp only [Function.comp_apply]
  split
  · exact Region.contains_write _ _ _ _
  · rfl

/-- A write changes the bytes that it counts and no other. -/
theorem WellFormed.byteAt?_write (wellFormed : memory.WellFormed) (gpa : UInt64)
    (bytes : List UInt8) (other : UInt64) :
    (memory.write gpa bytes).2.byteAt? other =
      if gpa.toNat ≤ other.toNat ∧ other.toNat < gpa.toNat + (memory.write gpa bytes).1 then
        bytes[other.toNat - gpa.toNat]?
      else memory.byteAt? other := by
  unfold Memory.byteAt?
  rw [wellFormed.regionAt?_write, write_fst]
  cases found : memory.regionAt? gpa with
  | none =>
    rw [if_neg (by simp only; omega)]
    cases found' : memory.regionAt? other with
    | none => rfl
    | some region =>
      have listed := mem_of_regionAt? found'
      have outside : ¬region.contains gpa = true := fun inside => by
        rw [wellFormed.regionAt?_eq listed inside] at found
        cases found
      simp [outside]
  | some region =>
    have listed := mem_of_regionAt? found
    have inside := contains_of_regionAt? found
    have bounded := (wellFormed.bounded region listed).2
    by_cases among : region.contains other = true
    · simp [wellFormed.regionAt?_eq listed among, inside, Region.byteAt?_write bounded inside bytes among]
    · have reach := region.write_le_roomFrom gpa bytes
      rw [Region.toNat_roomFrom bounded inside] at reach
      rw [Region.contains_iff bounded] at among inside
      rw [if_neg (by simp only; omega)]
      cases found' : memory.regionAt? other with
      | none => rfl
      | some region' =>
        have listed' := mem_of_regionAt? found'
        have outside : ¬region'.contains gpa = true := fun inside' => by
          have same := wellFormed.regionAt?_eq listed' inside'
          rw [found] at same
          have inside'' := contains_of_regionAt? found'
          rw [← Option.some.inj same, Region.contains_iff bounded] at inside''
          omega
        simp [outside]

/-- How many bytes a read can transfer from an address on. -/
def readReach (memory : Memory) (gpa : UInt64) : Nat :=
  match memory.regionAt? gpa with
  | none => 0
  | some region => if region.backing.storage?.isSome then (region.roomFrom gpa).toNat else 0

/-- A read transfers what is asked for, as far as its region reaches. -/
theorem length_read (memory : Memory) (gpa : UInt64) (count : Nat) :
    (memory.read gpa count).length = min count (memory.readReach gpa) := by
  unfold read readReach
  cases memory.regionAt? gpa with
  | none => simp
  | some region =>
    cases backed : region.backing.storage? <;> simp [Region.read, backed]

/-- The bytes of a read are those at successive addresses. -/
theorem WellFormed.getElem?_read (wellFormed : memory.WellFormed) (gpa : UInt64)
    {count index : Nat} (inside : index < (memory.read gpa count).length) :
    (memory.read gpa count)[index]? = memory.byteAt? (gpa + UInt64.ofNat index) := by
  rw [length_read] at inside
  unfold readReach at inside
  unfold read
  cases found : memory.regionAt? gpa with
  | none =>
    simp only [found] at inside
    omega
  | some region =>
    simp only [found] at inside
    have listed := mem_of_regionAt? found
    have bounded := (wellFormed.bounded region listed).2
    have starts := (Region.contains_iff bounded).1 (contains_of_regionAt? found)
    cases backed : region.backing.storage? with
    | none =>
      simp only [backed, Option.isSome_none, Bool.false_eq_true, if_false] at inside
      omega
    | some storage =>
      simp only [backed, Option.isSome_some, if_true] at inside
      have room := Region.toNat_roomFrom bounded (contains_of_regionAt? found)
      have address : (gpa + UInt64.ofNat index).toNat = gpa.toNat + index := by
        rw [UInt64.toNat_add, UInt64.toNat_ofNat_of_lt' (by omega)]
        exact Nat.mod_eq_of_lt (Nat.lt_of_lt_of_le (m := UInt64.size) (by omega) (Nat.le_refl _))
      have among : region.contains (gpa + UInt64.ofNat index) = true := by
        rw [Region.contains_iff bounded, address]
        omega
      have offset : (region.offsetOf (gpa + UInt64.ofNat index)).toNat =
          (region.offsetOf gpa).toNat + index := by
        rw [Region.toNat_offsetOf starts.1, Region.toNat_offsetOf (by omega), address]
        omega
      simp only [Memory.byteAt?, wellFormed.regionAt?_eq listed among, Option.bind_some,
        Region.byteAt?, Region.read, backed, Option.map_some, offset]
      exact Storage.getElem?_load storage (by omega)

/-- Writing keeps a memory well-formed. -/
theorem WellFormed.write (wellFormed : memory.WellFormed) (gpa : UInt64) (bytes : List UInt8) :
    (memory.write gpa bytes).2.WellFormed := by
  have regions := wellFormed.regions_write gpa bytes
  refine ⟨?_, ?_, ?_, ?_⟩
  · intro region listed
    rw [regions, List.mem_map] at listed
    obtain ⟨before, member, rfl⟩ := listed
    have bounded := wellFormed.bounded before member
    split
    · simpa using bounded
    · exact bounded
  · intro region listed
    rw [regions, List.mem_map] at listed
    obtain ⟨before, member, rfl⟩ := listed
    have hosted := wellFormed.hosted before member
    split
    · simpa using hosted
    · exact hosted
  · intro region listed storage backed
    rw [regions, List.mem_map] at listed
    obtain ⟨before, member, rfl⟩ := listed
    have stored := wellFormed.stored before member
    split at backed
    · have kept := before.length_storage_write gpa bytes
      rw [backed, Option.map_some, eq_comm, Option.map_eq_some_iff] at kept
      obtain ⟨storage', backed', length⟩ := kept
      rw [if_pos ‹_›, Region.size_write, ← length]
      exact stored storage' backed'
    · rw [if_neg ‹_›]
      exact stored storage backed
  · rw [regions, List.pairwise_map]
    refine wellFormed.disjoint.imp ?_
    intro first second apart
    unfold Region.stop at apart ⊢
    split <;> split <;> simpa using apart

/-- A region that is bounded and shares no address with others can stand beside them. -/
theorem WellFormed.append {regions : List Region} (wellFormed : WellFormed ⟨regions⟩)
    {spec : RegionSpec} {hostBase : UInt64} (nonempty : spec.size ≠ 0)
    (ends : spec.base.toNat + spec.size < UInt64.size) (hosted : hostBase.toNat + spec.size < UInt64.size)
    (apart : regions.any (·.overlaps (spec.region hostBase)) = false) :
    WellFormed ⟨regions ++ [spec.region hostBase]⟩ := by
  have size_fits : (spec.region hostBase).size.toNat = spec.size := by
    rw [RegionSpec.region, UInt64.toNat_ofNat_of_lt']
    omega
  have base_eq : (spec.region hostBase).base = spec.base := rfl
  have hostBase_eq : (spec.region hostBase).hostBase = hostBase := rfl
  refine ⟨?_, ?_, ?_, ?_⟩
  · intro region listed
    rcases List.mem_append.1 listed with earlier | last
    · exact wellFormed.bounded region earlier
    · rw [List.mem_singleton.1 last, size_fits, base_eq]
      omega
  · intro region listed
    rcases List.mem_append.1 listed with earlier | last
    · exact wellFormed.hosted region earlier
    · rw [List.mem_singleton.1 last, size_fits, hostBase_eq]
      exact hosted
  · intro region listed storage backed
    rcases List.mem_append.1 listed with earlier | last
    · exact wellFormed.stored region earlier storage backed
    · rw [List.mem_singleton.1 last] at backed ⊢
      rw [size_fits]
      cases spec with
      | ram base size =>
        cases backed
        rfl
      | rom base bytes =>
        cases backed
        exact Storage.length_ofBytes _
      | window base size => cases backed
  · rw [List.pairwise_append]
    refine ⟨wellFormed.disjoint, List.pairwise_singleton _ _, ?_⟩
    intro region earlier region' last
    rw [List.mem_singleton.1 last]
    have free := List.any_eq_false.1 apart region earlier
    simp only [Region.overlaps, Bool.and_eq_true, decide_eq_true_iff, not_and,
      UInt64.not_lt] at free
    by_cases before : region.stop ≤ (spec.region hostBase).base
    · exact Or.inl before
    · exact Or.inr (free (UInt64.not_le.1 before))

/-- A region placed beside others keeps them well-formed. -/
theorem WellFormed.place {plan plan' : Plan} (wellFormed : WellFormed ⟨plan.regions⟩)
    {spec : RegionSpec} (placed : plan.place spec = .ok plan') :
    WellFormed ⟨plan'.regions⟩ := by
  unfold Plan.place at placed
  split at placed
  · cases placed
  · rename_i nonempty
    split at placed
    · cases placed
    · rename_i ends
      split at placed
      · cases placed
      · rename_i apart
        have ends' : spec.base.toNat + spec.size < UInt64.size := by omega
        rw [Bool.not_eq_true] at apart
        split at placed
        · split at placed
          · cases placed
          · rename_i nextHost next
            cases placed
            obtain ⟨span, span_eq, next_eq⟩ := Option.bind_eq_some_iff.1 next
            rw [Word.add?_eq_some_iff] at next_eq
            have covered := le_of_pageSpan? span_eq
            have bound := nextHost.toNat_lt_size
            rw [UInt64.toNat_ofNat_of_lt' (by omega)] at covered
            exact wellFormed.append nonempty ends' (by omega) apart
        · cases placed
          exact wellFormed.append nonempty ends' ends' apart

/-- What is built is well-formed. -/
theorem wellFormed_of_build {specs : List RegionSpec} {hostBase : UInt64} {memory : Memory}
    (built : build specs hostBase = .ok memory) : memory.WellFormed := by
  unfold build at built
  suffices folded : ∀ (specs : List RegionSpec) (plan plan' : Plan),
      WellFormed ⟨plan.regions⟩ → specs.foldlM Plan.place plan = .ok plan' →
        WellFormed ⟨plan'.regions⟩ by
    cases result : specs.foldlM Plan.place ⟨hostBase, []⟩ with
    | error error =>
      rw [result] at built
      cases built
    | ok plan =>
      rw [result] at built
      cases built
      refine folded specs _ plan ⟨?_, ?_, ?_, List.Pairwise.nil⟩ result <;> intro region listed <;>
        cases listed
  intro specs
  induction specs with
  | nil =>
    intro plan plan' wellFormed result
    cases result
    exact wellFormed
  | cons spec rest ih =>
    intro plan plan' wellFormed result
    rw [List.foldlM_cons] at result
    cases placed : plan.place spec with
    | error error =>
      rw [placed] at result
      cases result
    | ok next =>
      rw [placed] at result
      exact ih next plan' (wellFormed.place placed) result

end Memory

end Paravirt

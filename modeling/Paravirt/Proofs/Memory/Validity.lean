import Mathlib.Algebra.BigOperators.Group.List.Lemmas
import Mathlib.Algebra.GroupWithZero.Nat
import Paravirt.Proofs.Memory.Declaration

/-!
# Memory maps that can be built

A memory map is built one region after another: each is checked against those placed before it, and
each region with bytes takes the next free pages of host memory. Which declarations come through is
said here without any such order: every region holds an address and ends at one, no two share an
address, and the pages of all of them fit behind the host address chosen for the first. With it goes
where in host memory each region ends up.
-/

namespace Paravirt

namespace RegionSpec

/-- The host memory that a declared region takes up: whole pages of 4096 bytes for a region with
bytes, and nothing for a window. -/
def hostSpan (spec : RegionSpec) : Nat :=
  if spec.isBacked then (spec.size + 4095) / 4096 * 4096 else 0

/-- The host memory that declared regions take up together. -/
def hostSpans (specs : List RegionSpec) : Nat := (specs.map hostSpan).sum

/-- Two declared regions share no address. -/
def Apart (first second : RegionSpec) : Prop := ∀ gpa, ¬(first.Holds gpa ∧ second.Holds gpa)

/-- Where the declared region at a place of the list starts in host memory: behind the pages of those
declared before it if it has bytes, and at its own address if it is a window. -/
def hostStart (hostBase : UInt64) (specs : List RegionSpec) (place : Nat) (spec : RegionSpec) : Nat :=
  if spec.isBacked then hostBase.toNat + hostSpans (specs.take place) else spec.base.toNat

theorem Apart.symm {first second : RegionSpec} (apart : first.Apart second) : second.Apart first :=
  fun gpa both => apart gpa both.symm

instance : Std.Symm Apart := ⟨fun _ _ => Apart.symm⟩

@[simp]
theorem hostSpans_append (specs specs' : List RegionSpec) :
    hostSpans (specs ++ specs') = hostSpans specs + hostSpans specs' := by
  simp [hostSpans]

@[simp]
theorem hostSpans_singleton (spec : RegionSpec) : hostSpans [spec] = spec.hostSpan := by
  simp [hostSpans]

/-- The pages of a region with bytes cover it. -/
theorem size_le_hostSpan {spec : RegionSpec} (backed : spec.isBacked = true) :
    spec.size ≤ spec.hostSpan := by
  rw [hostSpan, if_pos backed]
  omega

/-- Two regions that are not empty share no address exactly if one of them ends before the other
starts. -/
theorem apart_iff {first second : RegionSpec} (nonempty : first.size ≠ 0)
    (nonempty' : second.size ≠ 0) : first.Apart second ↔
      first.base.toNat + first.size ≤ second.base.toNat ∨
        second.base.toNat + second.size ≤ first.base.toNat := by
  constructor
  · -- the later of the two first addresses is the one that they would share
    intro apart
    have hfirst := apart first.base
    have hsecond := apart second.base
    unfold Holds InSpan at hfirst hsecond
    omega
  · rintro ends gpa ⟨⟨hafter, hbefore⟩, hafter', hbefore'⟩
    omega

end RegionSpec

namespace Memory

/-- Whole pages are computed without overflow wherever they are a 64-bit size. -/
theorem pageSpan?_eq_some_iff {size span : UInt64} :
    pageSpan? size = some span ↔ span.toNat = (size.toNat + 4095) / 4096 * 4096 := by
  have hpage : pageSize.toNat = 4096 := rfl
  have hlast : (pageSize - 1).toNat = 4095 := rfl
  have hsize : UInt64.size = 2 ^ 64 := rfl
  have hspan := span.toNat_lt_size
  rw [pageSpan?, Option.map_eq_some_iff]
  constructor
  · rintro ⟨padded, sum, rfl⟩
    have hpadded := padded.toNat_lt_size
    rw [Word.add?_eq_some_iff, hlast] at sum
    rw [UInt64.toNat_mul, UInt64.toNat_div, hpage, ← sum]
    omega
  · intro pages
    have hsum : (UInt64.ofNat (size.toNat + 4095)).toNat = size.toNat + 4095 :=
      UInt64.toNat_ofNat_of_lt' (by omega)
    refine ⟨UInt64.ofNat (size.toNat + 4095), Word.add?_eq_some_iff.2 (hlast ▸ hsum), ?_⟩
    rw [← UInt64.toNat_inj, UInt64.toNat_mul, UInt64.toNat_div, hpage, hsum, ← pages]
    omega

/-- The next free host address is computed without overflow wherever it is a 64-bit address. -/
theorem bind_pageSpan?_eq_some_iff {size next next' : UInt64} :
    (pageSpan? size).bind (Word.add? next) = some next' ↔
      next'.toNat = next.toNat + (size.toNat + 4095) / 4096 * 4096 := by
  have hbound := next'.toNat_lt_size
  rw [Option.bind_eq_some_iff]
  constructor
  · rintro ⟨span, pages, sum⟩
    rw [← pageSpan?_eq_some_iff.1 pages]
    exact Word.add?_eq_some_iff.1 sum
  · intro sum
    have hspan : (UInt64.ofNat ((size.toNat + 4095) / 4096 * 4096)).toNat =
        (size.toNat + 4095) / 4096 * 4096 := UInt64.toNat_ofNat_of_lt' (by omega)
    exact ⟨_, pageSpan?_eq_some_iff.2 hspan, Word.add?_eq_some_iff.2 (by rw [hspan, sum])⟩

/-- What placing a region asks of it, and what it leaves. -/
theorem place_eq_ok_iff {plan plan' : Plan} {spec : RegionSpec} :
    plan.place spec = .ok plan' ↔
      spec.size ≠ 0 ∧ spec.base.toNat + spec.size < UInt64.size ∧
        plan.regions.any (·.overlaps (spec.region plan.nextHost)) = false ∧
        plan'.nextHost.toNat = plan.nextHost.toNat + spec.hostSpan ∧
        plan'.regions =
          plan.regions ++ [spec.region (if spec.isBacked then plan.nextHost else spec.base)] := by
  unfold Plan.place
  by_cases empty : spec.size = 0
  · simp only [empty, if_true, reduceCtorEq, ne_eq, not_true_eq_false, false_and]
  by_cases ends : UInt64.size ≤ spec.base.toNat + spec.size
  · have hends : ¬spec.base.toNat + spec.size < UInt64.size := by omega
    simp only [empty, ends, hends, if_false, if_true, reduceCtorEq, false_and, and_false]
  cases shared : plan.regions.any (·.overlaps (spec.region plan.nextHost)) with
  | true => simp only [empty, ends, if_false, if_true, reduceCtorEq, false_and, and_false]
  | false =>
    have hends : spec.base.toNat + spec.size < UInt64.size := by omega
    have hsize : (UInt64.ofNat spec.size).toNat = spec.size := UInt64.toNat_ofNat_of_lt' (by omega)
    rw [if_neg empty, if_neg ends, if_neg Bool.false_ne_true]
    refine Iff.trans ?_ ⟨fun left => ⟨empty, hends, rfl, left⟩, fun all => all.2.2.2⟩
    cases backed : spec.isBacked with
    | false =>
      have hspan : spec.hostSpan = 0 := by rw [RegionSpec.hostSpan, backed, if_neg Bool.false_ne_true]
      obtain ⟨nextHost, regions⟩ := plan'
      simp only [hspan, Nat.add_zero, Bool.false_eq_true, if_false, Except.ok.injEq, Plan.mk.injEq,
        UInt64.toNat_inj, eq_comm]
    | true =>
      have hspan : spec.hostSpan = (spec.size + 4095) / 4096 * 4096 := by
        rw [RegionSpec.hostSpan, if_pos backed]
      obtain ⟨nextHost', regions'⟩ := plan'
      have hnext : (pageSpan? (UInt64.ofNat spec.size)).bind (Word.add? plan.nextHost) =
          some nextHost' ↔ nextHost'.toNat = plan.nextHost.toNat + spec.hostSpan := by
        rw [bind_pageSpan?_eq_some_iff, hsize, hspan]
      rw [if_pos rfl, ← hnext]
      cases (pageSpan? (UInt64.ofNat spec.size)).bind (Word.add? plan.nextHost) with
      | none => simp only [reduceCtorEq, false_and]
      | some nextHost =>
        simp only [Except.ok.injEq, Plan.mk.injEq, Option.some.injEq, if_true, eq_comm]

/-- A declaration that can be built, whatever the order in which its regions stand. -/
structure Valid (specs : List RegionSpec) (hostBase : UInt64) : Prop where
  /-- Every region holds an address. -/
  nonempty : ∀ spec ∈ specs, spec.size ≠ 0
  /-- The end of every region is a 64-bit address. -/
  ends : ∀ spec ∈ specs, spec.base.toNat + spec.size ≤ 2 ^ 64 - 1
  /-- No two regions share an address. -/
  disjoint : specs.Pairwise RegionSpec.Apart
  /-- The end of the pages of all regions with bytes is a 64-bit address. -/
  hosted : hostBase.toNat + RegionSpec.hostSpans specs ≤ 2 ^ 64 - 1

namespace Valid

variable {specs specs' : List RegionSpec} {spec : RegionSpec} {hostBase : UInt64}

/-- Without regions any host address will do. -/
theorem nil (hostBase : UInt64) : Valid [] hostBase :=
  ⟨by simp, by simp, .nil, Nat.le_pred_of_lt hostBase.toNat_lt⟩

/-- The first regions of a valid declaration are a valid declaration. -/
theorem of_append (valid : Valid (specs ++ specs') hostBase) : Valid specs hostBase := by
  have hhosted := valid.hosted
  rw [RegionSpec.hostSpans_append] at hhosted
  exact ⟨fun spec listed => valid.nonempty spec (List.mem_append_left _ listed),
    fun spec listed => valid.ends spec (List.mem_append_left _ listed),
    (List.pairwise_append.1 valid.disjoint).1, by omega⟩

/-- One more region can be declared if it holds an address and ends at one, shares none with those
before it, and its pages fit behind theirs. -/
theorem append_singleton_iff (valid : Valid specs hostBase) :
    Valid (specs ++ [spec]) hostBase ↔
      spec.size ≠ 0 ∧ spec.base.toNat + spec.size ≤ 2 ^ 64 - 1 ∧
        (∀ earlier ∈ specs, earlier.Apart spec) ∧
        hostBase.toNat + RegionSpec.hostSpans specs + spec.hostSpan ≤ 2 ^ 64 - 1 := by
  constructor
  · intro more
    have hlisted : spec ∈ specs ++ [spec] := List.mem_append_right _ (List.mem_singleton_self spec)
    have hhosted := more.hosted
    rw [RegionSpec.hostSpans_append, RegionSpec.hostSpans_singleton, ← Nat.add_assoc] at hhosted
    exact ⟨more.nonempty spec hlisted, more.ends spec hlisted, fun earlier before =>
      (List.pairwise_append.1 more.disjoint).2.2 earlier before spec (List.mem_singleton_self spec),
      hhosted⟩
  · rintro ⟨nonempty, ends, apart, hosted⟩
    refine ⟨?_, ?_, ?_, ?_⟩
    · intro other listed
      rcases List.mem_append.1 listed with earlier | last
      · exact valid.nonempty other earlier
      · exact List.mem_singleton.1 last ▸ nonempty
    · intro other listed
      rcases List.mem_append.1 listed with earlier | last
      · exact valid.ends other earlier
      · exact List.mem_singleton.1 last ▸ ends
    · refine List.pairwise_append.2 ⟨valid.disjoint, List.pairwise_singleton _ _, ?_⟩
      intro earlier before other last
      exact List.mem_singleton.1 last ▸ apart earlier before
    · rw [RegionSpec.hostSpans_append, RegionSpec.hostSpans_singleton, ← Nat.add_assoc]
      exact hosted

/-- The order of the regions does not matter. -/
theorem perm (valid : Valid specs hostBase) (rearranged : specs.Perm specs') :
    Valid specs' hostBase := by
  have hspans : RegionSpec.hostSpans specs' = RegionSpec.hostSpans specs :=
    ((rearranged.map RegionSpec.hostSpan).sum_eq).symm
  refine ⟨fun spec listed => valid.nonempty spec (rearranged.mem_iff.2 listed),
    fun spec listed => valid.ends spec (rearranged.mem_iff.2 listed),
    (rearranged.pairwise_iff RegionSpec.Apart.symm).1 valid.disjoint, ?_⟩
  rw [hspans]
  exact valid.hosted

/-- No two regions of a valid declaration hold the same address. -/
theorem eq_of_holds (valid : Valid specs hostBase) {other : RegionSpec} {gpa : UInt64}
    (listed : spec ∈ specs) (listed' : other ∈ specs) (holds : spec.Holds gpa)
    (holds' : other.Holds gpa) : spec = other := by
  by_contra distinct
  exact valid.disjoint.forall listed listed' distinct gpa ⟨holds, holds'⟩

/-- The region found for an address in a valid declaration is the one that holds it. -/
theorem at?_eq_some_iff (valid : Valid specs hostBase) {gpa : UInt64} :
    RegionSpec.at? specs gpa = some spec ↔ spec ∈ specs ∧ spec.Holds gpa := by
  unfold RegionSpec.at?
  constructor
  · intro found
    exact ⟨List.mem_of_find?_eq_some found, of_decide_eq_true (by simpa using List.find?_some found)⟩
  · rintro ⟨listed, holds⟩
    cases found : specs.find? fun other => other.Holds gpa with
    | none => exact absurd (decide_eq_true holds) (List.find?_eq_none.1 found spec listed)
    | some other =>
      have hholds : decide (other.Holds gpa) = true := by simpa using List.find?_some found
      rw [valid.eq_of_holds listed (List.mem_of_find?_eq_some found) holds
        (of_decide_eq_true hholds)]

/-- Where a region of the kind asked for holds the address, transfers reach to its end. -/
theorem roomAt_eq (valid : Valid specs hostBase) {gpa : UInt64} {kind : RegionSpec → Bool}
    (listed : spec ∈ specs) (holds : spec.Holds gpa) (suits : kind spec = true) :
    RegionSpec.roomAt kind specs gpa = spec.roomFrom gpa := by
  unfold RegionSpec.roomAt
  rw [valid.at?_eq_some_iff.2 ⟨listed, holds⟩]
  exact if_pos suits

end Valid

/-- A plan as it stands once the given regions have been placed. -/
structure Plan.Follows (plan : Plan) (placed : List RegionSpec) (hostBase : UInt64) : Prop where
  /-- The regions are a valid declaration. -/
  valid : Valid placed hostBase
  /-- Each region is the declared one. -/
  regions : List.Forall₂ RegionSpec.IsPlacedAs placed plan.regions
  /-- Each region starts in host memory where its place in the declaration says. -/
  starts : ∀ place spec region, placed[place]? = some spec → plan.regions[place]? = some region →
    region.hostBase.toNat = RegionSpec.hostStart hostBase placed place spec
  /-- The next free page is the one behind the pages of the regions. -/
  nextHost : plan.nextHost.toNat = hostBase.toNat + RegionSpec.hostSpans placed

namespace Plan.Follows

variable {plan plan' : Plan} {placed : List RegionSpec} {spec : RegionSpec} {hostBase : UInt64}

/-- At the beginning no region has been placed. -/
theorem start (hostBase : UInt64) : Follows ⟨hostBase, []⟩ [] hostBase :=
  ⟨.nil hostBase, .nil, (fun _ _ _ listed => by simp at listed), rfl⟩

/-- A region overlaps none of those placed before it exactly if it shares no address with them. -/
theorem any_overlaps_eq_false_iff (follows : plan.Follows placed hostBase) (nonempty : spec.size ≠ 0)
    (ends : spec.base.toNat + spec.size < UInt64.size) (host : UInt64) :
    plan.regions.any (·.overlaps (spec.region host)) = false ↔
      ∀ earlier ∈ placed, earlier.Apart spec := by
  have hnew : spec.Stands (spec.region host) := RegionSpec.IsPlacedAs.stands ⟨⟨host, rfl⟩, ends⟩
  have hfilled := follows.valid.nonempty
  have hregions := follows.regions
  generalize plan.regions = regions at hregions
  clear follows
  induction hregions with
  | nil => simp
  | @cons first region rest regions pair _ ih =>
    have hstands := pair.stands
    have hfirst := hfilled first List.mem_cons_self
    have hrest := ih fun other listed => hfilled other (List.mem_cons_of_mem _ listed)
    have hoverlaps : region.overlaps (spec.region host) = false ↔ first.Apart spec := by
      rw [RegionSpec.apart_iff hfirst nonempty, Region.overlaps, Bool.and_eq_false_iff,
        decide_eq_false_iff_not, decide_eq_false_iff_not, UInt64.not_lt, UInt64.not_lt,
        UInt64.le_iff_toNat_le, UInt64.le_iff_toNat_le, Region.toNat_stop hstands.bounded,
        Region.toNat_stop hnew.bounded, hstands.base, hstands.size, hnew.base, hnew.size]
    rw [List.any_cons, Bool.or_eq_false_iff, List.forall_mem_cons]
    exact and_congr hoverlaps hrest

/-- One more region can be placed exactly if the declaration is still valid with it. -/
theorem exists_place_iff (follows : plan.Follows placed hostBase) :
    (∃ plan', plan.place spec = .ok plan') ↔ Valid (placed ++ [spec]) hostBase := by
  have hsize : UInt64.size = 2 ^ 64 := rfl
  rw [follows.valid.append_singleton_iff, ← follows.nextHost]
  constructor
  · rintro ⟨plan', result⟩
    obtain ⟨nonempty, ends, free, next, -⟩ := place_eq_ok_iff.1 result
    have hnext := plan'.nextHost.toNat_lt_size
    exact ⟨nonempty, by omega, (follows.any_overlaps_eq_false_iff nonempty ends _).1 free, by omega⟩
  · rintro ⟨nonempty, ends, apart, hosted⟩
    have hends : spec.base.toNat + spec.size < UInt64.size := by omega
    refine ⟨⟨UInt64.ofNat (plan.nextHost.toNat + spec.hostSpan), _⟩, place_eq_ok_iff.2
      ⟨nonempty, hends, (follows.any_overlaps_eq_false_iff nonempty hends _).2 apart, ?_, rfl⟩⟩
    exact UInt64.toNat_ofNat_of_lt' (by omega)

/-- With one more region placed, the plan follows the longer declaration. -/
theorem place (follows : plan.Follows placed hostBase) (result : plan.place spec = .ok plan') :
    plan'.Follows (placed ++ [spec]) hostBase := by
  obtain ⟨-, ends, -, next, regions⟩ := place_eq_ok_iff.1 result
  have hlength := follows.regions.length_eq
  refine ⟨follows.exists_place_iff.1 ⟨plan', result⟩, ?_, ?_, ?_⟩
  · rw [regions]
    exact List.rel_append follows.regions (.cons ⟨⟨_, rfl⟩, ends⟩ .nil)
  · intro place other region listed listed'
    rw [regions] at listed'
    rcases Nat.lt_or_ge place placed.length with earlier | last
    · rw [List.getElem?_append_left earlier] at listed
      rw [List.getElem?_append_left (by omega)] at listed'
      rw [follows.starts place other region listed listed', RegionSpec.hostStart,
        RegionSpec.hostStart, List.take_append_of_le_length (Nat.le_of_lt earlier)]
    · have hplace : place = placed.length := by
        have hinside := (List.getElem?_eq_some_iff.1 listed).1
        rw [List.length_append, List.length_singleton] at hinside
        omega
      rw [hplace, List.getElem?_concat_length] at listed
      rw [hplace, hlength, List.getElem?_concat_length] at listed'
      cases listed
      cases listed'
      rw [RegionSpec.hostStart, hplace, List.take_left' rfl, ← follows.nextHost]
      cases backed : spec.isBacked with
      | false => rfl
      | true => rfl
  · rw [next, follows.nextHost, RegionSpec.hostSpans_append, RegionSpec.hostSpans_singleton,
      Nat.add_assoc]

/-- Placing the rest of a declaration follows all of it. -/
theorem foldlM (follows : plan.Follows placed hostBase) {specs : List RegionSpec}
    (result : specs.foldlM Plan.place plan = .ok plan') :
    plan'.Follows (placed ++ specs) hostBase := by
  induction specs generalizing plan placed with
  | nil =>
    cases result
    rwa [List.append_nil]
  | cons spec rest ih =>
    rw [List.foldlM_cons] at result
    cases step : plan.place spec with
    | error error =>
      rw [step] at result
      cases result
    | ok next =>
      rw [step] at result
      rw [List.append_cons]
      exact ih (follows.place step) result

/-- The rest of a declaration can be placed exactly if the whole declaration is valid. -/
theorem exists_foldlM_iff (follows : plan.Follows placed hostBase) (specs : List RegionSpec) :
    (∃ plan', specs.foldlM Plan.place plan = .ok plan') ↔ Valid (placed ++ specs) hostBase := by
  constructor
  · rintro ⟨plan', result⟩
    exact (follows.foldlM result).valid
  · intro valid
    induction specs generalizing plan placed with
    | nil => exact ⟨plan, rfl⟩
    | cons spec rest ih =>
      rw [List.append_cons] at valid
      obtain ⟨next, step⟩ := follows.exists_place_iff.2 valid.of_append
      rw [List.foldlM_cons, step]
      exact ih (follows.place step) valid

end Plan.Follows

section Build

variable {specs : List RegionSpec} {hostBase : UInt64} {memory : Memory}

/-- Memory is what the regions of a plan make of it. -/
theorem build_eq_ok_iff : build specs hostBase = .ok memory ↔
    ∃ plan, specs.foldlM Plan.place ⟨hostBase, []⟩ = .ok plan ∧ memory.regions = plan.regions := by
  unfold build
  obtain ⟨regions⟩ := memory
  cases result : specs.foldlM Plan.place ⟨hostBase, []⟩ with
  | error error => simp [Except.map]
  | ok plan => simp [Except.map, eq_comm]

/-- A declaration can be built exactly if it is valid. -/
theorem exists_build_iff : (∃ memory, build specs hostBase = .ok memory) ↔ Valid specs hostBase := by
  rw [← List.nil_append specs, ← (Plan.Follows.start hostBase).exists_foldlM_iff, List.nil_append]
  constructor
  · rintro ⟨memory, built⟩
    obtain ⟨plan, result, -⟩ := build_eq_ok_iff.1 built
    exact ⟨plan, result⟩
  · rintro ⟨plan, result⟩
    exact ⟨⟨plan.regions⟩, build_eq_ok_iff.2 ⟨plan, result, rfl⟩⟩

/-- Each region of built memory starts in host memory where its place in the declaration says. -/
theorem hostBase_of_build (built : build specs hostBase = .ok memory) {place : Nat}
    {spec : RegionSpec} {region : Region} (listed : specs[place]? = some spec)
    (placed : memory.regions[place]? = some region) :
    region.hostBase.toNat = RegionSpec.hostStart hostBase specs place spec := by
  obtain ⟨plan, result, regions⟩ := build_eq_ok_iff.1 built
  exact ((Plan.Follows.start hostBase).foldlM result).starts place spec region listed
    (regions ▸ placed)

end Build

end Memory

end Paravirt

import Mathlib.Data.List.Forall2
import Paravirt.Proofs.Memory.Access

/-!
# Memory and its declaration

What is known of a memory from the regions that were declared for it. Building places one region for
each declared one, at the same addresses, of the same kind and with the declared contents; writing
moves none of them. So the declaration alone tells which addresses are read and written, how far a
transfer reaches, and which byte an address held at first.
-/

namespace Paravirt

namespace RegionSpec

/-- An address is one of the declared region's. -/
def Holds (spec : RegionSpec) (gpa : UInt64) : Prop := InSpan spec.base spec.size gpa

instance (spec : RegionSpec) (gpa : UInt64) : Decidable (spec.Holds gpa) :=
  inferInstanceAs (Decidable (InSpan _ _ _))

/-- Whether the region is memory, which takes writes. -/
def isRam : RegionSpec → Bool
  | .ram _ _ => true
  | .rom _ _ | .window _ _ => false

/-- The number of addresses from one of the region's on to its end. -/
def roomFrom (spec : RegionSpec) (gpa : UInt64) : Nat := spec.base.toNat + spec.size - gpa.toNat

/-- The byte that stands at one of the region's addresses at first: zero in memory, the given one in
fixed contents, and none in a window. -/
def initialByte : RegionSpec → UInt64 → Option UInt8
  | .ram _ _, _ => some 0
  | .rom base bytes, gpa => bytes[gpa.toNat - base.toNat]?
  | .window _ _, _ => none

/-- The declared region that holds an address. -/
def at? (specs : List RegionSpec) (gpa : UInt64) : Option RegionSpec :=
  specs.find? fun spec => spec.Holds gpa

/-- The number of addresses from one on to the end of the declared region that holds it, if that
region is of the kind asked for, and 0 otherwise. -/
def roomAt (kind : RegionSpec → Bool) (specs : List RegionSpec) (gpa : UInt64) : Nat :=
  match at? specs gpa with
  | none => 0
  | some spec => if kind spec then spec.roomFrom gpa else 0

/-- How far a read reaches from an address on: to the end of the region with bytes that holds it. -/
def readRoom : List RegionSpec → UInt64 → Nat := roomAt isBacked

/-- How far a write reaches from an address on: to the end of the memory region that holds it. -/
def writeRoom : List RegionSpec → UInt64 → Nat := roomAt isRam

/-- The byte that stands at an address at first. -/
def initialByteAt (specs : List RegionSpec) (gpa : UInt64) : Option UInt8 :=
  (at? specs gpa).bind (·.initialByte gpa)

/-- A region stands where and as it was declared, whatever has been written to it. -/
structure Stands (spec : RegionSpec) (region : Region) : Prop where
  /-- It starts at the declared address. -/
  base : region.base = spec.base
  /-- It has the declared size. -/
  size : region.size.toNat = spec.size
  /-- It ends at a 64-bit address. -/
  fits : spec.base.toNat + spec.size < UInt64.size
  /-- It has bytes if it was declared to. -/
  backed : region.backing.storage?.isSome = spec.isBacked
  /-- It is memory if it was declared to be. -/
  ram : (∃ storage, region.backing = .ram storage) ↔ spec.isRam = true

namespace Stands

variable {spec : RegionSpec} {region : Region} {gpa : UInt64}

/-- The end of the region does not wrap. -/
theorem bounded (stands : spec.Stands region) :
    region.base.toNat + region.size.toNat < UInt64.size := by
  rw [stands.base, stands.size]
  exact stands.fits

/-- The region holds the declared addresses. -/
theorem contains_eq (stands : spec.Stands region) (gpa : UInt64) :
    region.contains gpa = decide (spec.Holds gpa) := by
  rw [Bool.eq_iff_iff, Region.contains_iff stands.bounded, decide_eq_true_iff, stands.base,
    stands.size]
  rfl

/-- The room from an address of the region on. -/
theorem roomFrom_eq (stands : spec.Stands region) (inside : spec.Holds gpa) :
    (region.roomFrom gpa).toNat = spec.roomFrom gpa := by
  have hinside : region.contains gpa = true := by
    rw [stands.contains_eq]
    exact decide_eq_true inside
  rw [Region.toNat_roomFrom stands.bounded hinside, stands.base, stands.size, roomFrom]

/-- A write to a region of memory stores as far as the region reaches, and to others nothing. -/
theorem write_fst (stands : spec.Stands region) (inside : spec.Holds gpa) (bytes : List UInt8) :
    (region.write gpa bytes).1 = if spec.isRam then min bytes.length (spec.roomFrom gpa) else 0 := by
  have hroom := stands.roomFrom_eq inside
  by_cases ram : spec.isRam = true
  · obtain ⟨storage, backed⟩ := stands.ram.2 ram
    rw [if_pos ram, Region.write, backed]
    simp only [List.length_take, hroom, Nat.min_comm]
  · rw [if_neg ram, Region.write]
    split
    · rename_i storage backed
      exact absurd (stands.ram.1 ⟨storage, backed⟩) ram
    · rfl
    · rfl

/-- A write to a region that is not memory changes nothing. -/
theorem write_snd_of_not_ram (stands : spec.Stands region) (fixed : ¬spec.isRam = true)
    (gpa : UInt64) (bytes : List UInt8) : (region.write gpa bytes).2 = region := by
  unfold Region.write
  split
  · rename_i storage backed
    exact absurd (stands.ram.1 ⟨storage, backed⟩) fixed
  · rfl
  · rfl

/-- A write leaves the region standing as declared. -/
theorem write (stands : spec.Stands region) (gpa : UInt64) (bytes : List UInt8) :
    spec.Stands (region.write gpa bytes).2 := by
  have hstorage := region.length_storage_write gpa bytes
  have hbacked : (region.write gpa bytes).2.backing.storage?.isSome =
      region.backing.storage?.isSome := by
    rw [← Option.isSome_map (f := (·.length)), hstorage, Option.isSome_map]
  refine ⟨?_, ?_, stands.fits, hbacked.trans stands.backed, ?_⟩
  · rw [Region.base_write, stands.base]
  · rw [Region.size_write, stands.size]
  · rw [← stands.ram]
    unfold Region.write
    split
    · rename_i storage backed
      exact iff_of_true ⟨_, rfl⟩ ⟨storage, backed⟩
    · rfl
    · rfl

end Stands

/-- A region is the declared one, placed somewhere in host memory, and ends at a 64-bit address. -/
def IsPlacedAs (spec : RegionSpec) (region : Region) : Prop :=
  (∃ hostBase, spec.region hostBase = region) ∧ spec.base.toNat + spec.size < UInt64.size

/-- A region that was just placed stands as it was declared. -/
theorem IsPlacedAs.stands {spec : RegionSpec} {region : Region} (placed : spec.IsPlacedAs region) :
    spec.Stands region := by
  obtain ⟨⟨hostBase, rfl⟩, fits⟩ := placed
  have hsize : (spec.region hostBase).size.toNat = spec.size := UInt64.toNat_ofNat_of_lt' (by omega)
  refine ⟨rfl, hsize, fits, ?_, ?_⟩ <;> cases spec
  · rfl
  · rfl
  · rfl
  · exact iff_of_true ⟨_, rfl⟩ rfl
  · exact iff_of_false (fun ⟨_, backed⟩ => by cases backed) Bool.false_ne_true
  · exact iff_of_false (fun ⟨_, backed⟩ => by cases backed) Bool.false_ne_true

/-- A region that was just placed holds the declared contents. -/
theorem IsPlacedAs.byteAt? {spec : RegionSpec} {region : Region} (placed : spec.IsPlacedAs region)
    {gpa : UInt64} (inside : spec.Holds gpa) : region.byteAt? gpa = spec.initialByte gpa := by
  obtain ⟨⟨hostBase, rfl⟩, -⟩ := placed
  have hoffset : ((spec.region hostBase).offsetOf gpa).toNat = gpa.toNat - spec.base.toNat :=
    Region.toNat_offsetOf inside.1
  cases spec with
  | ram base size =>
    exact congrArg some (Storage.get_zeros _ _)
  | rom base bytes =>
    have hindex : gpa.toNat - base.toNat < bytes.length := by
      have hafter : base.toNat ≤ gpa.toNat := inside.1
      have hend : gpa.toNat < base.toNat + bytes.length := inside.2
      omega
    have hbyte : ((RegionSpec.rom base bytes).region hostBase).byteAt? gpa =
        some ((Storage.ofBytes bytes).get (gpa.toNat - base.toNat)) := by
      rw [Region.byteAt?, hoffset]
      rfl
    rw [hbyte, Storage.get_ofBytes, initialByte, List.getElem?_eq_getElem hindex, Option.getD_some]
  | window base size => rfl

end RegionSpec

namespace Memory

/-- A memory stands as it was declared: it is well-formed and has one region for each declared one,
in the same order. -/
structure DeclaredBy (memory : Memory) (specs : List RegionSpec) : Prop where
  /-- The memory is well-formed. -/
  wellFormed : memory.WellFormed
  /-- The regions stand as declared. -/
  stands : List.Forall₂ RegionSpec.Stands specs memory.regions

/-- Where two lists correspond and the tests agree, so do the first elements that pass. -/
theorem find?_of_forall₂ {α β : Type} {R : α → β → Prop} {p : α → Bool} {q : β → Bool}
    {xs : List α} {ys : List β} (related : List.Forall₂ R xs ys)
    (agree : ∀ x y, R x y → q y = p x) :
    (xs.find? p = none ∧ ys.find? q = none) ∨
      ∃ x y, xs.find? p = some x ∧ ys.find? q = some y ∧ R x y := by
  induction related with
  | nil => exact Or.inl ⟨rfl, rfl⟩
  | cons pair _ ih =>
    rename_i x y xs ys _
    rw [List.find?_cons, List.find?_cons, agree x y pair]
    cases p x with
    | true => exact Or.inr ⟨x, y, rfl, rfl, pair⟩
    | false => exact ih

namespace DeclaredBy

variable {memory : Memory} {specs : List RegionSpec} {gpa : UInt64}

/-- The region that holds an address is the one declared for it. -/
theorem regionAt?_cases (declared : memory.DeclaredBy specs) (gpa : UInt64) :
    (RegionSpec.at? specs gpa = none ∧ memory.regionAt? gpa = none) ∨
      ∃ spec region, RegionSpec.at? specs gpa = some spec ∧ memory.regionAt? gpa = some region ∧
        spec.Stands region ∧ spec.Holds gpa := by
  rcases find?_of_forall₂ declared.stands fun _ _ stands => stands.contains_eq gpa with
    absent | ⟨spec, region, hspec, hregion, stands⟩
  · exact Or.inl absent
  · have hholds : decide (spec.Holds gpa) = true := by simpa using List.find?_some hspec
    exact Or.inr ⟨spec, region, hspec, hregion, stands, of_decide_eq_true hholds⟩

/-- Reads reach as far as the declaration says. -/
theorem readReach_eq (declared : memory.DeclaredBy specs) (gpa : UInt64) :
    memory.readReach gpa = RegionSpec.readRoom specs gpa := by
  unfold readReach RegionSpec.readRoom RegionSpec.roomAt
  rcases declared.regionAt?_cases gpa with
    ⟨hspec, hregion⟩ | ⟨spec, region, hspec, hregion, stands, holds⟩
  · rw [hspec, hregion]
  · simp only [hspec, hregion, stands.backed, stands.roomFrom_eq holds]

/-- Writes store as far as the declaration says. -/
theorem write_fst (declared : memory.DeclaredBy specs) (gpa : UInt64) (bytes : List UInt8) :
    (memory.write gpa bytes).1 = min bytes.length (RegionSpec.writeRoom specs gpa) := by
  rw [Memory.write_fst]
  unfold RegionSpec.writeRoom RegionSpec.roomAt
  rcases declared.regionAt?_cases gpa with
    ⟨hspec, hregion⟩ | ⟨spec, region, hspec, hregion, stands, holds⟩
  · rw [hspec, hregion, Nat.min_zero]
  · simp only [hspec, hregion, stands.write_fst holds]
    split
    · rfl
    · rw [Nat.min_zero]

/-- A write where there is no memory changes nothing. -/
theorem write_snd_of_writeRoom (declared : memory.DeclaredBy specs)
    (nowhere : RegionSpec.writeRoom specs gpa = 0) (bytes : List UInt8) :
    (memory.write gpa bytes).2 = memory := by
  have hregions : (memory.write gpa bytes).2.regions = memory.regions := by
    rw [declared.wellFormed.regions_write]
    conv => rhs; rw [← List.map_id memory.regions]
    refine List.map_congr_left fun region listed => ?_
    by_cases inside : region.contains gpa = true
    · have hfound := declared.wellFormed.regionAt?_eq listed inside
      rcases declared.regionAt?_cases gpa with
        ⟨-, hregion⟩ | ⟨spec, other, hspec, hregion, stands, holds⟩
      · rw [hfound] at hregion
        cases hregion
      · obtain rfl : region = other := Option.some.inj (hfound.symm.trans hregion)
        have hfixed : ¬spec.isRam = true := by
          intro ram
          have hend := holds.2
          simp only [RegionSpec.writeRoom, RegionSpec.roomAt, hspec, ram, if_true,
            RegionSpec.roomFrom] at nowhere
          omega
        rw [if_pos inside, stands.write_snd_of_not_ram hfixed, id]
    · rw [if_neg inside, id]
  exact congrArg Memory.mk hregions

/-- A transfer does not reach beyond the 64-bit addresses. -/
theorem roomAt_fits (declared : memory.DeclaredBy specs) (kind : RegionSpec → Bool) (gpa : UInt64) :
    gpa.toNat + RegionSpec.roomAt kind specs gpa < UInt64.size := by
  have hgpa := gpa.toNat_lt_size
  unfold RegionSpec.roomAt
  rcases declared.regionAt?_cases gpa with ⟨hspec, -⟩ | ⟨spec, region, hspec, -, stands, holds⟩
  · simpa only [hspec, Nat.add_zero] using hgpa
  · have hfits := stands.fits
    have hafter := holds.2
    simp only [hspec, RegionSpec.roomFrom]
    split <;> omega

/-- Writing leaves a memory as it was declared. -/
theorem write (declared : memory.DeclaredBy specs) (gpa : UInt64) (bytes : List UInt8) :
    (memory.write gpa bytes).2.DeclaredBy specs := by
  refine ⟨declared.wellFormed.write gpa bytes, ?_⟩
  rw [declared.wellFormed.regions_write, List.forall₂_map_right_iff]
  refine declared.stands.imp fun spec region stands => ?_
  split
  · exact stands.write gpa bytes
  · exact stands

end DeclaredBy

/-- Placing a region adds the declared one at the end. -/
theorem regions_place {plan plan' : Plan} {spec : RegionSpec} (placed : plan.place spec = .ok plan') :
    ∃ region, plan'.regions = plan.regions ++ [region] ∧ spec.IsPlacedAs region := by
  unfold Plan.place at placed
  split at placed
  · cases placed
  split at placed
  · cases placed
  rename_i ends
  split at placed
  · cases placed
  split at placed
  · split at placed
    · cases placed
    · cases placed
      exact ⟨_, rfl, ⟨_, rfl⟩, by omega⟩
  · cases placed
    exact ⟨_, rfl, ⟨_, rfl⟩, by omega⟩

/-- What is built has the declared regions, each somewhere in host memory. -/
theorem forall₂_of_build {specs : List RegionSpec} {hostBase : UInt64} {memory : Memory}
    (built : build specs hostBase = .ok memory) :
    List.Forall₂ RegionSpec.IsPlacedAs specs memory.regions := by
  suffices folded : ∀ (specs : List RegionSpec) (plan plan' : Plan),
      specs.foldlM Plan.place plan = .ok plan' →
        ∃ added, plan'.regions = plan.regions ++ added ∧
          List.Forall₂ RegionSpec.IsPlacedAs specs added by
    unfold build at built
    cases result : specs.foldlM Plan.place ⟨hostBase, []⟩ with
    | error error =>
      rw [result] at built
      cases built
    | ok plan =>
      rw [result] at built
      cases built
      obtain ⟨added, hregions, hadded⟩ := folded specs _ plan result
      rw [List.nil_append] at hregions
      show List.Forall₂ RegionSpec.IsPlacedAs specs plan.regions
      rw [hregions]
      exact hadded
  intro specs
  induction specs with
  | nil =>
    intro plan plan' result
    cases result
    exact ⟨[], (List.append_nil _).symm, .nil⟩
  | cons spec rest ih =>
    intro plan plan' result
    rw [List.foldlM_cons] at result
    cases placed : plan.place spec with
    | error error =>
      rw [placed] at result
      cases result
    | ok next =>
      rw [placed] at result
      obtain ⟨region, hnext, hplaced⟩ := regions_place placed
      obtain ⟨added, hregions, hadded⟩ := ih next plan' result
      refine ⟨region :: added, ?_, .cons hplaced hadded⟩
      rw [hregions, hnext, List.append_assoc, List.singleton_append]

/-- What is built stands as it was declared. -/
theorem declaredBy_of_build {specs : List RegionSpec} {hostBase : UInt64} {memory : Memory}
    (built : build specs hostBase = .ok memory) : memory.DeclaredBy specs :=
  ⟨wellFormed_of_build built, (forall₂_of_build built).imp fun _ _ placed => placed.stands⟩

/-- What is built holds the declared contents. -/
theorem byteAt?_of_build {specs : List RegionSpec} {hostBase : UInt64} {memory : Memory}
    (built : build specs hostBase = .ok memory) (gpa : UInt64) :
    memory.byteAt? gpa = RegionSpec.initialByteAt specs gpa := by
  unfold byteAt? regionAt? RegionSpec.initialByteAt RegionSpec.at?
  rcases find?_of_forall₂ (forall₂_of_build built) fun _ _ placed => placed.stands.contains_eq gpa
    with ⟨hspec, hregion⟩ | ⟨spec, region, hspec, hregion, placed⟩
  · rw [hspec, hregion, Option.bind_none, Option.bind_none]
  · have hholds : decide (spec.Holds gpa) = true := by simpa using List.find?_some hspec
    rw [hspec, hregion, Option.bind_some, Option.bind_some,
      placed.byteAt? (of_decide_eq_true hholds)]

end Memory

end Paravirt

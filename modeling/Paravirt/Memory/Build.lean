import Paravirt.Memory.Basic
import Paravirt.Word

/-!
# Building guest memory

A memory map is declared as a list of regions in any order and checked as it is built: every region
holds an address, ends at a 64-bit address, and is disjoint from those before it. Regions with bytes
receive host-physical addresses one after another, each starting on a fresh page; a window resolves
to its own guest-physical addresses.
-/

namespace Paravirt

/-- A region as it is declared. -/
inductive RegionSpec where
  /-- Memory of the given size, all bytes zero. -/
  | ram (base size : UInt64)
  /-- Fixed contents. -/
  | rom (base : UInt64) (bytes : List UInt8)
  /-- A window of emulated registers. -/
  | window (base size : UInt64)

namespace RegionSpec

/-- The first guest-physical address. -/
def base : RegionSpec → UInt64
  | .ram base _ | .rom base _ | .window base _ => base

/-- The number of addresses. -/
def size : RegionSpec → Nat
  | .ram _ size | .window _ size => size.toNat
  | .rom _ bytes => bytes.length

/-- What stands behind the addresses at first. -/
def backing : RegionSpec → Backing
  | .ram _ size => .ram (.zeros size.toNat)
  | .rom _ bytes => .rom (.ofBytes bytes)
  | .window _ _ => .window

/-- The region with its place in host memory. -/
def region (spec : RegionSpec) (hostBase : UInt64) : Region :=
  ⟨spec.base, UInt64.ofNat spec.size, hostBase, spec.backing⟩

/-- Whether the region needs a place in host memory. -/
def isBacked : RegionSpec → Bool
  | .ram _ _ | .rom _ _ => true
  | .window _ _ => false

end RegionSpec

namespace Memory

/-- The size of a host page in bytes. -/
def pageSize : UInt64 := 4096

/-- The host-physical address of the first region with bytes, where none is chosen. -/
def defaultHostBase : UInt64 := 0x100000000

/-- The whole pages that a size occupies, in bytes. -/
def pageSpan? (size : UInt64) : Option UInt64 :=
  (Word.add? size (pageSize - 1)).map fun padded => padded / pageSize * pageSize

/-- The pages of a size cover it. -/
theorem le_of_pageSpan? {size span : UInt64} (fits : pageSpan? size = some span) :
    size.toNat ≤ span.toNat := by
  obtain ⟨padded, sum, rfl⟩ := Option.map_eq_some_iff.1 fits
  rw [Word.add?_eq_some_iff] at sum
  have page : pageSize.toNat = 4096 := rfl
  have last : (pageSize - 1).toNat = 4095 := rfl
  have fits_padded := padded.toNat_lt
  rw [UInt64.toNat_mul, UInt64.toNat_div, page]
  rw [last] at sum
  omega

/-- A memory map under construction. -/
structure Plan where
  /-- The host-physical address of the next region with bytes. -/
  nextHost : UInt64
  /-- The regions placed so far, in order. -/
  regions : List Region

/-- Place one more region, or say why it cannot stand beside those placed so far. -/
def Plan.place (plan : Plan) (spec : RegionSpec) : Except MemoryError Plan :=
  if spec.size = 0 then
    .error (.emptyRegion spec.base)
  else if UInt64.size ≤ spec.base.toNat + spec.size then
    .error .overflow
  else if plan.regions.any (·.overlaps (spec.region plan.nextHost)) then
    .error (.overlap spec.base (UInt64.ofNat spec.size))
  else if spec.isBacked then
    match (pageSpan? (UInt64.ofNat spec.size)).bind (Word.add? plan.nextHost) with
    | none => .error .overflow
    | some nextHost => .ok ⟨nextHost, plan.regions ++ [spec.region plan.nextHost]⟩
  else
    .ok { plan with regions := plan.regions ++ [spec.region spec.base] }

/-- Build the memory that a list of regions declares. -/
def build (specs : List RegionSpec) (hostBase : UInt64) : Except MemoryError Memory :=
  (specs.foldlM Plan.place ⟨hostBase, []⟩).map fun plan => ⟨plan.regions⟩

/-- A single memory region of the given size at address 0. -/
def ofSize (size : UInt64) : Except MemoryError Memory :=
  build [.ram 0 size] defaultHostBase

/-- What building guarantees: every region ends at a 64-bit address and has storage of its size,
host addresses do not wrap, and no two regions share an address. -/
structure WellFormed (memory : Memory) : Prop where
  /-- A region holds an address, and its end is an address. -/
  bounded : ∀ region ∈ memory.regions,
    0 < region.size.toNat ∧ region.base.toNat + region.size.toNat < UInt64.size
  /-- The end of a region in host memory is an address. -/
  hosted : ∀ region ∈ memory.regions, region.hostBase.toNat + region.size.toNat < UInt64.size
  /-- The storage of a region is as long as the region. -/
  stored : ∀ region ∈ memory.regions, ∀ storage, region.backing.storage? = some storage →
    storage.length = region.size.toNat
  /-- Regions are pairwise disjoint. -/
  disjoint : memory.regions.Pairwise fun first second =>
    first.stop ≤ second.base ∨ second.stop ≤ first.base

end Memory

end Paravirt

import Paravirt.Memory.Error
import Paravirt.Memory.Region

/-!
# Guest memory

The memory of a guest is a list of disjoint regions. A transfer is served by the region that holds
its first address, ends with that region, and reports how far it came. An address outside every
region transfers nothing. `byteAt?` is the view of the whole memory: the byte at each address. The
regions may be declared in any order; going through all of them and searching among them in the
order of their addresses are two ways to the same region.
-/

namespace Paravirt

/-- The memory of a guest: disjoint regions of guest-physical addresses. -/
structure Memory where
  /-- The regions, in the order in which they were declared. -/
  regions : List Region

namespace Memory

/-- The region that holds an address. -/
def regionAt? (memory : Memory) (gpa : UInt64) : Option Region :=
  memory.regions.find? (·.contains gpa)

/-- The regions in the order of their first addresses. -/
def ordered (memory : Memory) : List Region :=
  memory.regions.mergeSort fun first second => first.base ≤ second.base

/-- The region that holds an address, found among the regions in order: the last one that does not
start behind the address, if it reaches that far. In a well-formed memory this is `regionAt?`
(`WellFormed.search?_eq`). -/
def search? (memory : Memory) (gpa : UInt64) : Option Region :=
  (memory.ordered.takeWhile (·.base ≤ gpa)).getLast?.filter (·.contains gpa)

/-- The region found for an address is one of the memory's. -/
theorem mem_of_regionAt? {memory : Memory} {gpa : UInt64} {region : Region}
    (found : memory.regionAt? gpa = some region) : region ∈ memory.regions :=
  List.mem_of_find?_eq_some found

/-- The region found for an address holds it. -/
theorem contains_of_regionAt? {memory : Memory} {gpa : UInt64} {region : Region}
    (found : memory.regionAt? gpa = some region) : region.contains gpa = true := by
  unfold regionAt? at found
  simpa using List.find?_some found

/-- The byte at an address, where a region with bytes holds it. -/
def byteAt? (memory : Memory) (gpa : UInt64) : Option UInt8 :=
  (memory.regionAt? gpa).bind (·.byteAt? gpa)

/-- The bytes that a read of `count` bytes at an address transfers. -/
def read (memory : Memory) (gpa : UInt64) (count : Nat) : List UInt8 :=
  match memory.regionAt? gpa with
  | none => []
  | some region => region.read gpa count

/-- Store bytes in the first region of a list that holds the address. -/
def writeFirst (gpa : UInt64) (bytes : List UInt8) : List Region → Nat × List Region
  | [] => (0, [])
  | region :: rest =>
    if region.contains gpa then
      let (count, region) := region.write gpa bytes
      (count, region :: rest)
    else
      let (count, rest) := writeFirst gpa bytes rest
      (count, region :: rest)

/-- Store bytes at an address; the count of bytes stored, and the memory after. -/
def write (memory : Memory) (gpa : UInt64) (bytes : List UInt8) : Nat × Memory :=
  let (count, regions) := writeFirst gpa bytes memory.regions
  (count, ⟨regions⟩)

/-- Resolve an address. The size is the span that the caller means to use; it is named in the
failure and otherwise left to the caller to compare. -/
def map (memory : Memory) (gpa size : UInt64) : Except MemoryError MappedRegion :=
  match memory.regionAt? gpa with
  | none => .error (.unmapped gpa size)
  | some region => .ok (region.map gpa)

end Memory

end Paravirt

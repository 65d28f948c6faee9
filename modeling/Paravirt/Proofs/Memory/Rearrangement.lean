import Paravirt.Proofs.Memory.Resolution

/-!
# Memory maps in another order

Regions can be declared in any order. The order decides where in host memory each of them ends up, and
nothing else: whether the map can be built does not depend on it, and devices cannot tell from their
accesses, nor from the room and the attributes that mapping queries report, in which order the regions
of their memory were declared.
-/

namespace Paravirt

namespace MappedRegion

/-- What a mapping query reports apart from the place in host memory: the room and the attributes. -/
def extent (mapped : MappedRegion) : UInt64 × RegionFlags := (mapped.availableSize, mapped.flags)

end MappedRegion

namespace MemoryAccess

/-- What an access hands back: the count of bytes transferred, and the buffer. -/
def answer (space : AddressSpace) : MemoryAccess → Nat × List UInt8
  | .read gpa buffer => space.readInto gpa buffer
  | .write gpa bytes => ((space.write gpa bytes).1, bytes)

/-- What the accesses of a series hand back one after another. -/
def answers (space : AddressSpace) : List MemoryAccess → List (Nat × List UInt8)
  | [] => []
  | access :: rest => access.answer space :: answers (access.apply space) rest

end MemoryAccess

namespace RegionSpec

variable {specs specs' : List RegionSpec}

/-- In a valid declaration the region that holds an address does not depend on the order. -/
theorem at?_perm {hostBase : UInt64} (valid : Memory.Valid specs hostBase)
    (rearranged : specs.Perm specs') : at? specs = at? specs' := by
  funext gpa
  ext spec
  rw [valid.at?_eq_some_iff, (valid.perm rearranged).at?_eq_some_iff, rearranged.mem_iff]

/-- How far transfers reach depends on the regions that hold the addresses alone. -/
theorem roomAt_congr (same : at? specs = at? specs') (kind : RegionSpec → Bool) :
    roomAt kind specs = roomAt kind specs' := by
  funext gpa
  rw [roomAt, roomAt, same]

end RegionSpec

namespace MemoryAccess

/-- So does the byte that accesses leave at an address. -/
theorem contentAt_congr {specs specs' : List RegionSpec}
    (same : RegionSpec.at? specs = RegionSpec.at? specs') (gpa : UInt64)
    (accesses : List MemoryAccess) :
    contentAt specs gpa accesses = contentAt specs' gpa accesses := by
  have hroom : RegionSpec.writeRoom specs = RegionSpec.writeRoom specs' :=
    RegionSpec.roomAt_congr same _
  induction accesses with
  | nil => rw [contentAt, contentAt, RegionSpec.initialByteAt, RegionSpec.initialByteAt, same]
  | cons access earlier ih =>
    cases access with
    | read start buffer => rw [contentAt, contentAt, ih]
    | write start bytes => rw [contentAt, contentAt, ih, hroom]

end MemoryAccess

namespace AddressSpace.Recalls

variable {space space' : AddressSpace} {specs specs' : List RegionSpec}
  {accesses : List MemoryAccess}

/-- The room and the attributes that a mapping query reports are those of the declared region. -/
theorem map_extent (recalls : space.Recalls specs accesses) (answered : space.mapOverride = none)
    (gpa size : UInt64) : (space.map gpa size).map MappedRegion.extent =
      match RegionSpec.at? specs gpa with
      | none => .error (.unmapped gpa size)
      | some spec => .ok (UInt64.ofNat (spec.roomFrom gpa), spec.backing.flags) := by
  rw [map_of_answered answered, Memory.map]
  rcases recalls.declared.regionAt?_cases gpa with
    ⟨hspec, hregion⟩ | ⟨spec, region, hspec, hregion, stands, holds⟩
  · rw [hspec, hregion]
    rfl
  · rw [hspec, hregion]
    simp only [← stands.roomFrom_eq holds, ← stands.flags_eq, UInt64.ofNat_toNat]
    rfl

/-- Reads of two memories that recall the same accesses give the same bytes. -/
theorem read_congr (recalls : space.Recalls specs accesses)
    (recalls' : space'.Recalls specs' accesses)
    (same : RegionSpec.at? specs = RegionSpec.at? specs') (gpa : UInt64) (count : Nat) :
    space.read gpa count = space'.read gpa count := by
  have hlength : (space.read gpa count).length = (space'.read gpa count).length := by
    rw [recalls.length_read, recalls'.length_read, RegionSpec.readRoom, RegionSpec.roomAt_congr same]
  apply List.ext_getElem?
  intro index
  by_cases inside : index < (space.read gpa count).length
  · rw [recalls.getElem?_read inside, recalls'.getElem?_read (hlength ▸ inside),
      MemoryAccess.contentAt_congr same]
  · rw [List.getElem?_eq_none (by omega), List.getElem?_eq_none (by omega)]

/-- So one more access is answered alike. -/
theorem answer_congr (recalls : space.Recalls specs accesses)
    (recalls' : space'.Recalls specs' accesses)
    (same : RegionSpec.at? specs = RegionSpec.at? specs') (access : MemoryAccess) :
    access.answer space = access.answer space' := by
  cases access with
  | read gpa buffer =>
    rw [MemoryAccess.answer, MemoryAccess.answer, readInto, readInto,
      recalls.read_congr recalls' same]
  | write gpa bytes =>
    rw [MemoryAccess.answer, MemoryAccess.answer, recalls.write_eq, recalls'.write_eq,
      recalls.declared.write_fst, recalls'.declared.write_fst, RegionSpec.writeRoom,
      RegionSpec.roomAt_congr same]

/-- And so is a series of accesses: each of them is recalled by both memories. -/
theorem answers_congr (recalls : space.Recalls specs accesses)
    (recalls' : space'.Recalls specs' accesses)
    (same : RegionSpec.at? specs = RegionSpec.at? specs') (later : List MemoryAccess) :
    MemoryAccess.answers space later = MemoryAccess.answers space' later := by
  induction later generalizing space space' accesses with
  | nil => rfl
  | cons access rest ih =>
    rw [MemoryAccess.answers, MemoryAccess.answers, recalls.answer_congr recalls' same,
      ih (recalls.apply access) (recalls'.apply access)]

end AddressSpace.Recalls

namespace Memory

/-- A declaration is built exactly if it is valid, and its order shows in host addresses alone. -/
structure BuiltInAnyOrder (specs : List RegionSpec) (hostBase : UInt64) : Prop where
  /-- What can be built is what is valid. -/
  accepts : (∃ memory, build specs hostBase = .ok memory) ↔ Valid specs hostBase
  /-- The same regions in another order can be built exactly if these can. -/
  rearranged : ∀ specs', specs.Perm specs' →
    ((∃ memory, build specs' hostBase = .ok memory) ↔ ∃ memory, build specs hostBase = .ok memory)
  /-- Both memories then hand back the same for every series of accesses. -/
  answers : ∀ specs' memory memory' (accesses : List MemoryAccess), specs.Perm specs' →
    build specs hostBase = .ok memory → build specs' hostBase = .ok memory' →
      MemoryAccess.answers { memory } accesses = MemoryAccess.answers { memory := memory' } accesses
  /-- After every series of accesses both fail the same mapping queries, and report the same room and
  attributes for the others. -/
  queries : ∀ specs' memory memory' (accesses : List MemoryAccess) gpa size, specs.Perm specs' →
    build specs hostBase = .ok memory → build specs' hostBase = .ok memory' →
      ((accesses.foldl MemoryAccess.apply { memory }).map gpa size).map MappedRegion.extent =
        ((accesses.foldl MemoryAccess.apply { memory := memory' }).map gpa size).map
          MappedRegion.extent

/-- Every declaration is built exactly if it is valid, whatever its order. -/
theorem builtInAnyOrder (specs : List RegionSpec) (hostBase : UInt64) :
    BuiltInAnyOrder specs hostBase where
  accepts := exists_build_iff
  rearranged specs' rearranged := by
    rw [exists_build_iff, exists_build_iff]
    exact ⟨fun valid => valid.perm rearranged.symm, fun valid => valid.perm rearranged⟩
  answers specs' memory memory' accesses rearranged built built' := by
    have hsame := RegionSpec.at?_perm (exists_build_iff.1 ⟨memory, built⟩) rearranged
    exact (AddressSpace.Recalls.of_build built).answers_congr (.of_build built') hsame accesses
  queries specs' memory memory' accesses gpa size rearranged built built' := by
    have hsame := RegionSpec.at?_perm (exists_build_iff.1 ⟨memory, built⟩) rearranged
    have hrecalls := (AddressSpace.Recalls.of_build built).foldl accesses
    have hrecalls' := (AddressSpace.Recalls.of_build built').foldl accesses
    rw [hrecalls.map_extent (AddressSpace.mapOverride_foldl _ accesses),
      hrecalls'.map_extent (AddressSpace.mapOverride_foldl _ accesses), hsame]

/-- The mixed map declared from its last region to its first has its memory in other pages of the
host, and is read, written and resolved alike. -/
theorem builtInAnyOrder_mixedMap :
    let accesses : List MemoryAccess := [.write 0x2ffe [7, 8, 9], .read 0x1ffe [0, 0, 0]]
    let reversed := AddressSpace.mixedMap.reverse
    Valid AddressSpace.mixedMap defaultHostBase ∧
      ∃ memory, build reversed defaultHostBase = .ok memory ∧
        MemoryAccess.answers { memory := AddressSpace.mixedMemory } accesses =
          MemoryAccess.answers { memory } accesses ∧
        MemoryAccess.answers { memory } accesses = [(2, [7, 8, 9]), (2, [3, 4, 0])] ∧
        AddressSpace.mixedMemory.map 0x3001 8 = .ok ⟨0x100000001, 0xff, .union .ram .real⟩ ∧
        memory.map 0x3001 8 = .ok ⟨0x100002001, 0xff, .union .ram .real⟩ := by
  have hbuilt : build AddressSpace.mixedMap defaultHostBase = .ok AddressSpace.mixedMemory := rfl
  have hall := builtInAnyOrder AddressSpace.mixedMap defaultHostBase
  have hreversed := (List.reverse_perm AddressSpace.mixedMap).symm
  exact ⟨hall.accepts.1 ⟨_, hbuilt⟩, _, rfl, hall.answers _ _ _ _ hreversed hbuilt rfl,
    by decide +kernel, rfl, rfl⟩

end Memory

end Paravirt

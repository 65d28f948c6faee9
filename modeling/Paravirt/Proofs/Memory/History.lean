import Paravirt.Proofs.Memory.Declaration

/-!
# Memory as the history of its accesses

Memory that was built is the bytes it was declared with and the bytes written since: at every address
the latest write that covered it decides, and before the first one the declaration. Transfers reach to
the end of the declared region and no further. All of this is said of the declaration and the accesses
alone, without the regions and their storage; that no access leaves the storage and no address wraps
is said of the regions that serve it.
-/

namespace Paravirt

/-- An access to memory. -/
inductive MemoryAccess where
  /-- Read into a buffer. -/
  | read (gpa : UInt64) (buffer : List UInt8)
  /-- Store bytes. -/
  | write (gpa : UInt64) (bytes : List UInt8)

namespace MemoryAccess

/-- The address space after an access. -/
def apply (space : AddressSpace) : MemoryAccess → AddressSpace
  | .read _ _ => space
  | .write gpa bytes => (space.write gpa bytes).2

/-- The byte that stands at an address after accesses to declared memory, the latest access first:
that of the latest write that covered the address, or else the one that stood there at first. -/
def contentAt (specs : List RegionSpec) (gpa : UInt64) : List MemoryAccess → Option UInt8
  | [] => RegionSpec.initialByteAt specs gpa
  | .read _ _ :: earlier => contentAt specs gpa earlier
  | .write start bytes :: earlier =>
    if InSpan start (min bytes.length (RegionSpec.writeRoom specs start)) gpa then
      bytes[gpa.toNat - start.toNat]?
    else contentAt specs gpa earlier

end MemoryAccess

namespace AddressSpace

/-- A space without limits on transfers holds declared memory as earlier accesses have left it. -/
structure Recalls (space : AddressSpace) (specs : List RegionSpec) (accesses : List MemoryAccess) :
    Prop where
  /-- The memory stands as it was declared. -/
  declared : space.memory.DeclaredBy specs
  /-- Reads are not cut short. -/
  readLimits : space.readLimits = []
  /-- Writes are not cut short. -/
  writeLimits : space.writeLimits = []
  /-- Each byte is that of the latest write, or else the declared one. -/
  content : ∀ gpa, space.byteAt? gpa = MemoryAccess.contentAt specs gpa accesses.reverse

namespace Recalls

variable {space : AddressSpace} {specs : List RegionSpec} {accesses : List MemoryAccess}

/-- Memory that was just built has seen no access. -/
theorem of_build {hostBase : UInt64} {memory : Memory}
    (built : Memory.build specs hostBase = .ok memory) : Recalls { memory } specs [] :=
  ⟨Memory.declaredBy_of_build built, rfl, rfl, Memory.byteAt?_of_build built⟩

/-- A read gives what the memory gives. -/
theorem read_eq (recalls : space.Recalls specs accesses) (gpa : UInt64) (count : Nat) :
    space.read gpa count = space.memory.read gpa count := by
  unfold AddressSpace.read
  rw [recalls.readLimits]
  rfl

/-- A write is a write to the memory. -/
theorem write_eq (recalls : space.Recalls specs accesses) (gpa : UInt64) (bytes : List UInt8) :
    space.write gpa bytes = ((space.memory.write gpa bytes).1,
      { space with memory := (space.memory.write gpa bytes).2 }) := by
  have hcut : TransferLimits.cut [] gpa bytes.length = bytes.length := rfl
  unfold AddressSpace.write
  rw [recalls.writeLimits, hcut, List.take_length]

/-- A read transfers what the buffer takes, as far as the declared region reaches. -/
theorem length_read (recalls : space.Recalls specs accesses) (gpa : UInt64) (count : Nat) :
    (space.read gpa count).length = min count (RegionSpec.readRoom specs gpa) := by
  rw [recalls.read_eq, Memory.length_read, recalls.declared.readReach_eq]

/-- A read gives the bytes that the accesses have left at successive addresses. -/
theorem getElem?_read (recalls : space.Recalls specs accesses) {gpa : UInt64} {count index : Nat}
    (inside : index < (space.read gpa count).length) :
    (space.read gpa count)[index]? =
      MemoryAccess.contentAt specs (gpa + UInt64.ofNat index) accesses.reverse := by
  rw [recalls.read_eq] at inside ⊢
  rw [recalls.declared.wellFormed.getElem?_read gpa inside, ← recalls.content]
  rfl

/-- A write changes the bytes it stores and no other. -/
theorem byteAt?_write (recalls : space.Recalls specs accesses) (gpa : UInt64) (bytes : List UInt8)
    (other : UInt64) :
    (space.write gpa bytes).2.byteAt? other =
      if InSpan gpa (min bytes.length (RegionSpec.writeRoom specs gpa)) other then
        bytes[other.toNat - gpa.toNat]?
      else space.byteAt? other := by
  have hbyte := recalls.declared.wellFormed.byteAt?_write gpa bytes other
  rw [recalls.declared.write_fst] at hbyte
  rw [recalls.write_eq]
  exact hbyte

/-- One more access is recalled. -/
theorem apply (recalls : space.Recalls specs accesses) (access : MemoryAccess) :
    (access.apply space).Recalls specs (accesses ++ [access]) := by
  have hreverse : (accesses ++ [access]).reverse = access :: accesses.reverse := by
    rw [List.reverse_append, List.reverse_singleton, List.singleton_append]
  cases access with
  | read gpa buffer =>
    refine ⟨recalls.declared, recalls.readLimits, recalls.writeLimits, fun other => ?_⟩
    rw [hreverse]
    exact recalls.content other
  | write gpa bytes =>
    have hspace : (MemoryAccess.write gpa bytes).apply space =
        { space with memory := (space.memory.write gpa bytes).2 } :=
      congrArg Prod.snd (recalls.write_eq gpa bytes)
    refine ⟨?_, ?_, ?_, fun other => ?_⟩
    · rw [hspace]
      exact recalls.declared.write gpa bytes
    · rw [hspace]
      exact recalls.readLimits
    · rw [hspace]
      exact recalls.writeLimits
    · rw [hreverse, MemoryAccess.contentAt, ← recalls.content]
      exact recalls.byteAt?_write gpa bytes other

/-- A series of accesses is recalled. -/
theorem foldl (recalls : space.Recalls specs accesses) (later : List MemoryAccess) :
    (later.foldl MemoryAccess.apply space).Recalls specs (accesses ++ later) := by
  induction later generalizing space accesses with
  | nil => simpa using recalls
  | cons access rest ih =>
    rw [List.foldl_cons, ← List.singleton_append, ← List.append_assoc]
    exact ih (recalls.apply access)

end Recalls

/-- What reads and writes do to declared memory after earlier accesses. -/
structure Faithful (space : AddressSpace) (specs : List RegionSpec) (accesses : List MemoryAccess) :
    Prop where
  /-- A read transfers what the buffer takes, as far as the declared region with bytes reaches, and
  nothing where there is none. -/
  readCount : ∀ gpa buffer,
    (space.readInto gpa buffer).1 = min buffer.length (RegionSpec.readRoom specs gpa)
  /-- A read fills the start of the buffer with the bytes at successive addresses: each is that of
  the latest write that covered its address, or else the one it was declared with. -/
  readBytes : ∀ gpa buffer, ∀ index < (space.readInto gpa buffer).1,
    gpa.toNat + index < UInt64.size ∧
      (space.readInto gpa buffer).2[index]? =
        MemoryAccess.contentAt specs (gpa + UInt64.ofNat index) accesses.reverse ∧
      (MemoryAccess.contentAt specs (gpa + UInt64.ofNat index) accesses.reverse).isSome
  /-- A read leaves the rest of the buffer alone. -/
  readRest : ∀ gpa buffer,
    (space.readInto gpa buffer).2.length = buffer.length ∧
      (space.readInto gpa buffer).2.drop (space.readInto gpa buffer).1 =
        buffer.drop (space.readInto gpa buffer).1
  /-- A write stores what is offered, as far as the declared memory region reaches. -/
  writeCount : ∀ gpa bytes,
    (space.write gpa bytes).1 = min bytes.length (RegionSpec.writeRoom specs gpa)
  /-- A write puts its bytes at the successive addresses it counts, and changes no other byte. -/
  writeBytes : ∀ gpa bytes other, (space.write gpa bytes).2.byteAt? other =
    if InSpan gpa (space.write gpa bytes).1 other then bytes[other.toNat - gpa.toNat]?
    else space.byteAt? other
  /-- A write where no memory was declared changes nothing. -/
  writeElsewhere : ∀ gpa bytes, RegionSpec.writeRoom specs gpa = 0 →
    space.write gpa bytes = (0, space)
  /-- The region that serves an access is the one that a search in the order of addresses finds. -/
  searched : ∀ gpa, space.memory.search? gpa = space.memory.regionAt? gpa
  /-- No end of a region wraps. -/
  ends : ∀ region ∈ space.memory.regions, region.stop.toNat = region.base.toNat + region.size.toNat
  /-- Neither the offset of an address in its region, nor the room behind it, nor its place in host
  memory wraps. -/
  offsets : ∀ gpa region, space.memory.regionAt? gpa = some region →
    region.base.toNat + (region.offsetOf gpa).toNat = gpa.toNat ∧
      gpa.toNat + (region.roomFrom gpa).toNat = region.stop.toNat ∧
      (region.map gpa).hostAddress.toNat = region.hostBase.toNat + (region.offsetOf gpa).toNat
  /-- What is transferred at an address lies in the storage of its region. -/
  stored : ∀ gpa region storage, space.memory.regionAt? gpa = some region →
    region.backing.storage? = some storage →
      (region.offsetOf gpa).toNat + (region.roomFrom gpa).toNat ≤ storage.length

namespace Recalls

variable {space : AddressSpace} {specs : List RegionSpec} {accesses : List MemoryAccess}

/-- A space that recalls its accesses is faithful to them. -/
theorem faithful (recalls : space.Recalls specs accesses) : space.Faithful specs accesses where
  readCount gpa buffer := recalls.length_read gpa buffer.length
  readBytes gpa buffer index inside := by
    have hread : index < (space.read gpa buffer.length).length := inside
    have hbyte := recalls.getElem?_read hread
    have hroom := recalls.declared.roomAt_fits RegionSpec.isBacked gpa
    have hcount := recalls.length_read gpa buffer.length
    unfold RegionSpec.readRoom at hcount
    have hbuffer : (space.readInto gpa buffer).2[index]? =
        (space.read gpa buffer.length)[index]? := List.getElem?_append_left hread
    refine ⟨by omega, hbuffer.trans hbyte, ?_⟩
    rw [← hbyte, List.getElem?_eq_getElem hread]
    rfl
  readRest gpa buffer := by
    have hcount := recalls.length_read gpa buffer.length
    refine ⟨?_, List.drop_left⟩
    have hlength : (space.readInto gpa buffer).2.length =
        (space.read gpa buffer.length).length +
          (buffer.length - (space.read gpa buffer.length).length) := by
      unfold readInto
      rw [List.length_append, List.length_drop]
    omega
  writeCount gpa bytes := by
    rw [recalls.write_eq]
    exact recalls.declared.write_fst gpa bytes
  writeBytes gpa bytes other := by
    have hcount : (space.write gpa bytes).1 =
        min bytes.length (RegionSpec.writeRoom specs gpa) := by
      rw [recalls.write_eq]
      exact recalls.declared.write_fst gpa bytes
    rw [hcount]
    exact recalls.byteAt?_write gpa bytes other
  writeElsewhere gpa bytes nowhere := by
    rw [recalls.write_eq, recalls.declared.write_fst, nowhere, Nat.min_zero,
      recalls.declared.write_snd_of_writeRoom nowhere]
  searched := recalls.declared.wellFormed.search?_eq
  ends region listed := Region.toNat_stop (recalls.declared.wellFormed.bounded region listed).2
  offsets gpa region found := by
    obtain ⟨hoffset, hroom, hhost⟩ := recalls.declared.wellFormed.regionAt?_bounds found
    have hbounded := recalls.declared.wellFormed.bounded region (Memory.mem_of_regionAt? found)
    exact ⟨hoffset, hroom.trans (Region.toNat_stop hbounded.2).symm, hhost⟩
  stored gpa region storage found backed := by
    obtain ⟨hoffset, hroom, -⟩ := recalls.declared.wellFormed.regionAt?_bounds found
    have hlength := recalls.declared.wellFormed.stored region (Memory.mem_of_regionAt? found)
      storage backed
    omega

end Recalls

/-- Memory that was built is faithful to its declaration after every series of accesses. -/
theorem faithful_of_build {specs : List RegionSpec} {hostBase : UInt64} {memory : Memory}
    (built : Memory.build specs hostBase = .ok memory) (accesses : List MemoryAccess) :
    Faithful (accesses.foldl MemoryAccess.apply { memory }) specs accesses :=
  ((Recalls.of_build built).foldl accesses).faithful

/-- Two memory regions side by side, fixed contents right before them, and a window, not declared in
the order of their addresses. -/
def mixedMap : List RegionSpec :=
  [.ram 0x3000 0x100, .window 0x8000 0x1000, .ram 0x2000 0x1000, .rom 0x1ffc [1, 2, 3, 4]]

/-- The regions of the mixed map in host memory. -/
def mixedMemory : Memory :=
  ⟨[⟨0x3000, 0x100, 0x100000000, .ram (.zeros 0x100)⟩,
    ⟨0x8000, 0x1000, 0x8000, .window⟩,
    ⟨0x2000, 0x1000, 0x100001000, .ram (.zeros 0x1000)⟩,
    ⟨0x1ffc, 4, 0x100002000, .rom (.ofBytes [1, 2, 3, 4])⟩]⟩

/-- In memory built from the mixed map, a write ends with its region although memory follows, fixed
contents stay, and a read ends with its region and leaves the rest of the buffer. -/
theorem faithful_mixedMemory :
    let accesses : List MemoryAccess :=
      [.write 0x2ffe [7, 8, 9], .write 0x1ffe [5], .read 0x8000 [0], .write 0x2fff [6]]
    let space : AddressSpace := accesses.foldl MemoryAccess.apply { memory := mixedMemory }
    Memory.build mixedMap Memory.defaultHostBase = .ok mixedMemory ∧
      space.Faithful mixedMap accesses ∧
      space.readInto 0x2ffd [255, 255, 255, 255, 255] = (3, [0, 7, 6, 255, 255]) ∧
      space.readInto 0x1ffe [255, 255, 255] = (2, [3, 4, 255]) ∧
      space.readInto 0x3000 [255] = (1, [0]) := by
  have hbuilt : Memory.build mixedMap Memory.defaultHostBase = .ok mixedMemory := rfl
  exact ⟨hbuilt, faithful_of_build hbuilt _, by decide +kernel, by decide +kernel, by decide +kernel⟩

end AddressSpace

end Paravirt

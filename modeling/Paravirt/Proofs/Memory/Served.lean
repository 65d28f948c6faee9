import Paravirt.Proofs.Memory.Access

/-!
# Accesses that are served in full

A transfer is cut at the end of the region in which it starts and by the limits set on its first
address. Where no limit is set and the whole span lies in one region of memory, nothing is cut: a
read delivers all bytes, a write stores all of them, and what was written is read back. Stores move
no region, so a span that lies in memory once does so for good.
-/

namespace Paravirt

/-- Only regions of memory resolve to memory. -/
theorem Region.isRam_map_iff (region : Region) (gpa : UInt64) :
    (region.map gpa).isRam = true ↔ ∃ storage, region.backing = .ram storage := by
  unfold MappedRegion.isRam Region.map
  cases region.backing with
  | ram storage =>
    have hflags : RegionFlags.contains (.union .ram .real) .ram = true := by decide
    exact iff_of_true hflags ⟨storage, rfl⟩
  | rom storage =>
    have hflags : ¬RegionFlags.contains (.union (.union .rom .readOnly) .real) .ram = true := by
      decide
    exact iff_of_false hflags fun ⟨_, hbacked⟩ => by cases hbacked
  | window =>
    have hflags : ¬RegionFlags.contains (.union .io .emulated) .ram = true := by decide
    exact iff_of_false hflags fun ⟨_, hbacked⟩ => by cases hbacked

namespace Memory

variable {memory : Memory} {start : UInt64} {size : Nat}

/-- A span lies in one region of memory that devices read and write. -/
def HoldsRam (memory : Memory) (start : UInt64) (size : Nat) : Prop :=
  ∃ region ∈ memory.regions, (∃ storage, region.backing = .ram storage) ∧
    region.base.toNat ≤ start.toNat ∧
      start.toNat + size ≤ region.base.toNat + region.size.toNat

/-- Every part of a span in memory lies in memory. -/
theorem HoldsRam.part (ram : memory.HoldsRam start size) {gpa : UInt64} {width : Nat}
    (after : start.toNat ≤ gpa.toNat) (before : gpa.toNat + width ≤ start.toNat + size) :
    memory.HoldsRam gpa width := by
  obtain ⟨region, listed, backed, hbase, hend⟩ := ram
  exact ⟨region, listed, backed, by omega, by omega⟩

/-- A span in memory ends at a 64-bit address. -/
theorem HoldsRam.fits (ram : memory.HoldsRam start size) (wellFormed : memory.WellFormed) :
    start.toNat + size < UInt64.size := by
  obtain ⟨region, listed, _, _, hend⟩ := ram
  have hbounded := (wellFormed.bounded region listed).2
  omega

/-- The region found for the start of a span in memory reaches to the end of the span. -/
theorem HoldsRam.regionAt? (ram : memory.HoldsRam start size) (wellFormed : memory.WellFormed)
    (nonempty : 0 < size) : ∃ region storage, memory.regionAt? start = some region ∧
      region.backing = .ram storage ∧ size ≤ (region.roomFrom start).toNat := by
  obtain ⟨region, listed, ⟨storage, backed⟩, hbase, hend⟩ := ram
  have hbounded := (wellFormed.bounded region listed).2
  have hinside : region.contains start = true :=
    (Region.contains_iff hbounded).2 ⟨hbase, by omega⟩
  refine ⟨region, storage, wellFormed.regionAt?_eq listed hinside, backed, ?_⟩
  rw [Region.toNat_roomFrom hbounded hinside]
  omega

/-- Reads reach to the end of a span in memory. -/
theorem HoldsRam.le_readReach (ram : memory.HoldsRam start size)
    (wellFormed : memory.WellFormed) : size ≤ memory.readReach start := by
  by_cases nonempty : 0 < size
  · obtain ⟨region, storage, hfound, hbacked, hroom⟩ := ram.regionAt? wellFormed nonempty
    simpa [readReach, hfound, hbacked, Backing.storage?] using hroom
  · omega

/-- A write to a span in memory stores all of its bytes. -/
theorem HoldsRam.write_fst {bytes : List UInt8} (ram : memory.HoldsRam start bytes.length)
    (wellFormed : memory.WellFormed) : (memory.write start bytes).1 = bytes.length := by
  by_cases nonempty : 0 < bytes.length
  · obtain ⟨region, storage, hfound, hbacked, hroom⟩ := ram.regionAt? wellFormed nonempty
    rw [Memory.write_fst, hfound]
    simp only [Region.write, hbacked, List.length_take]
    omega
  · have hcount := memory.write_le_length start bytes
    omega

/-- Stores leave every span in memory there. -/
theorem HoldsRam.write (ram : memory.HoldsRam start size) (wellFormed : memory.WellFormed)
    (gpa : UInt64) (bytes : List UInt8) : (memory.write gpa bytes).2.HoldsRam start size := by
  obtain ⟨region, listed, ⟨storage, backed⟩, hbase, hend⟩ := ram
  have hlisted := List.mem_map_of_mem (f := fun region : Region =>
    if region.contains gpa then (region.write gpa bytes).2 else region) listed
  rw [← wellFormed.regions_write] at hlisted
  refine ⟨_, hlisted, ?_⟩
  by_cases inside : region.contains gpa = true
  · rw [if_pos inside, Region.base_write, Region.size_write]
    refine ⟨?_, hbase, hend⟩
    simp only [Region.write, backed]
    exact ⟨_, rfl⟩
  · rw [if_neg inside]
    exact ⟨⟨storage, backed⟩, hbase, hend⟩

/-- An address that resolves to memory with enough room starts a span in memory. -/
theorem holdsRam_of_map (wellFormed : memory.WellFormed) {asked size : UInt64}
    {mapped : MappedRegion} (resolved : memory.map start asked = .ok mapped)
    (isRam : mapped.isRam = true) (room : size ≤ mapped.availableSize) :
    memory.HoldsRam start size.toNat := by
  unfold Memory.map at resolved
  cases found : memory.regionAt? start with
  | none =>
    rw [found] at resolved
    cases resolved
  | some region =>
    rw [found] at resolved
    cases resolved
    have hlisted := mem_of_regionAt? found
    have hbounded := (wellFormed.bounded region hlisted).2
    have hinside := contains_of_regionAt? found
    have hbase := ((Region.contains_iff hbounded).1 hinside).1
    have hroom := Region.toNat_roomFrom hbounded hinside
    have hsize : size.toNat ≤ (region.roomFrom start).toNat := UInt64.le_iff_toNat_le.1 room
    have hbefore := ((Region.contains_iff hbounded).1 hinside).2
    exact ⟨region, hlisted, (region.isRam_map_iff start).1 isRam, hbase, by omega⟩

end Memory

namespace AddressSpace

variable {space : AddressSpace} {gpa : UInt64}

/-- Nothing but the memory itself decides what an access does: the memory is one that can be built,
no transfer is limited and no mapping query is overridden. -/
structure FaultFree (space : AddressSpace) : Prop where
  /-- The memory keeps what building it guarantees. -/
  wellFormed : space.memory.WellFormed
  /-- No read is limited. -/
  readLimits : space.readLimits = []
  /-- No write is limited. -/
  writeLimits : space.writeLimits = []
  /-- Mapping queries are answered by the memory. -/
  mapOverride : space.mapOverride = none

/-- Without an override mapping queries are answered by the memory. -/
theorem map_of_answered {space : AddressSpace} (answered : space.mapOverride = none)
    (gpa size : UInt64) : space.map gpa size = space.memory.map gpa size := by
  rw [map, answered, Option.getD_none]

/-- A memory that was built makes a fault-free address space. -/
theorem faultFree_of_build {specs : List RegionSpec} {hostBase : UInt64} {memory : Memory}
    (built : Memory.build specs hostBase = .ok memory) : FaultFree { memory } :=
  ⟨Memory.wellFormed_of_build built, rfl, rfl, rfl⟩

/-- A span in memory stays there through stores. -/
theorem Writes.holdsRam {allowed : UInt64 → Nat → Prop} {last : AddressSpace}
    (writes : Writes allowed space last) (wellFormed : space.memory.WellFormed)
    {start : UInt64} {size : Nat} (ram : space.memory.HoldsRam start size) :
    last.memory.HoldsRam start size := by
  induction writes with
  | refl => exact ram
  | store earlier _ _ ih => exact ih.write (earlier.wellFormed wellFormed) _ _

namespace FaultFree

/-- Stores inject no fault. -/
theorem of_writes {allowed : UInt64 → Nat → Prop} {last : AddressSpace}
    (faultFree : space.FaultFree) (writes : Writes allowed space last) : last.FaultFree := by
  obtain ⟨hreads, hwrites, hmap⟩ := writes.settings_eq
  exact ⟨writes.wellFormed faultFree.wellFormed, hreads.trans faultFree.readLimits,
    hwrites.trans faultFree.writeLimits, hmap.trans faultFree.mapOverride⟩

/-- Reads of a span in memory deliver every byte. -/
theorem length_read (faultFree : space.FaultFree) {count : Nat}
    (ram : space.memory.HoldsRam gpa count) : (space.read gpa count).length = count := by
  have hreach := ram.le_readReach faultFree.wellFormed
  unfold AddressSpace.read
  rw [faultFree.readLimits, Memory.length_read]
  exact Nat.min_eq_left hreach

/-- A span in memory can be read exactly. -/
theorem readExact_eq (faultFree : space.FaultFree) {count : Nat}
    (ram : space.memory.HoldsRam gpa count) :
    space.readExact gpa count = .ok (space.read gpa count) := by
  unfold readExact
  rw [if_pos (faultFree.length_read ram)]

/-- A word in memory can be read. -/
theorem read16_eq (faultFree : space.FaultFree) (ram : space.memory.HoldsRam gpa 2) :
    space.read16 gpa = .ok (LittleEndian.decode16 (space.read gpa 2)) := by
  rw [read16, faultFree.readExact_eq ram]
  rfl

/-- Without limits a write is a store of all its bytes. -/
theorem write_eq (faultFree : space.FaultFree) (bytes : List UInt8) :
    space.write gpa bytes = ((space.memory.write gpa bytes).1, space.store gpa bytes) := by
  have huncut : bytes.take (space.writeLimits.cut gpa bytes.length) = bytes := by
    rw [faultFree.writeLimits]
    exact List.take_of_length_le (Nat.le_refl _)
  unfold AddressSpace.write
  rw [huncut]
  rfl

/-- A write to a span in memory succeeds. -/
theorem writeAll_eq (faultFree : space.FaultFree) {bytes : List UInt8}
    (ram : space.memory.HoldsRam gpa bytes.length) :
    space.writeAll gpa bytes = (.ok (), space.store gpa bytes) := by
  rw [writeAll, faultFree.write_eq]
  simp only [ram.write_fst faultFree.wellFormed, if_true]

/-- A word can be written to memory. -/
theorem write16_eq (faultFree : space.FaultFree) (ram : space.memory.HoldsRam gpa 2)
    (value : UInt16) :
    space.write16 gpa value = (.ok (), space.store gpa (LittleEndian.encode16 value)) :=
  faultFree.writeAll_eq (by simpa using ram)

/-- What was stored in a span in memory is read back. -/
theorem read_store (faultFree : space.FaultFree) {bytes : List UInt8}
    (ram : space.memory.HoldsRam gpa bytes.length) :
    (space.store gpa bytes).read gpa bytes.length = bytes := by
  have hwrites : Writes (fun start width => start = gpa ∧ width = bytes.length) space
      (space.store gpa bytes) := Writes.refl.store ⟨rfl, rfl⟩ (Nat.le_refl _)
  have hstored := faultFree.of_writes hwrites
  have hram := hwrites.holdsRam faultFree.wellFormed ram
  have hlength := hstored.length_read hram
  have hfits := ram.fits faultFree.wellFormed
  have hcount := ram.write_fst faultFree.wellFormed
  apply List.ext_getElem?
  intro index
  by_cases inside : index < bytes.length
  · have haddress : (gpa + UInt64.ofNat index).toNat = gpa.toNat + index :=
      toNat_add_ofNat (by omega)
    have hread : (space.store gpa bytes).read gpa bytes.length =
        (space.store gpa bytes).memory.read gpa bytes.length := by
      unfold AddressSpace.read
      rw [hstored.readLimits]
      rfl
    rw [hread] at hlength ⊢
    rw [hstored.wellFormed.getElem?_read gpa (by omega)]
    unfold store
    rw [faultFree.wellFormed.byteAt?_write, if_pos (by omega), haddress, Nat.add_sub_cancel_left]
  · rw [List.getElem?_eq_none (by omega), List.getElem?_eq_none (by omega)]

/-- A word stored in memory is read back. -/
theorem read16_store (faultFree : space.FaultFree) (ram : space.memory.HoldsRam gpa 2)
    (value : UInt16) :
    (space.store gpa (LittleEndian.encode16 value)).read16 gpa = .ok value := by
  have hwrites : Writes (fun start width => start = gpa ∧ width = 2) space
      (space.store gpa (LittleEndian.encode16 value)) := Writes.refl.store ⟨rfl, rfl⟩ (by simp)
  have hbytes : space.memory.HoldsRam gpa (LittleEndian.encode16 value).length := by
    simpa using ram
  have hstored := faultFree.read_store hbytes
  rw [LittleEndian.length_encode16] at hstored
  rw [(faultFree.of_writes hwrites).read16_eq (hwrites.holdsRam faultFree.wellFormed ram), hstored,
    LittleEndian.decode16_encode16]

end FaultFree

end AddressSpace

end Paravirt

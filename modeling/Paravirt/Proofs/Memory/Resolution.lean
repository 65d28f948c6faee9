import Mathlib.Order.Bounds.Defs
import Paravirt.Proofs.Memory.History
import Paravirt.Proofs.Memory.Served
import Paravirt.Proofs.Memory.Validity

/-!
# What addresses resolve to

A mapping query is answered by the region that holds the address, and the answer can be relied on:
the room that it names is as far as a transfer reaches, and different bytes are at different places in
host memory. Both are said of the declaration: where a region starts in host memory follows from the
regions declared before it, and no access changes that.
-/

namespace Paravirt

namespace RegionSpec

variable {specs : List RegionSpec} {spec : RegionSpec} {place later : Nat}

/-- One of the declared regions with bytes holds the address. -/
def BackedAt (specs : List RegionSpec) (gpa : UInt64) : Prop :=
  ∃ spec ∈ specs, spec.isBacked = true ∧ spec.Holds gpa

/-- The pages of a region come before those of every later one. -/
theorem hostSpans_take_add_le (listed : specs[place]? = some spec) (before : place < later) :
    hostSpans (specs.take place) + spec.hostSpan ≤ hostSpans (specs.take later) := by
  have hnext : (specs.take later).take (place + 1) = specs.take place ++ [spec] := by
    rw [List.take_take, Nat.min_eq_left before, List.take_add_one, listed, Option.toList_some]
  rw [← List.take_append_drop (place + 1) (specs.take later), hnext, hostSpans_append,
    hostSpans_append, hostSpans_singleton]
  exact Nat.le_add_right _ _

/-- Of two regions with bytes the one that was declared first ends in host memory before the other
starts. -/
theorem hostStart_add_size_le (hostBase : UInt64) {other : RegionSpec}
    (listed : specs[place]? = some spec) (before : place < later) (backed : spec.isBacked = true)
    (backed' : other.isBacked = true) :
    hostStart hostBase specs place spec + spec.size ≤ hostStart hostBase specs later other := by
  have hpages := hostSpans_take_add_le listed before
  have hsize := size_le_hostSpan backed
  rw [hostStart, hostStart, if_pos backed, if_pos backed']
  omega

/-- No two addresses with bytes go to the same place in host memory: those of one region differ in
how far they are behind its start, and different regions do not overlap there. -/
theorem eq_of_hostAddress_eq {hostBase gpa gpa' : UInt64} {other : RegionSpec}
    (listed : specs[place]? = some spec) (listed' : specs[later]? = some other)
    (holds : spec.Holds gpa) (holds' : other.Holds gpa') (backed : spec.isBacked = true)
    (backed' : other.isBacked = true)
    (same : hostStart hostBase specs place spec + (gpa.toNat - spec.base.toNat) =
      hostStart hostBase specs later other + (gpa'.toNat - other.base.toNat)) : gpa = gpa' := by
  obtain ⟨hafter, hbefore⟩ := holds
  obtain ⟨hafter', hbefore'⟩ := holds'
  rcases Nat.lt_trichotomy place later with first | rfl | last
  · have hapart := hostStart_add_size_le hostBase listed first backed backed'
    omega
  · obtain rfl := Option.some.inj (listed.symm.trans listed')
    rw [← UInt64.toNat_inj]
    omega
  · have hapart := hostStart_add_size_le hostBase listed' last backed' backed
    omega

/-- The attributes of a region are those of its declaration. -/
theorem Stands.flags_eq {region : Region} (stands : spec.Stands region) :
    region.backing.flags = spec.backing.flags := by
  have hbacked := stands.backed
  have hram := stands.ram
  generalize region.backing = backing at hbacked hram
  cases spec with
  | ram base size =>
    obtain ⟨storage, rfl⟩ := hram.2 rfl
    rfl
  | rom base bytes =>
    cases backing with
    | ram storage => exact absurd (hram.1 ⟨storage, rfl⟩) Bool.false_ne_true
    | rom storage => rfl
    | window => exact absurd hbacked Bool.false_ne_true
  | window base size =>
    cases backing with
    | ram storage => exact absurd (hram.1 ⟨storage, rfl⟩) Bool.false_ne_true
    | rom storage => exact absurd hbacked.symm Bool.false_ne_true
    | window => rfl

/-- The attributes of a declared region say whether it is memory. -/
theorem contains_ram_flags (spec : RegionSpec) : spec.backing.flags.contains .ram = spec.isRam := by
  have hram : RegionFlags.contains (.union .ram .real) .ram = true := by decide
  have hrom : RegionFlags.contains (.union (.union .rom .readOnly) .real) .ram = false := by decide
  have hwindow : RegionFlags.contains (.union .io .emulated) .ram = false := by decide
  cases spec with
  | ram base size => exact hram
  | rom base bytes => exact hrom
  | window base size => exact hwindow

/-- Memory has bytes. -/
theorem isBacked_of_isRam (ram : spec.isRam = true) : spec.isBacked = true := by
  cases spec with
  | ram base size => rfl
  | rom base bytes => exact absurd ram Bool.false_ne_true
  | window base size => exact absurd ram Bool.false_ne_true

end RegionSpec

namespace Memory

variable {memory : Memory} {specs : List RegionSpec} {hostBase gpa : UInt64}

/-- Each region starts in host memory where its place in the declaration says. -/
def HostedFrom (memory : Memory) (specs : List RegionSpec) (hostBase : UInt64) : Prop :=
  ∀ place spec region, specs[place]? = some spec → memory.regions[place]? = some region →
    region.hostBase.toNat = RegionSpec.hostStart hostBase specs place spec

/-- A write moves no region in host memory. -/
theorem HostedFrom.write (hosted : memory.HostedFrom specs hostBase)
    (wellFormed : memory.WellFormed) (gpa : UInt64) (bytes : List UInt8) :
    (memory.write gpa bytes).2.HostedFrom specs hostBase := by
  intro place spec region listed placed
  rw [wellFormed.regions_write, List.getElem?_map, Option.map_eq_some_iff] at placed
  obtain ⟨before, placed, rfl⟩ := placed
  have hstart := hosted place spec before listed placed
  split
  · rw [Region.hostBase_write, hstart]
  · exact hstart

/-- The region found for an address was declared, at the same place. -/
theorem DeclaredBy.exists_place (declared : memory.DeclaredBy specs) {region : Region}
    (found : memory.regionAt? gpa = some region) :
    ∃ (place : Nat) (spec : RegionSpec), specs[place]? = some spec ∧
      memory.regions[place]? = some region ∧ spec.Stands region ∧ spec.Holds gpa := by
  obtain ⟨place, inside, rfl⟩ := List.getElem_of_mem (mem_of_regionAt? found)
  have hlength := declared.stands.length_eq
  have hstands : specs[place].Stands memory.regions[place] :=
    declared.stands.get (by omega) inside
  refine ⟨place, specs[place], List.getElem?_eq_getElem _, List.getElem?_eq_getElem _, hstands, ?_⟩
  have hinside := contains_of_regionAt? found
  rw [hstands.contains_eq] at hinside
  exact of_decide_eq_true hinside

/-- No region is found exactly for the addresses that none was declared for. -/
theorem DeclaredBy.regionAt?_eq_none_iff (declared : memory.DeclaredBy specs) :
    memory.regionAt? gpa = none ↔ ∀ spec ∈ specs, ¬spec.Holds gpa := by
  rcases declared.regionAt?_cases gpa with
    ⟨hspec, hregion⟩ | ⟨spec, region, hspec, hregion, -, holds⟩
  · refine iff_of_true hregion fun spec listed holds => ?_
    have hpasses := List.find?_eq_none.1 hspec spec listed
    exact hpasses (decide_eq_true holds)
  · refine iff_of_false (by rw [hregion]; exact Option.some_ne_none region) fun nowhere => ?_
    exact nowhere spec (List.mem_of_find?_eq_some hspec) holds

end Memory

namespace AddressSpace

/-- The answers to mapping queries say what the declaration and the transfers bear out. -/
structure ResolvesTruly (space : AddressSpace) (specs : List RegionSpec) (hostBase : UInt64) :
    Prop where
  /-- A query fails exactly where no region was declared, and names what was asked for. -/
  fails : ∀ gpa size error, space.map gpa size = .error error ↔
    error = .unmapped gpa size ∧ ∀ spec ∈ specs, ¬spec.Holds gpa
  /-- Otherwise a declared region holds the address: the host address is as far behind the start of
  the region in host memory as the address is behind its first one, and the room ends with the
  region. Neither wraps. -/
  resolves : ∀ gpa size mapped, space.map gpa size = .ok mapped →
    ∃ (place : Nat) (spec : RegionSpec), specs[place]? = some spec ∧ spec.Holds gpa ∧
      mapped.hostAddress.toNat =
        RegionSpec.hostStart hostBase specs place spec + (gpa.toNat - spec.base.toNat) ∧
      gpa.toNat + mapped.availableSize.toNat = spec.base.toNat + spec.size ∧
      mapped.flags = spec.backing.flags
  /-- Where there are bytes, the room is the most that a read can transfer. -/
  reach : ∀ gpa size mapped, space.map gpa size = .ok mapped → RegionSpec.BackedAt specs gpa →
    IsGreatest {count | ∃ buffer, (space.readInto gpa buffer).1 = count} mapped.availableSize.toNat
  /-- Where memory of some size is said to start, a read and a write of that size are complete. -/
  covers : ∀ gpa asked mapped size, space.map gpa asked = .ok mapped →
    mapped.coversRam size = true →
      (∀ buffer, buffer.length = size.toNat → (space.readInto gpa buffer).1 = size.toNat) ∧
      ∀ bytes, bytes.length = size.toNat → (space.write gpa bytes).1 = size.toNat
  /-- Different addresses with bytes have different host addresses. -/
  injective : ∀ gpa gpa' size size' mapped mapped', space.map gpa size = .ok mapped →
    space.map gpa' size' = .ok mapped' → RegionSpec.BackedAt specs gpa →
      RegionSpec.BackedAt specs gpa' → mapped.hostAddress = mapped'.hostAddress → gpa = gpa'

namespace Recalls

variable {space : AddressSpace} {specs : List RegionSpec} {accesses : List MemoryAccess}
  {hostBase gpa size : UInt64} {mapped : MappedRegion}

/-- A query fails exactly where no region was declared. -/
theorem map_eq_error_iff (recalls : space.Recalls specs accesses)
    (answered : space.mapOverride = none) {error : MemoryError} :
    space.map gpa size = .error error ↔
      error = .unmapped gpa size ∧ ∀ spec ∈ specs, ¬spec.Holds gpa := by
  rw [← recalls.declared.regionAt?_eq_none_iff, map_of_answered answered, Memory.map]
  cases space.memory.regionAt? gpa with
  | none => simp [eq_comm]
  | some region => simp

/-- A query that does not fail describes the declared region. -/
theorem resolves_of_map (recalls : space.Recalls specs accesses)
    (answered : space.mapOverride = none) (hosted : space.memory.HostedFrom specs hostBase)
    (resolved : space.map gpa size = .ok mapped) :
    ∃ (place : Nat) (spec : RegionSpec), specs[place]? = some spec ∧ spec.Holds gpa ∧
      mapped.hostAddress.toNat =
        RegionSpec.hostStart hostBase specs place spec + (gpa.toNat - spec.base.toNat) ∧
      gpa.toNat + mapped.availableSize.toNat = spec.base.toNat + spec.size ∧
      mapped.flags = spec.backing.flags := by
  rw [map_of_answered answered, Memory.map] at resolved
  cases found : space.memory.regionAt? gpa with
  | none =>
    rw [found] at resolved
    cases resolved
  | some region =>
    rw [found] at resolved
    cases resolved
    obtain ⟨place, spec, listed, placed, stands, holds⟩ := recalls.declared.exists_place found
    obtain ⟨hoffset, hroom, hhost⟩ := recalls.declared.wellFormed.regionAt?_bounds found
    have hstart := hosted place spec region listed placed
    rw [stands.base] at hoffset
    rw [stands.base, stands.size] at hroom
    exact ⟨place, spec, listed, holds, by omega, hroom, stands.flags_eq⟩

/-- Queries of declared memory are answered truly, whatever has been accessed. -/
theorem resolvesTruly (recalls : space.Recalls specs accesses)
    (valid : Memory.Valid specs hostBase) (answered : space.mapOverride = none)
    (hosted : space.memory.HostedFrom specs hostBase) : space.ResolvesTruly specs hostBase where
  fails gpa size error := recalls.map_eq_error_iff answered
  resolves gpa size mapped := recalls.resolves_of_map answered hosted
  reach gpa size mapped resolved := by
    rintro ⟨other, listed', backed, holds'⟩
    obtain ⟨place, spec, listed, holds, -, hroom, -⟩ :=
      recalls.resolves_of_map answered hosted resolved
    have hlisted := List.mem_of_getElem? listed
    obtain rfl := valid.eq_of_holds hlisted listed' holds holds'
    have hreach : RegionSpec.readRoom specs gpa = mapped.availableSize.toNat := by
      rw [RegionSpec.readRoom, valid.roomAt_eq hlisted holds backed, RegionSpec.roomFrom]
      omega
    have hcount (buffer : List UInt8) :
        (space.readInto gpa buffer).1 = min buffer.length mapped.availableSize.toNat :=
      hreach ▸ recalls.length_read gpa buffer.length
    refine ⟨⟨List.replicate mapped.availableSize.toNat 0, ?_⟩, ?_⟩
    · rw [hcount, List.length_replicate, Nat.min_self]
    · rintro count ⟨buffer, rfl⟩
      rw [hcount]
      exact Nat.min_le_right _ _
  covers gpa asked mapped size resolved covered := by
    obtain ⟨place, spec, listed, holds, -, hroom, hflags⟩ :=
      recalls.resolves_of_map answered hosted resolved
    have hlisted := List.mem_of_getElem? listed
    rw [MappedRegion.coversRam, Bool.and_eq_true, MappedRegion.isRam, hflags,
      RegionSpec.contains_ram_flags, decide_eq_true_iff, UInt64.le_iff_toNat_le] at covered
    obtain ⟨ram, enough⟩ := covered
    have hfrom : spec.roomFrom gpa = mapped.availableSize.toNat := by
      rw [RegionSpec.roomFrom]
      omega
    have hread := valid.roomAt_eq hlisted holds (RegionSpec.isBacked_of_isRam ram)
    have hwrite := valid.roomAt_eq hlisted holds ram
    constructor
    · intro buffer long
      have hcount : (space.readInto gpa buffer).1 =
          min buffer.length (RegionSpec.readRoom specs gpa) := recalls.length_read gpa buffer.length
      rw [hcount, RegionSpec.readRoom, hread, hfrom, long, Nat.min_eq_left enough]
    · intro bytes long
      rw [recalls.write_eq, recalls.declared.write_fst, RegionSpec.writeRoom, hwrite, hfrom, long,
        Nat.min_eq_left enough]
  injective gpa gpa' size size' mapped mapped' resolved resolved' backed backed' same := by
    obtain ⟨place, spec, listed, holds, hhost, -⟩ :=
      recalls.resolves_of_map answered hosted resolved
    obtain ⟨place', spec', listed', holds', hhost', -⟩ :=
      recalls.resolves_of_map answered hosted resolved'
    obtain ⟨other, hother, hbacked, hholds⟩ := backed
    obtain ⟨other', hother', hbacked', hholds'⟩ := backed'
    obtain rfl := valid.eq_of_holds (List.mem_of_getElem? listed) hother holds hholds
    obtain rfl := valid.eq_of_holds (List.mem_of_getElem? listed') hother' holds' hholds'
    exact RegionSpec.eq_of_hostAddress_eq listed listed' holds holds' hbacked hbacked'
      (by rw [← hhost, ← hhost', same])

/-- Accesses keep the regions where they are in host memory. -/
theorem hostedFrom_foldl (recalls : space.Recalls specs accesses)
    (hosted : space.memory.HostedFrom specs hostBase) (later : List MemoryAccess) :
    (later.foldl MemoryAccess.apply space).memory.HostedFrom specs hostBase := by
  induction later generalizing space accesses with
  | nil => exact hosted
  | cons access rest ih =>
    cases access with
    | read gpa buffer => exact ih (recalls.apply (.read gpa buffer)) hosted
    | write gpa bytes =>
      have hwritten : (space.write gpa bytes).2.memory.HostedFrom specs hostBase :=
        hosted.write recalls.declared.wellFormed gpa _
      exact ih (recalls.apply (.write gpa bytes)) hwritten

end Recalls

/-- Accesses answer no query in place of the memory. -/
theorem mapOverride_foldl (space : AddressSpace) (accesses : List MemoryAccess) :
    (accesses.foldl MemoryAccess.apply space).mapOverride = space.mapOverride := by
  induction accesses generalizing space with
  | nil => rfl
  | cons access rest ih => cases access <;> exact ih _

/-- Mapping queries of memory that was built are answered truly after every series of accesses. -/
theorem resolvesTruly_of_build {specs : List RegionSpec} {hostBase : UInt64} {memory : Memory}
    (built : Memory.build specs hostBase = .ok memory) (accesses : List MemoryAccess) :
    ResolvesTruly (accesses.foldl MemoryAccess.apply { memory }) specs hostBase := by
  have hrecalls := Recalls.of_build built
  have hstarts : memory.HostedFrom specs hostBase :=
    fun place spec region listed placed => Memory.hostBase_of_build built listed placed
  exact (hrecalls.foldl accesses).resolvesTruly (Memory.exists_build_iff.1 ⟨memory, built⟩)
    (mapOverride_foldl _ accesses) (hrecalls.hostedFrom_foldl hstarts accesses)

/-- In memory built from the mixed map the region declared first has the first pages of host memory
although others start before it, fixed contents two bytes from their end have room for two, the window
resolves to itself, and nothing holds the address behind memory. -/
theorem resolvesTruly_mixedMemory :
    let accesses : List MemoryAccess := [.write 0x2ffe [7, 8, 9], .read 0x1ffe [0, 0, 0]]
    let space : AddressSpace := accesses.foldl MemoryAccess.apply { memory := mixedMemory }
    Memory.build mixedMap Memory.defaultHostBase = .ok mixedMemory ∧
      space.ResolvesTruly mixedMap Memory.defaultHostBase ∧
      space.map 0x3001 8 = .ok ⟨0x100000001, 0xff, .union .ram .real⟩ ∧
      space.map 0x2fff 8 = .ok ⟨0x100001fff, 1, .union .ram .real⟩ ∧
      space.map 0x1ffe 8 = .ok ⟨0x100002002, 2, .union (.union .rom .readOnly) .real⟩ ∧
      space.map 0x8004 8 = .ok ⟨0x8004, 0xffc, .union .io .emulated⟩ ∧
      space.map 0x3100 8 = .error (.unmapped 0x3100 8) ∧
      RegionSpec.BackedAt mixedMap 0x1ffe ∧ (space.readInto 0x1ffe [0, 0, 0]).1 = 2 := by
  have hbuilt : Memory.build mixedMap Memory.defaultHostBase = .ok mixedMemory := rfl
  have hbacked : RegionSpec.BackedAt mixedMap 0x1ffe :=
    ⟨.rom 0x1ffc [1, 2, 3, 4], by simp [mixedMap], rfl, by decide⟩
  exact ⟨hbuilt, resolvesTruly_of_build hbuilt _, rfl, rfl, rfl, rfl, rfl, hbacked, rfl⟩

end AddressSpace

end Paravirt

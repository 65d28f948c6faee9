import Mathlib.Logic.Function.Basic
import Paravirt.Proofs.Memory.Span

/-!
# Stores byte by byte

A store puts its bytes one after another at successive addresses, as far as the memory region reaches
that holds the first one. So it is a series of stores of one byte each: the series leaves the very same
memory, and not only one with the same bytes. What a series leaves at an address is said without any
memory: the last byte that went there, or else the one that stood there before.
-/

namespace Paravirt

section Overlay

variable {view : UInt64 → Option UInt8} {stores : List (UInt64 × UInt8)} {gpa : UInt64}

/-- What stands at each address once bytes have been put there, one after another. -/
def overlay (view : UInt64 → Option UInt8) (stores : List (UInt64 × UInt8)) :
    UInt64 → Option UInt8 :=
  stores.foldl (fun view stored => Function.update view stored.1 (some stored.2)) view

/-- Where no byte was put, the one from before stands. -/
theorem overlay_of_not_mem (outside : ∀ stored ∈ stores, stored.1 ≠ gpa) :
    overlay view stores gpa = view gpa := by
  induction stores generalizing view with
  | nil => rfl
  | cons stored rest ih =>
    have hother := outside stored List.mem_cons_self
    have hrest : overlay (Function.update view stored.1 (some stored.2)) rest gpa =
        Function.update view stored.1 (some stored.2) gpa :=
      ih fun later listed => outside later (List.mem_cons_of_mem _ listed)
    exact hrest.trans (Function.update_of_ne (Ne.symm hother) _ _)

/-- Where the same byte was put everywhere, it stands wherever one was put. -/
theorem overlay_of_mem {byte : UInt8} (same : ∀ stored ∈ stores, stored.2 = byte)
    (among : gpa ∈ stores.map Prod.fst) : overlay view stores gpa = some byte := by
  induction stores generalizing view with
  | nil => cases among
  | cons stored rest ih =>
    have hrest := fun later listed => same later (List.mem_cons_of_mem _ listed)
    by_cases later : gpa ∈ rest.map Prod.fst
    · exact ih hrest later
    · have hlast : gpa = stored.1 := by
        rw [List.map_cons, List.mem_cons] at among
        exact among.resolve_right later
      have hkept : overlay (Function.update view stored.1 (some stored.2)) rest gpa =
          Function.update view stored.1 (some stored.2) gpa := by
        refine overlay_of_not_mem fun other listed equal => later ?_
        exact equal ▸ List.mem_map_of_mem listed
      have hbyte := same stored List.mem_cons_self
      subst hlast
      rw [overlay, List.foldl_cons]
      exact hkept.trans (by rw [Function.update_self, hbyte])

/-- Bytes put at different addresses all stand there. -/
theorem map_overlay_zip {places : List UInt64} (distinct : places.Nodup) {bytes : List UInt8}
    (enough : places.length ≤ bytes.length) :
    places.map (overlay view (places.zip bytes)) = (bytes.take places.length).map some := by
  induction places generalizing view bytes with
  | nil => rfl
  | cons place rest ih =>
    cases bytes with
    | nil => simp at enough
    | cons byte bytes =>
      rw [List.nodup_cons] at distinct
      have hfirst : overlay (Function.update view place (some byte)) (rest.zip bytes) place =
          some byte := by
        rw [overlay_of_not_mem, Function.update_self]
        intro stored listed equal
        exact distinct.1 (equal ▸ (List.of_mem_zip listed).1)
      have hrest : rest.map (overlay (Function.update view place (some byte)) (rest.zip bytes)) =
          (bytes.take rest.length).map some := ih distinct.2 (Nat.le_of_succ_le_succ enough)
      rw [List.zip_cons_cons, overlay, List.foldl_cons, ← overlay, List.map_cons, hfirst, hrest,
        List.length_cons, List.take_succ_cons, List.map_cons]

end Overlay

/-- What stands behind the last place makes no difference. -/
theorem zip_take {places : List UInt64} {count : Nat} (short : places.length ≤ count)
    (bytes : List UInt8) : places.zip (bytes.take count) = places.zip bytes := by
  have hlength : (places.zip bytes).length ≤ count := by
    rw [List.length_zip]
    omega
  rw [← List.take_of_length_le hlength, List.zip, List.take_zipWith, List.take_of_length_le short]

/-- The next address, where there is one. -/
theorem toNat_add_one {gpa : UInt64} (fits : gpa.toNat + 1 < UInt64.size) :
    (gpa + 1).toNat = gpa.toNat + 1 :=
  toNat_add_ofNat fits

/-- A span that is not empty starts with its first address. -/
theorem span_succ (start : UInt64) (width : Nat) :
    span start (width + 1) = start :: span (start + 1) width := by
  rw [Nat.add_comm, span_add]
  have hone : span start 1 = [start] := by
    simp [span]
  rw [hone]
  rfl

namespace Region

variable {region : Region} {gpa : UInt64}

/-- Storing no bytes changes nothing. -/
theorem write_nil (region : Region) (gpa : UInt64) : (region.write gpa []).2 = region := by
  unfold write
  split
  · rename_i storage backed
    show { region with backing := .ram (storage.store _ (List.take _ [])) } = region
    rw [List.take_nil]
    show { region with backing := .ram storage } = region
    rw [← backed]
  · rfl
  · rfl

/-- What there is no room for makes no difference. -/
theorem write_take (region : Region) (gpa : UInt64) (bytes : List UInt8) :
    (region.write gpa (bytes.take (region.roomFrom gpa).toNat)).2 = (region.write gpa bytes).2 := by
  unfold write
  rw [List.take_take, Nat.min_self]

/-- How many bytes a write can store from an address of the region on. -/
def storeRoom (region : Region) (gpa : UInt64) : Nat :=
  match region.backing with
  | .ram _ => (region.roomFrom gpa).toNat
  | .rom _ | .window => 0

/-- A write leaves the room for writes as it is. -/
theorem storeRoom_write (region : Region) (gpa : UInt64) (bytes : List UInt8) (other : UInt64) :
    (region.write gpa bytes).2.storeRoom other = region.storeRoom other := by
  cases backed : region.backing <;> simp only [storeRoom, write, backed, roomFrom, stop]

/-- Storing several bytes is storing the first one and then the others, as far as there is room. -/
theorem write_cons (bounded : region.base.toNat + region.size.toNat < UInt64.size)
    (inside : region.contains gpa = true) {byte : UInt8} {rest : List UInt8}
    (within : rest.length < (region.roomFrom gpa).toNat) :
    (region.write gpa (byte :: rest)).2 = ((region.write gpa [byte]).2.write (gpa + 1) rest).2 := by
  have hroom := toNat_roomFrom bounded inside
  have hbounds := (contains_iff bounded).1 inside
  have hstop := toNat_stop bounded
  have hnext : (gpa + 1).toNat = gpa.toNat + 1 := toNat_add_one (by omega)
  have hoffset : (region.offsetOf (gpa + 1)).toNat = (region.offsetOf gpa).toNat + 1 := by
    rw [toNat_offsetOf (by omega), toNat_offsetOf (by omega), hnext]
    omega
  have hleft : (region.roomFrom (gpa + 1)).toNat = (region.roomFrom gpa).toNat - 1 := by
    have hordered : gpa + 1 ≤ region.stop := by
      rw [UInt64.le_iff_toNat_le]
      omega
    rw [roomFrom, UInt64.toNat_sub_of_le _ _ hordered]
    omega
  cases backed : region.backing with
  | ram storage =>
    have hall : (byte :: rest).take (region.roomFrom gpa).toNat = byte :: rest :=
      List.take_of_length_le within
    have hone : [byte].take (region.roomFrom gpa).toNat = [byte] :=
      List.take_of_length_le (by rw [List.length_singleton]; omega)
    have hrest : rest.take (region.roomFrom (gpa + 1)).toNat = rest :=
      List.take_of_length_le (by omega)
    simp only [write, backed, hall, hone]
    simp only [roomFrom, stop, offsetOf] at hrest hoffset ⊢
    rw [hrest, hoffset]
    rfl
  | rom storage => simp only [write, backed]
  | window => simp only [write, backed]

end Region

namespace Memory

variable {memory : Memory} {gpa : UInt64}

/-- How many bytes a write can store from an address on. -/
def writeReach (memory : Memory) (gpa : UInt64) : Nat :=
  match memory.regionAt? gpa with
  | none => 0
  | some region => region.storeRoom gpa

/-- A write stores what is offered, as far as its region reaches. -/
theorem write_fst_eq (memory : Memory) (gpa : UInt64) (bytes : List UInt8) :
    (memory.write gpa bytes).1 = min bytes.length (memory.writeReach gpa) := by
  rw [write_fst, writeReach]
  cases memory.regionAt? gpa with
  | none => exact (Nat.min_zero _).symm
  | some region =>
    cases backed : region.backing <;>
      simp only [Region.write, Region.storeRoom, backed, List.length_take, Nat.min_comm, Nat.min_zero]

/-- Reads reach at least as far as writes. -/
theorem writeReach_le_readReach (memory : Memory) (gpa : UInt64) :
    memory.writeReach gpa ≤ memory.readReach gpa := by
  rw [writeReach, readReach]
  cases memory.regionAt? gpa with
  | none => exact Nat.le_refl _
  | some region =>
    cases backed : region.backing <;> simp [Region.storeRoom, Backing.storage?, backed]

/-- Where a write can store a byte, a memory region holds the address. -/
theorem exists_region_of_writeReach_pos (reached : 0 < memory.writeReach gpa) :
    ∃ region storage, memory.regionAt? gpa = some region ∧ region.backing = .ram storage ∧
      memory.writeReach gpa = (region.roomFrom gpa).toNat := by
  unfold writeReach at reached ⊢
  cases found : memory.regionAt? gpa with
  | none =>
    simp only [found] at reached
    omega
  | some region =>
    simp only [found, Region.storeRoom] at reached ⊢
    cases backed : region.backing with
    | ram storage => exact ⟨region, storage, rfl, backed, rfl⟩
    | rom storage =>
      simp only [backed] at reached
      omega
    | window =>
      simp only [backed] at reached
      omega

/-- Writes reach to the end of a span in memory. -/
theorem HoldsRam.le_writeReach {size : Nat} (ram : memory.HoldsRam gpa size)
    (wellFormed : memory.WellFormed) : size ≤ memory.writeReach gpa := by
  by_cases nonempty : 0 < size
  · obtain ⟨region, storage, hfound, hbacked, hroom⟩ := ram.regionAt? wellFormed nonempty
    simpa only [writeReach, hfound, Region.storeRoom, hbacked] using hroom
  · omega

/-- No read reaches beyond the 64-bit addresses. -/
theorem WellFormed.readReach_fits (wellFormed : memory.WellFormed) (gpa : UInt64) :
    gpa.toNat + memory.readReach gpa < UInt64.size := by
  have hgpa := gpa.toNat_lt_size
  unfold readReach
  cases found : memory.regionAt? gpa with
  | none => exact hgpa
  | some region =>
    have hbounds := wellFormed.regionAt?_bounds found
    have hbounded := wellFormed.bounded region (mem_of_regionAt? found)
    dsimp only
    split <;> omega

/-- Nor does a write. -/
theorem WellFormed.writeReach_fits (wellFormed : memory.WellFormed) (gpa : UInt64) :
    gpa.toNat + memory.writeReach gpa < UInt64.size := by
  have hread := wellFormed.readReach_fits gpa
  have hreach := memory.writeReach_le_readReach gpa
  omega

/-- From a later address of the same region on, a write reaches to the same end. -/
theorem WellFormed.writeReach_add (wellFormed : memory.WellFormed) {offset : Nat}
    (inside : offset < memory.writeReach gpa) :
    memory.writeReach (gpa + UInt64.ofNat offset) = memory.writeReach gpa - offset := by
  obtain ⟨region, storage, found, backed, reach⟩ :=
    exists_region_of_writeReach_pos (Nat.zero_lt_of_lt inside)
  have hlisted := mem_of_regionAt? found
  have hbounded := (wellFormed.bounded region hlisted).2
  have hholds := contains_of_regionAt? found
  have hroom := Region.toNat_roomFrom hbounded hholds
  have hbounds := (Region.contains_iff hbounded).1 hholds
  have haddress : (gpa + UInt64.ofNat offset).toNat = gpa.toNat + offset :=
    toNat_add_ofNat (by omega)
  have hlater : region.contains (gpa + UInt64.ofNat offset) = true := by
    rw [Region.contains_iff hbounded]
    omega
  rw [reach, writeReach, wellFormed.regionAt?_eq hlisted hlater]
  simp only [Region.storeRoom, backed]
  rw [Region.toNat_roomFrom hbounded hlater]
  omega

/-- A write leaves the reach of writes as it is. -/
theorem WellFormed.writeReach_write (wellFormed : memory.WellFormed) (gpa : UInt64)
    (bytes : List UInt8) (other : UInt64) :
    (memory.write gpa bytes).2.writeReach other = memory.writeReach other := by
  unfold writeReach
  rw [wellFormed.regionAt?_write]
  cases memory.regionAt? other with
  | none => rfl
  | some region =>
    simp only [Option.map_some]
    split
    · exact region.storeRoom_write gpa bytes other
    · rfl

/-- Storing no bytes changes nothing. -/
theorem WellFormed.write_nil (wellFormed : memory.WellFormed) (gpa : UInt64) :
    (memory.write gpa []).2 = memory := by
  have hregions := wellFormed.regions_write gpa []
  simp only [Region.write_nil, ite_self, List.map_id'] at hregions
  exact congrArg Memory.mk hregions

/-- What a write does not reach makes no difference. -/
theorem WellFormed.write_take (wellFormed : memory.WellFormed) (gpa : UInt64)
    (bytes : List UInt8) :
    (memory.write gpa (bytes.take (memory.writeReach gpa))).2 = (memory.write gpa bytes).2 := by
  refine congrArg Memory.mk ?_
  show (memory.write gpa _).2.regions = (memory.write gpa bytes).2.regions
  rw [wellFormed.regions_write, wellFormed.regions_write]
  refine List.map_congr_left fun region listed => ?_
  by_cases inside : region.contains gpa = true
  · rw [if_pos inside, if_pos inside, writeReach, wellFormed.regionAt?_eq listed inside]
    dsimp only [Region.storeRoom]
    cases backed : region.backing with
    | ram storage => exact region.write_take gpa bytes
    | rom storage => simp only [Region.write, backed]
    | window => simp only [Region.write, backed]
  · rw [if_neg inside, if_neg inside]

/-- Storing several bytes is storing the first one and then the others, as far as writes reach. -/
theorem WellFormed.write_cons (wellFormed : memory.WellFormed) {byte : UInt8} {rest : List UInt8}
    (within : rest.length < memory.writeReach gpa) :
    (memory.write gpa (byte :: rest)).2 =
      ((memory.write gpa [byte]).2.write (gpa + 1) rest).2 := by
  obtain ⟨found, storage, hfound, -, hreach⟩ :=
    exists_region_of_writeReach_pos (Nat.zero_lt_of_lt within)
  have hfirst := wellFormed.write gpa [byte]
  by_cases alone : rest = []
  · rw [alone, hfirst.write_nil]
  · have hlisted := mem_of_regionAt? hfound
    have hbounded := (wellFormed.bounded found hlisted).2
    have hholds := contains_of_regionAt? hfound
    have hroom := Region.toNat_roomFrom hbounded hholds
    have hbounds := (Region.contains_iff hbounded).1 hholds
    have hmore := List.length_pos_iff.2 alone
    have hnext : (gpa + 1).toNat = gpa.toNat + 1 := toNat_add_one (by omega)
    have hlater : found.contains (gpa + 1) = true := by
      rw [Region.contains_iff hbounded]
      omega
    refine congrArg Memory.mk ?_
    show (memory.write gpa _).2.regions = ((memory.write gpa [byte]).2.write (gpa + 1) rest).2.regions
    rw [hfirst.regions_write, wellFormed.regions_write, wellFormed.regions_write, List.map_map]
    refine List.map_congr_left fun region listed => ?_
    rw [Function.comp_apply]
    -- Only the region found for the first address holds that or the next one.
    by_cases inside : region.contains gpa = true
    · obtain rfl : found = region :=
        Option.some.inj (hfound.symm.trans (wellFormed.regionAt?_eq listed inside))
      rw [if_pos inside, if_pos inside, if_pos (by rw [Region.contains_write, hlater]),
        Region.write_cons hbounded inside (by omega)]
    · have houtside : ¬region.contains (gpa + 1) = true := fun shared => by
        have hsame := (wellFormed.regionAt?_eq listed shared).symm.trans
          (wellFormed.regionAt?_eq hlisted hlater)
        exact inside (Option.some.inj hsame ▸ hholds)
      rw [if_neg inside, if_neg inside, if_neg houtside]

end Memory

namespace AddressSpace

variable {space : AddressSpace} {stores : List (UInt64 × UInt8)} {gpa : UInt64}

/-- Store bytes one after another, each at its address. -/
def storeEach (space : AddressSpace) (stores : List (UInt64 × UInt8)) : AddressSpace :=
  stores.foldl (fun space stored => space.store stored.1 [stored.2]) space

/-- Storing bytes after others is one series. -/
theorem storeEach_append (space : AddressSpace) (first second : List (UInt64 × UInt8)) :
    space.storeEach (first ++ second) = (space.storeEach first).storeEach second :=
  List.foldl_append

/-- A series of stores goes to allowed spans if each address is one. -/
theorem Writes.storeEach {allowed : UInt64 → Nat → Prop} {middle : AddressSpace}
    (earlier : Writes allowed space middle) (here : ∀ stored ∈ stores, allowed stored.1 1) :
    Writes allowed space (middle.storeEach stores) := by
  induction stores generalizing middle with
  | nil => exact earlier
  | cons stored rest ih =>
    have hfirst := earlier.store (here stored List.mem_cons_self) (Nat.le_refl [stored.2].length)
    exact ih hfirst fun later listed => here later (List.mem_cons_of_mem _ listed)

namespace FaultFree

/-- A store injects no fault. -/
theorem store (faultFree : space.FaultFree) (gpa : UInt64) (bytes : List UInt8) :
    (space.store gpa bytes).FaultFree :=
  have hwrites : Writes (fun _ _ => True) space (space.store gpa bytes) :=
    Writes.refl.store trivial (Nat.le_refl _)
  faultFree.of_writes hwrites

/-- Nor does a series of them. -/
theorem storeEach (faultFree : space.FaultFree) (stores : List (UInt64 × UInt8)) :
    (space.storeEach stores).FaultFree :=
  have hwrites : Writes (fun _ _ => True) space (space.storeEach stores) :=
    Writes.refl.storeEach fun _ _ => trivial
  faultFree.of_writes hwrites

/-- Stores leave the reach of writes as it is. -/
theorem writeReach_storeEach (faultFree : space.FaultFree) (stores : List (UInt64 × UInt8)) :
    (space.storeEach stores).memory.writeReach = space.memory.writeReach := by
  induction stores generalizing space with
  | nil => rfl
  | cons stored rest ih =>
    exact (ih (faultFree.store stored.1 [stored.2])).trans
      (funext (faultFree.wellFormed.writeReach_write stored.1 [stored.2]))

/-- And that of reads. -/
theorem readReach_storeEach (faultFree : space.FaultFree) (stores : List (UInt64 × UInt8)) :
    (space.storeEach stores).memory.readReach = space.memory.readReach :=
  have hwrites : Writes (fun _ _ => True) space (space.storeEach stores) :=
    Writes.refl.storeEach fun _ _ => trivial
  funext (hwrites.readReach_eq faultFree.wellFormed)

/-- A store that writes reach is a series of stores of one byte each. -/
theorem store_eq_storeEach (faultFree : space.FaultFree) {bytes : List UInt8}
    (within : bytes.length ≤ space.memory.writeReach gpa) :
    space.store gpa bytes = space.storeEach ((span gpa bytes.length).zip bytes) := by
  induction bytes generalizing space gpa with
  | nil =>
    show { space with memory := (space.memory.write gpa []).2 } = space
    rw [faultFree.wellFormed.write_nil]
  | cons byte rest ih =>
    rw [List.length_cons] at within
    have hfirst : space.store gpa (byte :: rest) =
        (space.store gpa [byte]).store (gpa + 1) rest := by
      simp only [AddressSpace.store, faultFree.wellFormed.write_cons within]
    have hreach : rest.length ≤ (space.store gpa [byte]).memory.writeReach (gpa + 1) := by
      by_cases alone : rest.length = 0
      · omega
      · have hmore : 1 < space.memory.writeReach gpa := by omega
        have hadd : space.memory.writeReach (gpa + 1) = space.memory.writeReach gpa - 1 :=
          faultFree.wellFormed.writeReach_add hmore
        have hkept := faultFree.wellFormed.writeReach_write gpa [byte] (gpa + 1)
        show rest.length ≤ (space.memory.write gpa [byte]).2.writeReach (gpa + 1)
        rw [hkept]
        omega
    rw [hfirst, ih (faultFree.store gpa [byte]) hreach, List.length_cons, span_succ,
      List.zip_cons_cons]
    rfl

/-- So a device's write is such a series, as far as writes reach. -/
theorem write_eq_storeEach (faultFree : space.FaultFree) (gpa : UInt64) (bytes : List UInt8) :
    space.write gpa bytes = (min bytes.length (space.memory.writeReach gpa),
      space.storeEach ((span gpa (min bytes.length (space.memory.writeReach gpa))).zip bytes)) := by
  generalize hreach : space.memory.writeReach gpa = reach
  have hlength : (bytes.take reach).length = min bytes.length reach := by
    rw [List.length_take, Nat.min_comm]
  have hstored : space.store gpa bytes = space.store gpa (bytes.take reach) := by
    simp only [AddressSpace.store, ← hreach, faultFree.wellFormed.write_take]
  have hshort : (span gpa (min bytes.length reach)).length ≤ reach := by
    rw [length_span]
    omega
  rw [faultFree.write_eq, Memory.write_fst_eq, hreach, hstored,
    faultFree.store_eq_storeEach (by rw [hlength, hreach]; omega), hlength, zip_take hshort]

/-- So a store can be made in two parts as well, one behind the other. -/
theorem store_append (faultFree : space.FaultFree) {first second : List UInt8}
    (within : (first ++ second).length ≤ space.memory.writeReach gpa) :
    space.store gpa (first ++ second) =
      (space.store gpa first).store (gpa + UInt64.ofNat first.length) second := by
  have htotal := within
  rw [List.length_append] at htotal
  have hfirst : first.length ≤ space.memory.writeReach gpa := by omega
  have hsecond : second.length ≤
      (space.store gpa first).memory.writeReach (gpa + UInt64.ofNat first.length) := by
    by_cases more : 0 < second.length
    · show _ ≤ (space.memory.write gpa first).2.writeReach _
      rw [faultFree.wellFormed.writeReach_write, faultFree.wellFormed.writeReach_add (by omega)]
      omega
    · omega
  rw [(faultFree.store gpa first).store_eq_storeEach hsecond, faultFree.store_eq_storeEach hfirst,
    faultFree.store_eq_storeEach within, List.length_append, span_add,
    List.zip_append (length_span _ _), storeEach_append]

/-- A write behind what was stored continues the store. -/
theorem writeAll_store (faultFree : space.FaultFree) {first second : List UInt8}
    (ram : space.memory.HoldsRam gpa (first ++ second).length) :
    (space.store gpa first).writeAll (gpa + UInt64.ofNat first.length) second =
      (.ok (), space.store gpa (first ++ second)) := by
  have hfits := ram.fits faultFree.wellFormed
  have hreach := ram.le_writeReach faultFree.wellFormed
  rw [List.length_append] at hfits ram
  have hnext : (gpa + UInt64.ofNat first.length).toNat = gpa.toNat + first.length :=
    toNat_add_ofNat (by omega)
  have hram : (space.store gpa first).memory.HoldsRam (gpa + UInt64.ofNat first.length)
      second.length := (ram.write faultFree.wellFormed gpa first).part (by omega) (by omega)
  rw [(faultFree.store gpa first).writeAll_eq hram, faultFree.store_append hreach]

/-- A byte stored where writes reach stands at its address, and no other changes. -/
theorem byteAt?_store_singleton (faultFree : space.FaultFree)
    (reached : 0 < space.memory.writeReach gpa) (byte : UInt8) :
    (space.store gpa [byte]).byteAt? = Function.update space.byteAt? gpa (some byte) := by
  have hcount : (space.memory.write gpa [byte]).1 = 1 := by
    rw [Memory.write_fst_eq, List.length_singleton]
    omega
  funext other
  rw [AddressSpace.byteAt?, AddressSpace.store, faultFree.wellFormed.byteAt?_write, hcount]
  by_cases here : other = gpa
  · subst here
    rw [Function.update_self, if_pos (by omega), Nat.sub_self]
    rfl
  · rw [Function.update_of_ne here, if_neg]
    · rfl
    · intro between
      exact here (UInt64.toNat_inj.1 (by omega))

/-- What a series of stores leaves, if writes reach every address. -/
theorem byteAt?_storeEach (faultFree : space.FaultFree)
    (reached : ∀ stored ∈ stores, 0 < space.memory.writeReach stored.1) :
    (space.storeEach stores).byteAt? = overlay space.byteAt? stores := by
  induction stores generalizing space with
  | nil => rfl
  | cons stored rest ih =>
    have hfirst := faultFree.byteAt?_store_singleton (reached stored List.mem_cons_self) stored.2
    have hkept := faultFree.wellFormed.writeReach_write stored.1 [stored.2]
    have hrest := ih (faultFree.store stored.1 [stored.2]) fun later listed => by
      show 0 < (space.memory.write stored.1 [stored.2]).2.writeReach later.1
      rw [hkept]
      exact reached later (List.mem_cons_of_mem _ listed)
    rw [hfirst] at hrest
    exact hrest

end FaultFree

end AddressSpace

end Paravirt

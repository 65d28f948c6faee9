import Paravirt.Proofs.Segment.Prefix

/-!
# Reading back what was written to segments

Segments that share no address give back what was written to them. Reads reach at least as far as
writes, so nothing stops a read before it has come as far as the write did, wherever that one was
stopped: behind the end of a region, in fixed contents or where nothing is. And as no address that the
write came to occurs twice, no later byte has replaced an earlier one.
-/

namespace Paravirt

/-- Segments are apart if one of them ends before the other starts. -/
theorem Segment.apart_of_le {first second : Segment}
    (ordered : first.address.toNat + first.length.toNat ≤ second.address.toNat ∨
      second.address.toNat + second.length.toNat ≤ first.address.toNat) : first.Apart second := by
  intro gpa hfirst hsecond
  simp only [Covers, InSpan] at hfirst hsecond
  omega

namespace AddressSpace

open Segment (addresses reached served)

variable {space : AddressSpace} {segments : List Segment} {bytes buffer : List UInt8}

namespace FaultFree

/-- A read of no more bytes than were just written comes to as many of the same addresses. -/
theorem reached_readReach (faultFree : space.FaultFree)
    (within : buffer.length ≤ (space.scatter segments bytes).1) :
    reached (space.scatter segments bytes).2.memory.readReach segments buffer.length =
      (reached space.memory.writeReach segments bytes.length).take buffer.length := by
  rw [faultFree.scatter_eq] at within ⊢
  rw [faultFree.readReach_storeEach, reached,
    Segment.served_eq_of_le space.memory.writeReach_le_readReach within, reached, List.take_take,
    Nat.min_eq_left within]

/-- Segments that are apart give back the first bytes written to them, as many as are asked for and
were written. -/
theorem gatherInto_scatter (faultFree : space.FaultFree) (apart : segments.Pairwise Segment.Apart)
    (within : buffer.length ≤ (space.scatter segments bytes).1) :
    (space.scatter segments bytes).2.gatherInto segments buffer =
      (buffer.length, bytes.take buffer.length) := by
  generalize hplaces : reached space.memory.writeReach segments bytes.length = places
  have hcount : (space.scatter segments bytes).1 = places.length := by
    rw [faultFree.scatter_eq, ← hplaces, Segment.length_reached]
  have hlast : (space.scatter segments bytes).2.FaultFree := by
    rw [faultFree.scatter_eq]
    exact faultFree.storeEach _
  have hdistinct : places.Nodup := by
    rw [← hplaces]
    exact (Segment.unwrapped_served faultFree.wellFormed.writeReach_fits _ _).nodup apart
  have henough : places.length ≤ bytes.length := by
    have hle := Segment.served_le space.memory.writeReach segments bytes.length
    rw [← hplaces, Segment.length_reached]
    omega
  -- The bytes read are the ones that stand at the addresses written first.
  have hread : ((space.scatter segments bytes).2.gather segments buffer.length).map some =
      (bytes.take buffer.length).map some := by
    rw [hlast.map_some_gather_eq, faultFree.reached_readReach within, faultFree.byteAt?_scatter,
      hplaces, List.map_take, map_overlay_zip hdistinct henough, ← List.map_take, List.take_take,
      Nat.min_eq_left (hcount ▸ within)]
  have hbytes := (List.map_inj_right fun _ _ equal => Option.some.inj equal).1 hread
  have hlength : (bytes.take buffer.length).length = buffer.length := by
    rw [List.length_take]
    omega
  rw [gatherInto, hbytes, hlength, List.drop_length, List.append_nil]

end FaultFree

/-- Memory that was built gives back over segments that are apart what was written to them, after every
series of accesses and wherever the write stopped. -/
theorem gatherInto_scatter_of_build {specs : List RegionSpec} {hostBase : UInt64} {memory : Memory}
    (built : Memory.build specs hostBase = .ok memory) (accesses : List MemoryAccess)
    (apart : segments.Pairwise Segment.Apart) (bytes : List UInt8)
    (within : buffer.length ≤
      ((accesses.foldl MemoryAccess.apply { memory }).scatter segments bytes).1) :
    ((accesses.foldl MemoryAccess.apply { memory }).scatter segments bytes).2.gatherInto segments
      buffer = (buffer.length, bytes.take buffer.length) := by
  have hrecalls := (Recalls.of_build built).foldl accesses
  exact (FaultFree.of_recalls hrecalls (mapOverride_foldl _ accesses)).gatherInto_scatter apart within

/-- In memory built from the mixed map, what a write moved before it stopped within a segment that runs
past the end of its region is read back in full and in part. -/
theorem gatherInto_scatter_mixedMemory :
    let space : AddressSpace :=
      [MemoryAccess.write 0x2ffd [7, 8, 9]].foldl MemoryAccess.apply { memory := mixedMemory }
    let segments : List Segment := [⟨0x2ffe, 2, .toGuest⟩, ⟨0xdead0000, 0, .toGuest⟩,
      ⟨0x2800, 3, .toGuest⟩, ⟨0x30fe, 4, .toGuest⟩, ⟨0x1ffc, 4, .toGuest⟩]
    let written := space.scatter segments [1, 2, 3, 4, 5, 6, 7, 8, 9]
    Memory.build mixedMap Memory.defaultHostBase = .ok mixedMemory ∧
      segments.Pairwise Segment.Apart ∧ written.1 = 7 ∧
      written.2.gatherInto segments [0, 0, 0, 0, 0, 0, 0] = (7, [1, 2, 3, 4, 5, 6, 7]) ∧
      written.2.gatherInto segments [0, 0, 0] = (3, [1, 2, 3]) := by
  intro space segments written
  have hbuilt : Memory.build mixedMap Memory.defaultHostBase = .ok mixedMemory := rfl
  have hapart : segments.Pairwise Segment.Apart := by
    refine List.Pairwise.imp Segment.apart_of_le ?_
    simp only [segments]
    decide
  have hcount : written.1 = 7 := by decide +kernel
  refine ⟨hbuilt, hapart, hcount, ?_, ?_⟩
  · exact gatherInto_scatter_of_build hbuilt _ hapart _ (Nat.le_of_eq hcount.symm)
  · exact gatherInto_scatter_of_build hbuilt _ hapart _ (by rw [hcount]; decide)

end AddressSpace

end Paravirt

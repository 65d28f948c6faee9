import Paravirt.Proofs.Segment.Clearing

/-!
# Clearing segments and writing zeros to them

Clearing a segment comes as far as one write of zeros does, and farther in one case only. As each chunk
is a write of its own, clearing goes on behind the end of a memory region if the chunks end there
exactly and another memory region follows at once, while a single write stops with its region. So the
two agree unless the first segment that no single write serves in full is placed just so.
-/

namespace Paravirt

open AddressSpace (zeroChunk)

namespace Segment

variable {room : UInt64 → Nat} {gpa : UInt64} {chunks : Nat}

/-- Chunks come as far as a single write, if there are enough of them. -/
theorem Continued.min_le_chunkRoom (continued : Continued room) :
    min (zeroChunk * chunks) (room gpa) ≤ chunkRoom room chunks gpa := by
  induction chunks generalizing gpa with
  | zero => exact Nat.min_le_left _ _
  | succ chunks ih =>
    rw [Nat.mul_succ]
    rcases Nat.lt_trichotomy (room gpa) zeroChunk with short | ends | more
    · rw [chunkRoom_of_lt short]
      exact Nat.min_le_right _ _
    · rw [chunkRoom_of_le (Nat.le_of_eq ends.symm)]
      omega
    · have hrest : min (zeroChunk * chunks) (room (gpa + UInt64.ofNat zeroChunk)) ≤
          chunkRoom room chunks (gpa + UInt64.ofNat zeroChunk) := ih
      rw [continued gpa zeroChunk more] at hrest
      rw [chunkRoom_of_le (Nat.le_of_lt more)]
      omega

/-- Where one write must stop, the next chunk goes on: the chunks end there exactly, and there is room
behind. -/
def Resumes (room : UInt64 → Nat) (gpa : UInt64) : Prop :=
  0 < room gpa ∧ zeroChunk ∣ room gpa ∧ 0 < room (gpa + UInt64.ofNat (room gpa))

instance (room : UInt64 → Nat) (gpa : UInt64) : Decidable (Resumes room gpa) :=
  inferInstanceAs (Decidable (0 < room gpa ∧ zeroChunk ∣ room gpa ∧
    0 < room (gpa + UInt64.ofNat (room gpa))))

/-- Chunks come farther than a single write only there. -/
theorem Continued.lt_chunkRoom_iff (continued : Continued room)
    (enough : room gpa < zeroChunk * chunks) :
    room gpa < chunkRoom room chunks gpa ↔ Resumes room gpa := by
  induction chunks generalizing gpa with
  | zero => exact absurd enough (Nat.not_lt_zero _)
  | succ chunks ih =>
    rw [Nat.mul_succ] at enough
    rcases Nat.lt_trichotomy (room gpa) zeroChunk with short | ends | more
    · rw [chunkRoom_of_lt short]
      refine iff_of_false (Nat.lt_irrefl _) fun ⟨here, multiple, _⟩ => ?_
      exact Nat.not_lt.2 (Nat.le_of_dvd here multiple) short
    · obtain ⟨further, rfl⟩ : ∃ further, chunks = further + 1 :=
        Nat.exists_eq_succ_of_ne_zero fun nothing => by
          rw [nothing] at enough
          omega
      rw [chunkRoom_of_le (Nat.le_of_eq ends.symm), Resumes, ends, Nat.lt_add_right_iff_pos,
        chunkRoom_pos]
      exact ⟨fun behind => ⟨by decide, Nat.dvd_refl _, behind⟩, fun resumes => resumes.2.2⟩
    · have hnext := continued gpa zeroChunk more
      have hrest : room (gpa + UInt64.ofNat zeroChunk) <
          chunkRoom room chunks (gpa + UInt64.ofNat zeroChunk) ↔
            Resumes room (gpa + UInt64.ofNat zeroChunk) := ih (by omega)
      rw [hnext] at hrest
      rw [chunkRoom_of_le (Nat.le_of_lt more), ← Nat.sub_lt_iff_lt_add' (Nat.le_of_lt more), hrest,
        Resumes, Resumes, hnext, UInt64.add_assoc, ← UInt64.ofNat_add,
        Nat.add_sub_cancel' (Nat.le_of_lt more), Nat.dvd_sub_self_right]
      omega

/-- There is room for clearing segments where there is room for writing them. -/
theorem Continued.fitting_clearRoom (continued : Continued room) {segments : List Segment}
    (fitting : ∀ segment ∈ segments, segment.length.toNat ≤ room segment.address) :
    ∀ segment ∈ segments, segment.length.toNat ≤ clearRoom room segment.address := by
  intro segment listed
  have hboth := Nat.le_min.2 ⟨segment.length_le_chunks, fitting segment listed⟩
  exact hboth.trans continued.min_le_chunkRoom

/-- At a segment for which there is no room, clearing comes at least as far as a write, and just as far
exactly if it does not go on behind the end of the region. -/
theorem Continued.le_served_clearRoom (continued : Continued room) {segment : Segment}
    (short : room segment.address < segment.length.toNat) (later : List Segment) :
    room segment.address ≤ served (clearRoom room) (segment :: later) (total (segment :: later)) ∧
      (served (clearRoom room) (segment :: later) (total (segment :: later)) =
        room segment.address ↔ ¬Resumes room segment.address) := by
  have henough := Nat.lt_of_lt_of_le short segment.length_le_chunks
  have hwritten : min (zeroChunk * 2 ^ 28) (room segment.address) ≤
      clearRoom room segment.address := continued.min_le_chunkRoom
  have hresumes : room segment.address < clearRoom room segment.address ↔
      Resumes room segment.address := continued.lt_chunkRoom_iff henough
  rw [← hresumes]
  by_cases fitting : segment.length.toNat ≤ clearRoom room segment.address
  · rw [served_total_of_le fitting]
    omega
  · rw [served_total_of_lt (Nat.lt_of_not_le fitting)]
    omega

/-- Clearing segments comes at least as far as writing them. -/
theorem Continued.served_le_served_clearRoom (continued : Continued room) (segments : List Segment) :
    served room segments (total segments) ≤ served (clearRoom room) segments (total segments) := by
  rcases fitting_or_exists_short room segments with
    fitting | ⟨earlier, segment, later, rfl, fitting, short⟩
  · rw [served_of_fitting fitting, served_of_fitting (continued.fitting_clearRoom fitting)]
  · have hhere := continued.le_served_clearRoom short later
    rw [served_of_short fitting short, total_append,
      served_append (continued.fitting_clearRoom fitting)]
    omega

/-- It comes just as far exactly if it does not go on behind the end of the region at the first segment
for which there is no room. -/
theorem Continued.served_clearRoom_eq_iff (continued : Continued room) (segments : List Segment) :
    served (clearRoom room) segments (total segments) = served room segments (total segments) ↔
      ∀ earlier segment later, segments = earlier ++ segment :: later →
        (∀ other ∈ earlier, other.length.toNat ≤ room other.address) →
        room segment.address < segment.length.toNat → ¬Resumes room segment.address := by
  have hshort {earlier later : List Segment} {segment : Segment}
      (fitting : ∀ other ∈ earlier, other.length.toNat ≤ room other.address)
      (short : room segment.address < segment.length.toNat) :
      served (clearRoom room) (earlier ++ segment :: later) (total (earlier ++ segment :: later)) =
        served room (earlier ++ segment :: later) (total (earlier ++ segment :: later)) ↔
          ¬Resumes room segment.address := by
    rw [← (continued.le_served_clearRoom short later).2, served_of_short fitting short, total_append,
      served_append (continued.fitting_clearRoom fitting), Nat.add_left_cancel_iff]
  constructor
  · rintro same earlier segment later rfl fitting short
    exact (hshort fitting short).1 same
  · intro stops
    rcases fitting_or_exists_short room segments with
      fitting | ⟨earlier, segment, later, rfl, fitting, short⟩
    · rw [served_of_fitting fitting, served_of_fitting (continued.fitting_clearRoom fitting)]
    · exact (hshort fitting short).2 (stops earlier segment later rfl fitting short)

end Segment

namespace AddressSpace

open Segment (clearRoom reached served)

variable {space : AddressSpace}

/-- Writing zeros to segments clears them as far as single writes reach. -/
theorem FaultFree.scatter_zeros (faultFree : space.FaultFree) (segments : List Segment) :
    space.scatter segments (List.replicate (Segment.total segments) 0) =
      (served space.memory.writeReach segments (Segment.total segments),
        space.clear (reached space.memory.writeReach segments (Segment.total segments))) := by
  have henough : (reached space.memory.writeReach segments (Segment.total segments)).length ≤
      Segment.total segments := by
    rw [Segment.length_reached]
    exact Nat.le_trans (Segment.served_le _ _ _) (Nat.min_le_right _ _)
  rw [faultFree.scatter_eq, List.length_replicate, zip_replicate_zero henough, AddressSpace.clear]

/-- Where clearing segments of declared memory and writing zeros to them agree. -/
structure ClearsLikeZeros (space : AddressSpace) (specs : List RegionSpec)
    (segments : List Segment) : Prop where
  /-- No fewer bytes are cleared than zeros are stored. -/
  atLeast : (space.scatter segments (List.replicate (Segment.total segments) 0)).1 ≤
    (space.zeroFill segments).1
  /-- Where the counts are the same, what is left is. -/
  counted : (space.zeroFill segments).1 =
      (space.scatter segments (List.replicate (Segment.total segments) 0)).1 →
    space.zeroFill segments = space.scatter segments (List.replicate (Segment.total segments) 0)
  /-- Both are the same exactly if the first segment that no single write serves in full, if there is
  one, is not one at which clearing goes on: its memory region does not end a positive number of whole
  chunks behind the start of the segment, or no other memory region follows there at once. -/
  agrees_iff : space.zeroFill segments =
      space.scatter segments (List.replicate (Segment.total segments) 0) ↔
    ∀ earlier segment later, segments = earlier ++ segment :: later →
      (∀ other ∈ earlier, other.length.toNat ≤ RegionSpec.writeRoom specs other.address) →
      RegionSpec.writeRoom specs segment.address < segment.length.toNat →
        ¬Segment.Resumes (RegionSpec.writeRoom specs) segment.address

/-- It is so for any segments of declared memory without limits. -/
theorem FaultFree.clearsLikeZeros {specs : List RegionSpec} (faultFree : space.FaultFree)
    (declared : space.memory.DeclaredBy specs) (segments : List Segment) :
    space.ClearsLikeZeros specs segments := by
  have hwrites : space.memory.writeReach = RegionSpec.writeRoom specs :=
    funext declared.writeReach_eq
  have hcounted : (space.zeroFill segments).1 =
        (space.scatter segments (List.replicate (Segment.total segments) 0)).1 →
      space.zeroFill segments =
        space.scatter segments (List.replicate (Segment.total segments) 0) := by
    rw [faultFree.zeroFill_eq, faultFree.scatter_zeros, reached, reached]
    intro same
    dsimp only at same
    rw [same]
  refine ⟨?_, hcounted, ?_⟩
  · rw [faultFree.zeroFill_eq, faultFree.scatter_zeros]
    exact faultFree.continued_writeReach.served_le_served_clearRoom segments
  · rw [← hwrites, ← faultFree.continued_writeReach.served_clearRoom_eq_iff]
    refine ⟨fun same => ?_, fun same => hcounted ?_⟩
    · have hcount := congrArg Prod.fst same
      rwa [faultFree.zeroFill_eq, faultFree.scatter_zeros] at hcount
    · rwa [faultFree.zeroFill_eq, faultFree.scatter_zeros]

/-- And so for memory that was built, after every series of accesses. -/
theorem clearsLikeZeros_of_build {specs : List RegionSpec} {hostBase : UInt64} {memory : Memory}
    (built : Memory.build specs hostBase = .ok memory) (accesses : List MemoryAccess)
    (segments : List Segment) :
    ClearsLikeZeros (accesses.foldl MemoryAccess.apply { memory }) specs segments := by
  have hrecalls := (Recalls.of_build built).foldl accesses
  exact (FaultFree.of_recalls hrecalls (mapOverride_foldl _ accesses)).clearsLikeZeros
    hrecalls.declared segments

/-- In memory built from the mixed map, a segment whose chunks do not end with its region is cleared as
far as a write stores zeros to it, and other memory behind the region is left alone by both. -/
theorem clearsLikeZeros_mixedMemory :
    let accesses : List MemoryAccess := [.write 0x2fff [7], .write 0x3000 [8, 9, 10]]
    let space : AddressSpace := accesses.foldl MemoryAccess.apply { memory := mixedMemory }
    let segments : List Segment := [⟨0x2000, 4, .toGuest⟩, ⟨0x2fe8, 40, .toGuest⟩]
    let zeros : List UInt8 := List.replicate (Segment.total segments) 0
    Memory.build mixedMap Memory.defaultHostBase = .ok mixedMemory ∧
      space.ClearsLikeZeros mixedMap segments ∧
      ¬Segment.Resumes (RegionSpec.writeRoom mixedMap) 0x2fe8 ∧
      (space.zeroFill segments).1 = 28 ∧ space.zeroFill segments = space.scatter segments zeros ∧
      (space.zeroFill segments).2.readInto 0x3000 [255, 255, 255] = (3, [8, 9, 10]) := by
  have hbuilt : Memory.build mixedMap Memory.defaultHostBase = .ok mixedMemory := rfl
  have hlike := clearsLikeZeros_of_build hbuilt [.write 0x2fff [7], .write 0x3000 [8, 9, 10]]
    [⟨0x2000, 4, .toGuest⟩, ⟨0x2fe8, 40, .toGuest⟩]
  exact ⟨hbuilt, hlike, by decide +kernel, by decide +kernel, hlike.counted (by decide +kernel),
    by decide +kernel⟩

/-- Of a segment whose chunks do end with its region, clearing goes on in the memory that follows and
overwrites what stands there, while writing zeros stops with the region and leaves it. -/
theorem zeroFill_ne_scatter_mixedMemory :
    let accesses : List MemoryAccess := [.write 0x2fff [7], .write 0x3000 [8, 9, 10]]
    let space : AddressSpace := accesses.foldl MemoryAccess.apply { memory := mixedMemory }
    let segments : List Segment := [⟨0x2ff0, 32, .toGuest⟩]
    let zeros : List UInt8 := List.replicate (Segment.total segments) 0
    Memory.build mixedMap Memory.defaultHostBase = .ok mixedMemory ∧
      space.zeroFill segments ≠ space.scatter segments zeros ∧
      (space.zeroFill segments).1 = 32 ∧ (space.scatter segments zeros).1 = 16 ∧
      (space.zeroFill segments).2.readInto 0x3000 [255, 255, 255] = (3, [0, 0, 0]) ∧
      (space.scatter segments zeros).2.readInto 0x3000 [255, 255, 255] = (3, [8, 9, 10]) := by
  intro accesses space segments zeros
  have hcleared : (space.zeroFill segments).1 = 32 := by decide +kernel
  have hwritten : (space.scatter segments zeros).1 = 16 := by decide +kernel
  refine ⟨rfl, fun same => ?_, hcleared, hwritten, by decide +kernel, by decide +kernel⟩
  rw [same, hwritten] at hcleared
  exact absurd hcleared (by decide)

end AddressSpace

end Paravirt

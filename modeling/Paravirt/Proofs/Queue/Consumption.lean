import Paravirt.Proofs.Queue.Arrival
import Paravirt.Proofs.Queue.Draining
import Paravirt.Proofs.Queue.Indirect
import Paravirt.Proofs.Queue.Walk

/-!
# Two ways to take a chain

A device takes the next chain either as a list of its own, after it has looked whether there is one,
or by walking it into a list that it provides, without looking. Where there is a chain and its slot can
be read both collect the same buffers: whatever the table holds and whatever transfers are cut short,
they end alike, in the same failure or with the same chain.
-/

namespace Paravirt

namespace Segment

/-- The bytes on both sides of the first segment that the device writes are all bytes. -/
theorem toNat_totalLength_splitByDirection {segments : List Segment}
    (fits : (segments.map (·.length.toNat)).sum < UInt64.size) :
    (totalLength (splitByDirection segments).1).toNat +
      (totalLength (splitByDirection segments).2).toNat = (totalLength segments).toNat := by
  have hsum : ((splitByDirection segments).1.map (·.length.toNat)).sum +
      ((splitByDirection segments).2.map (·.length.toNat)).sum =
        (segments.map (·.length.toNat)).sum := by
    rw [← List.sum_append, ← List.map_append, splitByDirection_append]
  rw [toNat_totalLength fits, toNat_totalLength (by omega), toNat_totalLength (by omega), hsum]

end Segment

namespace Queue

variable {queue : Queue} {ring : ActiveRing} {space : AddressSpace} {head : UInt16}
  {out : List Segment}

/-- A head that can be read is taken, with the device one slot further. -/
theorem tryPop_eq_of_read (active : queue.ring = some ring)
    (readable : space.read16 (ring.addresses.availableSlot ring.nextSlot) = .ok head) :
    queue.tryPop space = (.ok head, queue.withRing ring.advance) :=
  Prod.ext (tryPop_of_read active readable) (tryPop_snd active space)

section Taken

variable (active : queue.ring = some ring) (wellPlaced : ring.WellPlaced)
  (readable : space.read16 (ring.addresses.availableSlot ring.nextSlot) = .ok head)

include active wellPlaced readable

/-- Taking a chain as a list of its own, in terms of the buffers that are collected. -/
theorem popChain_eq_collect (work : queue.hasWork space = true) : queue.popChain space =
    match Chain.collect (queue.descriptor space) ring.count queue.detectCycles ring.count.toNat
      head with
    | .error error => (.error error, queue.withRing ring.advance, space)
    | .ok segments => (.ok (some ⟨head, segments⟩), queue.withRing ring.advance,
        (ring.advance.writeAvailableEvent space).2) := by
  have hpositive := wellPlaced.count_pos
  have hpopped := congrArg Prod.fst (tryPop_eq_of_read active readable)
  have hcount : min ring.count.toNat ring.advance.count.toNat = ring.count.toNat := Nat.min_self _
  rw [popChain_of_work active work hpopped, walk_eq (ring_withRing _ _) space head (by omega),
    hcount, descriptor_advance active space, detectCycles_withRing]
  dsimp only [ActiveRing.advance]
  cases Chain.collect (queue.descriptor space) ring.count queue.detectCycles ring.count.toNat head
    <;> rfl

/-- Taking a chain into a list with room for every descriptor, in terms of the same buffers. -/
theorem popAndWalk_eq_collect (room : ring.count.toNat ≤ out.length) : queue.popAndWalk space out =
    match Chain.collect (queue.descriptor space) ring.count queue.detectCycles ring.count.toNat
      head with
    | .error error => (.error error, queue.withRing ring.advance, space)
    | .ok segments => (.ok ((⟨head, segments⟩ : Chain).summary,
          segments ++ out.drop segments.length), queue.withRing ring.advance,
        (ring.advance.writeAvailableEvent space).2) := by
  have hnonempty : out ≠ [] := by
    rintro rfl
    exact absurd room (Nat.not_le.2 wellPlaced.count_pos)
  have hcount : min out.length ring.advance.count.toNat = ring.count.toNat := Nat.min_eq_right room
  have hpop : queue.pop space = (head, queue.withRing ring.advance) := by
    rw [pop, tryPop_eq_of_read active readable]
  rw [popAndWalk, hpop]
  dsimp only
  rw [walkInto_eq (ring_withRing _ _) space head hnonempty, hcount, descriptor_advance active space,
    detectCycles_withRing]
  dsimp only [ActiveRing.advance]
  cases Chain.collect (queue.descriptor space) ring.count queue.detectCycles ring.count.toNat head
    <;> rfl

end Taken

/-- Taking the next chain as a list of its own and taking it into a list of the caller come to the
same. -/
structure TakesAlike (queue : Queue) (space : AddressSpace) (out : List Segment) : Prop where
  /-- Both leave the same queue and the same memory. -/
  leaves : (queue.popChain space).2 = (queue.popAndWalk space out).2
  /-- One fails exactly if the other does, and with the same error. -/
  fails : ∀ error,
    (queue.popChain space).1 = .error error ↔ (queue.popAndWalk space out).1 = .error error
  /-- There is a chain to take. -/
  pending : (queue.popChain space).1 ≠ .ok none
  /-- The list of its own is what was put at the start of the caller's list, and the caller is told
  the head, the number of the buffers and their length. -/
  agrees : ∀ chain summary filled, (queue.popChain space).1 = .ok (some chain) →
    (queue.popAndWalk space out).1 = .ok (summary, filled) →
      chain.head = summary.head ∧ chain.segments = filled.take summary.segmentCount ∧
        chain.segments.length = summary.segmentCount ∧ chain.totalLength = summary.totalLength ∧
        filled.drop summary.segmentCount = out.drop summary.segmentCount
  /-- The length is that of all buffers, and of those on both sides of the first one that the device
  writes together. None of the three sums wraps. -/
  totals : ∀ chain, (queue.popChain space).1 = .ok (some chain) →
    chain.totalLength = Segment.totalLength chain.segments ∧
      chain.totalLength.toNat = (chain.segments.map (·.length.toNat)).sum ∧
      (Segment.totalLength (Segment.splitByDirection chain.segments).1).toNat +
        (Segment.totalLength (Segment.splitByDirection chain.segments).2).toNat =
          chain.totalLength.toNat

/-- Both ways to take the next chain come to the same where there is one and its slot can be read. -/
theorem takesAlike (active : queue.ring = some ring) (wellPlaced : ring.WellPlaced)
    (work : queue.hasWork space = true)
    (readable : space.read16 (ring.addresses.availableSlot ring.nextSlot) = .ok head)
    (room : ring.count.toNat ≤ out.length) : queue.TakesAlike space out := by
  have hpopped := popChain_eq_collect active wellPlaced readable work
  have hinto := popAndWalk_eq_collect active wellPlaced readable room
  have hwalked := Chain.walked_collect (queue.descriptor space) ring.count queue.detectCycles head
    wellPlaced.count_pos
  cases hcollect : Chain.collect (queue.descriptor space) ring.count queue.detectCycles
      ring.count.toNat head with
  | error error =>
    rw [hcollect] at hpopped hinto
    refine ⟨by rw [hpopped, hinto], fun other => ?_, ?_, ?_, ?_⟩
    · rw [hpopped, hinto]
      simp
    · rw [hpopped]
      simp
    · intro chain summary filled success
      rw [hpopped] at success
      cases success
    · intro chain success
      rw [hpopped] at success
      cases success
  | ok segments =>
    rw [hcollect] at hpopped hinto hwalked
    refine ⟨by rw [hpopped, hinto], fun other => ?_, ?_, ?_, ?_⟩
    · rw [hpopped, hinto]
      simp
    · rw [hpopped]
      simp
    · intro chain summary filled success success'
      rw [hpopped] at success
      rw [hinto] at success'
      cases success
      cases success'
      exact ⟨rfl, (List.take_left' rfl).symm, rfl, rfl, List.drop_left' rfl⟩
    · intro chain success
      rw [hpopped] at success
      cases success
      obtain ⟨descriptors, -, rfl, within, -⟩ := hwalked.of_ok
      have hbounded := wellPlaced.count_le
      have hsize : UInt32.size = 2 ^ 32 := rfl
      have hsum : ((descriptors.map (·.segment)).map (·.length.toNat)).sum < UInt64.size := by
        apply Segment.sum_lengths_lt
        rw [List.length_map]
        omega
      exact ⟨rfl, Segment.toNat_totalLength hsum, Segment.toNat_totalLength_splitByDirection hsum⟩

/-- Small memory with the table of the small ring and two heads published, one of a chain of three
buffers and one that links out of the table. -/
def pendingSpace : AddressSpace := tableSpace.store 4162 [2, 0, 0, 0, 1, 0]

/-- On the small ring the first chain is taken alike with one place of the list left over, and so are
the second one, which is refused, and the first one where its second descriptor is cut short. -/
theorem takesAlike_smallRing :
    let first : Queue := Queue.withRing { detectCycles := true } smallRing
    let second : Queue := Queue.withRing {} (smallRing.withCursors 1 0)
    let cutSpace := pendingSpace.limitReads 4128 7
    let out := List.replicate 4 Segment.empty
    smallRing.WellPlaced ∧ first.TakesAlike pendingSpace out ∧
      (first.popAndWalk pendingSpace out).1 = .ok (⟨0, 3, 4294967316⟩,
        [⟨8192, 16, .fromGuest⟩, ⟨12288, 4294967295, .toGuest⟩, ⟨16384, 5, .toGuest⟩, .empty]) ∧
      second.TakesAlike pendingSpace out ∧
      (second.popChain pendingSpace).1 = .error (.nextOutOfRange 9) ∧
      first.TakesAlike cutSpace out ∧
      (first.popAndWalk cutSpace out).1 = .error (.ofMemory (.shortRead 4128 16 7)) := by
  have hroom : smallRing.count.toNat ≤ (List.replicate 4 Segment.empty).length := by decide
  have hsecond := wellPlaced_smallRing.withCursors 1 0
  exact ⟨wellPlaced_smallRing, takesAlike rfl wellPlaced_smallRing rfl rfl hroom, rfl,
    takesAlike rfl hsecond rfl rfl hroom, rfl, takesAlike rfl wellPlaced_smallRing rfl rfl hroom, rfl⟩

end Queue

end Paravirt

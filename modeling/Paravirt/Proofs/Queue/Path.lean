import Paravirt.Queue.Chain

/-!
# Chains that end

A chain ends if its links lead through the table to a descriptor without one. The table determines
the way, so such a chain never comes back to one of its descriptors: from there it would end sooner
and later at once. A walk with room for the whole chain therefore gives all its buffers, whether or
not cycles are looked for.
-/

namespace Paravirt

namespace Chain

variable {fetch : UInt16 → Except DeviceError Descriptor} {count : UInt32} {index : UInt16}
  {descriptors descriptors' : List Descriptor}

/-- The descriptors of a chain that ends, from an index on. -/
inductive Path (fetch : UInt16 → Except DeviceError Descriptor) (count : UInt32) :
    UInt16 → List Descriptor → Prop where
  /-- A descriptor without a link is the last one. -/
  | last {index : UInt16} {descriptor : Descriptor} (fetched : fetch index = .ok descriptor)
      (ends : descriptor.hasNext = false) : Path fetch count index [descriptor]
  /-- A link to an index of the table leads to the rest of the chain. -/
  | link {index : UInt16} {descriptor : Descriptor} {further : List Descriptor}
      (fetched : fetch index = .ok descriptor) (links : descriptor.hasNext = true)
      (inside : descriptor.next.toUInt32 < count)
      (rest : Path fetch count descriptor.next further) :
      Path fetch count index (descriptor :: further)

namespace Path

/-- The first descriptor of a chain is the one at its index. -/
theorem fetched (path : Path fetch count index descriptors) :
    ∃ descriptor further, fetch index = .ok descriptor ∧ descriptors = descriptor :: further := by
  cases path with
  | last fetched ends => exact ⟨_, [], fetched, rfl⟩
  | link fetched links inside rest => exact ⟨_, _, fetched, rfl⟩

/-- There is one way from an index. -/
theorem unique (path : Path fetch count index descriptors)
    (path' : Path fetch count index descriptors') : descriptors' = descriptors := by
  induction path generalizing descriptors' with
  | last fetched ends =>
    cases path' with
    | last fetched' ends' =>
      rw [fetched] at fetched'
      cases fetched'
      rfl
    | link fetched' links' inside' rest' =>
      rw [fetched] at fetched'
      cases fetched'
      rw [ends] at links'
      cases links'
  | link fetched links inside rest ih =>
    cases path' with
    | last fetched' ends' =>
      rw [fetched] at fetched'
      cases fetched'
      rw [links] at ends'
      cases ends'
    | link fetched' links' inside' rest' =>
      rw [fetched] at fetched'
      cases fetched'
      rw [ih rest']

end Path

/-- All visited indices start chains that are at least as long as a given one. -/
def Behind (fetch : UInt16 → Except DeviceError Descriptor) (count : UInt32)
    (seen : Option (Std.TreeSet Nat)) (length : Nat) : Prop :=
  ∀ visited ∈ seen, ∀ index : UInt16, index.toNat ∈ visited →
    ∃ earlier, Path fetch count index earlier ∧ length ≤ earlier.length

/-- The next index of a chain that ends is none of those visited. -/
theorem Behind.any_contains_eq_false {seen : Option (Std.TreeSet Nat)} {length : Nat}
    (behind : Behind fetch count seen length) (path : Path fetch count index descriptors)
    (shorter : descriptors.length < length) : seen.any (·.contains index.toNat) = false := by
  rw [Bool.eq_false_iff, Ne, Option.any_eq_true]
  rintro ⟨visited, hvisited, hcontains⟩
  obtain ⟨earlier, hearlier, hlong⟩ := behind visited hvisited index hcontains
  rw [path.unique hearlier] at hlong
  omega

/-- One more index is visited, of a chain that is not shorter. -/
theorem Behind.insert {seen : Option (Std.TreeSet Nat)} {length : Nat}
    (behind : Behind fetch count seen (length + 1)) (path : Path fetch count index descriptors)
    (long : descriptors.length = length) :
    Behind fetch count (seen.map (·.insert index.toNat)) length := by
  intro visited hvisited other hother
  obtain ⟨before, hbefore, rfl⟩ := Option.map_eq_some_iff.1 hvisited
  rcases Std.TreeSet.mem_insert.1 hother with same | already
  · have hindex : index = other := UInt16.toNat_inj.1 (Nat.compare_eq_eq.1 same)
    subst hindex
    exact ⟨descriptors, path, Nat.le_of_eq long.symm⟩
  · obtain ⟨earlier, hearlier, hlong⟩ := behind before hbefore other already
    exact ⟨earlier, hearlier, Nat.le_of_succ_le hlong⟩

/-- Following the links of a chain that ends, with room for it, gives all its buffers. -/
theorem follow_of_path (path : Path fetch count index descriptors) {descriptor : Descriptor}
    (start : fetch index = .ok descriptor) {room : Nat} (fits : descriptors.length ≤ room + 1)
    {seen : Option (Std.TreeSet Nat)} (behind : Behind fetch count seen descriptors.length)
    (found : List Segment) : follow fetch count room seen descriptor found =
      .ok (found.reverse ++ descriptors.map (·.segment)) := by
  induction path generalizing descriptor room seen found with
  | @last _ here fetched ends =>
    rw [fetched] at start
    cases start
    have hlink : link count seen here = .ok none := by
      unfold link
      rw [ends]
      rfl
    unfold follow
    rw [hlink]
    dsimp only
    rw [List.reverse_cons]
    rfl
  | @link _ here further fetched links inside rest ih =>
    rw [fetched] at start
    cases start
    obtain ⟨successor, later, hsuccessor, hfurther⟩ := rest.fetched
    have hfree := behind.any_contains_eq_false rest (Nat.lt_succ_self _)
    have hlink : link count seen here = .ok (some here.next) := by
      unfold link
      rw [links, if_neg (by decide), if_neg (UInt32.not_le.2 inside), hfree,
        if_neg Bool.false_ne_true]
    obtain ⟨left, rfl⟩ : ∃ left, room = left + 1 := by
      refine ⟨room - 1, ?_⟩
      rw [hfurther, List.length_cons, List.length_cons] at fits
      omega
    rw [List.length_cons] at fits
    unfold follow
    rw [hlink]
    dsimp only
    rw [hsuccessor]
    dsimp only
    rw [ih hsuccessor (by omega) (behind.insert rest rfl), List.reverse_cons, List.append_assoc]
    rfl

/-- Collecting a chain that ends, with room for it, gives all its buffers. -/
theorem collect_of_path (path : Path fetch count index descriptors)
    (inside : index.toUInt32 < count)
    (direct : ∀ descriptor ∈ descriptors, descriptor.isIndirect = false) {limit : Nat}
    (fits : descriptors.length ≤ limit) (detectCycles : Bool) :
    collect fetch count detectCycles limit index = .ok (descriptors.map (·.segment)) := by
  obtain ⟨descriptor, further, hfetched, hdescriptors⟩ := path.fetched
  have hdirect : descriptor.isIndirect = false := by
    refine direct descriptor ?_
    rw [hdescriptors]
    exact List.mem_cons_self
  have hbehind : Behind fetch count
      (if detectCycles then some ((∅ : Std.TreeSet Nat).insert index.toNat) else none)
      descriptors.length := by
    cases detectCycles with
    | false =>
      intro visited hvisited
      cases hvisited
    | true =>
      have hnothing : Behind fetch count (some ∅) (descriptors.length + 1) := by
        intro visited hvisited other hother
        obtain rfl := Option.some.inj hvisited
        exact absurd hother (by simp)
      exact hnothing.insert path rfl
  unfold collect
  rw [if_neg (UInt32.not_le.2 inside), hfetched]
  dsimp only
  rw [hdirect, if_neg Bool.false_ne_true, follow_of_path path hfetched (by omega) hbehind]
  rfl

end Chain

/-- Walking a chain that ends, with room for it, gives all its buffers. -/
theorem Queue.walk_of_path {queue : Queue} {ring : ActiveRing} {space : AddressSpace}
    (active : queue.ring = some ring) {head : UInt16} {descriptors : List Descriptor}
    (path : Chain.Path (queue.descriptor space) ring.count head descriptors)
    (inside : head.toUInt32 < ring.count)
    (direct : ∀ descriptor ∈ descriptors, descriptor.isIndirect = false)
    (fits : descriptors.length ≤ ring.count.toNat) :
    (queue.walk space head ring.count.toNat).1 = .ok ⟨head, descriptors.map (·.segment)⟩ := by
  obtain ⟨_, further, _, hdescriptors⟩ := path.fetched
  have hnonempty : ring.count.toNat ≠ 0 := by
    rw [hdescriptors, List.length_cons] at fits
    omega
  unfold walk
  rw [active]
  dsimp only
  rw [if_neg hnonempty, Nat.min_self, Chain.collect_of_path path inside direct fits]

end Paravirt

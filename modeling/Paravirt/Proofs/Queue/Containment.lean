import Paravirt.Proofs.Queue.Lifecycle

/-!
# What a device can change in guest memory

The device owns the index of the used ring, its elements, and the event slot behind them. No
operation changes any other byte, whatever the driver has written into the ring, whatever the
arguments are and wherever transfers are cut short: not the descriptor table, not the available
ring, not the flags of the used ring, not the padding between the tables and nothing outside the
ring. A queue without a ring changes nothing at all.
-/

namespace Paravirt

/-- The bytes of a ring that are the device's to write: the index of the used ring, its elements,
and the event slot behind them. -/
def RingAddresses.DeviceOwned (ring : RingAddresses) (gpa : UInt64) : Prop :=
  InSpan ring.usedIndex 2 gpa ∨
    (∃ slot, slot < ring.count ∧ InSpan (ring.usedSlot slot) 8 gpa) ∨
    InSpan ring.availableEvent 2 gpa

/-- The spans of the device are made of bytes of the device. -/
theorem RingAddresses.deviceOwned_of_span {ring : RingAddresses} {start : UInt64} {width : Nat}
    (span : ring.DeviceSpan start width) {gpa : UInt64} (inside : InSpan start width gpa) :
    ring.DeviceOwned gpa := by
  rcases span with used | event
  · cases used with
    | index => exact Or.inl inside
    | element slot hslot => exact Or.inr (Or.inl ⟨slot, UInt32.lt_iff_toNat_lt.2 hslot, inside⟩)
  · cases event with
    | slot => exact Or.inr (Or.inr inside)

namespace ActiveRing

/-- The bytes that are not the device's: the descriptor table, the available ring with its event
slot, the padding in front of the used ring, the flags of the used ring, and all bytes outside the
ring. -/
def Foreign (ring : ActiveRing) (gpa : UInt64) : Prop :=
  InSpan ring.addresses.descriptors (16 * ring.count.toNat) gpa ∨
    InSpan ring.addresses.available (2 * ring.count.toNat + 6) gpa ∨
    (ring.addresses.available.toNat + (2 * ring.count.toNat + 6) ≤ gpa.toNat ∧
      gpa.toNat < ring.addresses.used.toNat) ∨
    InSpan ring.addresses.usedFlags 2 gpa ∨
    ¬InSpan ring.address ring.totalSize.toNat gpa

/-- No span of the device holds a foreign byte. -/
theorem WellPlaced.not_foreign {ring : ActiveRing} (wellPlaced : ring.WellPlaced) {start : UInt64}
    {width : Nat} (span : ring.addresses.DeviceSpan start width) {gpa : UInt64}
    (inside : InSpan start width gpa) : ¬ring.Foreign gpa := by
  obtain ⟨hlow, hhigh⟩ := wellPlaced.placed.deviceSpan_bounds span
  obtain ⟨_, _, havailable, hused, _⟩ := wellPlaced.placed
  have hdescriptors := wellPlaced.toNat_descriptors
  have hend := wellPlaced.used_end
  have hcount := wellPlaced.count_addresses
  have hflags : ring.addresses.usedFlags = ring.addresses.used := rfl
  rw [hcount] at hhigh havailable hused hend
  simp only [Foreign, InSpan, hflags] at inside ⊢
  omega

end ActiveRing

/-- In every state that a new queue can reach, in any order of operations, guest stores, cut
transfers and overridden mapping queries, an operation changes a byte of a guest only if the queue
is set up on that guest and the byte is one of the device's in that ring. -/
theorem QueueState.changed_byte_deviceOwned (detectCycles : Bool) (guests : Guests)
    (wellFormed : guests.WellFormed) (events : List QueueEvent) (operation : QueueOperation) :
    let before := (fresh detectCycles guests).run events
    let after := before.perform operation
    (before.queue.ring = none → after.guests = before.guests) ∧
      ∀ number gpa,
        (after.guests.space number).byteAt? gpa ≠ (before.guests.space number).byteAt? gpa →
        ∃ ring, before.queue.ring = some ring ∧ ring.guest = number ∧
          ring.addresses.DeviceOwned gpa ∧ ¬ring.Foreign gpa := by
  have hsound := (sound_fresh detectCycles wellFormed).run events
  generalize (fresh detectCycles guests).run events = before at hsound
  dsimp only
  cases operation with
  | setup guest pageNumber pageSize count align =>
    exact ⟨fun _ => rfl, fun _ _ changed => absurd rfl changed⟩
  | cleanup => exact ⟨fun _ => rfl, fun _ _ changed => absurd rfl changed⟩
  | onRing operation =>
    cases active : before.queue.ring with
    | none =>
      rw [perform_onRing_of_unset active]
      exact ⟨fun _ => rfl, fun _ _ changed => absurd rfl changed⟩
    | some ring =>
      refine ⟨fun unset => absurd unset (Option.some_ne_none ring), fun number gpa changed => ?_⟩
      rw [perform_onRing_of_active active, Guests.space_setSpace_eq] at changed
      by_cases here : number = ring.guest ∧ ring.guest < before.guests.length
      · rw [if_pos here, here.1] at changed
        have hplaced := hsound.wellPlaced ring active
        have hwrites := RingOperation.writes_perform active hplaced
          (before.guests.space ring.guest) operation
        obtain ⟨start, width, hspan, hinside⟩ :=
          hwrites.inSpan_of_ne (hsound.guests.space _) changed
        have hdevice := operation.deviceSpan_of_span hspan
        exact ⟨ring, rfl, here.1.symm, RingAddresses.deviceOwned_of_span hdevice hinside,
          hplaced.not_foreign hdevice hinside⟩
      · rw [if_neg here] at changed
        exact absurd rfl changed

/-- Publishing an element of which only three bytes can be stored changes a byte of that element's
slot, and nothing that is not the device's. -/
theorem QueueState.changed_byte_of_cut_publish :
    let guests : Guests := [⟨0, "vm", { memory := smallMemory }⟩]
    let before := (fresh false guests).run
      [.guest 0 (.limitWrites 4180 3), .operation (.setup 0 1 4096 4 4)]
    let after := before.perform (.onRing (.publishUsed ⟨2, 7⟩))
    guests.WellFormed ∧
      (after.guests.space 0).byteAt? 4180 ≠ (before.guests.space 0).byteAt? 4180 ∧
      ∃ ring, before.queue.ring = some ring ∧ ring.guest = 0 ∧
        ring.addresses.DeviceOwned 4180 ∧ ¬ring.Foreign 4180 := by
  intro guests before after
  have hwellFormed : guests.WellFormed := by
    intro guest listed
    rw [List.mem_singleton.1 listed]
    exact Memory.wellFormed_of_build build_smallMemory
  have hchanged : (after.guests.space 0).byteAt? 4180 ≠ (before.guests.space 0).byteAt? 4180 := by
    decide
  exact ⟨hwellFormed, hchanged,
    (changed_byte_deviceOwned false guests hwellFormed _ _).2 0 4180 hchanged⟩

end Paravirt

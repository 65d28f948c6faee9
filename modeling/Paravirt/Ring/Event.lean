/-!
# Event suppression

Each side of a ring stores in an event slot the index of the entry about which it wants to be told.
Moving the ring's index from `old` to `new` publishes the entries `old`, `old + 1` and so on up to
but not including `new`, all counted modulo 2^16, and a notification is due exactly when the entry
in the event slot is one of them.
-/

namespace Paravirt

/-- Whether moving a ring index from `old` to `new` publishes the entry `event`. -/
def needsEvent (event new old : UInt16) : Bool :=
  new - event - 1 < new - old

/-- A notification is due exactly when the event is the `j`-th published entry for some `j`. -/
theorem needsEvent_iff {event new old : UInt16} :
    needsEvent event new old = true ↔
      (event - old).toNat < (new - old).toNat := by
  rw [needsEvent, decide_eq_true_iff, UInt16.lt_iff_toNat_lt]
  simp only [UInt16.toNat_sub, UInt16.toNat_one]
  have := event.toNat_lt
  have := new.toNat_lt
  have := old.toNat_lt
  omega

end Paravirt

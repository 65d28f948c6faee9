import Paravirt.Memory.AddressSpace
import Paravirt.Text.Quoted

/-!
# Guests

A guest is a virtual machine as far as its devices are concerned: an identity and an address space.
A host numbers its guests from zero in the order of their creation.
-/

namespace Paravirt

/-- A virtual machine as its devices see it. -/
structure Guest where
  /-- The number that the guest itself goes by. -/
  id : UInt32
  /-- The name of the guest. -/
  name : String
  /-- The memory of the guest as devices reach it. -/
  space : AddressSpace

/-- The guest as it appears in diagnostics. Its address space is left out. -/
def Guest.describe (guest : Guest) : String :=
  "Guest \x7b id: " ++ guest.id.toNat.repr ++ ", name: " ++ Text.quote guest.name ++ ", .. \x7d"

/-- The guests of a host, by number. -/
abbrev Guests := List Guest

namespace Guests

/-- The address space of a guest; one without any memory where there is no such guest. -/
def space (guests : Guests) (number : Nat) : AddressSpace :=
  match guests[number]? with
  | none => .empty
  | some guest => guest.space

/-- Replace the address space of a guest. -/
def setSpace (guests : Guests) (number : Nat) (space : AddressSpace) : Guests :=
  guests.modify number fun guest => { guest with space }

@[simp]
theorem length_setSpace (guests : Guests) (number : Nat) (space : AddressSpace) :
    (guests.setSpace number space).length = guests.length := by
  simp [setSpace]

/-- The space of a guest is the one it was given last. -/
theorem space_setSpace (guests : Guests) (number other : Nat) (space : AddressSpace)
    (exists_guest : number < guests.length) :
    (guests.setSpace number space).space other =
      if other = number then space else guests.space other := by
  by_cases same : number = other
  · subst same
    simp [Guests.space, setSpace, exists_guest]
  · have distinct : ¬other = number := fun h => same h.symm
    simp [Guests.space, setSpace, same, distinct]

end Guests

end Paravirt

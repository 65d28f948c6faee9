import Paravirt.Guest
import Paravirt.Queue.Setup
import Paravirt.Queue.Used

/-!
# Queues among the guests of a host

A queue knows the guest that holds its ring by number. An operation on it works on the address space
of that guest and on no other; a queue without a ring reaches no memory at all.
-/

namespace Paravirt

variable {α : Type}

/-- Run an operation on a queue and the address space of the guest that holds its ring. -/
def Queue.runOn (queue : Queue) (guests : Guests)
    (operation : Queue → AddressSpace → α × Queue × AddressSpace) : α × Queue × Guests :=
  match queue.guest with
  | none =>
    let (answer, queue, _) := operation queue .empty
    (answer, queue, guests)
  | some number =>
    let (answer, queue, space) := operation queue (guests.space number)
    (answer, queue, guests.setSpace number space)

/-- Set a queue up on the ring of the given size on the given page of a guest. -/
def Queue.setupIn (queue : Queue) (guests : Guests) (guest : Nat) (pageNumber pageSize : UInt64)
    (count : UInt32) (align : UInt64) : Except DeviceError Unit × Queue :=
  queue.setup guest (guests.space guest) pageNumber pageSize count align

/-- Return a completed chain to the driver of the guest that holds the ring. -/
def Queue.publishIn (queue : Queue) (guests : Guests) (element : UsedElement) :
    Except DeviceError Unit × Guests :=
  match queue.guest with
  | none => (.ok (), guests)
  | some number =>
    let (outcome, space) := queue.publishUsed (guests.space number) element
    (outcome, guests.setSpace number space)

end Paravirt

import Paravirt.Queue.Basic
import Paravirt.Ring.Event
import Paravirt.Ring.UsedElement

/-!
# Returning chains to the driver

The device returns a completed chain by writing a used element and then moving the used index on by
one, so the driver never sees an index whose element is not there yet. Whether the driver is to be
told follows from its event slot and the entries published since it was told last.
-/

namespace Paravirt

namespace ActiveRing

/-- Write a used element and move the used index on. -/
def publish (ring : ActiveRing) (space : AddressSpace) (element : UsedElement) :
    Except MemoryError Unit × AddressSpace :=
  match space.read16 ring.addresses.usedIndex with
  | .error error => (.error error, space)
  | .ok index =>
    match space.writeAll (ring.addresses.usedSlot (index.toUInt32 % ring.count)) element.encode with
    | (.error error, space) => (.error error, space)
    | (.ok (), space) => space.write16 ring.addresses.usedIndex (index + 1)

/-- The used index, if the driver is to be told that it has moved there. -/
def dueSignal (ring : ActiveRing) (space : AddressSpace) : Option UInt16 :=
  match space.read16 ring.addresses.usedIndex, space.read16 ring.addresses.usedEvent with
  | .ok index, .ok event => if needsEvent event index ring.lastSignalled then some index else none
  | _, _ => none

end ActiveRing

namespace Queue

/-- Return a completed chain to the driver. Without a ring there is nothing to return it to. -/
def publishUsed (queue : Queue) (space : AddressSpace) (element : UsedElement) :
    Except DeviceError Unit × AddressSpace :=
  match queue.ring with
  | none => (.ok (), space)
  | some ring =>
    let (outcome, space) := ring.publish space element
    (outcome.mapError .ofMemory, space)

/-- Whether the driver is to be told about the used elements published since it was told last. If
so, the queue takes it that the driver is told. -/
def shouldNotify (queue : Queue) (space : AddressSpace) : Bool × Queue :=
  match queue.ring with
  | none => (false, queue)
  | some ring =>
    match ring.dueSignal space with
    | none => (false, queue)
    | some index => (true, { queue with lastSignalled := index })

end Queue

end Paravirt

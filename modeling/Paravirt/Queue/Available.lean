import Paravirt.Queue.Basic

/-!
# Taking heads off the available ring

The driver publishes chains by writing the index of each first descriptor into the available ring
and moving the available index on. The device takes them in the same order, one slot further each
time, whether or not the slot could be read; indices run modulo 2^16 and slots modulo the number of
descriptors.
-/

namespace Paravirt

namespace ActiveRing

/-- The slot from which the next head is taken. -/
def nextSlot (ring : ActiveRing) : UInt32 := ring.lastAvailable.toUInt32 % ring.count

/-- The ring with the device one slot further. -/
def advance (ring : ActiveRing) : ActiveRing :=
  { ring with lastAvailable := ring.lastAvailable + 1 }

/-- Whether the driver has published heads that the device has not taken. An index that cannot be
read counts as none. -/
def hasWork (ring : ActiveRing) (space : AddressSpace) : Bool :=
  match space.read16 ring.addresses.availableIndex with
  | .error _ => false
  | .ok index => index != ring.lastAvailable

/-- Tell the driver how far the device has come. -/
def writeAvailableEvent (ring : ActiveRing) (space : AddressSpace) :
    Except MemoryError Unit × AddressSpace :=
  space.write16 ring.addresses.availableEvent ring.lastAvailable

end ActiveRing

namespace Queue

/-- Take the next head off the available ring. -/
def tryPop (queue : Queue) (space : AddressSpace) : Except DeviceError UInt16 × Queue :=
  match queue.ring with
  | none => (.error .queueUnset, queue)
  | some ring =>
    ((space.read16 (ring.addresses.availableSlot ring.nextSlot)).mapError .ofMemory,
      { queue with lastAvailable := queue.lastAvailable + 1 })

/-- Take the next head off the available ring; 0 when it cannot be read or there is no ring. -/
def pop (queue : Queue) (space : AddressSpace) : UInt16 × Queue :=
  match queue.tryPop space with
  | (.ok head, queue) => (head, queue)
  | (.error _, queue) => (0, queue)

/-- Whether the driver has published heads that the device has not taken. -/
def hasWork (queue : Queue) (space : AddressSpace) : Bool :=
  match queue.ring with
  | none => false
  | some ring => ring.hasWork space

/-- Tell the driver how far the device has come. -/
def updateAvailableEvent (queue : Queue) (space : AddressSpace) :
    Except DeviceError Unit × AddressSpace :=
  match queue.ring with
  | none => (.ok (), space)
  | some ring =>
    let (outcome, space) := ring.writeAvailableEvent space
    (outcome.mapError .ofMemory, space)

end Queue

end Paravirt

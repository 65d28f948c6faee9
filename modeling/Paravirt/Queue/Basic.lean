import Paravirt.DeviceError
import Paravirt.Memory.AddressSpace
import Paravirt.Ring.Descriptor
import Paravirt.Ring.Layout

/-!
# Queues

A queue is the device's half of one split ring. It has no ring until `setup` finds one in guest
memory, and `cleanup` takes the ring away again. The queue records the guest that holds the ring,
where the ring lies and how far the device has come in it; the contents of the ring stay in guest
memory and are read afresh by every operation. The guest alone tells whether there is a ring:
nothing in the type of a queue keeps the rest of the record at zero while there is none.
-/

namespace Paravirt

/-- What a queue records of where its ring lies. Without a ring all of it is to be zero. -/
structure RingGeometry where
  /-- The number of descriptors. -/
  count : UInt32 := 0
  /-- The alignment of the used ring. -/
  align : UInt64 := 0
  /-- The guest page on which the ring starts. -/
  pageNumber : UInt64 := 0
  /-- The size of a guest page in bytes. -/
  pageSize : UInt64 := 0
  /-- The guest-physical address at which the ring starts. -/
  address : UInt64 := 0
  /-- The host-physical address at which the ring starts. -/
  hostAddress : UInt64 := 0
  /-- The size of the ring in bytes. -/
  totalSize : UInt64 := 0
  /-- Where the three tables of the ring lie. -/
  addresses : RingAddresses := {}
  deriving DecidableEq

/-- The layout that belongs to the recorded number of descriptors and alignment. -/
def RingGeometry.layout (geometry : RingGeometry) : RingLayout :=
  .ofAlign geometry.count geometry.align

/-- The device's half of a split ring. -/
structure Queue where
  /-- Whether a chain that comes back to one of its descriptors is refused. Otherwise only the
  number of descriptors ends it. -/
  detectCycles : Bool := false
  /-- The number of the guest whose memory holds the ring, once there is one. -/
  guest : Option Nat := none
  /-- Where the ring lies. -/
  geometry : RingGeometry := {}
  /-- The available index up to which the device has taken heads. -/
  lastAvailable : UInt16 := 0
  /-- The used index about which the driver was told last. -/
  lastSignalled : UInt16 := 0
  deriving DecidableEq

/-- A ring that a queue is set up on, and how far the device has come in it. -/
structure ActiveRing extends RingGeometry where
  /-- The number of the guest whose memory holds the ring. -/
  guest : Nat
  /-- The available index up to which the device has taken heads. -/
  lastAvailable : UInt16
  /-- The used index about which the driver was told last. -/
  lastSignalled : UInt16
  deriving DecidableEq

namespace Queue

variable (queue : Queue)

/-- The queue without its ring. -/
def cleanup : Queue :=
  { queue with guest := none, geometry := {}, lastAvailable := 0, lastSignalled := 0 }

/-- Whether the queue has a ring. -/
def isSetUp : Bool := queue.guest.isSome

/-- The ring, if there is one, as the queue records it. -/
def ring : Option ActiveRing :=
  queue.guest.map fun guest =>
    { queue.geometry with
      guest
      lastAvailable := queue.lastAvailable
      lastSignalled := queue.lastSignalled }

/-- Where the tables of the ring lie. -/
def addresses : Option RingAddresses := queue.ring.map (·.addresses)

/-- The number of descriptors, which is also the length of the longest chain. -/
def count : UInt32 := queue.geometry.count

/-- The alignment of the used ring. -/
def align : UInt64 := queue.geometry.align

/-- The guest page on which the ring starts. -/
def pageNumber : UInt64 := queue.geometry.pageNumber

/-- The size of a guest page in bytes. -/
def pageSize : UInt64 := queue.geometry.pageSize

/-- The guest-physical address at which the ring starts. -/
def address : UInt64 := queue.geometry.address

/-- The host-physical address at which the ring starts. -/
def hostAddress : UInt64 := queue.geometry.hostAddress

/-- The size of the ring in bytes. -/
def totalSize : UInt64 := queue.geometry.totalSize

/-- Read the descriptor with the given index. -/
def descriptor (space : AddressSpace) (index : UInt16) : Except DeviceError Descriptor :=
  match queue.ring with
  | none => .error .queueUnset
  | some ring =>
    if ring.count ≤ index.toUInt32 then
      .error .descriptorOutOfRange
    else
      match space.readExact (ring.addresses.descriptor index) Descriptor.width with
      | .error error => .error (.ofMemory error)
      | .ok bytes => .ok (Descriptor.decode bytes)

end Queue

end Paravirt

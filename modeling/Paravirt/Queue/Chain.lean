import Paravirt.Queue.Available
import Paravirt.Segment.Basic
import Std.Data.TreeSet

/-!
# Walking descriptor chains

A chain starts at a head and follows the links of its descriptors. The driver writes the table, so
nothing in it is trusted: links that leave the table are refused, a walk never goes on beyond the
number of descriptors or the room that the caller has, and a queue that detects cycles refuses a
link back into the chain. A completed walk tells the driver how far the device has come; a failed
one writes nothing.
-/

namespace Paravirt

/-- The buffer that a descriptor names. -/
def Descriptor.segment (descriptor : Descriptor) : Segment where
  address := descriptor.address
  length := descriptor.length
  direction := if descriptor.isWritable then .toGuest else .fromGuest

/-- A chain of descriptors, walked to its end. -/
structure Chain where
  /-- The index of the first descriptor. -/
  head : UInt16
  /-- The buffers, in order. -/
  segments : List Segment
  deriving DecidableEq

/-- The sum of the lengths of the buffers of a chain. -/
def Chain.totalLength (chain : Chain) : UInt64 := Segment.totalLength chain.segments

/-- What is reported of a chain whose buffers were put into a caller's list. -/
structure ChainSummary where
  /-- The index of the first descriptor. -/
  head : UInt16
  /-- How many buffers there are. -/
  segmentCount : Nat
  /-- The sum of their lengths. -/
  totalLength : UInt64
  deriving DecidableEq

/-- The report of a chain. -/
def Chain.summary (chain : Chain) : ChainSummary where
  head := chain.head
  segmentCount := chain.segments.length
  totalLength := chain.totalLength

namespace Chain

/-- Where a chain goes on from a descriptor: nowhere, or at an index that lies in the table and, where
the indices visited so far are known, is none of them. -/
def link (count : UInt32) (seen : Option (Std.TreeSet Nat)) (descriptor : Descriptor) :
    Except DeviceError (Option UInt16) :=
  if !descriptor.hasNext then
    .ok none
  else if count ≤ descriptor.next.toUInt32 then
    .error (.nextOutOfRange descriptor.next)
  else if seen.any (·.contains descriptor.next.toNat) then
    .error (.chainLoops descriptor.next)
  else
    .ok (some descriptor.next)

/-- Follow the links of a descriptor, with room for `room` more buffers behind its own. The link of
the last descriptor is looked at even when there is no room to follow it. The buffers found so far
stand in reverse order. -/
def follow (fetch : UInt16 → Except DeviceError Descriptor) (count : UInt32) (room : Nat)
    (seen : Option (Std.TreeSet Nat)) (descriptor : Descriptor) (found : List Segment) :
    Except DeviceError (List Segment) :=
  match link count seen descriptor with
  | .error error => .error error
  | .ok none => .ok (descriptor.segment :: found).reverse
  | .ok (some next) =>
    match room with
    | 0 => .ok (descriptor.segment :: found).reverse
    | room + 1 =>
      match fetch next with
      | .error error => .error error
      | .ok successor =>
        follow fetch count room (seen.map (·.insert next.toNat)) successor
          (descriptor.segment :: found)

/-- The buffers of the chain at `head`, at most `limit` of them. -/
def collect (fetch : UInt16 → Except DeviceError Descriptor) (count : UInt32)
    (detectCycles : Bool) (limit : Nat) (head : UInt16) : Except DeviceError (List Segment) :=
  if count ≤ head.toUInt32 then
    .error (.headOutOfRange head)
  else
    match fetch head with
    | .error error => .error error
    | .ok descriptor =>
      if descriptor.isIndirect then
        .error .indirectDescriptor
      else
        let seen := if detectCycles then some ((∅ : Std.TreeSet Nat).insert head.toNat) else none
        follow fetch count (limit - 1) seen descriptor []

end Chain

namespace Queue

/-- Walk the chain at `head`, with room for `capacity` buffers, of which no more are used than the
ring has descriptors. -/
def walk (queue : Queue) (space : AddressSpace) (head : UInt16) (capacity : Nat) :
    Except DeviceError Chain × AddressSpace :=
  match queue.ring with
  | none => (.ok ⟨0, []⟩, space)
  | some ring =>
    if capacity = 0 then
      (.error .noRoomForSegments, space)
    else
      let limit := min capacity ring.count.toNat
      match Chain.collect (queue.descriptor space) ring.count queue.detectCycles limit head with
      | .error error => (.error error, space)
      | .ok segments => (.ok ⟨head, segments⟩, (ring.writeAvailableEvent space).2)

/-- Walk the chain at `head` into a list of the caller: the report, and the list with the buffers of
the chain at its start and the rest as it was. -/
def walkInto (queue : Queue) (space : AddressSpace) (head : UInt16) (out : List Segment) :
    Except DeviceError (ChainSummary × List Segment) × AddressSpace :=
  let (outcome, space) := queue.walk space head out.length
  (outcome.map fun chain =>
    (chain.summary, chain.segments ++ out.drop chain.segments.length), space)

/-- Take the next head and walk its chain into a list of the caller. -/
def popAndWalk (queue : Queue) (space : AddressSpace) (out : List Segment) :
    Except DeviceError (ChainSummary × List Segment) × Queue × AddressSpace :=
  let (head, queue) := queue.pop space
  let (outcome, space) := queue.walkInto space head out
  (outcome, queue, space)

/-- Take the next chain, if the driver has published one. A chain that cannot be taken is passed
over: the device is one slot further all the same. -/
def popChain (queue : Queue) (space : AddressSpace) :
    Except DeviceError (Option Chain) × Queue × AddressSpace :=
  if queue.hasWork space then
    match queue.tryPop space with
    | (.error error, queue) => (.error error, queue, space)
    | (.ok head, queue) =>
      let (outcome, space) := queue.walk space head queue.count.toNat
      (outcome.map some, queue, space)
  else
    (.ok none, queue, space)

end Queue

end Paravirt

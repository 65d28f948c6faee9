import Paravirt.Queue.Available

/-!
# What a queue records, and the ring that it has

A queue records the guest, the geometry and the two cursors of a ring one by one. Its ring is read
off this record: there is one exactly if a guest is recorded, whatever the rest of the record says.
The other way round a ring can be put into the record of a queue. A queue that has a ring records
that ring and nothing else, so what operations do to the record can be said as what they do to the
ring.
-/

namespace Paravirt

namespace ActiveRing

/-- The same ring with the device elsewhere in it. -/
def withCursors (ring : ActiveRing) (lastAvailable lastSignalled : UInt16) : ActiveRing :=
  { ring with lastAvailable, lastSignalled }

@[simp]
theorem toRingGeometry_withCursors (ring : ActiveRing) (lastAvailable lastSignalled : UInt16) :
    (ring.withCursors lastAvailable lastSignalled).toRingGeometry = ring.toRingGeometry := rfl

@[simp]
theorem guest_withCursors (ring : ActiveRing) (lastAvailable lastSignalled : UInt16) :
    (ring.withCursors lastAvailable lastSignalled).guest = ring.guest := rfl

@[simp]
theorem lastAvailable_withCursors (ring : ActiveRing) (lastAvailable lastSignalled : UInt16) :
    (ring.withCursors lastAvailable lastSignalled).lastAvailable = lastAvailable := rfl

@[simp]
theorem lastSignalled_withCursors (ring : ActiveRing) (lastAvailable lastSignalled : UInt16) :
    (ring.withCursors lastAvailable lastSignalled).lastSignalled = lastSignalled := rfl

end ActiveRing

namespace Queue

variable {queue : Queue} {ring : ActiveRing}

/-- The queue with the given ring in place of what it records. -/
def withRing (queue : Queue) (ring : ActiveRing) : Queue :=
  { queue with
    guest := some ring.guest
    geometry := ring.toRingGeometry
    lastAvailable := ring.lastAvailable
    lastSignalled := ring.lastSignalled }

@[simp]
theorem ring_withRing (queue : Queue) (ring : ActiveRing) :
    (queue.withRing ring).ring = some ring := rfl

@[simp]
theorem detectCycles_withRing (queue : Queue) (ring : ActiveRing) :
    (queue.withRing ring).detectCycles = queue.detectCycles := rfl

/-- There is no ring exactly if no guest is recorded. -/
theorem ring_eq_none_iff : queue.ring = none ↔ queue.guest = none :=
  Option.map_eq_none_iff

/-- A queue that has a ring records that ring and nothing else. -/
theorem withRing_of_active (active : queue.ring = some ring) : queue.withRing ring = queue := by
  obtain ⟨detectCycles, guest, geometry, lastAvailable, lastSignalled⟩ := queue
  obtain ⟨number, rfl, rfl⟩ := Option.map_eq_some_iff.1 active
  rfl

section Active

variable (active : queue.ring = some ring)

include active

/-- The guest of a queue holds its ring. -/
theorem guest_of_active : queue.guest = some ring.guest :=
  congrArg (·.guest) (withRing_of_active active).symm

/-- The geometry of a queue is that of its ring. -/
theorem geometry_of_active : queue.geometry = ring.toRingGeometry :=
  congrArg (·.geometry) (withRing_of_active active).symm

/-- The tables of a queue are those of its ring. -/
theorem addresses_of_active : queue.addresses = some ring.addresses := by
  rw [addresses, active, Option.map_some]

/-- So where the tables of a queue lie, there those of its ring lie. -/
theorem addresses_eq_of_located {addresses : RingAddresses}
    (located : queue.addresses = some addresses) : ring.addresses = addresses :=
  Option.some.inj ((addresses_of_active active).symm.trans located)

/-- A queue has as many descriptors as its ring. -/
theorem count_of_active : queue.count = ring.count :=
  congrArg (·.count) (geometry_of_active active)

/-- The ring of a queue starts where it was found. -/
theorem address_of_active : queue.address = ring.address :=
  congrArg (·.address) (geometry_of_active active)

/-- The size of a queue's ring is that of the ring that was found. -/
theorem totalSize_of_active : queue.totalSize = ring.totalSize :=
  congrArg (·.totalSize) (geometry_of_active active)

/-- The device is where it is in the available ring. -/
theorem lastAvailable_of_active : queue.lastAvailable = ring.lastAvailable :=
  congrArg (·.lastAvailable) (withRing_of_active active).symm

/-- The cursor of the last signal is that of the ring. -/
theorem lastSignalled_of_active : queue.lastSignalled = ring.lastSignalled :=
  congrArg (·.lastSignalled) (withRing_of_active active).symm

/-- To move the device one slot further in the record is to move it in the ring. -/
theorem withRing_advance :
    queue.withRing ring.advance = { queue with lastAvailable := queue.lastAvailable + 1 } := by
  conv => rhs; rw [← withRing_of_active active]
  rfl

/-- To record that the driver was told is to record it in the ring. -/
theorem withRing_signalled (index : UInt16) :
    queue.withRing (ring.withCursors ring.lastAvailable index) =
      { queue with lastSignalled := index } := by
  conv => rhs; rw [← withRing_of_active active]
  rfl

end Active

end Queue

end Paravirt

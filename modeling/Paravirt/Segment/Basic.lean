/-!
# Segments of guest memory

A chain of descriptors names guest buffers one after another, each read or written by the device. A
well-formed chain has every buffer that the device reads before every buffer that it writes, so a
list of segments is split at the first one that it writes.
-/

namespace Paravirt

/-- Which way data moves, seen from the device. -/
inductive Direction where
  /-- The device reads what the driver provides. -/
  | fromGuest
  /-- The device writes what the driver collects. -/
  | toGuest
  deriving DecidableEq

/-- One guest buffer of a chain. -/
structure Segment where
  /-- Guest-physical address of the first byte. -/
  address : UInt64
  /-- Length in bytes. -/
  length : UInt32
  /-- Which way data moves. -/
  direction : Direction
  deriving DecidableEq

namespace Segment

/-- The segment that stands for none: no bytes, at address 0. -/
def empty : Segment := ⟨0, 0, .fromGuest⟩

/-- Whether the device writes the segment. -/
def isWritable (segment : Segment) : Bool := segment.direction = .toGuest

/-- Whether the device reads the segment. -/
def isReadable (segment : Segment) : Bool := segment.direction = .fromGuest

/-- The sum of the lengths of a list of segments. -/
def totalLength : List Segment → UInt64
  | [] => 0
  | segment :: rest => segment.length.toUInt64 + totalLength rest

/-- The segments before the first one that the device writes, and all from there on. -/
def splitByDirection (segments : List Segment) : List Segment × List Segment :=
  (segments.takeWhile (·.isReadable), segments.dropWhile (·.isReadable))

/-- Splitting loses no segment and keeps their order. -/
theorem splitByDirection_append (segments : List Segment) :
    (splitByDirection segments).1 ++ (splitByDirection segments).2 = segments :=
  List.takeWhile_append_dropWhile

end Segment

end Paravirt

import Paravirt.Memory.Error

/-!
# Failures of queues, devices and registries

The reasons for which a queue operation, a device hook or a registration fails. A failure of guest
memory becomes one of them by `ofMemory`. The failures that carry a fixed text are named here, so
that their wording stands in one place.
-/

namespace Paravirt

/-- Why a queue operation, a device hook or a registration failed. -/
inductive DeviceError where
  /-- An argument is missing or out of range. -/
  | invalidArgument (reason : String)
  /-- Guest memory transferred fewer bytes than it had to. -/
  | ioFault (gpa : UInt64) (expected actual : Nat)
  /-- The driver asks for something that is not provided. -/
  | unsupported (feature : String)
  /-- A queue cannot lie where it was put. -/
  | invalidRegion (gpa size : UInt64) (reason : String)
  /-- A chain leaves the descriptor table or loops. -/
  | malformedChain (index : UInt16) (reason : String)
  /-- A name or device is not registered. -/
  | notFound (subject : String)
  /-- A name or device is registered already. -/
  | conflict (subject : String)
  /-- There is no room for what was asked for. -/
  | resourceExhausted
  /-- An emulator reports a failure of its own. -/
  | emulator (text : String)
  deriving DecidableEq

namespace DeviceError

/-- The text shown for a failure. -/
def message : DeviceError → String
  | .invalidArgument reason => "invalid argument: " ++ reason
  | .ioFault gpa expected actual =>
    "guest memory fault at gpa=" ++ Text.markedHexadecimal gpa.toNat ++ ": expected " ++
      expected.repr ++ " bytes, transferred " ++ actual.repr
  | .unsupported feature => "unsupported: " ++ feature
  | .invalidRegion gpa size reason =>
    "invalid queue region gpa=" ++ Text.markedHexadecimal gpa.toNat ++
      " size=" ++ Text.markedHexadecimal size.toNat ++ ": " ++ reason
  | .malformedChain index reason =>
    "malformed descriptor chain at index " ++ index.toNat.repr ++ ": " ++ reason
  | .notFound subject => "not found: " ++ subject
  | .conflict subject => "conflict: " ++ subject
  | .resourceExhausted => "resource exhausted"
  | .emulator text => "emulator error: " ++ text

/-- The failure that a failure of guest memory amounts to for a device. -/
def ofMemory : MemoryError → DeviceError
  | .shortRead gpa expected actual | .shortWrite gpa expected actual =>
    .ioFault gpa expected actual
  | .unmapped gpa size => .invalidRegion gpa size "not mapped"
  | .overlap _ _ | .emptyRegion _ | .overflow => .invalidArgument "guest memory layout"

/-- A number names nothing. -/
def unknownHandle : DeviceError := .notFound "handle"

/-- The queue has no ring. -/
def queueUnset : DeviceError := .invalidArgument "queue not set up"

/-- The device has no queue of that number. -/
def queueOutOfRange : DeviceError := .invalidArgument "queue index out of range"

/-- A ring cannot have that many descriptors. -/
def queueSizeOutOfRange : DeviceError := .invalidArgument "queue size out of range"

/-- The alignment of a ring is not a power of two. -/
def alignmentNotPowerOfTwo : DeviceError :=
  .invalidArgument "ring alignment must be a power of two"

/-- The ring would not end at a 64-bit address. -/
def queueAddressOverflow : DeviceError := .invalidArgument "queue address overflows"

/-- No region holds the start of the ring. -/
def ringUnmapped (gpa size : UInt64) : DeviceError := .invalidRegion gpa size "not mapped"

/-- The ring starts in a region that is not memory. -/
def ringNotRam (gpa size : UInt64) : DeviceError := .invalidRegion gpa size "not backed by RAM"

/-- The ring does not end in the region in which it starts. -/
def ringTooLarge (gpa size : UInt64) : DeviceError := .invalidRegion gpa size "region too small"

/-- The descriptor table has no descriptor of that index. -/
def descriptorOutOfRange : DeviceError := .invalidArgument "descriptor index out of range"

/-- There is no room for a single buffer. -/
def noRoomForSegments : DeviceError := .invalidArgument "no room for iovecs"

/-- A chain starts outside the descriptor table. -/
def headOutOfRange (index : UInt16) : DeviceError :=
  .malformedChain index "head index out of range"

/-- A link leaves the descriptor table. -/
def nextOutOfRange (index : UInt16) : DeviceError :=
  .malformedChain index "next index out of range"

/-- A link leads back to a descriptor of the same chain. -/
def chainLoops (index : UInt16) : DeviceError := .malformedChain index "descriptor chain loops"

/-- A chain starts with a table of descriptors. -/
def indirectDescriptor : DeviceError := .unsupported "indirect descriptors"

end DeviceError

end Paravirt

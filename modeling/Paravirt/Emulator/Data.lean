/-!
# Data kept with a device

The values that the emulators of this library and their hosts keep with a device. An emulator asks
for the kind of value it has left there; a value of another kind counts as none.
-/

namespace Paravirt

/-- The state that the echo emulator keeps with a device. -/
structure EchoState where
  /-- The number of descriptors that the driver has chosen for its queues. -/
  queueSize : UInt32 := 0
  /-- The features that the driver has accepted. -/
  guestFeatures : UInt32 := 0
  /-- Whether the driver is ready. -/
  driverOk : Bool := false
  /-- How many chains were answered. -/
  echoed : Nat := 0
  deriving DecidableEq

/-- A value kept with a device. -/
inductive EmulatorData where
  /-- A text. -/
  | text (value : String)
  /-- A number. -/
  | number (value : UInt32)
  /-- The state of the echo emulator. -/
  | echo (state : EchoState)
  deriving DecidableEq

namespace EmulatorData

/-- The text, if the value is one. -/
def text? : EmulatorData → Option String
  | .text value => some value
  | _ => none

/-- The number, if the value is one. -/
def number? : EmulatorData → Option UInt32
  | .number value => some value
  | _ => none

/-- The state of the echo emulator, if the value is one. -/
def echo? : EmulatorData → Option EchoState
  | .echo state => some state
  | _ => none

/-- Add one to a number, wrapping at 2^32. Other values stay as they are. -/
def increment : EmulatorData → EmulatorData
  | .number value => .number (value + 1)
  | other => other

end EmulatorData

end Paravirt

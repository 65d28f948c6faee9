import Paravirt.Queue.Guests

/-!
# Devices

A device has an identity, a guest, a transport that notifies the guest, and a fixed number of queues.
It may be bound to an emulator, which then answers the driver on the device's behalf and may keep
data with the device. What the transport and the emulators share with the world outside the devices
is of a type `ε`, and the data that emulators keep is of a type `δ`; a host chooses both.
-/

namespace Paravirt

variable {ε δ : Type}

/-- The way in which a device notifies its guest. -/
structure Transport (ε : Type) where
  /-- The name of the transport. -/
  name : String
  /-- Notify the guest that the named device has news in the given queue. -/
  notify : (device : String) → (queue : UInt32) → ε → Except DeviceError Unit × ε

/-- What is fixed about a device. -/
structure DeviceProfile (ε : Type) where
  /-- The name of the device. -/
  name : String
  /-- The number of its device type. -/
  typeId : UInt32
  /-- The number of its guest. -/
  guest : Nat
  /-- The way in which it notifies its guest. -/
  transport : Transport ε

/-- A device. -/
structure Device (ε δ : Type) where
  /-- What is fixed about the device. -/
  profile : DeviceProfile ε
  /-- Its queues. -/
  queues : List Queue
  /-- The number of the emulator that it is bound to. -/
  emulator : Option Nat := none
  /-- The data that an emulator keeps with it. -/
  data : Option δ := none

namespace DeviceError

/-- A device has to have a name. -/
def deviceNameEmpty : DeviceError := .invalidArgument "device name is empty"

/-- The name of a device does not fit its field. -/
def deviceNameTooLong : DeviceError := .invalidArgument "device name too long"

/-- Type 0 stands for no device. -/
def deviceTypeZero : DeviceError := .invalidArgument "device type id must be non-zero"

end DeviceError

namespace Device

/-- The size of the field for a device name in bytes. A name has to be shorter. -/
def maxNameLength : Nat := 64

/-- Make an unbound device whose queues have no ring yet. Whether the host has room for so many of
them is for `reserves` to say; unless something else is asked for it has room for one for each number
by which a driver can name a queue. -/
def create (profile : DeviceProfile ε) (queueCount : Nat) (detectCycles : Bool)
    (reserves : Nat → Bool := fun queueCount => queueCount ≤ UInt32.size) :
    Except DeviceError (Device ε δ) :=
  if profile.name.isEmpty then
    .error .deviceNameEmpty
  else if maxNameLength ≤ profile.name.utf8ByteSize then
    .error .deviceNameTooLong
  else if profile.typeId = 0 then
    .error .deviceTypeZero
  else if !reserves queueCount then
    .error .resourceExhausted
  else
    .ok { profile, queues := List.replicate queueCount { detectCycles } }

variable (device : Device ε δ)

/-- Whether the device is bound to an emulator. -/
def isBound : Bool := device.emulator.isSome

/-- The device bound to an emulator. -/
def bindTo (emulator : Nat) : Device ε δ := { device with emulator := some emulator }

/-- The device without an emulator and without the data of one. -/
def release : Device ε δ := { device with emulator := none, data := none }

end Device

end Paravirt

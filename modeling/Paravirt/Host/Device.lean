import Paravirt.Host.Basic
import Paravirt.Segment.Transfer

/-!
# Requests to a device

What the driver of a guest asks of a device is passed on to the emulator that the device is bound
to. An unbound device answers like an emulator whose hooks are all left at their defaults: requests
succeed and change nothing, and every number is zero. Signals and transfers do not need an emulator.
-/

namespace Paravirt

variable {ε δ α : Type}

namespace Host

variable (host : Host ε δ)

/-- Ask the emulator of a device; the default stands in for an emulator where there is none. -/
def ask (number : Nat) (default : α) (hook : Emulator ε δ → DeviceView ε → Reply ε δ α) :
    α × Host ε δ :=
  match host.devices[number]? with
  | none => (default, host)
  | some device =>
    match host.emulatorOf device with
    | none => (default, host)
    | some emulator => host.enter number device (hook emulator)

/-- The features that the device offers. -/
def hostFeatures (number : Nat) : UInt64 × Host ε δ :=
  host.ask number 0 fun emulator => emulator.hostFeatures

/-- Accept features. -/
def setGuestFeatures (number : Nat) (select features : UInt32) :
    Except DeviceError Unit × Host ε δ :=
  host.ask number (.ok ()) fun emulator view => emulator.setGuestFeatures view select features

/-- Place the ring of a queue on a page. -/
def initQueue (number : Nat) (queue pageSize align page : UInt32) :
    Except DeviceError Unit × Host ε δ :=
  host.ask number (.ok ()) fun emulator view => emulator.initQueue view queue pageSize align page

/-- The page on which the ring of a queue starts. -/
def queuePage (number : Nat) (queue : UInt32) : UInt32 × Host ε δ :=
  host.ask number 0 fun emulator view => emulator.queuePage view queue

/-- The most descriptors that a queue may have. -/
def queueSize (number : Nat) (queue : UInt32) : UInt32 × Host ε δ :=
  host.ask number 0 fun emulator view => emulator.queueSize view queue

/-- Choose the number of descriptors of a queue. -/
def setQueueSize (number : Nat) (queue size : UInt32) : Except DeviceError Unit × Host ε δ :=
  host.ask number (.ok ()) fun emulator view => emulator.setQueueSize view queue size

/-- Tell the device that heads were published on a queue. -/
def notifyQueue (number : Nat) (queue : UInt32) : Except DeviceError Unit × Host ε δ :=
  host.ask number (.ok ()) fun emulator view => emulator.notifyQueue view queue

/-- Tell the device that its status was changed. -/
def statusChanged (number : Nat) (status : UInt32) : Except DeviceError Unit × Host ε δ :=
  host.ask number (.ok ()) fun emulator view => emulator.statusChanged view status

/-- Read the configuration of the device into a buffer, which is the answer. -/
def readConfig (number : Nat) (offset : UInt64) (buffer : List UInt8) :
    Except DeviceError (List UInt8) × Host ε δ :=
  host.ask number (.ok buffer) fun emulator view => emulator.readConfig view offset buffer

/-- Write the configuration of the device. -/
def writeConfig (number : Nat) (offset : UInt64) (bytes : List UInt8) :
    Except DeviceError Unit × Host ε δ :=
  host.ask number (.ok ()) fun emulator view => emulator.writeConfig view offset bytes

/-- Reset the device. -/
def reset (number : Nat) : Except DeviceError Unit × Host ε δ :=
  host.ask number (.ok ()) fun emulator => emulator.reset

/-- Notify the guest of a device about a queue. -/
def signal (number : Nat) (queue : UInt32) : Except DeviceError Unit × Host ε δ :=
  match host.devices[number]? with
  | none => (.error .unknownHandle, host)
  | some device => host.enter number device fun view => view.signal queue

/-- Notify the guest of a device about a queue if its driver wants to be told. -/
def signalIfNeeded (number : Nat) (queue : UInt32) : Except DeviceError Bool × Host ε δ :=
  match host.devices[number]? with
  | none => (.error .unknownHandle, host)
  | some device => host.enter number device fun view => view.signalIfNeeded queue

/-- Keep data with a device, in place of what was there. -/
def setData (number : Nat) (data : δ) : Host ε δ :=
  { host with devices := host.devices.modify number fun device => { device with data := some data } }

/-- The device as it appears in diagnostics. -/
def describeDevice (device : Device ε δ) : String :=
  let guest := (host.guests[device.profile.guest]?.map (·.name)).getD ""
  let emulator :=
    match host.emulatorOf device with
    | none => "None"
    | some emulator => "Some(" ++ Text.quote emulator.name ++ ")"
  "VirtioDevice \x7b name: " ++ Text.quote device.profile.name ++
    ", type_id: " ++ device.profile.typeId.toNat.repr ++
    ", guest: " ++ Text.quote guest ++
    ", transport: " ++ Text.quote device.profile.transport.name ++
    ", num_queues: " ++ device.queues.length.repr ++
    ", emulator: " ++ emulator ++ " \x7d"

end Host

end Paravirt

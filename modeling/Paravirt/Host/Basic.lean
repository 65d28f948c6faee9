import Paravirt.Emulator.Basic

/-!
# Hosts

A host holds the guests, devices, emulators and registries, each numbered from zero in the order of
creation, and the queues that belong to no device. It also holds the state that transports and
emulators share. Hooks are called through `enter`, which shows a hook the scene of one device and
takes over what the hook has changed there.
-/

namespace Paravirt

variable {ε δ α : Type}

/-- What a registry lists: devices and emulators by number, each in order of registration. -/
structure Registry where
  /-- The registered devices. -/
  devices : List Nat := []
  /-- The registered emulators. -/
  emulators : List Nat := []
  deriving DecidableEq

/-- How a queue is named. -/
inductive QueueHandle where
  /-- A queue that belongs to no device, by its number. -/
  | loose (number : Nat)
  /-- A queue of a device. -/
  | ofDevice (device queue : Nat)
  deriving DecidableEq

/-- Everything that a host keeps. -/
structure Host (ε δ : Type) where
  /-- The guests. -/
  guests : Guests := []
  /-- The queues that belong to no device. -/
  queues : List Queue := []
  /-- The devices. -/
  devices : List (Device ε δ) := []
  /-- The emulators. -/
  emulators : List (Emulator ε δ) := []
  /-- The registries. -/
  registries : List Registry := []
  /-- What transports and emulators share. -/
  shared : ε

namespace Host

variable (host : Host ε δ)

/-- Add a guest. Its number is the count of guests before it, as for all additions. -/
def addGuest (guest : Guest) : Host ε δ := { host with guests := host.guests ++ [guest] }

/-- Add a queue that belongs to no device. -/
def addQueue (queue : Queue) : Host ε δ := { host with queues := host.queues ++ [queue] }

/-- Add a device. -/
def addDevice (device : Device ε δ) : Host ε δ := { host with devices := host.devices ++ [device] }

/-- Add an emulator. -/
def addEmulator (emulator : Emulator ε δ) : Host ε δ :=
  { host with emulators := host.emulators ++ [emulator] }

/-- Add an empty registry. -/
def addRegistry : Host ε δ := { host with registries := host.registries ++ [{}] }

/-- Replace the address space of a guest. -/
def setSpace (guest : Nat) (space : AddressSpace) : Host ε δ :=
  { host with guests := host.guests.setSpace guest space }

/-- Replace a registry. -/
def setRegistry (number : Nat) (registry : Registry) : Host ε δ :=
  { host with registries := host.registries.set number registry }

/-- The queue of a name. -/
def queue? : QueueHandle → Option Queue
  | .loose number => host.queues[number]?
  | .ofDevice device queue => host.devices[device]?.bind fun device => device.queues[queue]?

/-- Replace the queue of a name. -/
def setQueue (handle : QueueHandle) (queue : Queue) : Host ε δ :=
  match handle with
  | .loose number => { host with queues := host.queues.set number queue }
  | .ofDevice device index =>
    { host with
      devices := host.devices.modify device fun owner =>
        { owner with queues := owner.queues.set index queue } }

/-- Run an operation on a queue and the guest that holds its ring. There is no answer where there is
no such queue. -/
def runQueue (handle : QueueHandle) (operation : Queue → AddressSpace → α × Queue × AddressSpace) :
    Option α × Host ε δ :=
  match host.queue? handle with
  | none => (none, host)
  | some queue =>
    let (answer, queue, guests) := queue.runOn host.guests operation
    (some answer, { host with guests }.setQueue handle queue)

/-- The emulator that a device is bound to. -/
def emulatorOf (device : Device ε δ) : Option (Emulator ε δ) :=
  device.emulator.bind fun number => host.emulators[number]?

/-- What a hook is told about a device. -/
def view (number : Nat) (device : Device ε δ) : DeviceView ε where
  number := number
  profile := device.profile
  emulator := device.emulator
  emulatorName := (host.emulatorOf device).map (·.name)

/-- Call a hook for the device of the given number, which stands as given when the hook begins. -/
def enter (number : Nat) (device : Device ε δ) (hook : DeviceView ε → Reply ε δ α) :
    α × Host ε δ :=
  let (answer, scene) := hook (host.view number device)
    { guests := host.guests, queues := device.queues, data := device.data, shared := host.shared }
  (answer, { host with
    guests := scene.guests
    shared := scene.shared
    devices := host.devices.set number { device with queues := scene.queues, data := scene.data } })

end Host

end Paravirt

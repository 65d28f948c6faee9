import Paravirt.Host.Binding

/-!
# Registries

A registry brings devices and emulators together. They register in any order. A device that appears
is offered to the registered emulators in their order; an emulator that appears is offered every
registered device that is not bound; and when an emulator goes, its devices are offered to those
that remain. An operation that fails leaves everything as it was. Several registries of one host may
list the same devices and emulators.
-/

namespace Paravirt

variable {ε δ : Type}

namespace DeviceError

/-- The device is listed already. -/
def deviceRegistered (name : String) : DeviceError :=
  .conflict ("device " ++ name ++ " already registered")

/-- The device is not listed. -/
def deviceNotRegistered (name : String) : DeviceError :=
  .notFound ("device " ++ name ++ " not registered")

/-- An emulator of that name is listed already. -/
def emulatorRegistered (name : String) : DeviceError :=
  .conflict ("emulator " ++ name ++ " already registered")

/-- No emulator of that name is listed. -/
def emulatorNotRegistered (name : String) : DeviceError :=
  .notFound ("emulator " ++ name ++ " not registered")

end DeviceError

namespace Host

variable (host : Host ε δ)

/-- Whether an emulator, by number, has the given name. -/
def emulatorNamed (name : String) (emulator : Nat) : Bool :=
  (host.emulators[emulator]?).any (·.name == name)

/-- Whether a device, by number, has the given name. -/
def deviceNamed (name : String) (device : Nat) : Bool :=
  (host.devices[device]?).any (·.profile.name == name)

/-- Register a device and offer it to the registered emulators. It arrives unbound, whatever it was
bound to before. -/
def registerDevice (registry device : Nat) : Except DeviceError Unit × Host ε δ :=
  match host.registries[registry]?, host.devices[device]? with
  | some listed, some owner =>
    if listed.devices.contains device then
      (.error (.deviceRegistered owner.profile.name), host)
    else
      let host := (host.release device).setRegistry registry
        { listed with devices := listed.devices ++ [device] }
      (.ok (), host.offerTo device listed.emulators)
  | _, _ => (.error .unknownHandle, host)

/-- Unregister a device, ending its binding. -/
def unregisterDevice (registry device : Nat) : Except DeviceError Unit × Host ε δ :=
  match host.registries[registry]?, host.devices[device]? with
  | some listed, some owner =>
    if listed.devices.contains device then
      (.ok (), (host.unbind device).setRegistry registry
        { listed with devices := listed.devices.erase device })
    else
      (.error (.deviceNotRegistered owner.profile.name), host)
  | _, _ => (.error .unknownHandle, host)

/-- Offer an emulator every device of a list that is not bound. -/
def offerUnbound (emulator : Nat) : List Nat → Host ε δ → Host ε δ
  | [], host => host
  | device :: rest, host =>
    offerUnbound emulator rest (if host.isBound device then host else (host.offer device emulator).2)

/-- Register an emulator and offer it every registered device that is not bound. -/
def registerEmulator (registry emulator : Nat) : Except DeviceError Unit × Host ε δ :=
  match host.registries[registry]?, host.emulators[emulator]? with
  | some listed, some behaviour =>
    if listed.emulators.any (host.emulatorNamed behaviour.name) then
      (.error (.emulatorRegistered behaviour.name), host)
    else
      let host := host.setRegistry registry
        { listed with emulators := listed.emulators ++ [emulator] }
      (.ok (), offerUnbound emulator listed.devices host)
  | _, _ => (.error .unknownHandle, host)

/-- End the binding of every device of a list that is bound to the given emulator, and offer each of
them to the remaining ones. -/
def rebind (emulator : Nat) (remaining : List Nat) : List Nat → Host ε δ → Host ε δ
  | [], host => host
  | device :: rest, host =>
    rebind emulator remaining rest
      (if host.binding device = some emulator then
        offerTo device remaining (host.unbind device)
      else
        host)

/-- Unregister the emulator of the given name and offer its devices to those that remain. -/
def unregisterEmulator (registry : Nat) (name : String) : Except DeviceError Unit × Host ε δ :=
  match host.registries[registry]? with
  | none => (.error .unknownHandle, host)
  | some listed =>
    match listed.emulators.find? (host.emulatorNamed name) with
    | none => (.error (.emulatorNotRegistered name), host)
    | some emulator =>
      let remaining := listed.emulators.erase emulator
      let host := host.setRegistry registry { listed with emulators := remaining }
      (.ok (), rebind emulator remaining listed.devices host)

/-- The device of the given name, as a registry lists it first. -/
def findDevice (registry : Nat) (name : String) : Option Nat :=
  host.registries[registry]?.bind fun listed => listed.devices.find? (host.deviceNamed name)

/-- The emulator of the given name that a registry lists. -/
def findEmulator (registry : Nat) (name : String) : Option Nat :=
  host.registries[registry]?.bind fun listed => listed.emulators.find? (host.emulatorNamed name)

/-- The emulator that a device is bound to, if the registry lists the device. -/
def boundEmulator (registry device : Nat) : Option Nat :=
  host.registries[registry]?.bind fun listed =>
    if listed.devices.contains device then host.binding device else none

/-- End the binding of every registered device, and leave the registry empty. -/
def shutdown (registry : Nat) : Host ε δ :=
  match host.registries[registry]? with
  | none => host
  | some listed => (listed.devices.foldl unbind host).setRegistry registry {}

end Host

end Paravirt

import Paravirt.Host.Basic

/-!
# Bindings

A device is bound to an emulator by offering it: the emulator has to implement the device's type and
its `connect` hook, which already sees the binding, has to accept. A refusal undoes the binding and
drops whatever data the hook left. A binding is ended by the `disconnect` hook, after which the
device is free and without data.
-/

namespace Paravirt

variable {ε δ : Type}

namespace Host

variable (host : Host ε δ)

/-- Whether a device is bound. -/
def isBound (device : Nat) : Bool := (host.devices[device]?).any (·.isBound)

/-- The number of the emulator that a device is bound to. -/
def binding (device : Nat) : Option Nat := (host.devices[device]?).bind (·.emulator)

/-- Leave a device without an emulator and without the data of one. -/
def release (device : Nat) : Host ε δ :=
  { host with devices := host.devices.modify device (·.release) }

/-- Offer a device to an emulator. The answer is whether they are bound now. -/
def offer (device emulator : Nat) : Bool × Host ε δ :=
  match host.devices[device]?, host.emulators[emulator]? with
  | some owner, some behaviour =>
    if behaviour.supports owner.profile then
      match host.enter device (owner.bindTo emulator) behaviour.connect with
      | (.ok (), host) => (true, host)
      | (.error _, host) => (false, host.release device)
    else
      (false, host)
  | _, _ => (false, host)

/-- Offer a device to emulators, one after another, until one accepts. -/
def offerTo (device : Nat) : List Nat → Host ε δ → Host ε δ
  | [], host => host
  | emulator :: rest, host =>
    match host.offer device emulator with
    | (true, host) => host
    | (false, host) => offerTo device rest host

/-- End the binding of a device, if it has one. -/
def unbind (device : Nat) : Host ε δ :=
  match host.devices[device]? with
  | none => host
  | some owner =>
    match host.emulatorOf owner with
    | none => host
    | some emulator => (host.enter device owner emulator.disconnect).2.release device

end Host

end Paravirt

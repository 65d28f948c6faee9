import Paravirt.Emulator.Basic
import Paravirt.Emulator.Data

/-!
# Scripted emulators

A scripted emulator writes every hook call into a journal before it does anything else, and then
answers as its script says: with a failure of the script's own wording, with a refusal of certain
devices, with a refusal of the first few, or with a number computed from the arguments. Transports
write their notifications into the same journal, so that it tells the order of all that happened.
-/

namespace Paravirt

/-- The hooks of an emulator. -/
inductive HookKind where
  /-- Features offered. -/
  | hostFeatures
  /-- Features accepted. -/
  | setGuestFeatures
  /-- Ring placed. -/
  | initQueue
  /-- Page of a ring. -/
  | queuePage
  /-- Largest queue. -/
  | queueSize
  /-- Queue size chosen. -/
  | setQueueSize
  /-- Queue kicked. -/
  | notifyQueue
  /-- Status changed. -/
  | statusChanged
  /-- Configuration read. -/
  | readConfig
  /-- Configuration written. -/
  | writeConfig
  /-- Device reset. -/
  | reset
  /-- Device bound. -/
  | connect
  /-- Binding about to end. -/
  | disconnect
  deriving DecidableEq

/-- An argument of a hook call, as the journal keeps it. -/
inductive Argument where
  /-- A number. -/
  | number (value : Nat)
  /-- A run of bytes. -/
  | bytes (value : List UInt8)
  /-- A name, where there is one. -/
  | name (value : Option String)
  deriving DecidableEq

/-- An entry of the journal. -/
inductive Event where
  /-- A hook of an emulator was called for a device. -/
  | called (hook : HookKind) (emulator device : String) (arguments : List Argument)
  /-- A transport was asked to notify the guest of a device about a queue. -/
  | notified (transport device : String) (queue : UInt32)
  deriving DecidableEq

/-- What transports and scripted emulators share. -/
structure Journal where
  /-- The entries, the latest first. -/
  entries : List Event := []
  /-- How many devices each scripted emulator still refuses as busy, by the slot of its script. -/
  refusals : List Nat := []

namespace Journal

/-- Write an entry. -/
def record (journal : Journal) (event : Event) : Journal :=
  { journal with entries := event :: journal.entries }

/-- The entries in the order in which they were written. -/
def events (journal : Journal) : List Event := journal.entries.reverse

/-- The journal with all entries removed. -/
def clear (journal : Journal) : Journal := { journal with entries := [] }

/-- Open a slot for a further script that refuses the given number of devices. -/
def openSlot (journal : Journal) (refusals : Nat) : Journal :=
  { journal with refusals := journal.refusals ++ [refusals] }

end Journal

/-- A transport that writes every notification into the journal, and then fails if it is given the
text of a failure. -/
def Transport.recording (name : String) (failure : Option String) : Transport Journal where
  name := name
  notify device queue journal :=
    (match failure with
      | none => .ok ()
      | some text => .error (.emulator text),
    journal.record (.notified name device queue))

/-- What a scripted emulator says to each hook. -/
structure Script where
  /-- The name of the emulator. -/
  name : String
  /-- The device types that it implements. -/
  typeIds : List UInt32
  /-- The features that it offers. -/
  features : UInt64
  /-- The hooks that fail, and the wording of each failure. -/
  failures : List (HookKind × String)
  /-- The names of the devices that it refuses. -/
  refused : List String
  /-- The slot of the journal that counts the devices it refuses as busy. -/
  slot : Nat

namespace Script

variable (script : Script)

/-- Write a hook call into the journal. -/
def record (view : DeviceView Journal) (hook : HookKind) (arguments : List Argument)
    (scene : Scene Journal EmulatorData) : Scene Journal EmulatorData :=
  { scene with
    shared := scene.shared.record (.called hook script.name view.profile.name arguments) }

/-- The outcome that the script sets for a hook, which otherwise gives the answer. -/
def outcome {α : Type} (hook : HookKind) (answer : α) : Except DeviceError α :=
  match script.failures.lookup hook with
  | none => .ok answer
  | some text => .error (.emulator text)

/-- Write a hook call into the journal and answer as the script says. -/
def call {α : Type} (view : DeviceView Journal) (hook : HookKind) (arguments : List Argument)
    (answer : α) : Hook Journal EmulatorData α := fun scene =>
  (script.outcome hook answer, script.record view hook arguments scene)

/-- What `connect` and `disconnect` note of a device: the emulator it is bound to and the text kept
with it. -/
def bindingNote (view : DeviceView Journal) (scene : Scene Journal EmulatorData) : List Argument :=
  [.name view.emulatorName, .name (scene.data.bind (·.text?))]

/-- Whether the script accepts a device: not while it still refuses devices as busy, and never a
device that it refuses by name. -/
def accept (device : String) : Hook Journal EmulatorData Unit := fun scene =>
  let left := (scene.shared.refusals[script.slot]?).getD 0
  if left != 0 then
    (.error (.emulator (script.name ++ " is busy")),
      { scene with
        shared := { scene.shared with
          refusals := scene.shared.refusals.set script.slot (left - 1) } })
  else if script.refused.contains device then
    (.error (.emulator (script.name ++ " refuses " ++ device)), scene)
  else
    (.ok (), scene)

/-- Note the binding, leave the emulator's name with the device, then accept or refuse it. -/
def connect (view : DeviceView Journal) : Hook Journal EmulatorData Unit := fun scene =>
  let scene := script.record view .connect (bindingNote view scene) scene
  let scene := { scene with data := some (.text script.name) }
  match script.outcome .connect () with
  | .error error => (.error error, scene)
  | .ok () => script.accept view.profile.name scene

/-- The configuration bytes from an offset on: each is its own position modulo 256. -/
def configBytes (offset : UInt64) (length : Nat) : List UInt8 :=
  (List.range length).map fun index => UInt8.ofNat (offset.toNat + index)

/-- The emulator that follows a script. -/
def emulator : Emulator Journal EmulatorData where
  name := script.name
  typeIds := script.typeIds
  hostFeatures view scene := (script.features, script.record view .hostFeatures [] scene)
  setGuestFeatures view select features :=
    script.call view .setGuestFeatures [.number select.toNat, .number features.toNat] ()
  initQueue view queue pageSize align page :=
    script.call view .initQueue
      [.number queue.toNat, .number pageSize.toNat, .number align.toNat, .number page.toNat] ()
  queuePage view queue scene :=
    (queue ^^^ 0x5000, script.record view .queuePage [.number queue.toNat] scene)
  queueSize view queue scene :=
    (queue ^^^ 0x100, script.record view .queueSize [.number queue.toNat] scene)
  setQueueSize view queue size :=
    script.call view .setQueueSize [.number queue.toNat, .number size.toNat] ()
  notifyQueue view queue := script.call view .notifyQueue [.number queue.toNat] ()
  statusChanged view status := script.call view .statusChanged [.number status.toNat] ()
  readConfig view offset buffer :=
    script.call view .readConfig [.number offset.toNat, .number buffer.length]
      (configBytes offset buffer.length)
  writeConfig view offset bytes :=
    script.call view .writeConfig [.number offset.toNat, .bytes bytes] ()
  reset view := script.call view .reset [] ()
  connect := script.connect
  disconnect view scene := ((), script.record view .disconnect (bindingNote view scene) scene)

end Script

end Paravirt

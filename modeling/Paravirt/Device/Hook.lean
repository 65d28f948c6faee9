import Paravirt.Device.Basic
import Paravirt.Queue.Available
import Paravirt.Queue.Used

/-!
# Hooks

Emulators act through hooks. A hook is told which device it is called for and works on a scene: the
guests, the queues and data of that device, and whatever transport and emulators share. Bindings and
other devices are out of its reach. A hook that fails keeps the changes that it made before.
-/

namespace Paravirt

variable {ε δ : Type}

/-- What a hook can change. -/
structure Scene (ε δ : Type) where
  /-- The guests of the host. -/
  guests : Guests
  /-- The queues of the device. -/
  queues : List Queue
  /-- The data that an emulator keeps with the device. -/
  data : Option δ
  /-- What transports and emulators share. -/
  shared : ε

/-- The device that a hook is called for. -/
structure DeviceView (ε : Type) where
  /-- The number of the device. -/
  number : Nat
  /-- What is fixed about the device. -/
  profile : DeviceProfile ε
  /-- The number of the emulator that the device is bound to. -/
  emulator : Option Nat
  /-- The name of that emulator. -/
  emulatorName : Option String

/-- An action on a scene that always answers. -/
abbrev Reply (ε δ α : Type) := Scene ε δ → α × Scene ε δ

/-- An action on a scene that answers or fails. -/
abbrev Hook (ε δ α : Type) := Reply ε δ (Except DeviceError α)

namespace DeviceView

variable (view : DeviceView ε)

/-- The address space of the device's own guest. -/
def space (scene : Scene ε δ) : AddressSpace := scene.guests.space view.profile.guest

/-- Notify the guest about a queue. -/
def signal (queue : UInt32) : Hook ε δ Unit := fun scene =>
  let (outcome, shared) := view.profile.transport.notify view.profile.name queue scene.shared
  (outcome, { scene with shared })

/-- Notify the guest about a queue if its driver wants to be told of the used elements published
since it was told last. The answer is whether it was. The queue takes it that the driver is told
before the transport is asked to. -/
def signalIfNeeded (index : UInt32) : Hook ε δ Bool := fun scene =>
  match scene.queues[index.toNat]? with
  | none => (.error .queueOutOfRange, scene)
  | some queue =>
    let (due, queue, guests) := queue.runOn scene.guests fun queue space =>
      let (due, queue) := queue.shouldNotify space
      (due, queue, space)
    let scene := { scene with guests, queues := scene.queues.set index.toNat queue }
    if due then
      let (outcome, scene) := view.signal index scene
      (outcome.map fun _ => true, scene)
    else
      (.ok false, scene)

end DeviceView

end Paravirt

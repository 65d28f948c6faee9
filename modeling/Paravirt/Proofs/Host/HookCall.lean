import Paravirt.Host.Device
import Paravirt.Proofs.Host.Effect

/-!
# The calls that hooks see

A host calls the hooks of an emulator to bind a device, to end its binding, and to answer what the
driver asks of it. Each call is noted with what the hook finds and what it leaves: the binding that
the device shows, and the data that it holds before and after. The notes follow from the course of
the operations, and they are what emulators that keep a record of their own calls write into it.
-/

namespace Paravirt

variable {ε δ α : Type}

/-- What the driver of a guest asks of a device. -/
inductive DeviceRequest where
  /-- The features that the device offers. -/
  | hostFeatures
  /-- Accept features. -/
  | setGuestFeatures (select features : UInt32)
  /-- Place the ring of a queue on a page. -/
  | initQueue (queue pageSize align page : UInt32)
  /-- The page on which the ring of a queue starts. -/
  | queuePage (queue : UInt32)
  /-- The most descriptors that a queue may have. -/
  | queueSize (queue : UInt32)
  /-- Choose the number of descriptors of a queue. -/
  | setQueueSize (queue size : UInt32)
  /-- Heads were published on a queue. -/
  | notifyQueue (queue : UInt32)
  /-- The status was changed. -/
  | statusChanged (status : UInt32)
  /-- Read the configuration into a buffer. -/
  | readConfig (offset : UInt64) (buffer : List UInt8)
  /-- Write the configuration. -/
  | writeConfig (offset : UInt64) (bytes : List UInt8)
  /-- Reset the device. -/
  | reset
  deriving DecidableEq

/-- A hook of an emulator, with the arguments of a request. -/
inductive EmulatorHook where
  /-- A device was bound. -/
  | connect
  /-- A binding is about to end. -/
  | disconnect
  /-- The driver asks something of a bound device. -/
  | request (request : DeviceRequest)
  deriving DecidableEq

/-- Run a hook. The answer is whether it accepts the device, which `connect` alone may refuse. -/
def Emulator.run (emulator : Emulator ε δ) (view : DeviceView ε) (scene : Scene ε δ) :
    EmulatorHook → Bool × Scene ε δ
  | .connect => ((emulator.connect view scene).1.isOk, (emulator.connect view scene).2)
  | .disconnect => (true, (emulator.disconnect view scene).2)
  | .request .hostFeatures => (true, (emulator.hostFeatures view scene).2)
  | .request (.setGuestFeatures select features) =>
    (true, (emulator.setGuestFeatures view select features scene).2)
  | .request (.initQueue queue pageSize align page) =>
    (true, (emulator.initQueue view queue pageSize align page scene).2)
  | .request (.queuePage queue) => (true, (emulator.queuePage view queue scene).2)
  | .request (.queueSize queue) => (true, (emulator.queueSize view queue scene).2)
  | .request (.setQueueSize queue size) => (true, (emulator.setQueueSize view queue size scene).2)
  | .request (.notifyQueue queue) => (true, (emulator.notifyQueue view queue scene).2)
  | .request (.statusChanged status) => (true, (emulator.statusChanged view status scene).2)
  | .request (.readConfig offset buffer) => (true, (emulator.readConfig view offset buffer scene).2)
  | .request (.writeConfig offset bytes) => (true, (emulator.writeConfig view offset bytes scene).2)
  | .request .reset => (true, (emulator.reset view scene).2)

/-- A call of a hook, and what it found and left. -/
structure HookCall (δ : Type) where
  /-- The hook. -/
  hook : EmulatorHook
  /-- The number of the emulator whose hook it is. -/
  emulator : Nat
  /-- The number of the device for which it is called. -/
  device : Nat
  /-- The emulator that the device shows as its binding when the hook begins. -/
  shown : Option Nat
  /-- The data that the device holds when the hook begins. -/
  found : Option δ
  /-- The data that the device holds when the hook has ended. -/
  left : Option δ
  /-- Whether the hook accepts the device. -/
  accepted : Bool
  deriving DecidableEq

/-- The note of running a hook for a device in a scene. -/
def HookCall.note (emulator : Nat) (behaviour : Emulator ε δ) (view : DeviceView ε)
    (scene : Scene ε δ) (hook : EmulatorHook) : HookCall δ where
  hook := hook
  emulator := emulator
  device := view.number
  shown := view.emulator
  found := scene.data
  left := (behaviour.run view scene hook).2.data
  accepted := (behaviour.run view scene hook).1

/-- What happens on a host: an operation on a registry, or a request to a device. -/
inductive HostOperation where
  /-- An operation on a registry. -/
  | registry (operation : RegistryOperation)
  /-- A request to a device. -/
  | request (device : Nat) (request : DeviceRequest)
  deriving DecidableEq

namespace Host

section Notes

variable (host : Host ε δ)

/-- What a hook finds that is called for a device. -/
def scene (owner : Device ε δ) : Scene ε δ where
  guests := host.guests
  queues := owner.queues
  data := owner.data
  shared := host.shared

/-- The host after a request to a device. -/
def request (device : Nat) : DeviceRequest → Host ε δ
  | .hostFeatures => (host.hostFeatures device).2
  | .setGuestFeatures select features => (host.setGuestFeatures device select features).2
  | .initQueue queue pageSize align page => (host.initQueue device queue pageSize align page).2
  | .queuePage queue => (host.queuePage device queue).2
  | .queueSize queue => (host.queueSize device queue).2
  | .setQueueSize queue size => (host.setQueueSize device queue size).2
  | .notifyQueue queue => (host.notifyQueue device queue).2
  | .statusChanged status => (host.statusChanged device status).2
  | .readConfig offset buffer => (host.readConfig device offset buffer).2
  | .writeConfig offset bytes => (host.writeConfig device offset bytes).2
  | .reset => (host.reset device).2

/-- The host after an operation or a request. -/
def act : HostOperation → Host ε δ
  | .registry operation => (host.perform operation).2
  | .request device request => host.request device request

/-- The host after a series of operations and requests. -/
def actEach (operations : List HostOperation) : Host ε δ := operations.foldl act host

/-- The note of calling a hook of an emulator for a device that stands as given. -/
def call (hook : EmulatorHook) (emulator device : Nat) (owner : Device ε δ) : List (HookCall δ) :=
  match host.emulators[emulator]? with
  | none => []
  | some behaviour =>
    [HookCall.note emulator behaviour (host.view device owner) (host.scene owner) hook]

/-- The note of what happens to a binding: a device that is to be connected already shows its new
binding, and one that is to be disconnected still shows the old one. -/
def callOf : BindingEvent → List (HookCall δ)
  | .connect emulator device _ =>
    match host.devices[device]? with
    | none => []
    | some owner => host.call .connect emulator device (owner.bindTo emulator)
  | .disconnect emulator device =>
    match host.devices[device]? with
    | none => []
    | some owner => host.call .disconnect emulator device owner
  | .forget _ | .relist _ _ => []

/-- The notes of a series of events. -/
def storyCalls : List BindingEvent → Host ε δ → List (HookCall δ)
  | [], _ => []
  | event :: rest, host => host.callOf event ++ storyCalls rest (host.occur event)

/-- The note of a request, none where the device is not bound. -/
def requestCalls (device : Nat) (request : DeviceRequest) : List (HookCall δ) :=
  match host.devices[device]? with
  | none => []
  | some owner =>
    match owner.emulator with
    | none => []
    | some emulator => host.call (.request request) emulator device owner

/-- The notes of an operation or a request. -/
def callsOf : HostOperation → List (HookCall δ)
  | .registry operation => storyCalls (host.trace operation) host
  | .request device request => host.requestCalls device request

/-- The notes of a series of operations and requests. -/
def callHistory : List HostOperation → Host ε δ → List (HookCall δ)
  | [], _ => []
  | operation :: rest, host => host.callsOf operation ++ callHistory rest (host.act operation)

end Notes

variable {host later : Host ε δ} {device emulator : Nat} {owner : Device ε δ}
  {behaviour : Emulator ε δ} {event : BindingEvent} {events : List BindingEvent}

/-- A request runs its hook of the emulator that the device is bound to. -/
theorem request_of_emulatorOf (found : host.devices[device]? = some owner)
    (bound : host.emulatorOf owner = some behaviour) (request : DeviceRequest) :
    host.request device request = (host.enter device owner fun view scene =>
      behaviour.run view scene (.request request)).2 := by
  cases request <;>
    simp only [Host.request, hostFeatures, setGuestFeatures, initQueue, queuePage, queueSize,
      setQueueSize, notifyQueue, statusChanged, readConfig, writeConfig, reset, ask, found, bound] <;>
    rfl

/-- A request to a device that is not bound does nothing. -/
theorem request_of_free (free : host.binding device = none) (request : DeviceRequest) :
    host.request device request = host := by
  have hask {α : Type} (default : α) (hook : Emulator ε δ → DeviceView ε → Reply ε δ α) :
      (host.ask device default hook).2 = host := by
    unfold ask
    cases found : host.devices[device]? with
    | none => rfl
    | some owner =>
      have hfree : owner.emulator = none := by
        rwa [binding, found] at free
      have hemulator : host.emulatorOf owner = none := by
        rw [emulatorOf, hfree]
        rfl
      simp only [hemulator]
  cases request <;> exact hask _ _

/-- A request acts on the device that it is for. -/
theorem Suited.actsOn_request (suited : host.Suited) (device : Nat) (request : DeviceRequest) :
    ActsOn device host (host.request device request) := by
  cases bound : host.binding device with
  | none =>
    rw [request_of_free bound]
    exact ActsOn.refl device host
  | some emulator =>
    obtain ⟨owner, behaviour, found, -, -, hbehaviour⟩ := suited.emulatorOf bound
    have hprofile : host.profile? device = some owner.profile := by
      rw [profile?, found]
      rfl
    rw [request_of_emulatorOf found hbehaviour]
    exact actsOn_enter hprofile _

/-- A request leaves all bindings as they are. -/
theorem Suited.binding_request (suited : host.Suited) (device : Nat) (request : DeviceRequest)
    (other : Nat) : (host.request device request).binding other = host.binding other := by
  by_cases same : other = device
  · rw [same]
    cases bound : host.binding device with
    | none => rw [request_of_free bound, bound]
    | some emulator =>
      obtain ⟨owner, behaviour, found, howner, -, hbehaviour⟩ := suited.emulatorOf bound
      have hprofile : host.profile? device = some owner.profile := by
        rw [profile?, found]
        rfl
      rw [request_of_emulatorOf found hbehaviour, binding_enter hprofile, howner]
  · exact (suited.actsOn_request device request).binding_eq same

/-- A request leaves every device bound to an emulator of its type. -/
theorem Suited.request (suited : host.Suited) (device : Nat) (request : DeviceRequest) :
    (host.request device request).Suited := by
  intro other emulator bound
  rw [suited.binding_request] at bound
  rw [(suited.actsOn_request device request).suits_eq]
  exact suited other emulator bound

/-- An operation or a request adds or replaces no device and no emulator. -/
theorem Suited.sameCast_act (suited : host.Suited) (operation : HostOperation) :
    SameCast host (host.act operation) := by
  cases operation with
  | registry operation => exact suited.sameCast_perform operation
  | request device request => exact (suited.actsOn_request device request).toSameCast

/-- An operation or a request leaves every device bound to an emulator of its type. -/
theorem Suited.act (suited : host.Suited) (operation : HostOperation) :
    (host.act operation).Suited := by
  cases operation with
  | registry operation =>
    obtain ⟨hstory, hafter⟩ := suited.story_trace operation
    rw [Host.act, hafter]
    exact suited.after hstory
  | request device request => exact suited.request device request

/-- The note of a hook of an emulator that exists. -/
theorem call_of_known (known : host.emulators[emulator]? = some behaviour) (hook : EmulatorHook)
    (device : Nat) (owner : Device ε δ) : host.call hook emulator device owner =
      [HookCall.note emulator behaviour (host.view device owner) (host.scene owner) hook] := by
  rw [call, known]

/-- A call to connect is noted for a device that already shows its new binding. -/
theorem callOf_connect (found : host.devices[device]? = some owner)
    (known : host.emulators[emulator]? = some behaviour) (accepted : Bool) :
    host.callOf (.connect emulator device accepted) =
      [HookCall.note emulator behaviour (host.view device (owner.bindTo emulator))
        (host.scene (owner.bindTo emulator)) .connect] := by
  rw [callOf, found]
  exact call_of_known known _ _ _

/-- A call to disconnect is noted for a device that still shows its binding. -/
theorem callOf_disconnect (found : host.devices[device]? = some owner)
    (known : host.emulators[emulator]? = some behaviour) :
    host.callOf (.disconnect emulator device) =
      [HookCall.note emulator behaviour (host.view device owner) (host.scene owner)
        .disconnect] := by
  rw [callOf, found]
  exact call_of_known known _ _ _

/-- A call for a request is noted for a device that shows its binding. -/
theorem requestCalls_of_bound (found : host.devices[device]? = some owner)
    (bound : owner.emulator = some emulator) (known : host.emulators[emulator]? = some behaviour)
    (request : DeviceRequest) :
    host.requestCalls device request =
      [HookCall.note emulator behaviour (host.view device owner) (host.scene owner)
        (.request request)] := by
  rw [requestCalls, found]
  dsimp only
  rw [bound]
  exact call_of_known known _ _ _

/-- A request to a device that is not bound calls no hook. -/
theorem requestCalls_of_free (free : host.binding device = none) (request : DeviceRequest) :
    host.requestCalls device request = [] := by
  unfold requestCalls
  split
  · rfl
  · rename_i owner found
    rw [binding, found] at free
    have hfree : owner.emulator = none := free
    rw [hfree]

/-- A device after a hook was run for it: as it stood when the hook began, with the queues and the
data that the hook has left. -/
theorem getElem?_enter {before : Device ε δ} (found : host.devices[device]? = some before)
    (owner : Device ε δ) (hook : DeviceView ε → Reply ε δ α) :
    (host.enter device owner hook).2.devices[device]? =
      some { owner with
        queues := (hook (host.view device owner) (host.scene owner)).2.queues
        data := (hook (host.view device owner) (host.scene owner)).2.data } :=
  List.getElem?_set_self (List.getElem?_eq_some_iff.1 found).1

/-- A host whose emulators keep a record of all calls of their hooks in what they share. -/
def Records (host : Host ε δ) (log : ε → List (HookCall δ)) : Prop :=
  ∀ (emulator : Nat) (behaviour : Emulator ε δ), host.emulators[emulator]? = some behaviour →
    ∀ (hook : EmulatorHook) (view : DeviceView ε) (scene : Scene ε δ),
      log (behaviour.run view scene hook).2.shared =
        log scene.shared ++ [HookCall.note emulator behaviour view scene hook]

/-- The same emulators keep the same record. -/
theorem Records.of_emulators {log : ε → List (HookCall δ)} (records : host.Records log)
    (same : later.emulators = host.emulators) : later.Records log := by
  unfold Records
  rw [same]
  exact records

end Host

end Paravirt

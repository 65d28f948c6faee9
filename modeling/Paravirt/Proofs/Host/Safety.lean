import Mathlib.Data.List.Nodup
import Paravirt.Emulator.Scripted
import Paravirt.Proofs.Host.Effect

/-!
# Safety of registries

Any number of registries share the devices and emulators of a host, and each of them can release or
offer a device that others list too. Whatever the emulators answer, no registry lists a device twice
or two emulators of one name, every binding is backed by a registry that lists both sides, and every
call to disconnect ends a binding that an accepted call to connect has made.
-/

namespace Paravirt

variable {ε δ : Type}

namespace Host

/-- The name of an emulator, by its number. -/
def emulatorName? (host : Host ε δ) (emulator : Nat) : Option String :=
  (host.emulators[emulator]?).map (·.name)

/-- What a registry may list: no device twice, and emulators that exist and differ in their names. -/
structure Lists (host : Host ε δ) (listed : Registry) : Prop where
  /-- No device is listed twice. -/
  devices : listed.devices.Nodup
  /-- The emulators exist. -/
  known : ∀ emulator ∈ listed.emulators, (host.emulators[emulator]?).isSome
  /-- No two emulators have the same name. -/
  names : (listed.emulators.map host.emulatorName?).Nodup

/-- Some registry lists both a device and an emulator. -/
def ListsBoth (host : Host ε δ) (device emulator : Nat) : Prop :=
  ∃ (registry : Nat) (listed : Registry), host.registries[registry]? = some listed ∧
    device ∈ listed.devices ∧ emulator ∈ listed.emulators

/-- The registries list what they may, and every binding is of the device's type and backed by a
registry. -/
structure Orderly (host : Host ε δ) : Prop where
  /-- The registries list what they may. -/
  lists : ∀ (registry : Nat) (listed : Registry), host.registries[registry]? = some listed →
    host.Lists listed
  /-- Devices are bound to emulators of their types. -/
  suited : host.Suited
  /-- Some registry lists both sides of a binding. -/
  backed : ∀ device emulator, host.binding device = some emulator → host.ListsBoth device emulator

/-- Nothing is registered and no device is bound. -/
structure Fresh (host : Host ε δ) : Prop where
  /-- The registries list nothing. -/
  registries : ∀ listed ∈ host.registries, listed = {}
  /-- The devices are not bound. -/
  devices : ∀ device ∈ host.devices, device.emulator = none

variable {host later : Host ε δ} {registry device emulator : Nat} {listed new : Registry}

/-- No device of a fresh host is bound. -/
theorem Fresh.binding_eq (fresh : host.Fresh) (device : Nat) : host.binding device = none := by
  unfold binding
  cases found : host.devices[device]? with
  | none => rfl
  | some owner => exact fresh.devices owner (List.mem_of_getElem? found)

namespace Lists

/-- What may be listed depends on the emulators alone. -/
theorem of_emulators (lists : host.Lists listed) (same : later.emulators = host.emulators) :
    later.Lists listed := by
  have hnames : later.emulatorName? = host.emulatorName? := by
    funext emulator
    rw [emulatorName?, emulatorName?, same]
  refine ⟨lists.devices, ?_, ?_⟩
  · rw [same]
    exact lists.known
  · rw [hnames]
    exact lists.names

/-- A device that is not listed may be added. -/
theorem addDevice (lists : host.Lists listed) (unlisted : device ∉ listed.devices) :
    host.Lists { listed with devices := listed.devices ++ [device] } := by
  refine ⟨?_, lists.known, lists.names⟩
  refine List.nodup_append.2 ⟨lists.devices, List.nodup_singleton device, ?_⟩
  rintro first member second single rfl
  rw [List.mem_singleton.1 single] at member
  exact unlisted member

/-- Any device may be removed. -/
theorem removeDevice (lists : host.Lists listed) (device : Nat) :
    host.Lists { listed with devices := listed.devices.erase device } :=
  ⟨lists.devices.erase device, lists.known, lists.names⟩

/-- An emulator of a name that is not listed may be added. -/
theorem addEmulator (lists : host.Lists listed) {behaviour : Emulator ε δ}
    (known : host.emulators[emulator]? = some behaviour)
    (unlisted : listed.emulators.any (host.emulatorNamed behaviour.name) = false) :
    host.Lists { listed with emulators := listed.emulators ++ [emulator] } := by
  refine ⟨lists.devices, fun other member => ?_, ?_⟩
  · rcases List.mem_append.1 member with earlier | last
    · exact lists.known other earlier
    · rw [List.mem_singleton.1 last, known]
      rfl
  · rw [List.map_append, List.nodup_append]
    refine ⟨lists.names, List.nodup_singleton _, ?_⟩
    rintro name earlier last single rfl
    obtain ⟨other, member, hname⟩ := List.mem_map.1 earlier
    have hlast : host.emulatorName? emulator = some behaviour.name := by
      rw [emulatorName?, known]
      rfl
    rw [List.mem_singleton.1 single, hlast] at hname
    obtain ⟨otherBehaviour, hother, hsame⟩ := Option.map_eq_some_iff.1 hname
    have hdifferent := List.any_eq_false.1 unlisted other member
    rw [emulatorNamed, hother, Option.any_some, hsame, beq_self_eq_true] at hdifferent
    exact hdifferent rfl

/-- Any emulator may be removed. -/
theorem removeEmulator (lists : host.Lists listed) (emulator : Nat) :
    host.Lists { listed with emulators := listed.emulators.erase emulator } :=
  ⟨lists.devices, fun other member => lists.known other (List.mem_of_mem_erase member),
    lists.names.sublist ((List.erase_sublist).map _)⟩

/-- Nothing may be listed. -/
theorem empty (host : Host ε δ) : host.Lists {} :=
  ⟨List.nodup_nil, fun _ listed => absurd listed List.not_mem_nil, List.nodup_nil⟩

end Lists

/-- A fresh host is in order. -/
theorem Fresh.orderly (fresh : host.Fresh) : host.Orderly := by
  refine ⟨fun registry listed found => ?_, fun device emulator bound => ?_,
    fun device emulator bound => ?_⟩
  · rw [fresh.registries listed (List.mem_of_getElem? found)]
    exact Lists.empty host
  · rw [fresh.binding_eq] at bound
    cases bound
  · rw [fresh.binding_eq] at bound
    cases bound

/-- What the registries list after one of them has changed its lists. -/
theorem getElem?_registries_set {other : Nat} {otherListed : Registry}
    (changed : later.registries = host.registries.set registry new)
    (found : later.registries[other]? = some otherListed) :
    (other = registry ∧ otherListed = new) ∨
      (other ≠ registry ∧ host.registries[other]? = some otherListed) := by
  rw [changed] at found
  by_cases same : other = registry
  · rw [same, List.getElem?_set] at found
    split at found
    · split at found
      · exact Or.inl ⟨same, (Option.some.inj found).symm⟩
      · cases found
    · rename_i apart
      exact absurd rfl apart
  · rw [List.getElem?_set_ne (Ne.symm same)] at found
    exact Or.inr ⟨same, found⟩

/-- The changed lists of a registry can be found. -/
theorem getElem?_registries_set_self (found : host.registries[registry]? = some listed)
    (changed : later.registries = host.registries.set registry new) :
    later.registries[registry]? = some new := by
  rw [changed]
  exact List.getElem?_set_self (List.getElem?_eq_some_iff.1 found).1

/-- A registry that lists both sides does so after a change that keeps them. -/
theorem ListsBoth.set (both : host.ListsBoth device emulator)
    (found : host.registries[registry]? = some listed)
    (changed : later.registries = host.registries.set registry new)
    (kept : device ∈ listed.devices → emulator ∈ listed.emulators →
      device ∈ new.devices ∧ emulator ∈ new.emulators) :
    later.ListsBoth device emulator := by
  obtain ⟨other, otherListed, hfound, hdevice, hemulator⟩ := both
  by_cases same : other = registry
  · rw [same, found] at hfound
    cases hfound
    exact ⟨registry, new, getElem?_registries_set_self found changed, kept hdevice hemulator⟩
  · refine ⟨other, otherListed, ?_, hdevice, hemulator⟩
    rw [changed, List.getElem?_set_ne (Ne.symm same)]
    exact hfound

/-- The lists that an operation leaves behind are allowed. -/
theorem Orderly.lists_set (orderly : host.Orderly) (allowed : host.Lists new)
    (same : later.emulators = host.emulators)
    (changed : later.registries = host.registries.set registry new) :
    ∀ (other : Nat) (otherListed : Registry), later.registries[other]? = some otherListed →
      later.Lists otherListed := by
  intro other otherListed found
  rcases getElem?_registries_set changed found with ⟨-, rfl⟩ | ⟨-, before⟩
  · exact allowed.of_emulators same
  · exact (orderly.lists other otherListed before).of_emulators same

/-- Going through the devices of a registry keeps the host in order, if each turn leaves the device
with a binding that the registry lists, or with the one it had, and the registry goes on listing it. -/
theorem Orderly.sweeps {turn : Nat → Host ε δ → List BindingEvent} {events : List BindingEvent}
    (orderly : host.Orderly) (found : host.registries[registry]? = some listed)
    (sweeps : Sweeps turn listed.devices registry new host events) (allowed : host.Lists new)
    (turned : ∀ device ∈ listed.devices, ∀ (middle : Host ε δ) (emulator : Nat), middle.Suited →
      (middle.after (turn device middle)).binding device = some emulator →
        (device ∈ new.devices ∧ emulator ∈ new.emulators) ∨
          (middle.binding device = some emulator ∧
            (emulator ∈ listed.emulators → device ∈ new.devices ∧ emulator ∈ new.emulators))) :
    (host.after events).Orderly := by
  have hcast := (sameCast_after host events).emulators
  refine ⟨orderly.lists_set allowed hcast sweeps.registries, orderly.suited.after sweeps.story,
    fun device emulator bound => ?_⟩
  by_cases member : device ∈ listed.devices
  · obtain ⟨middle, hmiddle, -, hbefore, hturned⟩ :=
      sweeps.listed (orderly.lists registry listed found).devices device member
    rw [hturned] at bound
    rcases turned device member middle emulator hmiddle bound with here | ⟨before, hkept⟩
    · exact ⟨registry, new, getElem?_registries_set_self found sweeps.registries, here⟩
    · rw [hbefore] at before
      exact (orderly.backed device emulator before).set found sweeps.registries fun _ => hkept
  · rw [sweeps.unlisted device member] at bound
    exact (orderly.backed device emulator bound).set found sweeps.registries
      fun present => absurd present member

/-- Registering a device keeps the host in order. -/
theorem Orderly.registerDevice (orderly : host.Orderly)
    (found : host.registries[registry]? = some listed) (unlisted : device ∉ listed.devices) :
    (host.after (host.registerDeviceTrace registry device listed)).Orderly := by
  have hcast := (sameCast_after host (host.registerDeviceTrace registry device listed)).emulators
  have hlists := registries_registerDeviceTrace host registry device listed
  have hallowed := (orderly.lists registry listed found).addDevice unlisted
  refine ⟨orderly.lists_set hallowed hcast hlists,
    orderly.suited.after (story_registerDeviceTrace host registry device listed),
    fun other emulator bound => ?_⟩
  by_cases same : other = device
  · obtain ⟨middle, -, hfree, hoffers⟩ := binding_registerDeviceTrace host registry device listed
    rw [same, hoffers] at bound
    rw [same]
    exact ⟨registry, _, getElem?_registries_set_self found hlists,
      List.mem_append_right _ List.mem_cons_self, mem_of_binding_offerTo hfree bound⟩
  · rw [binding_registerDeviceTrace_of_ne same] at bound
    exact (orderly.backed other emulator bound).set found hlists fun member present =>
      ⟨List.mem_append_left _ member, present⟩

/-- Unregistering a device keeps the host in order. -/
theorem Orderly.unregisterDevice (orderly : host.Orderly)
    (found : host.registries[registry]? = some listed) (device : Nat) :
    (host.after (host.unregisterDeviceTrace registry device listed)).Orderly := by
  have hcast := (sameCast_after host (host.unregisterDeviceTrace registry device listed)).emulators
  have hlists := registries_unregisterDeviceTrace host registry device listed
  have hallowed := (orderly.lists registry listed found).removeDevice device
  refine ⟨orderly.lists_set hallowed hcast hlists,
    orderly.suited.after (story_unregisterDeviceTrace host registry device listed),
    fun other emulator bound => ?_⟩
  by_cases same : other = device
  · rw [same, orderly.suited.binding_unregisterDeviceTrace] at bound
    cases bound
  · rw [binding_unregisterDeviceTrace_of_ne same] at bound
    exact (orderly.backed other emulator bound).set found hlists fun member present =>
      ⟨(List.mem_erase_of_ne same).2 member, present⟩

/-- An operation that succeeds keeps the host in order. -/
theorem Orderly.performs (orderly : host.Orderly) {operation : RegistryOperation}
    {events : List BindingEvent} (performs : host.Performs operation events) :
    (host.after events).Orderly := by
  cases performs with
  | registerDevice found unlisted => exact orderly.registerDevice found unlisted
  | unregisterDevice found present => exact orderly.unregisterDevice found _
  | @registerEmulator registry arriving listed behaviour found known unlisted =>
    refine orderly.sweeps found (orderly.suited.sweeps_registerEmulatorTrace registry arriving listed)
      ((orderly.lists registry listed found).addEmulator known unlisted) ?_
    intro device member middle emulator hmiddle bound
    by_cases free : middle.binding device = none
    · rw [binding_arrivalTrace_of_free free] at bound
      rw [eq_of_binding_offer free bound]
      exact Or.inl ⟨member, List.mem_append_right _ List.mem_cons_self⟩
    · rw [binding_arrivalTrace_of_bound free] at bound
      exact Or.inr ⟨bound, fun present => ⟨member, List.mem_append_left _ present⟩⟩
  | @unregisterEmulator registry leaving name listed found named =>
    refine orderly.sweeps found
      (orderly.suited.sweeps_unregisterEmulatorTrace registry leaving listed)
      ((orderly.lists registry listed found).removeEmulator leaving) ?_
    intro device member middle emulator hmiddle bound
    by_cases leaves : middle.binding device = some leaving
    · obtain ⟨released, -, hfree, hoffers⟩ :=
        hmiddle.binding_departureTrace leaves (listed.emulators.erase leaving)
      rw [hoffers] at bound
      exact Or.inl ⟨member, mem_of_binding_offerTo hfree bound⟩
    · -- a registered device that keeps its binding was not bound to the emulator that goes
      rw [binding_departureTrace_of_ne leaves] at bound
      have hstays : emulator ≠ leaving := fun same => leaves (same ▸ bound)
      exact Or.inr ⟨bound, fun present => ⟨member, (List.mem_erase_of_ne hstays).2 present⟩⟩
  | @shutdown registry listed found =>
    refine orderly.sweeps found (orderly.suited.sweeps_shutdownTrace registry listed)
      (Lists.empty host) ?_
    intro device member middle emulator hmiddle bound
    rw [hmiddle.binding_unbindTrace] at bound
    cases bound

/-- Every operation keeps the host in order. -/
theorem Orderly.perform (orderly : host.Orderly) (operation : RegistryOperation) :
    (host.perform operation).2.Orderly := by
  rcases host.perform_cases operation with ⟨error, failed, -⟩ | ⟨succeeded, performs⟩
  · rw [failed]
    exact orderly
  · rw [succeeded]
    exact orderly.performs performs

/-- Every series of operations keeps the host in order. -/
theorem Orderly.performEach (orderly : host.Orderly) (operations : List RegistryOperation) :
    (host.performEach operations).Orderly := by
  induction operations generalizing host with
  | nil => exact orderly
  | cons operation rest ih => exact ih (orderly.perform operation)

/-- Two devices, two emulators of which the second one refuses the first device that it is offered, and
two registries. -/
def sharingHost : Host Journal EmulatorData where
  devices := [⟨⟨"disk", 2, 0, .recording "bus" none⟩, [], none, none⟩,
    ⟨⟨"net", 1, 0, .recording "bus" none⟩, [], none, none⟩]
  emulators := [(⟨"block", [2], 0, [], [], 0⟩ : Script).emulator,
    (⟨"any", [1, 2], 0, [], [], 1⟩ : Script).emulator]
  registries := [{}, {}]
  shared := { refusals := [0, 1] }

end Host

end Paravirt

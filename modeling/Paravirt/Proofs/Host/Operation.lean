import Mathlib.Data.List.Basic
import Paravirt.Proofs.Host.Story

/-!
# Registry operations as stories

Each operation on a registry either fails, and then nothing happens, or is a story: its events are
listed here in the order in which the operation goes about them, next to the operation itself. An
operation goes through the devices of a registry one by one; what it does for one of them leaves the
others as they are, so each device ends up with what its own turn has made of it.
-/

namespace Paravirt

variable {ε δ : Type}

/-- An operation on a registry. -/
inductive RegistryOperation where
  /-- Register a device. -/
  | registerDevice (registry device : Nat)
  /-- Unregister a device. -/
  | unregisterDevice (registry device : Nat)
  /-- Register an emulator. -/
  | registerEmulator (registry emulator : Nat)
  /-- Unregister the emulator of a name. -/
  | unregisterEmulator (registry : Nat) (name : String)
  /-- Unregister everything. -/
  | shutdown (registry : Nat)
  deriving DecidableEq

namespace Host

section Traces

variable (host : Host ε δ)

/-- Perform an operation. None succeeds on a registry that does not exist. -/
def perform : RegistryOperation → Except DeviceError Unit × Host ε δ
  | .registerDevice registry device => host.registerDevice registry device
  | .unregisterDevice registry device => host.unregisterDevice registry device
  | .registerEmulator registry emulator => host.registerEmulator registry emulator
  | .unregisterEmulator registry name => host.unregisterEmulator registry name
  | .shutdown registry =>
    match host.registries[registry]? with
    | none => (.error .unknownHandle, host)
    | some _ => (.ok (), host.shutdown registry)

/-- The host after a series of operations, whether they succeed or not. -/
def performEach (operations : List RegistryOperation) : Host ε δ :=
  operations.foldl (fun host operation => (host.perform operation).2) host

/-- The call made when a device is offered to an emulator. -/
def offerTrace (device emulator : Nat) : List BindingEvent :=
  if host.suits emulator device then
    [.connect emulator device (host.offer device emulator).1]
  else []

/-- The calls made when a device is offered to emulators, one after another. -/
def offerToTrace (device : Nat) : List Nat → Host ε δ → List BindingEvent
  | [], _ => []
  | emulator :: rest, host =>
    host.offerTrace device emulator ++
      if (host.offer device emulator).1 then []
      else offerToTrace device rest (host.offer device emulator).2

/-- The call made when the binding of a device is ended. -/
def unbindTrace (device : Nat) (host : Host ε δ) : List BindingEvent :=
  match host.binding device with
  | none => []
  | some emulator => [.disconnect emulator device]

/-- What happens to a device when an emulator arrives. -/
def arrivalTrace (emulator device : Nat) (host : Host ε δ) : List BindingEvent :=
  if host.isBound device then [] else host.offerTrace device emulator

/-- What happens to a device when an emulator goes and others remain. -/
def departureTrace (emulator : Nat) (remaining : List Nat) (device : Nat) (host : Host ε δ) :
    List BindingEvent :=
  if host.binding device = some emulator then
    .disconnect emulator device :: offerToTrace device remaining (host.unbind device)
  else []

/-- The events of going through a list of devices. -/
def sweepTrace (turn : Nat → Host ε δ → List BindingEvent) :
    List Nat → Host ε δ → List BindingEvent
  | [], _ => []
  | device :: rest, host =>
    turn device host ++ sweepTrace turn rest (host.after (turn device host))

/-- The events of registering a device. -/
def registerDeviceTrace (registry device : Nat) (listed : Registry) : List BindingEvent :=
  let arrival : List BindingEvent := [.forget device,
    .relist registry { listed with devices := listed.devices ++ [device] }]
  arrival ++ offerToTrace device listed.emulators (host.after arrival)

/-- The events of unregistering a device. -/
def unregisterDeviceTrace (registry device : Nat) (listed : Registry) : List BindingEvent :=
  unbindTrace device host ++
    [.relist registry { listed with devices := listed.devices.erase device }]

/-- The events of registering an emulator. -/
def registerEmulatorTrace (registry emulator : Nat) (listed : Registry) : List BindingEvent :=
  let arrival : List BindingEvent :=
    [.relist registry { listed with emulators := listed.emulators ++ [emulator] }]
  arrival ++ sweepTrace (arrivalTrace emulator) listed.devices (host.after arrival)

/-- The events of unregistering an emulator. -/
def unregisterEmulatorTrace (registry emulator : Nat) (listed : Registry) : List BindingEvent :=
  let remaining := listed.emulators.erase emulator
  let departure : List BindingEvent := [.relist registry { listed with emulators := remaining }]
  departure ++ sweepTrace (departureTrace emulator remaining) listed.devices (host.after departure)

/-- The events of unregistering everything. -/
def shutdownTrace (registry : Nat) (listed : Registry) : List BindingEvent :=
  sweepTrace unbindTrace listed.devices host ++ [.relist registry {}]

/-- The events of an operation, or why it fails. -/
def plan : RegistryOperation → Except DeviceError (List BindingEvent)
  | .registerDevice registry device =>
    match host.registries[registry]?, host.devices[device]? with
    | some listed, some owner =>
      if listed.devices.contains device then .error (.deviceRegistered owner.profile.name)
      else .ok (host.registerDeviceTrace registry device listed)
    | _, _ => .error .unknownHandle
  | .unregisterDevice registry device =>
    match host.registries[registry]?, host.devices[device]? with
    | some listed, some owner =>
      if listed.devices.contains device then
        .ok (host.unregisterDeviceTrace registry device listed)
      else .error (.deviceNotRegistered owner.profile.name)
    | _, _ => .error .unknownHandle
  | .registerEmulator registry emulator =>
    match host.registries[registry]?, host.emulators[emulator]? with
    | some listed, some behaviour =>
      if listed.emulators.any (host.emulatorNamed behaviour.name) then
        .error (.emulatorRegistered behaviour.name)
      else .ok (host.registerEmulatorTrace registry emulator listed)
    | _, _ => .error .unknownHandle
  | .unregisterEmulator registry name =>
    match host.registries[registry]? with
    | none => .error .unknownHandle
    | some listed =>
      match listed.emulators.find? (host.emulatorNamed name) with
      | none => .error (.emulatorNotRegistered name)
      | some emulator => .ok (host.unregisterEmulatorTrace registry emulator listed)
  | .shutdown registry =>
    match host.registries[registry]? with
    | none => .error .unknownHandle
    | some listed => .ok (host.shutdownTrace registry listed)

/-- The events of an operation, none if it fails. -/
def trace (operation : RegistryOperation) : List BindingEvent :=
  match host.plan operation with
  | .error _ => []
  | .ok events => events

/-- The events of a series of operations. -/
def history : List RegistryOperation → Host ε δ → List BindingEvent
  | [], _ => []
  | operation :: rest, host => host.trace operation ++ history rest (host.perform operation).2

/-- An operation that succeeds, the registry it is for, and its events. -/
inductive Performs : RegistryOperation → List BindingEvent → Prop where
  /-- A device that is not listed is registered. -/
  | registerDevice {registry device : Nat} {listed : Registry}
      (found : host.registries[registry]? = some listed) (unlisted : device ∉ listed.devices) :
      Performs (.registerDevice registry device) (host.registerDeviceTrace registry device listed)
  /-- A listed device is unregistered. -/
  | unregisterDevice {registry device : Nat} {listed : Registry}
      (found : host.registries[registry]? = some listed) (present : device ∈ listed.devices) :
      Performs (.unregisterDevice registry device)
        (host.unregisterDeviceTrace registry device listed)
  /-- An emulator is registered if none of its name is listed. -/
  | registerEmulator {registry emulator : Nat} {listed : Registry} {behaviour : Emulator ε δ}
      (found : host.registries[registry]? = some listed)
      (known : host.emulators[emulator]? = some behaviour)
      (unlisted : listed.emulators.any (host.emulatorNamed behaviour.name) = false) :
      Performs (.registerEmulator registry emulator)
        (host.registerEmulatorTrace registry emulator listed)
  /-- The listed emulator of a name is unregistered. -/
  | unregisterEmulator {registry emulator : Nat} {name : String} {listed : Registry}
      (found : host.registries[registry]? = some listed)
      (named : listed.emulators.find? (host.emulatorNamed name) = some emulator) :
      Performs (.unregisterEmulator registry name)
        (host.unregisterEmulatorTrace registry emulator listed)
  /-- Everything is unregistered. -/
  | shutdown {registry : Nat} {listed : Registry}
      (found : host.registries[registry]? = some listed) :
      Performs (.shutdown registry) (host.shutdownTrace registry listed)

end Traces

variable {host : Host ε δ} {device emulator : Nat}

/-- A story in which everything happens to one device. -/
structure StoryOf (device : Nat) (host : Host ε δ) (events : List BindingEvent) : Prop where
  /-- It is a story. -/
  story : host.Story events
  /-- Each event happens to the device. -/
  about : ∀ event ∈ events, event.device? = some device

namespace StoryOf

/-- Nothing happens. -/
theorem nil (device : Nat) (host : Host ε δ) : StoryOf device host [] :=
  ⟨trivial, fun _ listed => by cases listed⟩

/-- The story of a device goes on. -/
theorem append {first second : List BindingEvent} (story : StoryOf device host first)
    (continued : StoryOf device (host.after first) second) :
    StoryOf device host (first ++ second) := by
  refine ⟨story_append.2 ⟨story.story, continued.story⟩, fun event listed => ?_⟩
  rcases List.mem_append.1 listed with earlier | later
  · exact story.about event earlier
  · exact continued.about event later

/-- The story of a device acts on that device. -/
theorem actsOn {events : List BindingEvent} (story : StoryOf device host events) :
    ActsOn device host (host.after events) := by
  obtain ⟨-, about⟩ := story
  induction events generalizing host with
  | nil => exact ActsOn.refl device host
  | cons event rest ih =>
    exact (actsOn_occur host (about event List.mem_cons_self)).trans
      (ih fun other listed => about other (List.mem_cons_of_mem event listed))

end StoryOf

/-- A device to which nothing happens stays as it is. -/
theorem getElem?_after_of_not_about {events : List BindingEvent}
    (spared : ∀ event ∈ events, event.device? ≠ some device) :
    (host.after events).devices[device]? = host.devices[device]? := by
  induction events generalizing host with
  | nil => rfl
  | cons event rest ih =>
    have hrest : ((host.occur event).after rest).devices[device]? =
        (host.occur event).devices[device]? :=
      ih fun other listed => spared other (List.mem_cons_of_mem event listed)
    rw [after_cons, hrest]
    exact getElem?_occur_of_ne (spared event List.mem_cons_self)

/-- What happens to devices leaves the lists of the registries as they are. -/
theorem registries_after {events : List BindingEvent}
    (about : ∀ event ∈ events, event.device?.isSome) :
    (host.after events).registries = host.registries := by
  induction events generalizing host with
  | nil => rfl
  | cons event rest ih =>
    obtain ⟨other, hother⟩ := Option.isSome_iff_exists.1 (about event List.mem_cons_self)
    have hrest : ((host.occur event).after rest).registries = (host.occur event).registries :=
      ih fun other listed => about other (List.mem_cons_of_mem event listed)
    rw [after_cons, hrest]
    exact (actsOn_occur host hother).registries

/-- Offering a device is the call made for it. -/
theorem after_offerTrace (host : Host ε δ) (device emulator : Nat) :
    host.after (host.offerTrace device emulator) = (host.offer device emulator).2 := by
  unfold offerTrace
  split
  · rfl
  · rename_i unsuited
    rw [offer_of_not_suits unsuited]
    rfl

/-- Offering a device that is not bound is a story of the device. -/
theorem storyOf_offerTrace (free : host.binding device = none) (emulator : Nat) :
    StoryOf device host (host.offerTrace device emulator) := by
  unfold offerTrace
  split
  · rename_i suited
    refine ⟨⟨⟨free, suited, rfl⟩, trivial⟩, fun event listed => ?_⟩
    rw [List.mem_singleton.1 listed]
    rfl
  · exact StoryOf.nil device host

/-- A refused device stays without a binding. -/
theorem binding_offer_of_refused (free : host.binding device = none)
    (refused : ¬(host.offer device emulator).1 = true) :
    (host.offer device emulator).2.binding device = none := by
  by_cases suited : host.suits emulator device = true
  · rw [binding_offer suited, if_neg refused]
  · rw [offer_of_not_suits suited]
    exact free

/-- A device that was offered to an emulator is bound to that one, if to any. -/
theorem eq_of_binding_offer (free : host.binding device = none) {other : Nat}
    (bound : (host.offer device emulator).2.binding device = some other) : other = emulator := by
  by_cases accepted : (host.offer device emulator).1 = true
  · rw [binding_offer (suits_of_offer accepted), if_pos accepted] at bound
    exact (Option.some.inj bound).symm
  · rw [binding_offer_of_refused free accepted] at bound
    cases bound

theorem offerTo_cons (host : Host ε δ) (device emulator : Nat) (rest : List Nat) :
    offerTo device (emulator :: rest) host =
      if (host.offer device emulator).1 then (host.offer device emulator).2
      else offerTo device rest (host.offer device emulator).2 := by
  rw [offerTo]
  rcases host.offer device emulator with ⟨_ | _, offered⟩ <;> rfl

/-- Offering a device to emulators is the calls made for it. -/
theorem after_offerToTrace (host : Host ε δ) (device : Nat) (emulators : List Nat) :
    host.after (offerToTrace device emulators host) = offerTo device emulators host := by
  induction emulators generalizing host with
  | nil => rfl
  | cons emulator rest ih =>
    rw [offerToTrace, after_append, after_offerTrace, offerTo_cons]
    split
    · rfl
    · exact ih _

/-- Offering a device that is not bound to emulators is a story of the device. -/
theorem storyOf_offerToTrace (free : host.binding device = none) (emulators : List Nat) :
    StoryOf device host (offerToTrace device emulators host) := by
  induction emulators generalizing host with
  | nil => exact StoryOf.nil device host
  | cons emulator rest ih =>
    refine (storyOf_offerTrace free emulator).append ?_
    rw [after_offerTrace]
    split
    · exact StoryOf.nil device _
    · rename_i refused
      exact ih (binding_offer_of_refused free refused)

/-- A device that was offered to emulators is bound to one of them, or to none. -/
theorem mem_of_binding_offerTo (free : host.binding device = none) {emulators : List Nat}
    (bound : (offerTo device emulators host).binding device = some emulator) :
    emulator ∈ emulators := by
  induction emulators generalizing host with
  | nil =>
    rw [offerTo, free] at bound
    cases bound
  | cons first rest ih =>
    rw [offerTo_cons] at bound
    split at bound
    · rw [eq_of_binding_offer free bound]
      exact List.mem_cons_self
    · rename_i refused
      exact List.mem_cons_of_mem first (ih (binding_offer_of_refused free refused) bound)

/-- Ending the binding of a device is the call made for it. -/
theorem after_unbindTrace (host : Host ε δ) (device : Nat) :
    host.after (unbindTrace device host) = host.unbind device := by
  unfold unbindTrace
  cases bound : host.binding device with
  | none => exact (unbind_of_free bound).symm
  | some emulator => rfl

/-- Ending the binding of a device is a story of the device. -/
theorem storyOf_unbindTrace (device : Nat) (host : Host ε δ) :
    StoryOf device host (unbindTrace device host) := by
  unfold unbindTrace
  cases bound : host.binding device with
  | none => exact StoryOf.nil device host
  | some emulator =>
    refine ⟨⟨bound, trivial⟩, fun event listed => ?_⟩
    rw [List.mem_singleton.1 listed]
    rfl

/-- Whether a device is bound shows in its binding. -/
theorem isBound_eq (host : Host ε δ) (device : Nat) :
    host.isBound device = (host.binding device).isSome := by
  unfold isBound binding
  cases host.devices[device]? <;> rfl

/-- The arrival of an emulator is a story of each device. -/
theorem storyOf_arrivalTrace (emulator device : Nat) (host : Host ε δ) :
    StoryOf device host (arrivalTrace emulator device host) := by
  unfold arrivalTrace
  split
  · exact StoryOf.nil device host
  · rename_i free
    rw [isBound_eq, Bool.not_eq_true, Option.isSome_eq_false_iff, Option.isNone_iff_eq_none] at free
    exact storyOf_offerTrace free emulator

/-- The departure of an emulator is a story of each device. -/
theorem Suited.storyOf_departureTrace (suited : host.Suited) (emulator : Nat)
    (remaining : List Nat) (device : Nat) :
    StoryOf device host (departureTrace emulator remaining device host) := by
  unfold departureTrace
  split
  · rename_i bound
    have hended : StoryOf device host [.disconnect emulator device] := by
      refine ⟨⟨bound, trivial⟩, fun event listed => ?_⟩
      rw [List.mem_singleton.1 listed]
      rfl
    exact hended.append (storyOf_offerToTrace (suited.binding_unbind device) remaining)
  · exact StoryOf.nil device host

section Sweep

variable {turn : Nat → Host ε δ → List BindingEvent}

/-- Going through devices makes a story, in which something happens to these devices alone. -/
theorem story_sweepTrace
    (turns : ∀ device (host : Host ε δ), host.Suited → StoryOf device host (turn device host))
    (suited : host.Suited) (devices : List Nat) :
    host.Story (sweepTrace turn devices host) ∧
      ∀ event ∈ sweepTrace turn devices host, ∃ device ∈ devices, event.device? = some device := by
  induction devices generalizing host with
  | nil => exact ⟨trivial, fun _ listed => by cases listed⟩
  | cons device rest ih =>
    have hturn := turns device host suited
    obtain ⟨hstory, habout⟩ := ih (suited.after hturn.story)
    refine ⟨story_append.2 ⟨hturn.story, hstory⟩, fun event listed => ?_⟩
    rcases List.mem_append.1 listed with earlier | later
    · exact ⟨device, List.mem_cons_self, hturn.about event earlier⟩
    · obtain ⟨other, member, hother⟩ := habout event later
      exact ⟨other, List.mem_cons_of_mem device member, hother⟩

/-- Going through devices leaves the lists of the registries as they are. -/
theorem registries_sweep
    (turns : ∀ device (host : Host ε δ), host.Suited → StoryOf device host (turn device host))
    (suited : host.Suited) (devices : List Nat) :
    (host.after (sweepTrace turn devices host)).registries = host.registries := by
  refine registries_after fun event listed => ?_
  obtain ⟨device, -, hdevice⟩ := (story_sweepTrace turns suited devices).2 event listed
  exact Option.isSome_of_eq_some hdevice

/-- A device that is not gone through stays as it is. -/
theorem getElem?_sweep_of_not_mem
    (turns : ∀ device (host : Host ε δ), host.Suited → StoryOf device host (turn device host))
    (suited : host.Suited) {devices : List Nat} (unlisted : device ∉ devices) :
    (host.after (sweepTrace turn devices host)).devices[device]? = host.devices[device]? := by
  refine getElem?_after_of_not_about fun event listed about => ?_
  obtain ⟨other, member, hother⟩ := (story_sweepTrace turns suited devices).2 event listed
  exact unlisted (Option.some.inj (about.symm.trans hother) ▸ member)

/-- Going through devices is their turns one after another. Each of them finds its device as it was at
first and makes of it what it becomes. -/
theorem exists_stages_sweepTrace
    (turns : ∀ device (host : Host ε δ), host.Suited → StoryOf device host (turn device host))
    (suited : host.Suited) {devices : List Nat} (distinct : devices.Nodup) :
    ∃ stage : Nat → Host ε δ,
      sweepTrace turn devices host = devices.flatMap (fun device => turn device (stage device)) ∧
      ∀ device ∈ devices, (stage device).Suited ∧ SameCast host (stage device) ∧
        (stage device).devices[device]? = host.devices[device]? ∧
        (host.after (sweepTrace turn devices host)).devices[device]? =
          ((stage device).after (turn device (stage device))).devices[device]? := by
  induction devices generalizing host with
  | nil => exact ⟨fun _ => host, rfl, fun _ listed => absurd listed List.not_mem_nil⟩
  | cons first rest ih =>
    obtain ⟨hfirst, hrest⟩ := List.nodup_cons.1 distinct
    have hturn := turns first host suited
    have hafter := suited.after hturn.story
    obtain ⟨stage, htrace, hstages⟩ := ih hafter hrest
    have hlater : ∀ device ∈ rest, device ≠ first := fun device listed same =>
      hfirst (same ▸ listed)
    obtain ⟨stage', hnow, hthen⟩ : ∃ stage' : Nat → Host ε δ, stage' first = host ∧
        ∀ device ∈ rest, stage' device = stage device :=
      ⟨fun device => if device = first then host else stage device, if_pos rfl,
        fun device listed => if_neg (hlater device listed)⟩
    refine ⟨stage', ?_, fun device listed => ?_⟩
    · rw [sweepTrace, List.flatMap_cons, hnow, htrace]
      refine congrArg _ (List.flatMap_congr fun device listed => ?_)
      rw [hthen device listed]
    · rw [sweepTrace, after_append]
      -- the first device has its turn now and is spared afterwards, the others are spared now
      rcases List.mem_cons.1 listed with rfl | later
      · rw [hnow]
        exact ⟨suited, SameCast.refl host, rfl, getElem?_sweep_of_not_mem turns hafter hfirst⟩
      · obtain ⟨hsuited, hcast, hkept, hturned⟩ := hstages device later
        rw [hthen device later]
        exact ⟨hsuited, (sameCast_after host (turn first host)).trans hcast,
          hkept.trans (hturn.actsOn.others device (hlater device later)), hturned⟩

/-- Each device that is gone through becomes what its own turn makes of it. -/
theorem getElem?_sweep_of_mem
    (turns : ∀ device (host : Host ε δ), host.Suited → StoryOf device host (turn device host))
    (suited : host.Suited) {devices : List Nat} (distinct : devices.Nodup)
    (listed : device ∈ devices) :
    ∃ middle : Host ε δ, middle.Suited ∧ SameCast host middle ∧
      middle.devices[device]? = host.devices[device]? ∧
      (host.after (sweepTrace turn devices host)).devices[device]? =
        (middle.after (turn device middle)).devices[device]? := by
  obtain ⟨stage, -, hstages⟩ := exists_stages_sweepTrace turns suited distinct
  exact ⟨stage device, hstages device listed⟩

end Sweep

/-- Going through devices when an emulator arrives. -/
theorem after_arrivalSweep (host : Host ε δ) (emulator : Nat) (devices : List Nat) :
    host.after (sweepTrace (arrivalTrace emulator) devices host) =
      offerUnbound emulator devices host := by
  induction devices generalizing host with
  | nil => rfl
  | cons device rest ih =>
    have hturn : host.after (arrivalTrace emulator device host) =
        if host.isBound device then host else (host.offer device emulator).2 := by
      unfold arrivalTrace
      split
      · rfl
      · exact after_offerTrace host device emulator
    rw [sweepTrace, after_append, ih, hturn, offerUnbound]

/-- Going through devices when an emulator goes. -/
theorem after_departureSweep (host : Host ε δ) (emulator : Nat) (remaining devices : List Nat) :
    host.after (sweepTrace (departureTrace emulator remaining) devices host) =
      rebind emulator remaining devices host := by
  induction devices generalizing host with
  | nil => rfl
  | cons device rest ih =>
    have hturn : host.after (departureTrace emulator remaining device host) =
        if host.binding device = some emulator then
          offerTo device remaining (host.unbind device)
        else host := by
      unfold departureTrace
      split
      · exact after_offerToTrace (host.unbind device) device remaining
      · rfl
    rw [sweepTrace, after_append, ih, hturn, rebind]

/-- Going through devices to end their bindings. -/
theorem after_unbindSweep (host : Host ε δ) (devices : List Nat) :
    host.after (sweepTrace unbindTrace devices host) = devices.foldl unbind host := by
  induction devices generalizing host with
  | nil => rfl
  | cons device rest ih =>
    rw [sweepTrace, after_append, ih, after_unbindTrace, List.foldl_cons]

/-- An operation fails and changes nothing, or goes through its events. -/
theorem perform_eq (host : Host ε δ) (operation : RegistryOperation) :
    host.perform operation =
      match host.plan operation with
      | .error error => (.error error, host)
      | .ok events => (.ok (), host.after events) := by
  cases operation with
  | registerDevice registry device =>
    simp only [perform, plan, registerDevice]
    cases host.registries[registry]? with
    | none => rfl
    | some listed =>
      cases host.devices[device]? with
      | none => rfl
      | some owner =>
        by_cases present : listed.devices.contains device = true
        · simp only [present, if_true]
        · simp only [if_neg present, registerDeviceTrace, after_append, after_offerToTrace]
          rfl
  | unregisterDevice registry device =>
    simp only [perform, plan, unregisterDevice]
    cases host.registries[registry]? with
    | none => rfl
    | some listed =>
      cases host.devices[device]? with
      | none => rfl
      | some owner =>
        by_cases present : listed.devices.contains device = true
        · simp only [present, if_true, unregisterDeviceTrace, after_append, after_unbindTrace]
          rfl
        · simp only [if_neg present]
  | registerEmulator registry emulator =>
    simp only [perform, plan, registerEmulator]
    cases host.registries[registry]? with
    | none => rfl
    | some listed =>
      cases host.emulators[emulator]? with
      | none => rfl
      | some behaviour =>
        by_cases taken : listed.emulators.any (host.emulatorNamed behaviour.name) = true
        · simp only [taken, if_true]
        · simp only [if_neg taken, registerEmulatorTrace, after_append, after_arrivalSweep]
          rfl
  | unregisterEmulator registry name =>
    simp only [perform, plan, unregisterEmulator]
    cases host.registries[registry]? with
    | none => rfl
    | some listed =>
      cases named : listed.emulators.find? (host.emulatorNamed name) with
      | none => simp only [named]
      | some emulator =>
        simp only [named, unregisterEmulatorTrace, after_append, after_departureSweep]
        rfl
  | shutdown registry =>
    simp only [perform, plan, shutdown]
    cases host.registries[registry]? with
    | none => rfl
    | some listed =>
      simp only [shutdownTrace, after_append, after_unbindSweep]
      rfl

/-- What an operation that does not fail goes through. -/
theorem performs_of_plan {operation : RegistryOperation} {events : List BindingEvent}
    (planned : host.plan operation = .ok events) : host.Performs operation events := by
  cases operation with
  | registerDevice registry device =>
    simp only [plan] at planned
    split at planned
    · rename_i listed owner found known
      split at planned
      · cases planned
      · rename_i unlisted
        cases planned
        exact .registerDevice found (mt List.contains_iff_mem.2 unlisted)
    · cases planned
  | unregisterDevice registry device =>
    simp only [plan] at planned
    split at planned
    · rename_i listed owner found known
      split at planned
      · rename_i present
        cases planned
        exact .unregisterDevice found (List.contains_iff_mem.1 present)
      · cases planned
    · cases planned
  | registerEmulator registry emulator =>
    simp only [plan] at planned
    split at planned
    · rename_i listed behaviour found known
      split at planned
      · cases planned
      · rename_i unlisted
        cases planned
        exact .registerEmulator found known (Bool.not_eq_true _ ▸ unlisted)
    · cases planned
  | unregisterEmulator registry name =>
    simp only [plan] at planned
    split at planned
    · cases planned
    · rename_i listed found
      split at planned
      · cases planned
      · rename_i emulator named
        cases planned
        exact .unregisterEmulator found named
  | shutdown registry =>
    simp only [plan] at planned
    split at planned
    · cases planned
    · rename_i listed found
      cases planned
      exact .shutdown found

/-- An operation fails without any event and changes nothing, or succeeds and is its events. -/
theorem perform_cases (host : Host ε δ) (operation : RegistryOperation) :
    (∃ error, host.perform operation = (.error error, host) ∧ host.trace operation = []) ∨
      (host.perform operation = (.ok (), host.after (host.trace operation)) ∧
        host.Performs operation (host.trace operation)) := by
  have hperform := host.perform_eq operation
  unfold trace
  cases planned : host.plan operation with
  | error error =>
    rw [planned] at hperform
    exact Or.inl ⟨error, hperform, rfl⟩
  | ok events =>
    rw [planned] at hperform
    exact Or.inr ⟨hperform, performs_of_plan planned⟩

end Host

end Paravirt

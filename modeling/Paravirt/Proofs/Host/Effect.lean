import Paravirt.Proofs.Host.Operation

/-!
# What operations leave behind

For each operation that succeeds: that its events are a story, what the registry lists afterwards, and
the binding of each device. Registering and unregistering a device leave the other devices alone. The
other operations go through the devices that the registry lists, and give each of them its turn.
-/

namespace Paravirt

variable {ε δ : Type}

namespace Host

variable {host : Host ε δ} {registry device emulator other : Nat} {listed : Registry}

section RegisterDevice

/-- A device arrives without a binding. -/
theorem binding_arrival (host : Host ε δ) (registry device : Nat) (new : Registry) :
    (host.after [.forget device, .relist registry new]).binding device = none :=
  binding_release host device

/-- Registering a device is a story. -/
theorem story_registerDeviceTrace (host : Host ε δ) (registry device : Nat) (listed : Registry) :
    host.Story (host.registerDeviceTrace registry device listed) :=
  story_append.2 ⟨⟨trivial, trivial, trivial⟩,
    (storyOf_offerToTrace (binding_arrival host registry device _) _).story⟩

/-- A registered device is listed last. -/
theorem registries_registerDeviceTrace (host : Host ε δ) (registry device : Nat)
    (listed : Registry) :
    (host.after (host.registerDeviceTrace registry device listed)).registries =
      host.registries.set registry { listed with devices := listed.devices ++ [device] } := by
  have hoffers := storyOf_offerToTrace (binding_arrival host registry device
    { listed with devices := listed.devices ++ [device] }) listed.emulators
  rw [registerDeviceTrace, after_append, hoffers.actsOn.registries]
  rfl

/-- Registering a device leaves the bindings of others as they are. -/
theorem binding_registerDeviceTrace_of_ne (apart : other ≠ device) :
    (host.after (host.registerDeviceTrace registry device listed)).binding other =
      host.binding other := by
  have hoffers := storyOf_offerToTrace (binding_arrival host registry device
    { listed with devices := listed.devices ++ [device] }) listed.emulators
  rw [registerDeviceTrace, after_append, hoffers.actsOn.binding_eq apart]
  exact (actsOn_release host device).binding_eq apart

/-- A registered device is offered, unbound, to the listed emulators. -/
theorem binding_registerDeviceTrace (host : Host ε δ) (registry device : Nat) (listed : Registry) :
    ∃ middle, SameCast host middle ∧ middle.binding device = none ∧
      (host.after (host.registerDeviceTrace registry device listed)).binding device =
        (offerTo device listed.emulators middle).binding device := by
  refine ⟨_, sameCast_after host _, binding_arrival host registry device
    { listed with devices := listed.devices ++ [device] }, ?_⟩
  rw [registerDeviceTrace, after_append, after_offerToTrace]

end RegisterDevice

section UnregisterDevice

/-- Unregistering a device is a story. -/
theorem story_unregisterDeviceTrace (host : Host ε δ) (registry device : Nat) (listed : Registry) :
    host.Story (host.unregisterDeviceTrace registry device listed) :=
  story_append.2 ⟨(storyOf_unbindTrace device host).story, trivial, trivial⟩

/-- An unregistered device is no longer listed. -/
theorem registries_unregisterDeviceTrace (host : Host ε δ) (registry device : Nat)
    (listed : Registry) :
    (host.after (host.unregisterDeviceTrace registry device listed)).registries =
      host.registries.set registry { listed with devices := listed.devices.erase device } := by
  have hkept := (storyOf_unbindTrace device host).actsOn.registries
  rw [unregisterDeviceTrace, after_append, ← hkept]
  rfl

/-- Unregistering a device leaves the bindings of others as they are. -/
theorem binding_unregisterDeviceTrace_of_ne (apart : other ≠ device) :
    (host.after (host.unregisterDeviceTrace registry device listed)).binding other =
      host.binding other := by
  rw [unregisterDeviceTrace, after_append]
  exact (storyOf_unbindTrace device host).actsOn.binding_eq apart

/-- An unregistered device is not bound. -/
theorem Suited.binding_unregisterDeviceTrace (suited : host.Suited) (registry device : Nat)
    (listed : Registry) :
    (host.after (host.unregisterDeviceTrace registry device listed)).binding device = none := by
  rw [unregisterDeviceTrace, after_append, after_unbindTrace]
  exact suited.binding_unbind device

end UnregisterDevice

section Sweep

variable {turn : Nat → Host ε δ → List BindingEvent} {devices : List Nat}

/-- A story in which a registry changes what it lists, and each of some devices has its turn. -/
structure Sweeps (turn : Nat → Host ε δ → List BindingEvent) (devices : List Nat) (registry : Nat)
    (new : Registry) (host : Host ε δ) (events : List BindingEvent) : Prop where
  /-- It is a story. -/
  story : host.Story events
  /-- One registry lists something else. -/
  registries : (host.after events).registries = host.registries.set registry new
  /-- The bindings of other devices are as before. -/
  unlisted : ∀ device ∉ devices, (host.after events).binding device = host.binding device
  /-- Each of the devices is bound as its turn leaves it. -/
  listed : devices.Nodup → ∀ device ∈ devices, ∃ middle : Host ε δ, middle.Suited ∧
    SameCast host middle ∧ middle.binding device = host.binding device ∧
    (host.after events).binding device = (middle.after (turn device middle)).binding device

/-- The registry may change its lists before the devices have their turns. -/
theorem Suited.sweeps_of_relist
    (turns : ∀ device (host : Host ε δ), host.Suited → StoryOf device host (turn device host))
    (suited : host.Suited) (devices : List Nat) (registry : Nat) (new : Registry) :
    Sweeps turn devices registry new host
      (.relist registry new :: sweepTrace turn devices (host.setRegistry registry new)) := by
  have hsuited : (host.setRegistry registry new).Suited := suited
  refine ⟨⟨trivial, (story_sweepTrace turns hsuited devices).1⟩, ?_, ?_, ?_⟩
  · exact registries_sweep turns hsuited devices
  · intro device unlisted
    exact binding_of_getElem? (getElem?_sweep_of_not_mem turns hsuited unlisted)
  · intro distinct device listed
    obtain ⟨middle, hmiddle, hcast, hkept, hturned⟩ :=
      getElem?_sweep_of_mem turns hsuited distinct listed
    have hrelisted : SameCast host (host.setRegistry registry new) := sameCast_occur host (.relist _ _)
    exact ⟨middle, hmiddle, hrelisted.trans hcast, binding_of_getElem? hkept,
      binding_of_getElem? hturned⟩

/-- The registry may change its lists after the devices have had their turns. -/
theorem Suited.sweeps_of_sweep
    (turns : ∀ device (host : Host ε δ), host.Suited → StoryOf device host (turn device host))
    (suited : host.Suited) (devices : List Nat) (registry : Nat) (new : Registry) :
    Sweeps turn devices registry new host
      (sweepTrace turn devices host ++ [.relist registry new]) := by
  have hafter (events : List BindingEvent) :
      host.after (events ++ [.relist registry new]) =
        (host.after events).setRegistry registry new := by
    rw [after_append]
    rfl
  refine ⟨story_append.2 ⟨(story_sweepTrace turns suited devices).1, trivial, trivial⟩, ?_, ?_, ?_⟩
  · rw [hafter, ← registries_sweep turns suited devices]
    rfl
  · intro device unlisted
    rw [hafter]
    exact binding_of_getElem? (getElem?_sweep_of_not_mem turns suited unlisted)
  · intro distinct device listed
    obtain ⟨middle, hmiddle, hcast, hkept, hturned⟩ :=
      getElem?_sweep_of_mem turns suited distinct listed
    rw [hafter]
    exact ⟨middle, hmiddle, hcast, binding_of_getElem? hkept, binding_of_getElem? hturned⟩

/-- Registering an emulator gives the listed devices their turns to be offered to it. -/
theorem Suited.sweeps_registerEmulatorTrace (suited : host.Suited) (registry emulator : Nat)
    (listed : Registry) :
    Sweeps (arrivalTrace emulator) listed.devices registry
      { listed with emulators := listed.emulators ++ [emulator] } host
      (host.registerEmulatorTrace registry emulator listed) :=
  suited.sweeps_of_relist (fun device host _ => storyOf_arrivalTrace emulator device host) _ _ _

/-- Unregistering an emulator gives the listed devices their turns to be offered to the others. -/
theorem Suited.sweeps_unregisterEmulatorTrace (suited : host.Suited) (registry emulator : Nat)
    (listed : Registry) :
    Sweeps (departureTrace emulator (listed.emulators.erase emulator)) listed.devices registry
      { listed with emulators := listed.emulators.erase emulator } host
      (host.unregisterEmulatorTrace registry emulator listed) :=
  suited.sweeps_of_relist (fun device _ suited => suited.storyOf_departureTrace emulator _ device)
    _ _ _

/-- Unregistering everything gives the listed devices their turns to be unbound. -/
theorem Suited.sweeps_shutdownTrace (suited : host.Suited) (registry : Nat) (listed : Registry) :
    Sweeps unbindTrace listed.devices registry {} host (host.shutdownTrace registry listed) :=
  suited.sweeps_of_sweep (fun device host _ => storyOf_unbindTrace device host) _ _ _

/-- A bound device keeps its binding when an emulator arrives. -/
theorem binding_arrivalTrace_of_bound (bound : host.binding device ≠ none) (emulator : Nat) :
    (host.after (arrivalTrace emulator device host)).binding device = host.binding device := by
  rw [arrivalTrace, isBound_eq, if_pos (Option.isSome_iff_ne_none.2 bound), after_nil]

/-- A device that is not bound is offered to an emulator that arrives. -/
theorem binding_arrivalTrace_of_free (free : host.binding device = none) (emulator : Nat) :
    (host.after (arrivalTrace emulator device host)).binding device =
      (host.offer device emulator).2.binding device := by
  rw [arrivalTrace, isBound_eq, free, Option.isSome_none, if_neg Bool.false_ne_true,
    after_offerTrace]

/-- A device that is bound to another emulator keeps its binding when one goes. -/
theorem binding_departureTrace_of_ne (apart : host.binding device ≠ some emulator)
    (remaining : List Nat) :
    (host.after (departureTrace emulator remaining device host)).binding device =
      host.binding device := by
  rw [departureTrace, if_neg apart, after_nil]

/-- A device that is bound to the emulator that goes is offered, unbound, to the others. -/
theorem Suited.binding_departureTrace (suited : host.Suited)
    (bound : host.binding device = some emulator) (remaining : List Nat) :
    ∃ middle, SameCast host middle ∧ middle.binding device = none ∧
      (host.after (departureTrace emulator remaining device host)).binding device =
        (offerTo device remaining middle).binding device := by
  refine ⟨host.unbind device, (actsOn_unbind host device).toSameCast, suited.binding_unbind device, ?_⟩
  rw [departureTrace, if_pos bound, ← after_offerToTrace]
  rfl

/-- An unbound device has no binding. -/
theorem Suited.binding_unbindTrace (suited : host.Suited) (device : Nat) :
    (host.after (unbindTrace device host)).binding device = none := by
  rw [after_unbindTrace]
  exact suited.binding_unbind device

end Sweep

/-- Every operation that succeeds is a story. -/
theorem Performs.story {operation : RegistryOperation} {events : List BindingEvent}
    (performs : host.Performs operation events) (suited : host.Suited) : host.Story events := by
  cases performs with
  | registerDevice found unlisted => exact story_registerDeviceTrace _ _ _ _
  | unregisterDevice found present => exact story_unregisterDeviceTrace _ _ _ _
  | registerEmulator found known unlisted =>
    exact (suited.sweeps_registerEmulatorTrace _ _ _).story
  | unregisterEmulator found named => exact (suited.sweeps_unregisterEmulatorTrace _ _ _).story
  | shutdown found => exact (suited.sweeps_shutdownTrace _ _).story

/-- Every operation is a story, one without events if it fails. -/
theorem Suited.story_trace (suited : host.Suited) (operation : RegistryOperation) :
    host.Story (host.trace operation) ∧
      (host.perform operation).2 = host.after (host.trace operation) := by
  rcases host.perform_cases operation with ⟨error, failed, untouched⟩ | ⟨succeeded, performs⟩
  · rw [failed, untouched]
    exact ⟨trivial, rfl⟩
  · rw [succeeded]
    exact ⟨performs.story suited, rfl⟩

/-- A series of operations is a story. -/
theorem Suited.story_history (suited : host.Suited) (operations : List RegistryOperation) :
    host.Story (history operations host) ∧
      host.performEach operations = host.after (history operations host) := by
  induction operations generalizing host with
  | nil => exact ⟨trivial, rfl⟩
  | cons operation rest ih =>
    obtain ⟨hstory, hafter⟩ := suited.story_trace operation
    have hsuited : (host.perform operation).2.Suited := hafter ▸ suited.after hstory
    obtain ⟨hrest, hlater⟩ := ih hsuited
    rw [hafter] at hrest hlater
    have heach : host.performEach (operation :: rest) =
        (host.perform operation).2.performEach rest := rfl
    rw [heach, hafter, hlater, history, hafter, after_append, story_append]
    exact ⟨⟨hstory, hrest⟩, rfl⟩

/-- An operation adds or replaces no device and no emulator. -/
theorem Suited.sameCast_perform (suited : host.Suited) (operation : RegistryOperation) :
    SameCast host (host.perform operation).2 := by
  rw [(suited.story_trace operation).2]
  exact sameCast_after host _

/-- A series of operations adds or replaces no device and no emulator. -/
theorem Suited.sameCast_performEach (suited : host.Suited) (operations : List RegistryOperation) :
    SameCast host (host.performEach operations) := by
  rw [(suited.story_history operations).2]
  exact sameCast_after host _

end Host

end Paravirt

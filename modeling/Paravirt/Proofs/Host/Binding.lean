import Paravirt.Host.Registry

/-!
# What binding changes

Offering a device, ending its binding and releasing it act on that device alone. Other devices stay
as they are, nothing is done to emulators and registries, and what is fixed about the device remains.
The binding of the device afterwards follows from the answer of the emulator.
-/

namespace Paravirt

variable {ε δ α : Type}

namespace Host

/-- What is fixed about a device, by its number. -/
def profile? (host : Host ε δ) (device : Nat) : Option (DeviceProfile ε) :=
  (host.devices[device]?).map (·.profile)

/-- Whether an emulator implements the type of a device. -/
def suits (host : Host ε δ) (emulator device : Nat) : Bool :=
  (host.profile? device).any fun profile => (host.emulators[emulator]?).any (·.supports profile)

variable {host middle later : Host ε δ} {device emulator other : Nat} {owner : Device ε δ}

/-- An emulator suits a device if both exist and the one implements the type of the other. -/
theorem suits_iff : host.suits emulator device = true ↔
    ∃ owner behaviour, host.devices[device]? = some owner ∧
      host.emulators[emulator]? = some behaviour ∧ behaviour.supports owner.profile = true := by
  unfold suits profile?
  cases host.devices[device]? with
  | none => simp
  | some owner =>
    cases host.emulators[emulator]? with
    | none => simp
    | some behaviour => simp

/-- Devices that stand the same are bound to the same emulator. -/
theorem binding_of_getElem? (same : later.devices[device]? = host.devices[device]?) :
    later.binding device = host.binding device := by
  unfold binding
  rw [same]

/-- Emulators, and what is fixed about the devices, are as before. -/
structure SameCast (host later : Host ε δ) : Prop where
  /-- The emulators are as before. -/
  emulators : later.emulators = host.emulators
  /-- What is fixed about the devices is as before. -/
  profiles : ∀ other, later.profile? other = host.profile? other

namespace SameCast

/-- Nothing is done. -/
theorem refl (host : Host ε δ) : SameCast host host := ⟨rfl, fun _ => rfl⟩

/-- Two changes that leave the cast as it is are one. -/
theorem trans (first : SameCast host middle) (second : SameCast middle later) :
    SameCast host later :=
  ⟨second.emulators.trans first.emulators,
    fun other => (second.profiles other).trans (first.profiles other)⟩

/-- Emulators suit devices as before. -/
theorem suits_eq (same : SameCast host later) (emulator device : Nat) :
    later.suits emulator device = host.suits emulator device := by
  unfold suits
  rw [same.profiles, same.emulators]

end SameCast

/-- A host is left by something that acted on one device: the cast, the registries and the other
devices are as before. -/
structure ActsOn (device : Nat) (host later : Host ε δ) : Prop extends SameCast host later where
  /-- The registries are as before. -/
  registries : later.registries = host.registries
  /-- Other devices are as before. -/
  others : ∀ other, other ≠ device → later.devices[other]? = host.devices[other]?

namespace ActsOn

/-- Nothing is done. -/
theorem refl (device : Nat) (host : Host ε δ) : ActsOn device host host :=
  ⟨SameCast.refl host, rfl, fun _ _ => rfl⟩

/-- Two actions on a device are one. -/
theorem trans (first : ActsOn device host middle) (second : ActsOn device middle later) :
    ActsOn device host later :=
  ⟨first.toSameCast.trans second.toSameCast, second.registries.trans first.registries,
    fun other apart => (second.others other apart).trans (first.others other apart)⟩

/-- The bindings of other devices are as before. -/
theorem binding_eq (acts : ActsOn device host later) (apart : other ≠ device) :
    later.binding other = host.binding other :=
  binding_of_getElem? (acts.others other apart)

end ActsOn

/-- Changing one device, but nothing that is fixed about it, acts on that device. -/
theorem actsOn_of_devices (emulators : later.emulators = host.emulators)
    (registries : later.registries = host.registries)
    (changed : later.devices[device]?.map (·.profile) = host.devices[device]?.map (·.profile))
    (others : ∀ other, other ≠ device → later.devices[other]? = host.devices[other]?) :
    ActsOn device host later := by
  refine ⟨⟨emulators, fun other => ?_⟩, registries, others⟩
  unfold profile?
  by_cases same : other = device
  · rw [same, changed]
  · rw [others other same]

/-- A hook acts on the device that it is called for. -/
theorem actsOn_enter (known : host.profile? device = some owner.profile)
    (hook : DeviceView ε → Reply ε δ α) :
    ActsOn device host (host.enter device owner hook).2 := by
  refine actsOn_of_devices rfl rfl ?_ fun other apart => List.getElem?_set_ne (Ne.symm apart)
  obtain ⟨before, found, hprofile⟩ := Option.map_eq_some_iff.1 known
  have hlength := (List.getElem?_eq_some_iff.1 found).1
  have hentered : (host.enter device owner hook).2.devices[device]? = some _ :=
    List.getElem?_set_self hlength
  rw [hentered, found, Option.map_some, Option.map_some, hprofile]

/-- A hook leaves the binding of the device as it stood when the hook began. -/
theorem binding_enter (known : host.profile? device = some owner.profile)
    (hook : DeviceView ε → Reply ε δ α) :
    (host.enter device owner hook).2.binding device = owner.emulator := by
  obtain ⟨before, found, -⟩ := Option.map_eq_some_iff.1 known
  have hlength := (List.getElem?_eq_some_iff.1 found).1
  have hentered : (host.enter device owner hook).2.devices[device]? = some _ :=
    List.getElem?_set_self hlength
  unfold binding
  rw [hentered]
  rfl

/-- A released device is the one before without a binding and data. -/
theorem getElem?_release (host : Host ε δ) (device : Nat) :
    (host.release device).devices[device]? = (host.devices[device]?).map (·.release) :=
  List.getElem?_modify_eq _ _ _

/-- Releasing a device acts on it. -/
theorem actsOn_release (host : Host ε δ) (device : Nat) :
    ActsOn device host (host.release device) := by
  refine actsOn_of_devices rfl rfl ?_ fun other apart =>
    List.getElem?_modify_ne _ _ (Ne.symm apart)
  rw [getElem?_release, Option.map_map]
  rfl

/-- A released device is not bound. -/
theorem binding_release (host : Host ε δ) (device : Nat) :
    (host.release device).binding device = none := by
  unfold binding
  rw [getElem?_release]
  cases host.devices[device]? <;> rfl

/-- An emulator of another type is not offered the device. -/
theorem offer_of_not_suits (unsuited : ¬host.suits emulator device = true) :
    host.offer device emulator = (false, host) := by
  unfold offer
  split
  · rename_i owner behaviour found known
    rw [suits_iff] at unsuited
    exact if_neg fun supported => unsuited ⟨owner, behaviour, found, known, supported⟩
  · rfl

/-- An emulator of the device's type decides by its `connect` hook, and a refusal leaves the device
without a binding. -/
theorem offer_of_supports {behaviour : Emulator ε δ} (found : host.devices[device]? = some owner)
    (known : host.emulators[emulator]? = some behaviour)
    (supported : behaviour.supports owner.profile = true) :
    host.offer device emulator =
      let (answer, entered) := host.enter device (owner.bindTo emulator) behaviour.connect
      (answer.isOk, if answer.isOk then entered else entered.release device) := by
  unfold offer
  simp only [found, known, supported, if_true]
  rcases host.enter device (owner.bindTo emulator) behaviour.connect with ⟨answer, entered⟩
  cases answer <;> rfl

/-- Offering a device acts on it. -/
theorem actsOn_offer (host : Host ε δ) (device emulator : Nat) :
    ActsOn device host (host.offer device emulator).2 := by
  by_cases suited : host.suits emulator device = true
  · obtain ⟨owner, behaviour, found, known, supported⟩ := suits_iff.1 suited
    have hprofile : host.profile? device = some (owner.bindTo emulator).profile := by
      rw [profile?, found]
      rfl
    have hentered := actsOn_enter hprofile behaviour.connect
    rw [offer_of_supports found known supported]
    dsimp only
    split
    · exact hentered
    · exact hentered.trans (actsOn_release _ device)
  · rw [offer_of_not_suits suited]
    exact ActsOn.refl device host

/-- A device that was offered is bound to the emulator if that has accepted, and otherwise to none. -/
theorem binding_offer (suited : host.suits emulator device = true) :
    (host.offer device emulator).2.binding device =
      if (host.offer device emulator).1 then some emulator else none := by
  obtain ⟨owner, behaviour, found, known, supported⟩ := suits_iff.1 suited
  have hprofile : host.profile? device = some (owner.bindTo emulator).profile := by
    rw [profile?, found]
    rfl
  rw [offer_of_supports found known supported]
  dsimp only
  split
  · exact binding_enter hprofile behaviour.connect
  · exact binding_release _ device

/-- Only an emulator of the device's type can accept it. -/
theorem suits_of_offer (accepted : (host.offer device emulator).1 = true) :
    host.suits emulator device = true := by
  by_cases suited : host.suits emulator device = true
  · exact suited
  · rw [offer_of_not_suits suited] at accepted
    cases accepted

/-- The binding of a device with an emulator that exists is ended by that emulator's `disconnect`. -/
theorem unbind_of_emulatorOf {behaviour : Emulator ε δ} (found : host.devices[device]? = some owner)
    (bound : host.emulatorOf owner = some behaviour) :
    host.unbind device = (host.enter device owner behaviour.disconnect).2.release device := by
  simp only [unbind, found, bound]

/-- Ending a binding acts on the device. -/
theorem actsOn_unbind (host : Host ε δ) (device : Nat) :
    ActsOn device host (host.unbind device) := by
  unfold unbind
  split
  · exact ActsOn.refl device host
  · rename_i owner found
    split
    · exact ActsOn.refl device host
    · rename_i behaviour bound
      have hprofile : host.profile? device = some owner.profile := by
        rw [profile?, found]
        rfl
      exact (actsOn_enter hprofile behaviour.disconnect).trans (actsOn_release _ device)

/-- Every binding is one to an emulator of the device's type. -/
def Suited (host : Host ε δ) : Prop :=
  ∀ device emulator, host.binding device = some emulator → host.suits emulator device = true

/-- A bound device and its emulator exist. -/
theorem Suited.emulatorOf (suited : host.Suited) (bound : host.binding device = some emulator) :
    ∃ owner behaviour, host.devices[device]? = some owner ∧ owner.emulator = some emulator ∧
      host.emulators[emulator]? = some behaviour ∧ host.emulatorOf owner = some behaviour := by
  obtain ⟨owner, behaviour, found, known, -⟩ := suits_iff.1 (suited device emulator bound)
  have howner : owner.emulator = some emulator := by
    rwa [binding, found] at bound
  refine ⟨owner, behaviour, found, howner, known, ?_⟩
  rw [Host.emulatorOf, howner]
  exact known

/-- A device that is not bound stays as it is. -/
theorem unbind_of_free (free : host.binding device = none) : host.unbind device = host := by
  cases found : host.devices[device]? with
  | none => simp only [unbind, found]
  | some owner =>
    have hfree : owner.emulator = none := by
      rwa [binding, found] at free
    have hemulator : host.emulatorOf owner = none := by
      rw [emulatorOf, hfree]
      rfl
    simp only [unbind, found, hemulator]

/-- A device whose binding was ended is not bound. -/
theorem Suited.binding_unbind (suited : host.Suited) (device : Nat) :
    (host.unbind device).binding device = none := by
  cases bound : host.binding device with
  | some emulator =>
    obtain ⟨owner, behaviour, found, -, -, hemulator⟩ := suited.emulatorOf bound
    rw [unbind_of_emulatorOf found hemulator]
    exact binding_release _ device
  | none => rw [unbind_of_free bound, bound]

end Host

end Paravirt

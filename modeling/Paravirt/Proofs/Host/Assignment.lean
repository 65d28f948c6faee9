import Paravirt.Emulator.Scripted
import Paravirt.Proofs.Host.Safety

/-!
# The assignment of devices to emulators

Where the answer of an emulator to a device is always the same, there is one assignment that a registry
can leave its devices with: each of them is bound to the first listed emulator that admits it. Scanning
the emulators for an arriving device, offering an arriving emulator to the free devices, and offering
the devices of a leaving emulator again all lead there, so the order of registration between devices
and emulators does not matter.
-/

namespace Paravirt

variable {ε δ : Type}

/-- The type of a device is found before the first 0 of a list of types. -/
theorem supportsType_iff {typeIds : List UInt32} {typeId : UInt32} :
    supportsType typeIds typeId = true ↔ ∃ place : Nat, typeIds[place]? = some typeId ∧
      ∀ earlier : Nat, earlier ≤ place → typeIds[earlier]? ≠ some 0 := by
  unfold supportsType
  rw [List.contains_iff_mem]
  induction typeIds with
  | nil =>
    refine iff_of_false List.not_mem_nil ?_
    rintro ⟨place, found, -⟩
    cases found
  | cons first rest ih =>
    by_cases last : first = 0
    · rw [last]
      refine iff_of_false List.not_mem_nil ?_
      rintro ⟨place, -, nonzero⟩
      exact nonzero 0 (Nat.zero_le _) rfl
    · have hkept : (first != 0) = true := bne_iff_ne.2 last
      rw [List.takeWhile_cons, if_pos hkept, List.mem_cons, ih]
      constructor
      · rintro (here | ⟨place, found, nonzero⟩)
        · refine ⟨0, congrArg some here.symm, fun earlier before found => ?_⟩
          rw [Nat.le_zero.1 before] at found
          exact last (Option.some.inj found)
        · refine ⟨place + 1, found, fun earlier before => ?_⟩
          cases earlier with
          | zero => exact fun found => last (Option.some.inj found)
          | succ earlier => exact nonzero earlier (by omega)
      · rintro ⟨place, found, nonzero⟩
        cases place with
        | zero => exact Or.inl (Option.some.inj found).symm
        | succ place =>
          exact Or.inr ⟨place, found, fun earlier before => nonzero (earlier + 1) (by omega)⟩

/-- The first element that passes a test is found although another one is removed. -/
theorem find?_erase_of_ne {α : Type} [BEq α] [LawfulBEq α] {p : α → Bool} {xs : List α} {x : α}
    (apart : xs.find? p ≠ some x) : (xs.erase x).find? p = xs.find? p := by
  induction xs with
  | nil => rfl
  | cons first rest ih =>
    by_cases passes : p first = true
    · rw [List.find?_cons_of_pos passes] at apart ⊢
      have hstays : ¬(first == x) = true := fun same => apart (congrArg some (eq_of_beq same))
      rw [List.erase_cons_tail hstays, List.find?_cons_of_pos passes]
    · rw [List.find?_cons_of_neg passes] at apart ⊢
      by_cases same : (first == x) = true
      · rw [eq_of_beq same, List.erase_cons_head]
      · rw [List.erase_cons_tail same, List.find?_cons_of_neg passes, ih apart]

namespace Host

/-- The answer of an emulator to a device is always the same, whatever stands with the device and in
the rest of the host. -/
def Answers (host : Host ε δ) (accepts : Nat → Nat → Bool) : Prop :=
  ∀ (device emulator : Nat) (owner : Device ε δ) (behaviour : Emulator ε δ),
    host.devices[device]? = some owner → host.emulators[emulator]? = some behaviour →
      ∀ scene, (behaviour.connect (host.view device (owner.bindTo emulator)) scene).1.isOk =
        accepts emulator device

/-- An emulator admits a device: its list of types has the type of the device before the first 0, and
it accepts the device. -/
def Admits (host : Host ε δ) (accepts : Nat → Nat → Bool) (emulator device : Nat) : Prop :=
  ∃ (owner : Device ε δ) (behaviour : Emulator ε δ), host.devices[device]? = some owner ∧
    host.emulators[emulator]? = some behaviour ∧
    (∃ place : Nat, behaviour.typeIds[place]? = some owner.profile.typeId ∧
      ∀ earlier : Nat, earlier ≤ place → behaviour.typeIds[earlier]? ≠ some 0) ∧
    accepts emulator device = true

/-- The first of some emulators that suits a device and accepts it. -/
def choice (host : Host ε δ) (accepts : Nat → Nat → Bool) (device : Nat) (emulators : List Nat) :
    Option Nat :=
  emulators.find? fun emulator => host.suits emulator device && accepts emulator device

variable {host later : Host ε δ} {accepts : Nat → Nat → Bool} {device emulator registry : Nat}
  {listed new : Registry}

/-- An emulator that admits a device suits it and accepts it. -/
theorem admits_iff : host.Admits accepts emulator device ↔
    (host.suits emulator device && accepts emulator device) = true := by
  rw [Bool.and_eq_true, suits_iff]
  constructor
  · rintro ⟨owner, behaviour, found, known, typed, accepted⟩
    exact ⟨⟨owner, behaviour, found, known, supportsType_iff.2 typed⟩, accepted⟩
  · rintro ⟨⟨owner, behaviour, found, known, supported⟩, accepted⟩
    exact ⟨owner, behaviour, found, known, supportsType_iff.1 supported, accepted⟩

/-- The choice is the first emulator that admits the device. -/
theorem choice_eq_some_iff {emulators : List Nat} :
    host.choice accepts device emulators = some emulator ↔ ∃ earlier rest,
      emulators = earlier ++ emulator :: rest ∧ host.Admits accepts emulator device ∧
        ∀ other ∈ earlier, ¬host.Admits accepts other device := by
  unfold choice
  rw [List.find?_eq_some_iff_append]
  constructor
  · rintro ⟨admitted, earlier, rest, split, refused⟩
    refine ⟨earlier, rest, split, admits_iff.2 admitted, fun other member admits => ?_⟩
    have hrefused := refused other member
    rw [admits_iff.1 admits] at hrefused
    cases hrefused
  · rintro ⟨earlier, rest, split, admitted, refused⟩
    refine ⟨admits_iff.1 admitted, earlier, rest, split, fun other member => ?_⟩
    rw [Bool.not_eq_true', ← Bool.not_eq_true]
    exact mt admits_iff.2 (refused other member)

/-- There is no choice if no emulator admits the device. -/
theorem choice_eq_none_iff {emulators : List Nat} :
    host.choice accepts device emulators = none ↔
      ∀ other ∈ emulators, ¬host.Admits accepts other device := by
  unfold choice
  rw [List.find?_eq_none]
  exact forall₂_congr fun other _ => not_congr admits_iff.symm

/-- The choice depends on the emulators and what is fixed about the devices alone. -/
theorem SameCast.choice_eq (same : SameCast host later) (accepts : Nat → Nat → Bool) (device : Nat)
    (emulators : List Nat) :
    later.choice accepts device emulators = host.choice accepts device emulators := by
  unfold choice
  simp only [same.suits_eq]

/-- Answers stay the same while emulators, and what is fixed about the devices, do. -/
theorem Answers.of_sameCast (answers : host.Answers accepts) (same : SameCast host later) :
    later.Answers accepts := by
  intro device emulator owner behaviour found known scene
  rw [same.emulators] at known
  have hprofile := same.profiles device
  rw [profile?, found, Option.map_some, eq_comm] at hprofile
  obtain ⟨before, hbefore, hkept⟩ := Option.map_eq_some_iff.1 hprofile
  have hview : later.view device (owner.bindTo emulator) =
      host.view device (before.bindTo emulator) := by
    unfold view emulatorOf
    rw [same.emulators]
    exact congrArg (fun profile => (⟨device, profile, some emulator,
      (host.emulators[emulator]?).map (·.name)⟩ : DeviceView ε)) hkept.symm
  rw [hview]
  exact answers device emulator before behaviour hbefore known scene

/-- A device that is offered is accepted by an emulator that suits it and accepts it. -/
theorem Answers.offer_fst (answers : host.Answers accepts) (device emulator : Nat) :
    (host.offer device emulator).1 = (host.suits emulator device && accepts emulator device) := by
  by_cases suited : host.suits emulator device = true
  · obtain ⟨owner, behaviour, found, known, supported⟩ := suits_iff.1 suited
    rw [offer_of_supports found known supported, suited, Bool.true_and]
    exact answers device emulator owner behaviour found known _
  · have hunsuited : host.suits emulator device = false := Bool.not_eq_true _ ▸ suited
    rw [offer_of_not_suits suited, hunsuited, Bool.false_and]

/-- A device that is offered to emulators, one after another, is bound to the choice among them. -/
theorem Answers.binding_offerTo (answers : host.Answers accepts) (free : host.binding device = none)
    (emulators : List Nat) :
    (offerTo device emulators host).binding device = host.choice accepts device emulators := by
  induction emulators generalizing host with
  | nil => exact free
  | cons emulator rest ih =>
    have hanswer := answers.offer_fst device emulator
    have hcast := (actsOn_offer host device emulator).toSameCast
    rw [offerTo_cons, choice]
    by_cases accepted : (host.offer device emulator).1 = true
    · rw [if_pos accepted, binding_offer (suits_of_offer accepted), if_pos accepted,
        List.find?_cons_of_pos (hanswer ▸ accepted)]
    · rw [if_neg accepted, List.find?_cons_of_neg (hanswer ▸ accepted),
        ih (answers.of_sameCast hcast) (binding_offer_of_refused free accepted), hcast.choice_eq]
      rfl

/-- A device is bound as one registry assigns it: no other registry lists it, and it is bound to the
choice among the emulators if the registry lists it, and otherwise to none. -/
structure Assigned (host : Host ε δ) (accepts : Nat → Nat → Bool) (registry device : Nat) : Prop where
  /-- No other registry lists the device. -/
  elsewhere : ∀ (other : Nat) (listed : Registry), other ≠ registry →
    host.registries[other]? = some listed → device ∉ listed.devices
  /-- The registry decides about the binding. -/
  here : ∀ (listed : Registry), host.registries[registry]? = some listed →
    host.binding device =
      if device ∈ listed.devices then host.choice accepts device listed.emulators else none

namespace Assigned

/-- A change to the lists of another registry keeps the assignment. -/
theorem of_elsewhere {other : Nat} (assigned : host.Assigned accepts registry device)
    (same : SameCast host later) (apart : other ≠ registry)
    (changed : later.registries = host.registries.set other new) (spared : device ∉ new.devices)
    (kept : later.binding device = host.binding device) :
    later.Assigned accepts registry device := by
  refine ⟨fun third listed distinct found => ?_, fun listed found => ?_⟩
  · rcases getElem?_registries_set changed found with ⟨-, rfl⟩ | ⟨-, before⟩
    · exact spared
    · exact assigned.elsewhere third listed distinct before
  · rcases getElem?_registries_set changed found with ⟨hsame, -⟩ | ⟨-, before⟩
    · exact absurd hsame.symm apart
    · rw [kept, same.choice_eq]
      exact assigned.here listed before

/-- A change to the lists of the registry itself keeps the assignment if the device is bound to the
choice among the new emulators. -/
theorem of_here (assigned : host.Assigned accepts registry device) (same : SameCast host later)
    (changed : later.registries = host.registries.set registry new)
    (bound : later.binding device =
      if device ∈ new.devices then host.choice accepts device new.emulators else none) :
    later.Assigned accepts registry device := by
  refine ⟨fun other listed distinct found => ?_, fun listed found => ?_⟩
  · rcases getElem?_registries_set changed found with ⟨hsame, -⟩ | ⟨-, before⟩
    · exact absurd hsame distinct
    · exact assigned.elsewhere other listed distinct before
  · rcases getElem?_registries_set changed found with ⟨-, rfl⟩ | ⟨distinct, -⟩
    · rw [bound, same.choice_eq]
    · exact absurd rfl distinct

/-- A change to the lists of any registry keeps the assignment if it is not about the device and not
about the emulators. -/
theorem of_kept {other : Nat} (assigned : host.Assigned accepts registry device)
    (found : host.registries[other]? = some listed) (same : SameCast host later)
    (changed : later.registries = host.registries.set other new)
    (members : device ∈ new.devices ↔ device ∈ listed.devices)
    (emulators : new.emulators = listed.emulators)
    (kept : later.binding device = host.binding device) :
    later.Assigned accepts registry device := by
  by_cases here : other = registry
  · rw [here] at found changed
    refine assigned.of_here same changed ?_
    rw [kept, assigned.here listed found, emulators]
    simp only [members]
  · exact assigned.of_elsewhere same here changed
      (mt members.1 (assigned.elsewhere other listed here found)) kept

/-- Going through the devices of any registry keeps the assignment, if a turn in its own registry leaves
the device bound to the choice among the new emulators. -/
theorem sweeps {turn : Nat → Host ε δ → List BindingEvent} {events : List BindingEvent} {other : Nat}
    (assigned : host.Assigned accepts registry device) (orderly : host.Orderly)
    (answers : host.Answers accepts) (found : host.registries[other]? = some listed)
    (sweeps : Sweeps turn listed.devices other new host events)
    (fewer : ∀ device ∈ new.devices, device ∈ listed.devices)
    (turned : device ∈ listed.devices → ∀ middle : Host ε δ, middle.Suited →
      middle.Answers accepts →
      middle.binding device = middle.choice accepts device listed.emulators →
        (middle.after (turn device middle)).binding device =
          if device ∈ new.devices then middle.choice accepts device new.emulators else none) :
    (host.after events).Assigned accepts registry device := by
  have hcast := sameCast_after host events
  by_cases same : other = registry
  · rw [same] at found sweeps
    have hhere := assigned.here listed found
    refine assigned.of_here hcast sweeps.registries ?_
    by_cases member : device ∈ listed.devices
    · obtain ⟨middle, hmiddle, hsame, hbefore, hturned⟩ :=
        sweeps.listed (orderly.lists registry listed found).devices device member
      rw [if_pos member, ← hsame.choice_eq, ← hbefore] at hhere
      rw [hturned, turned member middle hmiddle (answers.of_sameCast hsame) hhere, hsame.choice_eq]
    · rw [sweeps.unlisted device member, hhere, if_neg member, if_neg (mt (fewer device) member)]
  · have hunlisted := assigned.elsewhere other listed same found
    exact assigned.of_elsewhere hcast same sweeps.registries (mt (fewer device) hunlisted)
      (sweeps.unlisted device hunlisted)

/-- Registering a device keeps the assignment, if the device assigned is registered nowhere but in its
own registry. -/
theorem registerDevice {other arriving : Nat} (assigned : host.Assigned accepts registry device)
    (answers : host.Answers accepts) (found : host.registries[other]? = some listed)
    (exclusive : arriving = device → other = registry) :
    (host.after (host.registerDeviceTrace other arriving listed)).Assigned accepts registry
      device := by
  have hcast := sameCast_after host (host.registerDeviceTrace other arriving listed)
  have hlists := registries_registerDeviceTrace host other arriving listed
  by_cases arrives : device = arriving
  · have hhere := exclusive arrives.symm
    rw [hhere] at hlists hcast ⊢
    refine assigned.of_here hcast hlists ?_
    obtain ⟨middle, hsame, hfree, hoffers⟩ :=
      binding_registerDeviceTrace host registry arriving listed
    rw [if_pos (List.mem_append_right _ (List.mem_singleton.2 arrives)), arrives, hoffers,
      (answers.of_sameCast hsame).binding_offerTo hfree, hsame.choice_eq]
  · have hkept : (host.after (host.registerDeviceTrace other arriving listed)).binding device =
        host.binding device := binding_registerDeviceTrace_of_ne arrives
    have hmember : device ∈ listed.devices ++ [arriving] ↔ device ∈ listed.devices := by
      rw [List.mem_append, List.mem_singleton, or_iff_left arrives]
    exact assigned.of_kept found hcast hlists hmember rfl hkept

/-- Unregistering a listed device keeps the assignment. -/
theorem unregisterDevice {other leaving : Nat} (assigned : host.Assigned accepts registry device)
    (orderly : host.Orderly) (found : host.registries[other]? = some listed)
    (present : leaving ∈ listed.devices) :
    (host.after (host.unregisterDeviceTrace other leaving listed)).Assigned accepts registry
      device := by
  have hcast := sameCast_after host (host.unregisterDeviceTrace other leaving listed)
  have hlists := registries_unregisterDeviceTrace host other leaving listed
  by_cases leaves : device = leaving
  · have hhere : other = registry := by
      by_contra apart
      exact assigned.elsewhere other listed apart found (leaves ▸ present)
    rw [hhere] at found hlists hcast ⊢
    have hgone : device ∉ listed.devices.erase leaving :=
      leaves ▸ (orderly.lists registry listed found).devices.not_mem_erase
    refine assigned.of_here hcast hlists ?_
    rw [if_neg hgone, leaves]
    exact orderly.suited.binding_unregisterDeviceTrace registry leaving listed
  · have hkept : (host.after (host.unregisterDeviceTrace other leaving listed)).binding device =
        host.binding device := binding_unregisterDeviceTrace_of_ne leaves
    exact assigned.of_kept found hcast hlists (List.mem_erase_of_ne leaves) rfl hkept

/-- Registering an emulator keeps the assignment: a device that is not bound is offered to it, and one
that is bound has its choice among the emulators before it. -/
theorem registerEmulator {other arriving : Nat} (assigned : host.Assigned accepts registry device)
    (orderly : host.Orderly) (answers : host.Answers accepts)
    (found : host.registries[other]? = some listed) :
    (host.after (host.registerEmulatorTrace other arriving listed)).Assigned accepts registry
      device := by
  refine assigned.sweeps orderly answers found
    (orderly.suited.sweeps_registerEmulatorTrace other arriving listed) (fun _ member => member) ?_
  intro member middle hmiddle hanswers hbefore
  have hchoice : middle.choice accepts device (listed.emulators ++ [arriving]) =
      (middle.choice accepts device listed.emulators).or
        (middle.choice accepts device [arriving]) := List.find?_append
  -- the newcomer is the last choice, so it matters to a device that has none yet
  rw [if_pos member, hchoice, ← hbefore]
  cases bound : middle.binding device with
  | some emulator =>
    rw [binding_arrivalTrace_of_bound (by rw [bound]; exact Option.some_ne_none emulator), bound]
    rfl
  | none =>
    have hoffer := hanswers.binding_offerTo bound [arriving]
    rw [offerTo_cons, offerTo, ite_self] at hoffer
    rw [binding_arrivalTrace_of_free bound, hoffer]
    rfl

/-- Unregistering an emulator keeps the assignment: its devices are offered to the others, and the
choice of a device that is bound to another one stays. -/
theorem unregisterEmulator {other leaving : Nat} (assigned : host.Assigned accepts registry device)
    (orderly : host.Orderly) (answers : host.Answers accepts)
    (found : host.registries[other]? = some listed) :
    (host.after (host.unregisterEmulatorTrace other leaving listed)).Assigned accepts registry
      device := by
  refine assigned.sweeps orderly answers found
    (orderly.suited.sweeps_unregisterEmulatorTrace other leaving listed) (fun _ member => member) ?_
  intro member middle hmiddle hanswers hbefore
  rw [if_pos member]
  by_cases leaves : middle.binding device = some leaving
  · obtain ⟨released, hsame, hfree, hoffers⟩ :=
      hmiddle.binding_departureTrace leaves (listed.emulators.erase leaving)
    rw [hoffers, (hanswers.of_sameCast hsame).binding_offerTo hfree, hsame.choice_eq]
  · have hother : middle.choice accepts device listed.emulators ≠ some leaving := by
      rw [← hbefore]
      exact leaves
    have hstays : middle.choice accepts device (listed.emulators.erase leaving) =
        middle.choice accepts device listed.emulators := find?_erase_of_ne hother
    rw [binding_departureTrace_of_ne leaves, hbefore, hstays]

/-- Unregistering everything keeps the assignment. -/
theorem shutdown {other : Nat} (assigned : host.Assigned accepts registry device)
    (orderly : host.Orderly) (answers : host.Answers accepts)
    (found : host.registries[other]? = some listed) :
    (host.after (host.shutdownTrace other listed)).Assigned accepts registry device := by
  refine assigned.sweeps orderly answers found (orderly.suited.sweeps_shutdownTrace other listed)
    (fun _ member => absurd member List.not_mem_nil) ?_
  intro member middle hmiddle hanswers hbefore
  rw [if_neg List.not_mem_nil]
  exact hmiddle.binding_unbindTrace device

/-- An operation keeps the assignment, unless it registers the device elsewhere. -/
theorem perform (assigned : host.Assigned accepts registry device) (orderly : host.Orderly)
    (answers : host.Answers accepts) {operation : RegistryOperation}
    (exclusive : ∀ other, operation = .registerDevice other device → other = registry) :
    (host.perform operation).2.Assigned accepts registry device := by
  rcases host.perform_cases operation with ⟨error, failed, -⟩ | ⟨succeeded, performs⟩
  · rw [failed]
    exact assigned
  · rw [succeeded]
    generalize host.trace operation = events at performs
    cases performs with
    | registerDevice found unlisted =>
      exact assigned.registerDevice answers found fun same => exclusive _ (same ▸ rfl)
    | unregisterDevice found present => exact assigned.unregisterDevice orderly found present
    | registerEmulator found known unlisted => exact assigned.registerEmulator orderly answers found
    | unregisterEmulator found named => exact assigned.unregisterEmulator orderly answers found
    | shutdown found => exact assigned.shutdown orderly answers found

/-- A series of operations keeps the assignment, unless it registers the device elsewhere. -/
theorem performEach (assigned : host.Assigned accepts registry device) (orderly : host.Orderly)
    (answers : host.Answers accepts) {operations : List RegistryOperation}
    (exclusive : ∀ other, .registerDevice other device ∈ operations → other = registry) :
    (host.performEach operations).Assigned accepts registry device := by
  induction operations generalizing host with
  | nil => exact assigned
  | cons operation rest ih =>
    have hfirst := assigned.perform orderly answers fun other same =>
      exclusive other (same ▸ List.mem_cons_self)
    have hcast := orderly.suited.sameCast_perform operation
    exact ih hfirst (orderly.perform operation) (answers.of_sameCast hcast)
      fun other listed => exclusive other (List.mem_cons_of_mem operation listed)

end Assigned

/-- On a fresh host every device is assigned. -/
theorem Fresh.assigned (fresh : host.Fresh) (accepts : Nat → Nat → Bool) (registry device : Nat) :
    host.Assigned accepts registry device := by
  refine ⟨fun other listed distinct found => ?_, fun listed found => ?_⟩
  · rw [fresh.registries listed (List.mem_of_getElem? found)]
    exact List.not_mem_nil
  · rw [fresh.registries listed (List.mem_of_getElem? found), if_neg List.not_mem_nil]
    exact fresh.binding_eq device

/-- From a host on which nothing is registered, operations leave a device that is registered with no
other registry bound to the first listed emulator that admits it, if the registry lists it, and unbound
if there is none or the device is not listed. So any operations that leave the registry with the same
emulators in the same order, and do or do not leave the device registered alike, leave it with the same
binding. -/
theorem binding_canonical (fresh : host.Fresh) (answers : host.Answers accepts)
    {operations : List RegistryOperation}
    (found : (host.performEach operations).registries[registry]? = some listed)
    (exclusive : ∀ other, .registerDevice other device ∈ operations → other = registry) :
    (device ∈ listed.devices →
      (∀ emulator, (host.performEach operations).binding device = some emulator ↔
        ∃ earlier rest, listed.emulators = earlier ++ emulator :: rest ∧
          host.Admits accepts emulator device ∧
            ∀ other ∈ earlier, ¬host.Admits accepts other device) ∧
        ((host.performEach operations).binding device = none ↔
          ∀ other ∈ listed.emulators, ¬host.Admits accepts other device)) ∧
      (device ∉ listed.devices → (host.performEach operations).binding device = none) ∧
      ∀ (operations' : List RegistryOperation) (listed' : Registry),
        (host.performEach operations').registries[registry]? = some listed' →
          (∀ other, .registerDevice other device ∈ operations' → other = registry) →
            listed'.emulators = listed.emulators →
              (device ∈ listed'.devices ↔ device ∈ listed.devices) →
                (host.performEach operations').binding device =
                  (host.performEach operations).binding device := by
  have hbinding {operations : List RegistryOperation} {listed : Registry}
      (found : (host.performEach operations).registries[registry]? = some listed)
      (exclusive : ∀ other, .registerDevice other device ∈ operations → other = registry) :
      (host.performEach operations).binding device =
        if device ∈ listed.devices then host.choice accepts device listed.emulators else none := by
    have hassigned := (fresh.assigned accepts registry device).performEach fresh.orderly answers
      exclusive
    have hcast := fresh.orderly.suited.sameCast_performEach operations
    rw [hassigned.here listed found, hcast.choice_eq]
  have hhere := hbinding found exclusive
  refine ⟨fun member => ?_, fun unlisted => ?_, fun operations' listed' found' exclusive' order
    members => ?_⟩
  · rw [hhere, if_pos member]
    exact ⟨fun emulator => choice_eq_some_iff, choice_eq_none_iff⟩
  · rw [hhere, if_neg unlisted]
  · rw [hbinding found' exclusive', hhere, order]
    simp only [members]

/-- Two devices, an emulator that refuses every device, one whose list of types ends early, and one that
takes both devices. -/
def settledHost : Host Journal EmulatorData where
  devices := [⟨⟨"disk", 2, 0, .recording "bus" none⟩, [], none, none⟩,
    ⟨⟨"net", 1, 0, .recording "bus" none⟩, [], none, none⟩]
  emulators := [(⟨"cold", [2, 1], 0, [(.connect, "no")], [], 0⟩ : Script).emulator,
    { name := "warm", typeIds := [3, 2, 0, 1] }, { name := "late", typeIds := [1, 2] }]
  registries := [{}, {}]
  shared := {}

/-- With the devices registered early or late, and with an emulator that came and went, both devices of
the settled host end up with the last emulator. -/
theorem binding_canonical_settledHost :
    let accepts : Nat → Nat → Bool := fun emulator _ => emulator != 0
    let operations : List RegistryOperation := [.registerDevice 0 0, .registerEmulator 0 0,
      .registerEmulator 0 1, .registerDevice 0 1, .registerDevice 0 0, .registerEmulator 0 2,
      .unregisterEmulator 0 "hot", .unregisterEmulator 0 "warm"]
    let operations' : List RegistryOperation := [.registerEmulator 0 0, .registerEmulator 0 2,
      .registerDevice 0 1, .registerDevice 0 0]
    settledHost.Fresh ∧ settledHost.Answers accepts ∧
      (settledHost.performEach operations).registries[0]? = some ⟨[0, 1], [0, 2]⟩ ∧
      (settledHost.performEach operations').registries[0]? = some ⟨[1, 0], [0, 2]⟩ ∧
      (settledHost.performEach operations').binding 0 =
        (settledHost.performEach operations).binding 0 ∧
      (settledHost.performEach operations).binding 0 = some 2 ∧
      (settledHost.performEach operations).binding 1 = some 2 := by
  intro accepts operations operations'
  have hfresh : settledHost.Fresh := ⟨by decide, by
    intro device listed
    simp only [settledHost, List.mem_cons, List.not_mem_nil, or_false] at listed
    rcases listed with rfl | rfl <;> rfl⟩
  have hanswers : settledHost.Answers accepts := by
    intro device emulator owner behaviour found known scene
    match emulator, known with
    | 0, rfl => rfl
    | 1, rfl => rfl
    | 2, rfl => rfl
  have hfound : (settledHost.performEach operations).registries[0]? = some ⟨[0, 1], [0, 2]⟩ := by
    decide +kernel
  have hfound' : (settledHost.performEach operations').registries[0]? = some ⟨[1, 0], [0, 2]⟩ := by
    decide +kernel
  have hexclusive : ∀ other, .registerDevice other 0 ∈ operations → other = 0 := by
    intro other listed
    simpa [operations] using listed
  have hexclusive' : ∀ other, .registerDevice other 0 ∈ operations' → other = 0 := by
    intro other listed
    simpa [operations'] using listed
  have hcanonical := binding_canonical hfresh hanswers hfound hexclusive
  refine ⟨hfresh, hanswers, hfound, hfound', ?_, by decide +kernel, by decide +kernel⟩
  exact hcanonical.2.2 operations' ⟨[1, 0], [0, 2]⟩ hfound' hexclusive' rfl (by decide)

end Host

end Paravirt

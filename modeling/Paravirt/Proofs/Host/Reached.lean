import Paravirt.Proofs.Host.HookCall
import Paravirt.Proofs.Host.Safety

/-!
# The states that a host can reach

A host starts with nothing registered. Operations on its registries follow one another, and between
them anything else may happen: drivers and emulators work on memory, queues and data, and further
devices, emulators and registries come into being. All of this keeps the registries in order.
-/

namespace Paravirt.Host

variable {ε δ : Type} {host later : Host ε δ} {registry device emulator : Nat} {listed : Registry}

/-- What may happen apart from operations on the registries: no binding is made or ended and no list
changes. Memory, queues, data and what the emulators share may become anything. -/
structure Meanwhile (host later : Host ε δ) : Prop where
  /-- Registries keep their lists. -/
  kept : ∀ (registry : Nat) (listed : Registry), host.registries[registry]? = some listed →
    later.registries[registry]? = some listed
  /-- Further registries list nothing. -/
  opened : ∀ (registry : Nat) (listed : Registry), later.registries[registry]? = some listed →
    host.registries[registry]? = some listed ∨ listed = {}
  /-- The bindings are as before, and further devices are not bound. -/
  bindings : ∀ device, later.binding device = host.binding device
  /-- Emulators stay. -/
  emulators : ∀ (emulator : Nat) (behaviour : Emulator ε δ),
    host.emulators[emulator]? = some behaviour → later.emulators[emulator]? = some behaviour
  /-- What is fixed about the devices stays. -/
  profiles : ∀ (device : Nat) (profile : DeviceProfile ε), host.profile? device = some profile →
    later.profile? device = some profile

/-- The states that a host can reach. -/
inductive Reached : Host ε δ → Prop where
  /-- Nothing is registered. -/
  | fresh {host : Host ε δ} (fresh : host.Fresh) : Reached host
  /-- An operation on a registry, whether it succeeds or not. -/
  | perform {host : Host ε δ} (reached : Reached host) (operation : RegistryOperation) :
      Reached (host.perform operation).2
  /-- Something else happens. -/
  | meanwhile {host later : Host ε δ} (reached : Reached host) (happened : Meanwhile host later) :
      Reached later

namespace Meanwhile

/-- An emulator goes on to suit a device. -/
theorem suits (happened : Meanwhile host later) (suited : host.suits emulator device = true) :
    later.suits emulator device = true := by
  obtain ⟨profile, hprofile, hsuited⟩ := (Option.any_eq_true _ _).1 suited
  obtain ⟨behaviour, known, supported⟩ := (Option.any_eq_true _ _).1 hsuited
  rw [Host.suits, happened.profiles device profile hprofile, Option.any_some,
    happened.emulators emulator behaviour known, Option.any_some]
  exact supported

/-- What is listed may go on to be listed. -/
theorem lists (happened : Meanwhile host later) (allowed : host.Lists listed) :
    later.Lists listed := by
  have hkept : ∀ emulator ∈ listed.emulators, ∃ behaviour,
      host.emulators[emulator]? = some behaviour ∧ later.emulators[emulator]? = some behaviour := by
    intro emulator member
    obtain ⟨behaviour, known⟩ := Option.isSome_iff_exists.1 (allowed.known emulator member)
    exact ⟨behaviour, known, happened.emulators emulator behaviour known⟩
  have hnames : listed.emulators.map later.emulatorName? =
      listed.emulators.map host.emulatorName? := by
    refine List.map_congr_left fun emulator member => ?_
    obtain ⟨behaviour, known, stays⟩ := hkept emulator member
    rw [emulatorName?, emulatorName?, known, stays]
  refine ⟨allowed.devices, fun emulator member => ?_, ?_⟩
  · obtain ⟨behaviour, -, stays⟩ := hkept emulator member
    rw [stays]
    rfl
  · rw [hnames]
    exact allowed.names

/-- The host stays in order. -/
theorem orderly (happened : Meanwhile host later) (orderly : host.Orderly) : later.Orderly := by
  refine ⟨fun registry listed found => ?_, fun device emulator bound => ?_,
    fun device emulator bound => ?_⟩
  · rcases happened.opened registry listed found with before | rfl
    · exact happened.lists (orderly.lists registry listed before)
    · exact Lists.empty later
  · rw [happened.bindings] at bound
    exact happened.suits (orderly.suited device emulator bound)
  · rw [happened.bindings] at bound
    obtain ⟨registry, listed, found, both⟩ := orderly.backed device emulator bound
    exact ⟨registry, listed, happened.kept registry listed found, both⟩

end Meanwhile

/-- A request to a device is no operation on a registry. -/
theorem Suited.meanwhile_request (suited : host.Suited) (device : Nat) (request : DeviceRequest) :
    Meanwhile host (host.request device request) := by
  have hacts := suited.actsOn_request device request
  refine ⟨fun registry listed found => ?_, fun registry listed found => ?_,
    suited.binding_request device request, fun emulator behaviour known => ?_,
    fun other profile known => ?_⟩
  · rw [hacts.registries]
    exact found
  · rw [hacts.registries] at found
    exact Or.inl found
  · rw [hacts.emulators]
    exact known
  · rw [hacts.profiles]
    exact known

namespace Reached

/-- The registries of a host that is reached are in order. -/
theorem orderly (reached : host.Reached) : host.Orderly := by
  induction reached with
  | fresh fresh => exact fresh.orderly
  | perform reached operation ih => exact ih.perform operation
  | meanwhile reached happened ih => exact happened.orderly ih

/-- An operation or a request leads on. -/
theorem act (reached : host.Reached) (operation : HostOperation) : (host.act operation).Reached := by
  cases operation with
  | registry operation => exact reached.perform operation
  | request device request =>
    exact reached.meanwhile (reached.orderly.suited.meanwhile_request device request)

/-- A series of operations and requests leads on. -/
theorem actEach (reached : host.Reached) (operations : List HostOperation) :
    (host.actEach operations).Reached := by
  induction operations generalizing host with
  | nil => exact reached
  | cons operation rest ih => exact ih (reached.act operation)

end Reached

end Paravirt.Host

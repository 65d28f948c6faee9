import Paravirt.Proofs.Host.Binding

/-!
# Bindings as a story

Everything that happens to the bindings of a host is one of four events: an emulator is called to
connect a device and accepts or refuses it, an emulator is called to disconnect a device, a device is
released without a call, and a registry changes what it lists. A story is a series of events each of
which is due when it comes. A binding at any point of a story was made by an accepted connect before
that point and has been in force ever since.
-/

namespace Paravirt

variable {ε δ : Type}

/-- What can happen to the bindings and lists of a host. -/
inductive BindingEvent where
  /-- An emulator is called to connect a device, and accepts or refuses it. -/
  | connect (emulator device : Nat) (accepted : Bool)
  /-- An emulator is called to disconnect a device. -/
  | disconnect (emulator device : Nat)
  /-- A device is released without a call. -/
  | forget (device : Nat)
  /-- A registry changes what it lists. -/
  | relist (registry : Nat) (listed : Registry)
  deriving DecidableEq

namespace BindingEvent

/-- Whether the event is a call of a hook. -/
def isCall : BindingEvent → Bool
  | .connect _ _ _ | .disconnect _ _ => true
  | .forget _ | .relist _ _ => false

/-- The device that the event happens to. -/
def device? : BindingEvent → Option Nat
  | .connect _ device _ | .disconnect _ device | .forget device => some device
  | .relist _ _ => none

/-- The binding that the event leaves a device with. -/
def bindingAfter (device : Nat) (before : Option Nat) : BindingEvent → Option Nat
  | .connect emulator offered accepted =>
    if device = offered then (if accepted then some emulator else none) else before
  | .disconnect _ released | .forget released => if device = released then none else before
  | .relist _ _ => before

variable {event : BindingEvent} {device emulator : Nat}

/-- What happens to another device leaves the binding of this one. -/
theorem bindingAfter_of_ne (apart : event.device? ≠ some device) (before : Option Nat) :
    event.bindingAfter device before = before := by
  have hother {other : Nat} (about : event.device? = some other) : ¬device = other :=
    fun same => apart (same ▸ about)
  cases event with
  | connect emulator offered accepted => exact if_neg (hother rfl)
  | disconnect emulator released => exact if_neg (hother rfl)
  | forget released => exact if_neg (hother rfl)
  | relist registry listed => rfl

/-- What happens to a device leaves it bound only if it is an accepted connect. -/
theorem eq_connect_of_bindingAfter (about : event.device? = some device) {before : Option Nat}
    (bound : event.bindingAfter device before = some emulator) :
    event = .connect emulator device true := by
  cases event with
  | connect other offered accepted =>
    cases about
    rw [bindingAfter, if_pos rfl] at bound
    cases accepted with
    | true =>
      cases bound
      rfl
    | false => cases bound
  | disconnect other released =>
    cases about
    rw [bindingAfter, if_pos rfl] at bound
    cases bound
  | forget released =>
    cases about
    rw [bindingAfter, if_pos rfl] at bound
    cases bound
  | relist registry listed => cases about

end BindingEvent

namespace Host

/-- The host after an event. -/
def occur (host : Host ε δ) : BindingEvent → Host ε δ
  | .connect emulator device _ => (host.offer device emulator).2
  | .disconnect _ device => host.unbind device
  | .forget device => host.release device
  | .relist registry listed => host.setRegistry registry listed

/-- The host after a series of events. -/
def after (host : Host ε δ) (events : List BindingEvent) : Host ε δ := events.foldl occur host

/-- An event is due: only a device that is not bound is connected, only to an emulator of its type,
and with the answer that the emulator gives; and a device is disconnected from the emulator that it
is bound to. -/
def Due (host : Host ε δ) : BindingEvent → Prop
  | .connect emulator device accepted =>
    host.binding device = none ∧ host.suits emulator device = true ∧
      (host.offer device emulator).1 = accepted
  | .disconnect emulator device => host.binding device = some emulator
  | .forget _ | .relist _ _ => True

/-- Each event of a series is due when it comes. -/
def Story : Host ε δ → List BindingEvent → Prop
  | _, [] => True
  | host, event :: rest => host.Due event ∧ (host.occur event).Story rest

variable {host later : Host ε δ} {event : BindingEvent} {events first second : List BindingEvent}
  {device emulator index : Nat}

@[simp]
theorem after_nil (host : Host ε δ) : host.after [] = host := rfl

@[simp]
theorem after_cons (host : Host ε δ) (event : BindingEvent) (rest : List BindingEvent) :
    host.after (event :: rest) = (host.occur event).after rest := rfl

theorem after_append (host : Host ε δ) (first second : List BindingEvent) :
    host.after (first ++ second) = (host.after first).after second := List.foldl_append

/-- A story goes on from where its first part ends. -/
theorem story_append :
    host.Story (first ++ second) ↔ host.Story first ∧ (host.after first).Story second := by
  induction first generalizing host with
  | nil => exact ⟨fun later => ⟨trivial, later⟩, And.right⟩
  | cons event rest ih => rw [List.cons_append, Story, Story, ih, and_assoc, after_cons]

/-- Each event of a story is due at its point. -/
theorem Story.due (story : host.Story events) (listed : events[index]? = some event) :
    (host.after (events.take index)).Due event := by
  induction events generalizing host index with
  | nil => cases listed
  | cons first rest ih =>
    cases index with
    | zero =>
      cases listed
      exact story.1
    | succ index => exact ih story.2 listed

/-- One more event of a series happens. -/
theorem after_take_succ (host : Host ε δ) (listed : events[index]? = some event) :
    host.after (events.take (index + 1)) = (host.after (events.take index)).occur event := by
  rw [List.take_add_one, listed, after_append]
  rfl

/-- An event acts on the device it happens to. -/
theorem actsOn_occur (host : Host ε δ) (about : event.device? = some device) :
    ActsOn device host (host.occur event) := by
  cases event with
  | connect emulator offered accepted =>
    cases about
    exact actsOn_offer host device emulator
  | disconnect emulator released =>
    cases about
    exact actsOn_unbind host device
  | forget released =>
    cases about
    exact actsOn_release host device
  | relist registry listed => cases about

/-- No event adds or replaces a device or an emulator. -/
theorem sameCast_occur (host : Host ε δ) (event : BindingEvent) :
    SameCast host (host.occur event) := by
  cases about : event.device? with
  | some device => exact (actsOn_occur host about).toSameCast
  | none =>
    cases event with
    | relist registry listed => exact ⟨rfl, fun _ => rfl⟩
    | _ => cases about

/-- A series of events adds or replaces no device and no emulator. -/
theorem sameCast_after (host : Host ε δ) (events : List BindingEvent) :
    SameCast host (host.after events) := by
  induction events generalizing host with
  | nil => exact SameCast.refl host
  | cons event rest ih => exact (sameCast_occur host event).trans (ih (host.occur event))

/-- An event leaves a device that it does not happen to as it is. -/
theorem getElem?_occur_of_ne (apart : event.device? ≠ some device) :
    (host.occur event).devices[device]? = host.devices[device]? := by
  cases about : event.device? with
  | some other =>
    exact (actsOn_occur host about).others device fun same => apart (same ▸ about)
  | none =>
    cases event with
    | relist registry listed => rfl
    | _ => cases about

/-- The binding of a device after an event. -/
theorem Suited.binding_occur (suited : host.Suited) (due : host.Due event) (device : Nat) :
    (host.occur event).binding device = event.bindingAfter device (host.binding device) := by
  by_cases about : event.device? = some device
  · cases event with
    | connect emulator offered accepted =>
      cases about
      obtain ⟨-, hsuits, hanswer⟩ := due
      rw [BindingEvent.bindingAfter, if_pos rfl, ← hanswer]
      exact binding_offer hsuits
    | disconnect emulator released =>
      cases about
      rw [BindingEvent.bindingAfter, if_pos rfl]
      exact suited.binding_unbind device
    | forget released =>
      cases about
      rw [BindingEvent.bindingAfter, if_pos rfl]
      exact binding_release host device
    | relist registry listed => cases about
  · rw [BindingEvent.bindingAfter_of_ne about]
    exact binding_of_getElem? (getElem?_occur_of_ne about)

/-- An event leaves a device bound only if it was bound before or has just been accepted. -/
theorem Suited.bound_cases (suited : host.Suited) (due : host.Due event)
    (bound : (host.occur event).binding device = some emulator) :
    host.binding device = some emulator ∨ event = .connect emulator device true := by
  rw [suited.binding_occur due] at bound
  by_cases about : event.device? = some device
  · exact Or.inr (BindingEvent.eq_connect_of_bindingAfter about bound)
  · rw [BindingEvent.bindingAfter_of_ne about] at bound
    exact Or.inl bound

/-- An event leaves every device bound to an emulator of its type. -/
theorem Suited.occur (suited : host.Suited) (due : host.Due event) : (host.occur event).Suited := by
  intro device emulator bound
  rw [(sameCast_occur host event).suits_eq]
  rcases suited.bound_cases due bound with before | rfl
  · exact suited device emulator before
  · exact due.2.1

/-- A story leaves every device bound to an emulator of its type. -/
theorem Suited.after (suited : host.Suited) (story : host.Story events) :
    (host.after events).Suited := by
  induction events generalizing host with
  | nil => exact suited
  | cons event rest ih => exact ih (suited.occur story.1) story.2

/-- The first part of a story is a story. -/
theorem Story.take (story : host.Story events) (count : Nat) : host.Story (events.take count) := by
  rw [← List.take_append_drop count events, story_append] at story
  exact story.1

/-- A binding was made by an accepted connect and has been in force ever since, if no device was bound
at first. -/
theorem Story.connected (story : host.Story events) (free : ∀ other, host.binding other = none)
    {count : Nat} (within : count ≤ events.length)
    (bound : (host.after (events.take count)).binding device = some emulator) :
    ∃ start < count, events[start]? = some (.connect emulator device true) ∧
      ∀ point, start < point → point ≤ count →
        (host.after (events.take point)).binding device = some emulator := by
  have hsuited : host.Suited := fun other _ held => by
    rw [free other] at held
    cases held
  induction count with
  | zero =>
    have hfree := free device
    rw [List.take_zero, after_nil, hfree] at bound
    cases bound
  | succ count ih =>
    have hlisted : events[count]? = some events[count] := List.getElem?_eq_getElem within
    have hstep := after_take_succ host hlisted
    have hbound := bound
    rw [hstep] at hbound
    -- the binding is older than the event, or the event has just made it
    rcases (hsuited.after (story.take count)).bound_cases (story.due hlisted) hbound with
      before | accepted
    · obtain ⟨start, hstart, hconnect, hforce⟩ := ih (by omega) before
      refine ⟨start, by omega, hconnect, fun point hafter hpoint => ?_⟩
      by_cases last : point = count + 1
      · rw [last]
        exact bound
      · exact hforce point hafter (by omega)
    · refine ⟨count, by omega, by rw [hlisted, accepted], fun point hafter hpoint => ?_⟩
      have hpoint : point = count + 1 := by omega
      rw [hpoint]
      exact bound

/-- The emulators of a host note every call to connect or disconnect a device, and nothing else, in a
log that is part of what they share. -/
def Logs (host : Host ε δ) (log : ε → List BindingEvent) : Prop :=
  ∀ (emulator : Nat) (behaviour : Emulator ε δ), host.emulators[emulator]? = some behaviour →
    ∀ (view : DeviceView ε) (scene : Scene ε δ),
      log (behaviour.connect view scene).2.shared = log scene.shared ++
          [.connect emulator view.number (behaviour.connect view scene).1.isOk] ∧
        log (behaviour.disconnect view scene).2.shared = log scene.shared ++
          [.disconnect emulator view.number]

/-- An event adds itself to the log if it is a call, and nothing otherwise. -/
theorem Logs.occur {log : ε → List BindingEvent} (logs : host.Logs log) (suited : host.Suited)
    (due : host.Due event) :
    log (host.occur event).shared = log host.shared ++ [event].filter (·.isCall) := by
  cases event with
  | connect emulator device accepted =>
    obtain ⟨-, hsuits, hanswer⟩ := due
    obtain ⟨owner, behaviour, found, known, supported⟩ := suits_iff.1 hsuits
    rw [offer_of_supports found known supported] at hanswer
    rw [Host.occur, offer_of_supports found known supported]
    dsimp only at hanswer ⊢
    have hlog := (logs emulator behaviour known (host.view device (owner.bindTo emulator))
      ⟨host.guests, owner.queues, owner.data, host.shared⟩).1
    rw [← hanswer]
    split <;> exact hlog
  | disconnect emulator device =>
    obtain ⟨owner, behaviour, found, -, known, bound⟩ := suited.emulatorOf due
    have hlog := (logs emulator behaviour known (host.view device owner)
      ⟨host.guests, owner.queues, owner.data, host.shared⟩).2
    rw [Host.occur, unbind_of_emulatorOf found bound]
    exact hlog
  | forget device => exact (List.append_nil _).symm
  | relist registry listed => exact (List.append_nil _).symm

/-- What a story adds to the log are its calls in their order. -/
theorem Logs.after {log : ε → List BindingEvent} (logs : host.Logs log) (suited : host.Suited)
    (story : host.Story events) :
    log (host.after events).shared = log host.shared ++ events.filter (·.isCall) := by
  induction events generalizing host with
  | nil => exact (List.append_nil _).symm
  | cons event rest ih =>
    obtain ⟨hdue, hrest⟩ := story
    have hlogs : (host.occur event).Logs log := by
      unfold Logs
      rw [(sameCast_occur host event).emulators]
      exact logs
    rw [after_cons, ih hlogs (suited.occur hdue) hrest, logs.occur suited hdue, List.append_assoc,
      ← List.filter_append, List.singleton_append]

end Host

end Paravirt

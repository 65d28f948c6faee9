import Mathlib.Data.Nat.Find
import Paravirt.Proofs.Host.Safety

/-!
# How bindings end

Whichever operation ends a binding calls the emulator to disconnect the device, with one exception.
A device that is registered while another registry still has it bound arrives unbound, and the
emulator that it was bound to is not told. So every accepted call to connect is followed in time by
a call to disconnect exactly where no device is handed over in this way.
-/

namespace Paravirt

variable {ε δ : Type}

namespace Host

variable {host : Host ε δ} {event : BindingEvent} {events : List BindingEvent}
  {operation : RegistryOperation} {device emulator : Nat}

section Calls

/-- Offering a device is done by calls. -/
theorem isCall_of_mem_offerTrace (listed : event ∈ host.offerTrace device emulator) :
    event.isCall = true := by
  unfold offerTrace at listed
  split at listed
  · rw [List.mem_singleton.1 listed]
    rfl
  · cases listed

/-- Offering a device to emulators is done by calls. -/
theorem isCall_of_mem_offerToTrace {emulators : List Nat}
    (listed : event ∈ offerToTrace device emulators host) : event.isCall = true := by
  induction emulators generalizing host with
  | nil => cases listed
  | cons emulator rest ih =>
    rw [offerToTrace] at listed
    rcases List.mem_append.1 listed with first | later
    · exact isCall_of_mem_offerTrace first
    · split at later
      · cases later
      · exact ih later

/-- Ending a binding is done by a call. -/
theorem isCall_of_mem_unbindTrace (listed : event ∈ unbindTrace device host) :
    event.isCall = true := by
  unfold unbindTrace at listed
  split at listed
  · cases listed
  · rw [List.mem_singleton.1 listed]
    rfl

/-- An emulator that arrives is offered a device by calls. -/
theorem isCall_of_mem_arrivalTrace (listed : event ∈ arrivalTrace emulator device host) :
    event.isCall = true := by
  unfold arrivalTrace at listed
  split at listed
  · cases listed
  · exact isCall_of_mem_offerTrace listed

/-- An emulator that goes gives up a device by calls. -/
theorem isCall_of_mem_departureTrace {remaining : List Nat}
    (listed : event ∈ departureTrace emulator remaining device host) : event.isCall = true := by
  unfold departureTrace at listed
  split at listed
  · rcases List.mem_cons.1 listed with rfl | later
    · rfl
    · exact isCall_of_mem_offerToTrace later
  · cases listed

/-- Going through devices is done by calls if each turn is. -/
theorem isCall_of_mem_sweepTrace {turn : Nat → Host ε δ → List BindingEvent}
    (turns : ∀ (device : Nat) (host : Host ε δ) (event : BindingEvent),
      event ∈ turn device host → event.isCall = true)
    {devices : List Nat} (listed : event ∈ sweepTrace turn devices host) :
    event.isCall = true := by
  induction devices generalizing host with
  | nil => cases listed
  | cons device rest ih =>
    rw [sweepTrace] at listed
    rcases List.mem_append.1 listed with first | later
    · exact turns device host event first
    · exact ih later

/-- A device is released without a call only as the first event of registering it. -/
theorem Performs.eq_of_forget (performs : host.Performs operation events) {place : Nat}
    (listed : events[place]? = some (.forget device)) :
    place = 0 ∧ ∃ registry, operation = .registerDevice registry device := by
  -- elsewhere every event is a call or a change of lists
  have hcall {calls : List BindingEvent}
      (calling : ∀ event ∈ calls, event.isCall = true) : .forget device ∉ calls :=
    fun listed => Bool.false_ne_true (calling _ listed)
  have hmember := List.mem_of_getElem? listed
  cases performs with
  | @registerDevice registry arriving before found unlisted =>
    match place with
    | 0 =>
      cases listed
      exact ⟨rfl, registry, rfl⟩
    | 1 => cases listed
    | place + 2 =>
      have hoffers : (offerToTrace arriving before.emulators _)[place]? = some (.forget device) :=
        listed
      exact absurd (List.mem_of_getElem? hoffers) (hcall fun _ => isCall_of_mem_offerToTrace)
  | unregisterDevice found present =>
    rcases List.mem_append.1 hmember with call | relisted
    · exact absurd call (hcall fun _ => isCall_of_mem_unbindTrace)
    · cases List.mem_singleton.1 relisted
  | registerEmulator found known unlisted =>
    rcases List.mem_append.1 hmember with relisted | call
    · cases List.mem_singleton.1 relisted
    · exact absurd call (hcall fun _ => isCall_of_mem_sweepTrace
        fun _ _ _ => isCall_of_mem_arrivalTrace)
  | unregisterEmulator found named =>
    rcases List.mem_append.1 hmember with relisted | call
    · cases List.mem_singleton.1 relisted
    · exact absurd call (hcall fun _ => isCall_of_mem_sweepTrace
        fun _ _ _ => isCall_of_mem_departureTrace)
  | shutdown found =>
    rcases List.mem_append.1 hmember with call | relisted
    · exact absurd call (hcall fun _ => isCall_of_mem_sweepTrace
        fun _ _ _ => isCall_of_mem_unbindTrace)
    · cases List.mem_singleton.1 relisted

end Calls

/-- The events of a series of operations in two parts. -/
theorem history_append (first second : List RegistryOperation) (host : Host ε δ) :
    history (first ++ second) host =
      history first host ++ history second (host.performEach first) := by
  induction first generalizing host with
  | nil => rfl
  | cons operation rest ih =>
    rw [List.cons_append, history, history, ih, List.append_assoc]
    rfl

/-- The events of the first operations come first. -/
theorem history_take_append_drop (operations : List RegistryOperation) (place : Nat)
    (host : Host ε δ) : history operations host = history (operations.take place) host ++
      history (operations.drop place) (host.performEach (operations.take place)) := by
  rw [← history_append, List.take_append_drop]

/-- The events of the first operations lead to where these operations end. -/
theorem Suited.after_take_history (suited : host.Suited) (operations : List RegistryOperation)
    (place : Nat) :
    host.after ((history operations host).take (history (operations.take place) host).length) =
      host.performEach (operations.take place) := by
  rw [(suited.story_history (operations.take place)).2, history_take_append_drop operations place,
    List.take_left']
  rfl

/-- A device is released without a call only where it is registered. -/
theorem registered_of_forget {operations : List RegistryOperation} {point : Nat}
    (happened : (history operations host)[point]? = some (.forget device)) :
    ∃ place registry, operations[place]? = some (.registerDevice registry device) ∧
      ((host.performEach (operations.take place)).perform (.registerDevice registry device)).1 =
        .ok () ∧
      point = (history (operations.take place) host).length := by
  induction operations generalizing host point with
  | nil => cases happened
  | cons operation rest ih =>
    rw [history] at happened
    by_cases here : point < (host.trace operation).length
    · rw [List.getElem?_append_left here] at happened
      rcases host.perform_cases operation with ⟨error, -, nothing⟩ | ⟨succeeded, performs⟩
      · rw [nothing] at here
        cases here
      · obtain ⟨rfl, registry, rfl⟩ := performs.eq_of_forget happened
        exact ⟨0, registry, rfl, congrArg Prod.fst succeeded, rfl⟩
    · have hlater := Nat.le_of_not_lt here
      rw [List.getElem?_append_right hlater] at happened
      obtain ⟨place, registry, hplace, hsuccess, hpoint⟩ := ih happened
      refine ⟨place + 1, registry, hplace, hsuccess, ?_⟩
      rw [List.take_succ_cons, history, List.length_append, ← hpoint]
      omega

/-- Registering a device, where it succeeds, begins by releasing it. -/
theorem forget_of_registered {operations : List RegistryOperation} {place registry : Nat}
    (listed : operations[place]? = some (.registerDevice registry device))
    (success : ((host.performEach (operations.take place)).perform
      (.registerDevice registry device)).1 = .ok ()) :
    (history operations host)[(history (operations.take place) host).length]? =
      some (.forget device) := by
  obtain ⟨hlength, hplace⟩ := List.getElem?_eq_some_iff.1 listed
  rw [history_take_append_drop operations place, List.getElem?_append_right (Nat.le_refl _),
    Nat.sub_self, List.drop_eq_getElem_cons hlength, hplace, history]
  generalize host.performEach (operations.take place) = reached at success
  rcases reached.perform_cases (.registerDevice registry device) with
    ⟨error, failed, -⟩ | ⟨-, performs⟩
  · rw [failed] at success
    cases success
  · generalize reached.trace (.registerDevice registry device) = events at performs
    cases performs with
    | registerDevice found unlisted => rfl

/-- A binding that an event ends is ended by a call to disconnect or by a release. -/
theorem Suited.ended_cases (suited : host.Suited) (due : host.Due event)
    (before : host.binding device = some emulator)
    (after : (host.occur event).binding device ≠ some emulator) :
    event = .disconnect emulator device ∨ event = .forget device := by
  rw [suited.binding_occur due] at after
  by_cases about : event.device? = some device
  · cases event with
    | connect other offered accepted =>
      cases about
      rw [due.1] at before
      cases before
    | disconnect other released =>
      cases about
      have hother : some other = some emulator := due.symm.trans before
      cases hother
      exact Or.inl rfl
    | forget released =>
      cases about
      exact Or.inr rfl
    | relist registry listed => cases about
  · rw [BindingEvent.bindingAfter_of_ne about] at after
    exact absurd before after

/-- A binding that ends was in force until a call to disconnect or a release. -/
theorem Story.exists_end (story : host.Story events) (suited : host.Suited) {start stop : Nat}
    (accepted : events[start]? = some (.connect emulator device true)) (later : start < stop)
    (within : stop ≤ events.length)
    (ended : (host.after (events.take stop)).binding device ≠ some emulator) :
    ∃ point, start < point ∧ point < stop ∧
      (∀ between, start < between → between ≤ point →
        (host.after (events.take between)).binding device = some emulator) ∧
      (events[point]? = some (.disconnect emulator device) ∨
        events[point]? = some (.forget device)) := by
  have hstart : (host.after (events.take (start + 1))).binding device = some emulator := by
    rw [after_take_succ host accepted,
      (suited.after (story.take start)).binding_occur (story.due accepted),
      BindingEvent.bindingAfter, if_pos rfl, if_pos rfl]
  -- the first point at which the binding is gone
  have hexists : ∃ point, start < point ∧
      (host.after (events.take point)).binding device ≠ some emulator := ⟨stop, later, ended⟩
  obtain ⟨hafter, hgone⟩ := Nat.find_spec hexists
  have hfirst := Nat.find_min' hexists ⟨later, ended⟩
  have hforce : ∀ between, start < between → between < Nat.find hexists →
      (host.after (events.take between)).binding device = some emulator := by
    intro between hbetween hbefore
    by_contra hends
    exact Nat.find_min hexists hbefore ⟨hbetween, hends⟩
  generalize Nat.find hexists = first at hafter hgone hfirst hforce
  obtain ⟨point, rfl⟩ : ∃ point, first = point + 1 := ⟨first - 1, by omega⟩
  have hpoint : start < point := by
    refine Nat.lt_of_le_of_ne (Nat.le_of_lt_succ hafter) fun same => ?_
    rw [← same, hstart] at hgone
    exact hgone rfl
  have hlisted : events[point]? = some events[point] := List.getElem?_eq_getElem (by omega)
  rw [after_take_succ host hlisted] at hgone
  have hcases := (suited.after (story.take point)).ended_cases (story.due hlisted)
    (hforce point hpoint (Nat.lt_succ_self point)) hgone
  refine ⟨point, hpoint, by omega, fun between hbetween hle =>
    hforce between hbetween (Nat.lt_succ_of_le hle), ?_⟩
  rw [hlisted]
  exact hcases.imp (congrArg some) (congrArg some)

/-- Whenever an emulator has accepted a device, it is called to disconnect it no later than the
device stops being bound to it, and the binding was in force until that call. -/
def DisconnectsInTime (host : Host ε δ) (events : List BindingEvent) (device emulator : Nat) : Prop :=
  ∀ start stop, events[start]? = some (.connect emulator device true) → start < stop →
    stop ≤ events.length → (host.after (events.take stop)).binding device ≠ some emulator →
      ∃ point, start < point ∧ point < stop ∧
        events[point]? = some (.disconnect emulator device) ∧
        ∀ between, start < between → between ≤ point →
          (host.after (events.take between)).binding device = some emulator

/-- A device is handed over: it is registered while it is bound to an emulator. -/
def HandsOver (host : Host ε δ) (operations : List RegistryOperation) (device emulator : Nat) : Prop :=
  ∃ place registry, operations[place]? = some (.registerDevice registry device) ∧
    (host.performEach (operations.take place)).binding device = some emulator ∧
    ((host.performEach (operations.take place)).perform (.registerDevice registry device)).1 = .ok ()

/-- From a host on which nothing is registered, an emulator that has accepted a device is called to
disconnect it no later than the binding ends, exactly if the device is never handed over while it is
bound to that emulator. -/
theorem disconnectsInTime_iff (fresh : host.Fresh) (operations : List RegistryOperation) :
    host.performEach operations = host.after (history operations host) ∧
      (∀ log : ε → List BindingEvent, host.Logs log →
        log (host.performEach operations).shared =
          log host.shared ++ (history operations host).filter (·.isCall)) ∧
      ∀ device emulator, host.DisconnectsInTime (history operations host) device emulator ↔
        ¬host.HandsOver operations device emulator := by
  have hsuited := fresh.orderly.suited
  obtain ⟨hstory, hafter⟩ := hsuited.story_history operations
  refine ⟨hafter, fun log logs => ?_, fun device emulator => ⟨fun disconnects => ?_, fun kept => ?_⟩⟩
  · rw [hafter]
    exact logs.after hsuited hstory
  · rintro ⟨place, registry, hplace, hbound, hsuccess⟩
    have hforgotten := forget_of_registered hplace hsuccess
    rw [← hsuited.after_take_history operations place] at hbound
    generalize (history (operations.take place) host).length = point at hforgotten hbound
    have hlength := (List.getElem?_eq_some_iff.1 hforgotten).1
    obtain ⟨start, hstart, haccepted, hforce⟩ :=
      hstory.connected fresh.binding_eq (Nat.le_of_lt hlength) hbound
    have hgone : (host.after ((history operations host).take (point + 1))).binding device ≠
        some emulator := by
      rw [after_take_succ host hforgotten, Host.occur, binding_release]
      exact fun impossible => by cases impossible
    obtain ⟨last, hlast, hbefore, hdisconnected, -⟩ :=
      disconnects start (point + 1) haccepted (by omega) hlength hgone
    -- the binding was in force until it was forgotten, so no call has ended it
    by_cases same : last = point
    · rw [same, hforgotten] at hdisconnected
      cases hdisconnected
    · have hafterwards := hforce (last + 1) (by omega) (by omega)
      rw [after_take_succ host hdisconnected,
        (hsuited.after (hstory.take last)).binding_occur (hstory.due hdisconnected),
        BindingEvent.bindingAfter, if_pos rfl] at hafterwards
      cases hafterwards
  · intro start stop accepted later within ended
    obtain ⟨point, hstart, hstop, hforce, disconnected | forgotten⟩ :=
      hstory.exists_end hsuited accepted later within ended
    · exact ⟨point, hstart, hstop, disconnected, hforce⟩
    · obtain ⟨place, registry, hplace, hsuccess, rfl⟩ := registered_of_forget forgotten
      have hbound := hforce _ hstart (Nat.le_refl _)
      rw [hsuited.after_take_history operations place] at hbound
      exact absurd ⟨place, registry, hplace, hbound, hsuccess⟩ kept

/-- Nothing is registered on the sharing host, and no device is bound. -/
theorem fresh_sharingHost : sharingHost.Fresh := by
  refine ⟨by decide, fun device listed => ?_⟩
  simp only [sharingHost, List.mem_cons, List.not_mem_nil, or_false] at listed
  rcases listed with rfl | rfl <;> rfl

/-- On the sharing host the first device is handed over while it is bound, and its emulator is not
called to disconnect it in time. The second device is registered while it is free, and its emulator
is called. -/
theorem disconnectsInTime_sharingHost :
    let operations : List RegistryOperation := [.registerEmulator 0 0, .registerEmulator 1 1,
      .registerDevice 0 0, .registerDevice 1 0, .registerDevice 0 1, .registerDevice 1 1,
      .unregisterEmulator 1 "any", .shutdown 0]
    sharingHost.Fresh ∧ sharingHost.HandsOver operations 0 0 ∧
      ¬sharingHost.DisconnectsInTime (history operations sharingHost) 0 0 ∧
      ¬sharingHost.HandsOver operations 1 1 ∧
      sharingHost.DisconnectsInTime (history operations sharingHost) 1 1 ∧
      (history operations sharingHost).filter (·.isCall) =
        [.connect 0 0 true, .connect 1 0 false, .connect 1 1 true, .disconnect 1 1] := by
  intro operations
  obtain ⟨-, -, hiff⟩ := disconnectsInTime_iff fresh_sharingHost operations
  have hgiven : sharingHost.HandsOver operations 0 0 := ⟨3, 1, by decide +kernel⟩
  have hkept : ¬sharingHost.HandsOver operations 1 1 := by
    rintro ⟨place, registry, hplace, hbound, -⟩
    match place with
    | 0 | 1 | 2 | 3 | 6 | 7 => cases hplace
    | _ + 8 => cases hplace
    -- both times that the second device is registered it is free
    | 4 | 5 =>
      revert hbound
      decide +kernel
  exact ⟨fresh_sharingHost, hgiven, fun disconnects => (hiff 0 0).1 disconnects hgiven, hkept,
    (hiff 1 1).2 hkept, by decide +kernel⟩

/-- A device that is registered with a second registry while the first one has it bound ends up
unbound, and the only call was the one to connect it. -/
theorem not_disconnectsInTime_handedOver :
    let operations : List RegistryOperation :=
      [.registerEmulator 0 0, .registerDevice 0 0, .registerDevice 1 0]
    sharingHost.Fresh ∧
      (sharingHost.performEach (operations.take 2)).binding 0 = some 0 ∧
      (sharingHost.performEach operations).binding 0 = none ∧
      (sharingHost.performEach operations).shared.events =
        [.called .connect "block" "disk" [.name (some "block"), .name none]] ∧
      ¬sharingHost.DisconnectsInTime (history operations sharingHost) 0 0 := by
  intro operations
  have hhistory : history operations sharingHost = [.relist 0 ⟨[], [0]⟩, .forget 0,
      .relist 0 ⟨[0], [0]⟩, .connect 0 0 true, .forget 0, .relist 1 ⟨[0], []⟩] := by
    decide +kernel
  refine ⟨fresh_sharingHost, by decide +kernel, by decide +kernel, by decide +kernel,
    fun disconnects => ?_⟩
  rw [hhistory] at disconnects
  obtain ⟨point, hafter, hbefore, hdisconnected, -⟩ :=
    disconnects 3 5 rfl (by decide) (by decide) (by decide +kernel)
  obtain rfl : point = 4 := by omega
  cases hdisconnected

end Host

end Paravirt

import Paravirt.Proofs.Host.HookCall
import Paravirt.Proofs.Host.Safety

/-!
# In whose custody data is

A device that is not bound holds no data. A bound device holds what hooks of its emulator have left
since that emulator accepted it, and nobody else has had a hand in it. So a call to connect finds no
data, and every other call finds what its own emulator has left under the same binding, whatever
data hooks leave, and whether they accept a device or refuse it.
-/

namespace Paravirt

variable {ε δ : Type}

/-- The data of a device after some calls: each call for the device leaves its own. -/
def stored (device : Nat) (data : Option δ) (calls : List (HookCall δ)) : Option δ :=
  calls.foldl (fun data call => if call.device = device then call.left else data) data

/-- The data of a device was stored under its binding: there was an accepted call to connect, all
calls for the device after that were requests to the same emulator, and the data is what these calls
have left. -/
def Entrusted (calls : List (HookCall δ)) (device emulator : Nat) (data : Option δ) : Prop :=
  ∃ earlier connected since, calls = earlier ++ connected :: since ∧
    connected.hook = .connect ∧ connected.accepted = true ∧ connected.emulator = emulator ∧
    connected.device = device ∧
    (∀ call ∈ since, call.device = device →
      call.emulator = emulator ∧ ∃ request, call.hook = .request request) ∧
    data = stored device connected.left since

namespace Entrusted

variable {calls : List (HookCall δ)} {call : HookCall δ} {device emulator : Nat} {data : Option δ}

/-- Data that an emulator leaves with a device that it accepts is stored under the new binding. -/
theorem connect (hook : call.hook = .connect) (accepted : call.accepted = true)
    (calls : List (HookCall δ)) :
    Entrusted (calls ++ [call]) call.device call.emulator call.left :=
  ⟨calls, call, [], rfl, hook, accepted, rfl, rfl, fun _ listed _ => absurd listed List.not_mem_nil,
    rfl⟩

/-- Calls for other devices leave the data of a device as it was. -/
theorem append (entrusted : Entrusted calls device emulator data) (apart : call.device ≠ device) :
    Entrusted (calls ++ [call]) device emulator data := by
  obtain ⟨earlier, connected, since, rfl, hook, accepted, hemulator, hdevice, requests, rfl⟩ :=
    entrusted
  refine ⟨earlier, connected, since ++ [call], List.append_assoc _ _ _, hook, accepted, hemulator,
    hdevice, fun other listed about => ?_, ?_⟩
  · rcases List.mem_append.1 listed with before | last
    · exact requests other before about
    · rw [List.mem_singleton.1 last] at about
      exact absurd about apart
  · rw [stored, stored, List.foldl_append, List.foldl_cons, List.foldl_nil, if_neg apart]

/-- What a request leaves is stored under the same binding. -/
theorem request {request : DeviceRequest} (hook : call.hook = .request request)
    (entrusted : Entrusted calls call.device call.emulator data) :
    Entrusted (calls ++ [call]) call.device call.emulator call.left := by
  obtain ⟨earlier, connected, since, rfl, hconnect, accepted, hemulator, hdevice, requests, -⟩ :=
    entrusted
  refine ⟨earlier, connected, since ++ [call], List.append_assoc _ _ _, hconnect, accepted, hemulator,
    hdevice, fun other listed about => ?_, ?_⟩
  · rcases List.mem_append.1 listed with before | last
    · exact requests other before about
    · rw [List.mem_singleton.1 last]
      exact ⟨rfl, request, hook⟩
  · rw [stored, List.foldl_append, List.foldl_cons, List.foldl_nil, if_pos rfl]

end Entrusted

/-- A call sees what it should after the calls before it: its own emulator as the binding of the
device; no data if it is a call to connect, and otherwise the data that was stored under the
binding. -/
structure HookCall.Proper (call : HookCall δ) (earlier : List (HookCall δ)) : Prop where
  /-- The device shows the emulator as its binding. -/
  shown : call.shown = some call.emulator
  /-- A call to connect finds no data. -/
  connect : call.hook = .connect → call.found = none
  /-- Every other call finds the data that was stored since the emulator has accepted the device. -/
  since : call.hook ≠ .connect → Entrusted earlier call.device call.emulator call.found

/-- After some calls, the data of a device is where it belongs: there is none if the device is not
bound, and otherwise it was stored under the binding. -/
structure Device.Keeps (owner : Device ε δ) (device : Nat) (calls : List (HookCall δ)) : Prop where
  /-- A device that is not bound holds no data. -/
  free : owner.emulator = none → owner.data = none
  /-- A bound device holds the data that was stored since its emulator has accepted it. -/
  bound : ∀ emulator, owner.emulator = some emulator → Entrusted calls device emulator owner.data

namespace Host

/-- After some calls, all bindings are suited, the data of every device is where it belongs, and
each of the calls saw what it should. -/
structure Custody (host : Host ε δ) (calls : List (HookCall δ)) : Prop where
  /-- Bindings are to emulators of the device's type. -/
  suited : host.Suited
  /-- Data is where it belongs. -/
  devices : ∀ (device : Nat) (owner : Device ε δ), host.devices[device]? = some owner →
    owner.Keeps device calls
  /-- Each call saw what it should. -/
  proper : ∀ (place : Nat) (call : HookCall δ), calls[place]? = some call →
    call.Proper (calls.take place)

variable {host later : Host ε δ} {calls : List (HookCall δ)}
  {device emulator : Nat} {owner : Device ε δ} {behaviour : Emulator ε δ} {event : BindingEvent}
  {events : List BindingEvent}

namespace Custody

/-- Before the first call, on a host where no device is bound or holds data. -/
theorem start (free : ∀ owner ∈ host.devices, owner.emulator = none ∧ owner.data = none) :
    host.Custody [] := by
  have hlisted {device : Nat} {owner : Device ε δ} (found : host.devices[device]? = some owner) :=
    free owner (List.mem_of_getElem? found)
  refine ⟨fun device emulator bound => ?_, fun device owner found =>
    ⟨fun _ => (hlisted found).2, fun emulator bound => ?_⟩, fun place call listed => by cases listed⟩
  · obtain ⟨owner, found, hbound⟩ := Option.bind_eq_some_iff.1 bound
    rw [(hlisted found).1] at hbound
    cases hbound
  · rw [(hlisted found).1] at bound
    cases bound

/-- What calls no hook may release devices, and leaves the others as they are. -/
theorem silent (custody : host.Custody calls) (suited : later.Suited)
    (kept : ∀ (device : Nat) (owner : Device ε δ), later.devices[device]? = some owner →
      host.devices[device]? = some owner ∨ (owner.emulator = none ∧ owner.data = none)) :
    later.Custody calls := by
  refine ⟨suited, fun device owner found => ?_, custody.proper⟩
  rcases kept device owner found with same | ⟨hfree, hblank⟩
  · exact custody.devices device owner same
  · refine ⟨fun _ => hblank, fun emulator bound => ?_⟩
    rw [hfree] at bound
    cases bound

/-- One more call acts on the device that it is for. It has to see what it should, and to leave the
data of that device where it belongs. -/
theorem call {call : HookCall δ} (custody : host.Custody calls) (device : Nat)
    (suited : later.Suited) (proper : call.Proper calls) (about : call.device = device)
    (acts : ActsOn device host later)
    (kept : ∀ owner : Device ε δ, later.devices[device]? = some owner →
      owner.Keeps device (calls ++ [call])) :
    later.Custody (calls ++ [call]) := by
  refine ⟨suited, fun other owner found => ?_, fun place listed happened => ?_⟩
  · by_cases same : other = device
    · rw [same] at found ⊢
      exact kept owner found
    · rw [acts.others other same] at found
      obtain ⟨free, bound⟩ := custody.devices other owner found
      have hapart : call.device ≠ other := fun equal => same (equal.symm.trans about)
      exact ⟨free, fun emulator hbound => (bound emulator hbound).append hapart⟩
  · by_cases before : place < calls.length
    · rw [List.getElem?_append_left before] at happened
      rw [List.take_append_of_le_length (Nat.le_of_lt before)]
      exact custody.proper place listed happened
    · have hplace := (List.getElem?_eq_some_iff.1 happened).1
      rw [List.length_append, List.length_singleton] at hplace
      have hlast : place = calls.length := by omega
      rw [hlast, List.getElem?_concat_length] at happened
      rw [hlast, List.take_left, ← Option.some.inj happened]
      exact proper

end Custody

/-- An event keeps data in custody, and the hook that it calls sees what it should. -/
theorem Custody.occur (custody : host.Custody calls) (due : host.Due event) :
    (host.occur event).Custody (calls ++ host.callOf event) := by
  have hsuited := custody.suited.occur due
  cases event with
  | connect emulator device accepted =>
    obtain ⟨hfree, hsuits, -⟩ := due
    obtain ⟨owner, behaviour, found, known, supported⟩ := suits_iff.1 hsuits
    obtain ⟨free, -⟩ := custody.devices device owner found
    rw [binding, found] at hfree
    rw [callOf_connect found known]
    refine custody.call device hsuited ⟨rfl, fun _ => free hfree, fun other => absurd rfl other⟩
      rfl (actsOn_occur host rfl) fun left hleft => ?_
    rw [Host.occur, offer_of_supports found known supported] at hleft
    dsimp only at hleft
    split at hleft
    · -- an emulator that accepts the device leaves its data there
      rename_i accepts
      rw [getElem?_enter found] at hleft
      cases hleft
      refine ⟨(fun unbound => by cases unbound), fun other bound => ?_⟩
      cases bound
      exact Entrusted.connect rfl accepts calls
    · rw [getElem?_release, getElem?_enter found] at hleft
      cases hleft
      exact ⟨fun _ => rfl, fun other bound => by cases bound⟩
  | disconnect emulator device =>
    obtain ⟨owner, behaviour, found, bound, known, hbehaviour⟩ := custody.suited.emulatorOf due
    have hkeeps := custody.devices device owner found
    rw [callOf_disconnect found known]
    refine custody.call device hsuited
      ⟨bound, (fun other => by cases other), fun _ => hkeeps.bound _ bound⟩ rfl
      (actsOn_occur host rfl) fun left hleft => ?_
    rw [Host.occur, unbind_of_emulatorOf found hbehaviour, getElem?_release, getElem?_enter found]
      at hleft
    cases hleft
    exact ⟨fun _ => rfl, fun other bound => by cases bound⟩
  | forget device =>
    rw [callOf, List.append_nil]
    refine custody.silent hsuited fun other left hleft => ?_
    by_cases same : other = device
    · rw [same, Host.occur, getElem?_release] at hleft
      obtain ⟨owner, -, hrelease⟩ := Option.map_eq_some_iff.1 hleft
      rw [← hrelease]
      exact Or.inr ⟨rfl, rfl⟩
    · rw [Host.occur, (actsOn_release host device).others other same] at hleft
      exact Or.inl hleft
  | relist registry listed =>
    rw [callOf, List.append_nil]
    exact custody.silent hsuited fun _ _ same => Or.inl same

/-- A story keeps data in custody, and the hooks that it calls see what they should. -/
theorem Custody.after (custody : host.Custody calls) (story : host.Story events) :
    (host.after events).Custody (calls ++ storyCalls events host) := by
  induction events generalizing host calls with
  | nil =>
    rw [storyCalls, List.append_nil]
    exact custody
  | cons event rest ih =>
    rw [storyCalls, ← List.append_assoc]
    exact ih (custody.occur story.1) story.2

/-- A request keeps data in custody, and the hook that it calls sees what it should. -/
theorem Custody.request (custody : host.Custody calls) (device : Nat) (request : DeviceRequest) :
    (host.request device request).Custody (calls ++ host.requestCalls device request) := by
  cases bound : host.binding device with
  | none =>
    rw [request_of_free bound, requestCalls_of_free bound, List.append_nil]
    exact custody
  | some emulator =>
    obtain ⟨owner, behaviour, found, hbound, known, hbehaviour⟩ := custody.suited.emulatorOf bound
    have hkeeps := custody.devices device owner found
    have hacts := custody.suited.actsOn_request device request
    have hsuited := custody.suited.request device request
    rw [request_of_emulatorOf found hbehaviour] at hacts hsuited ⊢
    rw [requestCalls_of_bound found hbound known]
    refine custody.call device hsuited
      ⟨hbound, (fun other => by cases other), fun _ => hkeeps.bound _ hbound⟩ rfl hacts
      fun left hleft => ?_
    rw [getElem?_enter found] at hleft
    cases hleft
    refine ⟨fun unbound => ?_, fun other hother => ?_⟩
    · rw [hbound] at unbound
      cases unbound
    · rw [hbound] at hother
      cases hother
      exact Entrusted.request rfl (hkeeps.bound _ hbound)

/-- An operation or a request keeps data in custody. -/
theorem Custody.act (custody : host.Custody calls) (operation : HostOperation) :
    (host.act operation).Custody (calls ++ host.callsOf operation) := by
  cases operation with
  | registry operation =>
    obtain ⟨hstory, hafter⟩ := custody.suited.story_trace operation
    rw [Host.act, hafter]
    exact custody.after hstory
  | request device request => exact custody.request device request

/-- A series of operations and requests keeps data in custody. -/
theorem Custody.actEach (custody : host.Custody calls) (operations : List HostOperation) :
    (host.actEach operations).Custody (calls ++ callHistory operations host) := by
  induction operations generalizing host calls with
  | nil =>
    rw [callHistory, List.append_nil]
    exact custody
  | cons operation rest ih =>
    rw [callHistory, ← List.append_assoc]
    exact ih (custody.act operation)

section Record

variable {log : ε → List (HookCall δ)}

/-- An event adds the call that it makes to the record. -/
theorem Records.occur (records : host.Records log) (suited : host.Suited) (due : host.Due event) :
    log (host.occur event).shared = log host.shared ++ host.callOf event := by
  cases event with
  | connect emulator device accepted =>
    obtain ⟨owner, behaviour, found, known, supported⟩ := suits_iff.1 due.2.1
    have hrecord := records emulator behaviour known .connect
      (host.view device (owner.bindTo emulator)) (host.scene (owner.bindTo emulator))
    rw [Host.occur, offer_of_supports found known supported, callOf_connect found known]
    dsimp only
    split <;> exact hrecord
  | disconnect emulator device =>
    obtain ⟨owner, behaviour, found, -, known, hbehaviour⟩ := suited.emulatorOf due
    rw [Host.occur, unbind_of_emulatorOf found hbehaviour, callOf_disconnect found known]
    exact records emulator behaviour known .disconnect (host.view device owner) (host.scene owner)
  | forget device => exact (List.append_nil _).symm
  | relist registry listed => exact (List.append_nil _).symm

/-- A story adds the calls that it makes to the record. -/
theorem Records.after (records : host.Records log) (suited : host.Suited)
    (story : host.Story events) :
    log (host.after events).shared = log host.shared ++ storyCalls events host := by
  induction events generalizing host with
  | nil => exact (List.append_nil _).symm
  | cons event rest ih =>
    obtain ⟨hdue, hrest⟩ := story
    have hrecords := records.of_emulators (sameCast_occur host event).emulators
    rw [after_cons, ih hrecords (suited.occur hdue) hrest, records.occur suited hdue,
      List.append_assoc]
    rfl

/-- A request adds the call that it makes to the record. -/
theorem Records.request (records : host.Records log) (suited : host.Suited) (device : Nat)
    (request : DeviceRequest) : log (host.request device request).shared =
      log host.shared ++ host.requestCalls device request := by
  cases bound : host.binding device with
  | none => rw [request_of_free bound, requestCalls_of_free bound, List.append_nil]
  | some emulator =>
    obtain ⟨owner, behaviour, found, hbound, known, hbehaviour⟩ := suited.emulatorOf bound
    rw [request_of_emulatorOf found hbehaviour, requestCalls_of_bound found hbound known]
    exact records emulator behaviour known (.request request) (host.view device owner)
      (host.scene owner)

/-- An operation or a request adds the calls that it makes to the record. -/
theorem Records.act (records : host.Records log) (suited : host.Suited)
    (operation : HostOperation) :
    log (host.act operation).shared = log host.shared ++ host.callsOf operation := by
  cases operation with
  | registry operation =>
    obtain ⟨hstory, hafter⟩ := suited.story_trace operation
    rw [Host.act, hafter]
    exact records.after suited hstory
  | request device request => exact records.request suited device request

/-- A series of operations and requests adds the calls that it makes to the record. -/
theorem Records.actEach (records : host.Records log) (suited : host.Suited)
    (operations : List HostOperation) :
    log (host.actEach operations).shared = log host.shared ++ callHistory operations host := by
  induction operations generalizing host with
  | nil => exact (List.append_nil _).symm
  | cons operation rest ih =>
    have hrecords := records.of_emulators (suited.sameCast_act operation).emulators
    have heach : host.actEach (operation :: rest) = (host.act operation).actEach rest := rfl
    rw [heach, ih hrecords (suited.act operation), records.act suited operation, List.append_assoc]
    rfl

end Record

/-- From a host on which nothing is registered and no device holds data, in every series of
operations and requests each call of a hook sees what it should, and the data of every device ends
where it belongs: there is none on a device that is not bound. -/
theorem custody_of_fresh (fresh : host.Fresh) (blank : ∀ owner ∈ host.devices, owner.data = none)
    (operations : List HostOperation) :
    (∀ (place : Nat) (call : HookCall δ), (callHistory operations host)[place]? = some call →
        call.Proper ((callHistory operations host).take place)) ∧
      (∀ (device : Nat) (owner : Device ε δ),
        (host.actEach operations).devices[device]? = some owner →
          owner.Keeps device (callHistory operations host)) ∧
      ∀ log : ε → List (HookCall δ), host.Records log →
        log (host.actEach operations).shared = log host.shared ++ callHistory operations host := by
  have hstart := Custody.start fun owner listed => ⟨fresh.devices owner listed, blank owner listed⟩
  have hcustody := hstart.actEach operations
  exact ⟨hcustody.proper, hcustody.devices,
    fun log records => records.actEach hstart.suited operations⟩

/-- Note a call in the record that all emulators share, and count it in the data of the device. -/
def countCall (emulator : Nat) (hook : EmulatorHook) (accepted : Bool)
    (view : DeviceView (List (HookCall Nat))) (scene : Scene (List (HookCall Nat)) Nat) :
    Scene (List (HookCall Nat)) Nat :=
  let left := some (scene.data.getD 0 + 1)
  { scene with
    data := left
    shared := scene.shared ++
      [⟨hook, emulator, view.number, view.emulator, scene.data, left, accepted⟩] }

/-- An emulator that counts all calls of its hooks in the data of the devices, and refuses some
devices. -/
def countingEmulator (emulator : Nat) (name : String) (typeIds : List UInt32) (refused : List Nat) :
    Emulator (List (HookCall Nat)) Nat where
  name := name
  typeIds := typeIds
  hostFeatures view scene := (0, countCall emulator (.request .hostFeatures) true view scene)
  setGuestFeatures view select features scene :=
    (.ok (), countCall emulator (.request (.setGuestFeatures select features)) true view scene)
  initQueue view queue pageSize align page scene :=
    (.ok (), countCall emulator (.request (.initQueue queue pageSize align page)) true view scene)
  queuePage view queue scene := (0, countCall emulator (.request (.queuePage queue)) true view scene)
  queueSize view queue scene := (0, countCall emulator (.request (.queueSize queue)) true view scene)
  setQueueSize view queue size scene :=
    (.ok (), countCall emulator (.request (.setQueueSize queue size)) true view scene)
  notifyQueue view queue scene :=
    (.ok (), countCall emulator (.request (.notifyQueue queue)) true view scene)
  statusChanged view status scene :=
    (.ok (), countCall emulator (.request (.statusChanged status)) true view scene)
  readConfig view offset buffer scene :=
    (.ok buffer, countCall emulator (.request (.readConfig offset buffer)) true view scene)
  writeConfig view offset bytes scene :=
    (.ok (), countCall emulator (.request (.writeConfig offset bytes)) true view scene)
  reset view scene := (.ok (), countCall emulator (.request .reset) true view scene)
  connect view scene :=
    if refused.contains view.number then
      (.error (.emulator "refused"), countCall emulator .connect false view scene)
    else
      (.ok (), countCall emulator .connect true view scene)
  disconnect view scene := ((), countCall emulator .disconnect true view scene)

/-- A counting emulator notes the calls of all its hooks. -/
theorem countingEmulator_run (emulator : Nat) (name : String) (typeIds : List UInt32)
    (refused : List Nat) (hook : EmulatorHook) (view : DeviceView (List (HookCall Nat)))
    (scene : Scene (List (HookCall Nat)) Nat) :
    let behaviour := countingEmulator emulator name typeIds refused
    (behaviour.run view scene hook).2.shared =
      scene.shared ++ [HookCall.note emulator behaviour view scene hook] := by
  intro behaviour
  cases hook with
  | connect =>
    have hconnect : behaviour.connect view scene =
        if refused.contains view.number then
          (.error (.emulator "refused"), countCall emulator .connect false view scene)
        else (.ok (), countCall emulator .connect true view scene) := rfl
    rw [HookCall.note, Emulator.run, hconnect]
    split <;> rfl
  | disconnect => rfl
  | request request => cases request <;> rfl

/-- Two devices, three counting emulators of which the second one refuses the first device, and two
registries. -/
def countingHost : Host (List (HookCall Nat)) Nat where
  devices := [⟨⟨"disk", 2, 0, ⟨"bus", fun _ _ shared => (.ok (), shared)⟩⟩, [], none, none⟩,
    ⟨⟨"net", 1, 0, ⟨"bus", fun _ _ shared => (.ok (), shared)⟩⟩, [], none, none⟩]
  emulators := [countingEmulator 0 "block" [2] [], countingEmulator 1 "any" [1, 2] [0],
    countingEmulator 2 "spare" [2] []]
  registries := [{}, {}]
  shared := []

/-- The disk of the counting host is handed from one registry to the other, where the first emulator
refuses it and the second one accepts it until it goes. Each count starts anew. -/
theorem custody_countingHost :
    let operations : List HostOperation := [.registry (.registerEmulator 0 0),
      .registry (.registerEmulator 1 1), .registry (.registerEmulator 1 2),
      .registry (.registerDevice 0 0), .request 0 (.statusChanged 1), .request 0 .hostFeatures,
      .registry (.registerDevice 1 0), .registry (.registerDevice 1 1), .request 1 .reset,
      .request 0 (.readConfig 0 [7]), .registry (.unregisterEmulator 1 "spare"), .request 0 .reset,
      .registry (.shutdown 1)]
    countingHost.Fresh ∧ (∀ owner ∈ countingHost.devices, owner.data = none) ∧
      countingHost.Records id ∧
      (countingHost.actEach operations).shared = callHistory operations countingHost ∧
      (∀ (place : Nat) (call : HookCall Nat),
        (callHistory operations countingHost)[place]? = some call →
          call.Proper ((callHistory operations countingHost).take place)) ∧
      (callHistory operations countingHost).map
          (fun call => (call.hook, call.emulator, call.device, call.found)) =
        [(.connect, 0, 0, none), (.request (.statusChanged 1), 0, 0, some 1),
          (.request .hostFeatures, 0, 0, some 2), (.connect, 1, 0, none), (.connect, 2, 0, none),
          (.connect, 1, 1, none), (.request .reset, 1, 1, some 1),
          (.request (.readConfig 0 [7]), 2, 0, some 1), (.disconnect, 2, 0, some 2),
          (.connect, 1, 0, none), (.disconnect, 1, 1, some 2)] := by
  intro operations
  have hfree : ∀ owner ∈ countingHost.devices, owner.emulator = none ∧ owner.data = none := by
    intro owner listed
    simp only [countingHost, List.mem_cons, List.not_mem_nil, or_false] at listed
    rcases listed with rfl | rfl <;> exact ⟨rfl, rfl⟩
  have hfresh : countingHost.Fresh := ⟨by decide, fun owner listed => (hfree owner listed).1⟩
  have hrecords : countingHost.Records id := by
    intro emulator behaviour known hook view scene
    match emulator with
    | 0 | 1 | 2 =>
      cases known
      exact countingEmulator_run _ _ _ _ hook view scene
    | _ + 3 => cases known
  obtain ⟨hproper, -, hrecorded⟩ :=
    custody_of_fresh hfresh (fun owner listed => (hfree owner listed).2) operations
  exact ⟨hfresh, fun owner listed => (hfree owner listed).2, hrecords, hrecorded id hrecords, hproper,
    by decide +kernel⟩

end Host

end Paravirt

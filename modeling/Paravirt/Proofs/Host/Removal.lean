import Paravirt.Proofs.Host.Reached

/-!
# What a removal disturbs

Removing an emulator ends its bindings, one device after another, and offers each of these devices to
the emulators that remain until one of them accepts. Removing devices ends their bindings and no more.
Whatever the emulators answer, no hook is called for any other device, every other device stays as it
stands, and what remains listed keeps its order.
-/

namespace Paravirt

variable {ε δ : Type}

/-- A device is offered to emulators in their order: each of them is called to connect it, until one
accepts and is what the device is bound to then. It ends up bound to none if all refuse. -/
inductive OfferedInOrder (device : Nat) : List Nat → List BindingEvent → Option Nat → Prop where
  /-- No emulator is left. -/
  | exhausted : OfferedInOrder device [] [] none
  /-- The next emulator accepts, and no other one is called. -/
  | accepted {emulator : Nat} {rest : List Nat} :
      OfferedInOrder device (emulator :: rest) [.connect emulator device true] (some emulator)
  /-- The next emulator refuses, and the others are called. -/
  | refused {emulator : Nat} {rest : List Nat} {calls : List BindingEvent} {bound : Option Nat}
      (others : OfferedInOrder device rest calls bound) :
      OfferedInOrder device (emulator :: rest) (.connect emulator device false :: calls) bound

/-- Only the emulators in question are called, and only for the device. -/
theorem OfferedInOrder.eq_connect {device : Nat} {emulators : List Nat} {calls : List BindingEvent}
    {bound : Option Nat} (offered : OfferedInOrder device emulators calls bound)
    {call : BindingEvent} (made : call ∈ calls) :
    ∃ emulator ∈ emulators, ∃ accepted, call = .connect emulator device accepted := by
  induction offered with
  | exhausted => cases made
  | @accepted emulator rest =>
    exact ⟨emulator, List.mem_cons_self, true, List.mem_singleton.1 made⟩
  | @refused emulator rest calls bound others ih =>
    rcases List.mem_cons.1 made with rfl | later
    · exact ⟨emulator, List.mem_cons_self, false, rfl⟩
    · obtain ⟨other, member, accepted, hcall⟩ := ih later
      exact ⟨other, List.mem_cons_of_mem emulator member, accepted, hcall⟩

/-- Going through a list and doing something for some of its elements is going through these. -/
theorem flatMap_ite {α β : Type} (test : α → Bool) (turn : α → List β) (items : List α) :
    (items.flatMap fun item => if test item then turn item else []) =
      (items.filter test).flatMap turn := by
  induction items with
  | nil => rfl
  | cons item rest ih =>
    rw [List.flatMap_cons, ih]
    by_cases passes : test item = true
    · rw [if_pos passes, List.filter_cons_of_pos passes, List.flatMap_cons]
    · rw [if_neg passes, List.filter_cons_of_neg passes, List.nil_append]

namespace Host

variable {host later : Host ε δ} {registry device emulator : Nat} {listed new : Registry}
  {events calls : List BindingEvent}

/-- The call that ends the binding of a device, if it is bound. -/
def farewell (host : Host ε δ) (device : Nat) : Option BindingEvent :=
  (host.binding device).map fun emulator => .disconnect emulator device

/-- Ending the binding of a device is that call. -/
theorem unbindTrace_eq (host : Host ε δ) (device : Nat) :
    unbindTrace device host = (host.farewell device).toList := by
  unfold unbindTrace farewell
  cases host.binding device <;> rfl

/-- The emulators among some that implement the type of a device, in order. -/
def suitable (host : Host ε δ) (device : Nat) (emulators : List Nat) : List Nat :=
  emulators.filter fun emulator => host.suits emulator device

/-- The same emulators are suitable as before. -/
theorem SameCast.suitable_eq (same : SameCast host later) (device : Nat) (emulators : List Nat) :
    later.suitable device emulators = host.suitable device emulators := by
  unfold suitable
  simp only [same.suits_eq]

/-- Offering a device that is not bound to emulators calls those that implement its type, in order, up
to the first that accepts. -/
theorem offeredInOrder_offerToTrace (free : host.binding device = none) (emulators : List Nat) :
    OfferedInOrder device (host.suitable device emulators) (offerToTrace device emulators host)
      ((offerTo device emulators host).binding device) := by
  induction emulators generalizing host with
  | nil =>
    rw [offerTo, free]
    exact .exhausted
  | cons emulator rest ih =>
    rw [offerToTrace, offerTo_cons, suitable, List.filter_cons]
    by_cases suited : host.suits emulator device = true
    · rw [if_pos suited, offerTrace, if_pos suited]
      cases answer : (host.offer device emulator).1 with
      | true =>
        rw [if_pos rfl, if_pos rfl, binding_offer suited, answer, if_pos rfl, List.append_nil]
        exact .accepted
      | false =>
        have hrefused : ¬(host.offer device emulator).1 = true := by
          rw [answer]
          exact Bool.false_ne_true
        have hrest := ih (binding_offer_of_refused free hrefused)
        rw [(actsOn_offer host device emulator).toSameCast.suitable_eq] at hrest
        rw [if_neg Bool.false_ne_true, if_neg Bool.false_ne_true, List.singleton_append]
        exact .refused hrest
    · rw [if_neg suited, offerTrace, if_neg suited, offer_of_not_suits suited,
        if_neg Bool.false_ne_true, if_neg Bool.false_ne_true, List.nil_append]
      exact ih free

/-- A removal makes the given calls and no other, and disturbs nothing but the devices that it concerns
and the lists of one registry. -/
structure Confined (host later : Host ε δ) (registry : Nat) (new : Registry)
    (concerns : Nat → Prop) (calls : List BindingEvent) : Prop where
  /-- These are the calls of a story that leads from the one host to the other: each of them is made
  when it is due and answered as noted. -/
  happened : ∃ events, host.Story events ∧ later = host.after events ∧
    events.filter (·.isCall) = calls
  /-- The hooks see exactly these calls: where emulators log the calls to them, the log has grown by
  them. -/
  logged : ∀ log : ε → List BindingEvent, host.Logs log → log later.shared = log host.shared ++ calls
  /-- Each call is made for a device that the removal concerns. -/
  about : ∀ call ∈ calls, ∃ device, concerns device ∧ call.device? = some device
  /-- Every other device stands as before, with its binding, its data and its queues. -/
  others : ∀ device, ¬concerns device → later.devices[device]? = host.devices[device]?
  /-- The registry lists what remains, and the others list what they did. -/
  registries : later.registries = host.registries.set registry new
  /-- Emulators, and what is fixed about the devices, are as before. -/
  cast : SameCast host later

/-- Calls for the devices concerned, with a change of the lists before or after them, are confined to
these devices. -/
theorem Suited.confined (suited : host.Suited) {concerns : Nat → Prop} (story : host.Story events)
    (relists : events = .relist registry new :: calls ∨ events = calls ++ [.relist registry new])
    (about : ∀ call ∈ calls, call.isCall = true ∧
      ∃ device, concerns device ∧ call.device? = some device)
    (registries : (host.after events).registries = host.registries.set registry new) :
    Confined host (host.after events) registry new concerns calls := by
  have hcalls : calls.filter (·.isCall) = calls :=
    List.filter_eq_self.2 fun call made => (about call made).1
  have hmade : events.filter (·.isCall) = calls := by
    rcases relists with rfl | rfl
    · rw [List.filter_cons_of_neg Bool.false_ne_true, hcalls]
    · rw [List.filter_append, hcalls]
      exact List.append_nil calls
  have hevents : ∀ event ∈ events, event = .relist registry new ∨ event ∈ calls := by
    intro event happened
    rcases relists with rfl | rfl
    · exact List.mem_cons.1 happened
    · exact (List.mem_append.1 happened).symm.imp_left List.mem_singleton.1
  refine ⟨⟨events, story, rfl, hmade⟩, fun log logs => ?_, fun call made => (about call made).2,
    fun device spared => ?_, registries, sameCast_after host events⟩
  · rw [logs.after suited story, hmade]
  · refine getElem?_after_of_not_about fun event happened same => ?_
    rcases hevents event happened with rfl | made
    · cases same
    · obtain ⟨-, other, concerned, hother⟩ := about event made
      exact spared (Option.some.inj (same.symm.trans hother) ▸ concerned)

/-- What unregistering an emulator does: `leaving` is removed from between `before` and `behind`, and
`offers` are the calls by which each of its devices is offered again. -/
structure RemovesEmulator (host later : Host ε δ) (registry : Nat) (name : String)
    (listed : Registry) (before : List Nat) (leaving : Nat) (behind : List Nat)
    (offers : Nat → List BindingEvent) : Prop where
  /-- The registry is there. -/
  found : host.registries[registry]? = some listed
  /-- It lists the emulator. -/
  emulators : listed.emulators = before ++ leaving :: behind
  /-- The emulator has the name. -/
  named : host.emulatorNamed name leaving = true
  /-- The emulator is not among those that remain. -/
  gone : leaving ∉ before ++ behind
  /-- No device is listed twice. -/
  distinct : listed.devices.Nodup
  /-- A device that was bound to the emulator is offered to those that remain and implement its type, in
  their order, until one accepts, and is bound to that one then. -/
  offered : ∀ device ∈ listed.devices, host.binding device = some leaving →
    OfferedInOrder device (host.suitable device (before ++ behind)) (offers device)
      (later.binding device)
  /-- Nothing is done but this, for one after another of the listed devices that were bound to the
  emulator: it is called to disconnect the device, once, and then the device is offered. What remains
  listed keeps its order. -/
  confined : Confined host later registry { listed with emulators := before ++ behind }
    (fun device => device ∈ listed.devices ∧ host.binding device = some leaving)
    ((listed.devices.filter fun device => host.binding device == some leaving).flatMap
      fun device => .disconnect leaving device :: offers device)
  /-- The emulator that goes is not offered any of them. -/
  spared : ∀ device ∈ listed.devices, host.binding device = some leaving →
    ∀ other accepted, .connect leaving other accepted ∉ offers device

/-- What unregistering a device does: it is removed from between `before` and `behind`. -/
structure RemovesDevice (host later : Host ε δ) (registry device : Nat) (listed : Registry)
    (before behind : List Nat) : Prop where
  /-- The registry is there. -/
  found : host.registries[registry]? = some listed
  /-- It lists the device. -/
  devices : listed.devices = before ++ device :: behind
  /-- The device is not among those that remain. -/
  gone : device ∉ before ++ behind
  /-- The device is left without a binding. -/
  unbound : later.binding device = none
  /-- Nothing is done but that the emulator of the device, if it is bound, is called to disconnect it.
  What remains listed keeps its order. -/
  confined : Confined host later registry { listed with devices := before ++ behind }
    (fun other => other = device ∧ host.binding device ≠ none) (host.farewell device).toList

/-- What unregistering everything does. -/
structure RemovesAll (host later : Host ε δ) (registry : Nat) (listed : Registry) : Prop where
  /-- No device is listed twice. -/
  distinct : listed.devices.Nodup
  /-- The devices are left without bindings. -/
  unbound : ∀ device ∈ listed.devices, later.binding device = none
  /-- Nothing is done but that, for one after another of the listed devices that are bound, its emulator
  is called to disconnect it. Nothing remains listed. -/
  confined : Confined host later registry {}
    (fun device => device ∈ listed.devices ∧ host.binding device ≠ none)
    (listed.devices.filterMap host.farewell)

/-- A list from which one element was taken keeps the order of the others. -/
theorem erase_of_split {before behind : List Nat} {item : Nat} (distinct : (before ++ item :: behind).Nodup) :
    item ∉ before ++ behind ∧ (before ++ item :: behind).erase item = before ++ behind := by
  have hgone := (List.nodup_cons.1 (List.nodup_middle.1 distinct)).1
  rw [List.erase_append_right _ fun member => hgone (List.mem_append_left _ member),
    List.erase_cons_head]
  exact ⟨hgone, rfl⟩

/-- Only a bound device is bid farewell, by a call for it. -/
theorem call_of_farewell {call : BindingEvent} (bound : host.farewell device = some call) :
    host.binding device ≠ none ∧ call.isCall = true ∧ call.device? = some device := by
  obtain ⟨emulator, hbinding, rfl⟩ := Option.map_eq_some_iff.1 bound
  exact ⟨hbinding ▸ Option.some_ne_none emulator, rfl, rfl⟩

/-- Unregistering a listed device. -/
theorem Orderly.removesDevice (orderly : host.Orderly)
    (found : host.registries[registry]? = some listed) (present : device ∈ listed.devices) :
    ∃ before behind, RemovesDevice host (host.after (host.unregisterDeviceTrace registry device listed))
      registry device listed before behind := by
  obtain ⟨before, behind, hdevices⟩ := List.append_of_mem present
  have hdistinct := (orderly.lists registry listed found).devices
  rw [hdevices] at hdistinct
  obtain ⟨hgone, herase⟩ := erase_of_split hdistinct
  have hlists := registries_unregisterDeviceTrace host registry device listed
  rw [hdevices, herase] at hlists
  refine ⟨before, behind, found, hdevices, hgone,
    orderly.suited.binding_unregisterDeviceTrace registry device listed,
    orderly.suited.confined (story_unregisterDeviceTrace host registry device listed) (Or.inr ?_)
      (fun call made => ?_) hlists⟩
  · rw [unregisterDeviceTrace, unbindTrace_eq, hdevices, herase]
  · obtain ⟨bound, isCall, about⟩ := call_of_farewell (Option.mem_toList.1 made)
    exact ⟨isCall, device, ⟨rfl, bound⟩, about⟩

/-- Unregistering everything. -/
theorem Orderly.removesAll (orderly : host.Orderly)
    (found : host.registries[registry]? = some listed) :
    RemovesAll host (host.after (host.shutdownTrace registry listed)) registry listed := by
  have hdistinct := (orderly.lists registry listed found).devices
  have hsweeps := orderly.suited.sweeps_shutdownTrace registry listed
  obtain ⟨stage, htrace, hstages⟩ := exists_stages_sweepTrace
    (fun device host _ => storyOf_unbindTrace device host) orderly.suited hdistinct
  have hcalls : sweepTrace unbindTrace listed.devices host = listed.devices.filterMap host.farewell := by
    rw [htrace, List.filterMap_eq_flatMap_toList]
    refine List.flatMap_congr fun device member => ?_
    rw [unbindTrace_eq, farewell, farewell, binding_of_getElem? (hstages device member).2.2.1]
  refine ⟨hdistinct, fun device member => ?_,
    orderly.suited.confined hsweeps.story (Or.inr ?_) (fun call made => ?_) hsweeps.registries⟩
  · obtain ⟨middle, hmiddle, -, -, hturned⟩ := hsweeps.listed hdistinct device member
    rw [hturned]
    exact hmiddle.binding_unbindTrace device
  · rw [shutdownTrace, hcalls]
  · obtain ⟨device, member, hfarewell⟩ := List.mem_filterMap.1 made
    obtain ⟨bound, isCall, about⟩ := call_of_farewell hfarewell
    exact ⟨isCall, device, ⟨member, bound⟩, about⟩

/-- A device that is found as it was, by an emulator that goes, is disconnected and offered if it was
bound to that emulator, and otherwise left alone. -/
theorem departureTrace_of_kept {stage : Host ε δ} {leaving : Nat} {remaining : List Nat}
    (kept : stage.devices[device]? = host.devices[device]?) :
    departureTrace leaving remaining device stage =
      if host.binding device == some leaving then
        .disconnect leaving device :: offerToTrace device remaining (stage.unbind device)
      else [] := by
  unfold departureTrace
  rw [binding_of_getElem? kept]
  by_cases bound : host.binding device = some leaving
  · rw [if_pos bound, if_pos (beq_iff_eq.2 bound)]
  · rw [if_neg bound, if_neg (mt beq_iff_eq.1 bound)]

/-- Ending the bindings of one emulator among some devices disconnects and offers, one after another,
those that were bound to it, each as if the others were not there. -/
theorem Suited.exists_offers (suited : host.Suited) {devices : List Nat} (distinct : devices.Nodup)
    (leaving : Nat) (remaining : List Nat) :
    ∃ offers : Nat → List BindingEvent,
      sweepTrace (departureTrace leaving remaining) devices host =
        (devices.filter fun device => host.binding device == some leaving).flatMap
          (fun device => .disconnect leaving device :: offers device) ∧
      ∀ device ∈ devices, host.binding device = some leaving →
        OfferedInOrder device (host.suitable device remaining) (offers device)
          ((host.after (sweepTrace (departureTrace leaving remaining) devices host)).binding device) := by
  -- each device has its turn on a host where it and the emulators stand as they did
  obtain ⟨stage, hturns, hstages⟩ := exists_stages_sweepTrace
    (fun device _ suited => suited.storyOf_departureTrace leaving remaining device) suited distinct
  refine ⟨fun device => offerToTrace device remaining ((stage device).unbind device), ?_,
    fun device member bound => ?_⟩
  · rw [hturns, ← flatMap_ite]
    exact List.flatMap_congr fun device member =>
      departureTrace_of_kept (hstages device member).2.2.1
  · obtain ⟨hsuited, hcast, hkept, hturned⟩ := hstages device member
    have hturn : (stage device).after (departureTrace leaving remaining device (stage device)) =
        offerTo device remaining ((stage device).unbind device) := by
      rw [departureTrace, if_pos ((binding_of_getElem? hkept).trans bound), after_cons]
      exact after_offerToTrace _ _ _
    rw [hturn] at hturned
    rw [binding_of_getElem? hturned,
      ← (hcast.trans (actsOn_unbind (stage device) device).toSameCast).suitable_eq]
    exact offeredInOrder_offerToTrace (hsuited.binding_unbind device) remaining

/-- Unregistering a listed emulator. -/
theorem Orderly.removesEmulator (orderly : host.Orderly) {name : String} {leaving : Nat}
    (found : host.registries[registry]? = some listed)
    (named : listed.emulators.find? (host.emulatorNamed name) = some leaving) :
    ∃ before behind offers, RemovesEmulator host
      (host.after (host.unregisterEmulatorTrace registry leaving listed)) registry name listed before
      leaving behind offers := by
  obtain ⟨hnamed, before, behind, hemulators, -⟩ := List.find?_eq_some_iff_append.1 named
  have hlists := orderly.lists registry listed found
  have hdistinct : (before ++ leaving :: behind).Nodup := hemulators ▸ hlists.names.of_map
  obtain ⟨hgone, herase⟩ := erase_of_split hdistinct
  have hsweeps := orderly.suited.sweeps_unregisterEmulatorTrace registry leaving listed
  have hregistries := hsweeps.registries
  -- first the emulator is taken off the list, and then its devices are gone through
  set relisted := host.setRegistry registry { listed with emulators := before ++ behind }
  have hsuited : relisted.Suited := orderly.suited
  have hcast : SameCast host relisted := sameCast_occur host (.relist _ _)
  have htrace : host.unregisterEmulatorTrace registry leaving listed =
      .relist registry { listed with emulators := before ++ behind } ::
        sweepTrace (departureTrace leaving (before ++ behind)) listed.devices relisted := by
    unfold unregisterEmulatorTrace
    rw [hemulators, herase]
    rfl
  obtain ⟨offers, hcalls, hoffers⟩ :=
    hsuited.exists_offers hlists.devices leaving (before ++ behind)
  rw [hemulators, herase] at hregistries
  rw [htrace] at hsweeps hregistries ⊢
  have hoffered : ∀ device ∈ listed.devices, host.binding device = some leaving →
      OfferedInOrder device (host.suitable device (before ++ behind)) (offers device) _ :=
    fun device member bound => hcast.suitable_eq device _ ▸ hoffers device member bound
  refine ⟨before, behind, offers, found, hemulators, hnamed, hgone, hlists.devices, hoffered,
    orderly.suited.confined hsweeps.story (Or.inl ?_) (fun call made => ?_) hregistries,
    fun device member bound other accepted offered => ?_⟩
  · exact congrArg _ hcalls
  · obtain ⟨device, hfiltered, hmade⟩ := List.mem_flatMap.1 made
    obtain ⟨member, hbeq⟩ := List.mem_filter.1 hfiltered
    have hbound : host.binding device = some leaving := beq_iff_eq.1 hbeq
    rcases List.mem_cons.1 hmade with rfl | offer
    · exact ⟨rfl, device, ⟨member, hbound⟩, rfl⟩
    · obtain ⟨emulator, -, accepted, rfl⟩ := (hoffered device member hbound).eq_connect offer
      exact ⟨rfl, device, ⟨member, hbound⟩, rfl⟩
  · obtain ⟨emulator, suitable, accepted', hsame⟩ := (hoffered device member bound).eq_connect offered
    cases hsame
    exact hgone (List.mem_of_mem_filter suitable)

/-- Removals disturb only what they remove. -/
structure RemovesCleanly (host : Host ε δ) : Prop where
  /-- Unregistering an emulator, when it succeeds. -/
  emulator : ∀ (registry : Nat) (name : String),
    (host.unregisterEmulator registry name).1 = .ok () →
      ∃ listed leaving before behind offers, RemovesEmulator host
        (host.unregisterEmulator registry name).2 registry name listed before leaving behind offers
  /-- Unregistering a device, when it succeeds. -/
  device : ∀ registry device : Nat, (host.unregisterDevice registry device).1 = .ok () →
    ∃ listed before behind, RemovesDevice host (host.unregisterDevice registry device).2 registry
      device listed before behind
  /-- Unregistering everything that a registry lists. -/
  everything : ∀ (registry : Nat) (listed : Registry), host.registries[registry]? = some listed →
    RemovesAll host (host.shutdown registry) registry listed

/-- An operation that succeeds is its events. -/
theorem performs_of_ok (operation : RegistryOperation)
    (succeeds : (host.perform operation).1 = .ok ()) :
    ∃ events, host.Performs operation events ∧ (host.perform operation).2 = host.after events := by
  rcases host.perform_cases operation with ⟨error, failed, -⟩ | ⟨succeeded, performs⟩
  · rw [failed] at succeeds
    cases succeeds
  · exact ⟨_, performs, congrArg Prod.snd succeeded⟩

/-- In every state that a host can reach, removals disturb only what they remove. -/
theorem removesCleanly_of_reached (reached : host.Reached) : host.RemovesCleanly := by
  have horderly := reached.orderly
  refine ⟨fun registry name succeeds => ?_, fun registry device succeeds => ?_,
    fun registry listed found => ?_⟩
  · obtain ⟨events, performs, hlater⟩ := performs_of_ok (.unregisterEmulator registry name) succeeds
    change (host.unregisterEmulator registry name).2 = host.after events at hlater
    rw [hlater]
    cases performs with
    | unregisterEmulator found named => exact ⟨_, _, horderly.removesEmulator found named⟩
  · obtain ⟨events, performs, hlater⟩ := performs_of_ok (.unregisterDevice registry device) succeeds
    change (host.unregisterDevice registry device).2 = host.after events at hlater
    rw [hlater]
    cases performs with
    | unregisterDevice found present => exact ⟨_, horderly.removesDevice found present⟩
  · have hlater : host.shutdown registry = host.after (host.shutdownTrace registry listed) := by
      rw [shutdownTrace, after_append, after_unbindSweep, shutdown, found]
      rfl
    rw [hlater]
    exact horderly.removesAll found

/-- Three devices of two types, and three emulators of which the second one refuses the first device
that it is offered. -/
def rosterHost : Host Journal EmulatorData where
  devices := [⟨⟨"disk", 2, 0, .recording "bus" none⟩, [], none, none⟩,
    ⟨⟨"net", 1, 0, .recording "bus" none⟩, [], none, none⟩,
    ⟨⟨"tape", 2, 0, .recording "bus" none⟩, [], none, none⟩]
  emulators := [(⟨"block", [2], 0, [], [], 0⟩ : Script).emulator,
    (⟨"busy", [2], 0, [], [], 1⟩ : Script).emulator,
    (⟨"any", [1, 2], 0, [], [], 2⟩ : Script).emulator]
  registries := [{}]
  shared := { refusals := [0, 1, 0] }

/-- When the first emulator of the roster goes, the next one refuses the one of its devices and accepts
the other; the device of the other type is left alone. -/
theorem removesCleanly_rosterHost :
    let host := rosterHost.actEach [.registry (.registerEmulator 0 0),
      .registry (.registerEmulator 0 1), .registry (.registerEmulator 0 2),
      .registry (.registerDevice 0 0), .registry (.registerDevice 0 1),
      .registry (.registerDevice 0 2), .request 0 (.statusChanged 4)]
    host.Reached ∧ host.RemovesCleanly ∧ (host.unregisterEmulator 0 "block").1 = .ok () ∧
      (host.trace (.unregisterEmulator 0 "block")).filter (·.isCall) =
        [.disconnect 0 0, .connect 1 0 false, .connect 2 0 true, .disconnect 0 2,
          .connect 1 2 true] := by
  intro host
  have hfresh : rosterHost.Fresh := ⟨by decide, by
    intro device listed
    simp only [rosterHost, List.mem_cons, List.not_mem_nil, or_false] at listed
    rcases listed with rfl | rfl | rfl <;> rfl⟩
  have hreached : host.Reached := (Reached.fresh hfresh).actEach _
  exact ⟨hreached, removesCleanly_of_reached hreached, by rfl, by decide +kernel⟩

end Host

end Paravirt

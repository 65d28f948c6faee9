import Paravirt.Emulator.Basic
import Paravirt.Emulator.Data
import Paravirt.Identifiers
import Paravirt.Queue.Chain
import Paravirt.Queue.Guests
import Paravirt.Segment.Transfer

/-!
# The echo emulator

The echo emulator answers every chain by writing what it read from the chain's readable segments
back into its writable ones. The driver first chooses a queue size and places a ring; a kick on the
queue then drains all pending chains and notifies the guest once, if its driver wants to be told. A
failure in the middle of draining counts no chain and notifies nobody.
-/

namespace Paravirt

variable {ε : Type}

namespace DeviceError

/-- The echo emulator has no state with the device. -/
def echoStateMissing : DeviceError := .invalidArgument "echo state missing"

/-- The driver accepts a feature that was not offered. -/
def featureNotOffered : DeviceError := .invalidArgument "feature not offered"

end DeviceError

namespace Echo

/-- The number of descriptors that a queue may have. -/
def queueSize : UInt32 := 16

/-- The most chains that are drained by one kick. -/
def maxDrain : Nat := UInt32.size

/-- The state kept with the device. -/
def state? (scene : Scene ε EmulatorData) : Option EchoState := scene.data.bind (·.echo?)

/-- Change the state kept with the device, if it is there. -/
def updateState (scene : Scene ε EmulatorData) (change : EchoState → EchoState) :
    Scene ε EmulatorData :=
  match state? scene with
  | none => scene
  | some state => { scene with data := some (.echo (change state)) }

/-- Change the state kept with the device, or fail when it is not there. -/
def requireState (change : EchoState → EchoState) : Hook ε EmulatorData Unit := fun scene =>
  match state? scene with
  | none => (.error .echoStateMissing, scene)
  | some _ => (.ok (), updateState scene change)

/-- How many bytes of a chain fit the buffer that is made for it: as many as the chain has, or no
more than a longest buffer, if there is one. -/
def bufferLength (longest : Option Nat) (chain : Chain) : Nat :=
  match longest with
  | none => chain.totalLength.toNat
  | some most => min chain.totalLength.toNat most

/-- Copy the readable segments of a chain into its writable ones; the used element to be published,
and the space after. -/
def answer (longest : Option Nat) (chain : Chain) (space : AddressSpace) :
    UsedElement × AddressSpace :=
  let (readable, writable) := Segment.splitByDirection chain.segments
  let bytes := space.gather readable (bufferLength longest chain)
  let (written, space) := space.scatter writable bytes
  (⟨chain.head.toUInt32, UInt32.ofNat written⟩, space)

/-- Answer pending chains until there are none, at most `fuel` of them; how many were answered. The
buffers lie in the memory of the device's own guest, whichever guest holds the ring. -/
def drain (guest : Nat) (longest : Option Nat) : (fuel : Nat) → Queue → Guests →
    (answered : Nat) → Except DeviceError Nat × Queue × Guests
  | 0, queue, guests, _ => (.error .resourceExhausted, queue, guests)
  | fuel + 1, queue, guests, answered =>
    match queue.runOn guests Queue.popChain with
    | (.error error, queue, guests) => (.error error, queue, guests)
    | (.ok none, queue, guests) => (.ok answered, queue, guests)
    | (.ok (some chain), queue, guests) =>
      let (element, space) := answer longest chain (guests.space guest)
      let guests := guests.setSpace guest space
      match queue.publishIn guests element with
      | (.error error, guests) => (.error error, queue, guests)
      | (.ok (), guests) => drain guest longest fuel queue guests (answered + 1)

/-- Accept features: the first word of those offered, and of the others nothing is kept. -/
def setGuestFeatures (offered : UInt64) (select features : UInt32) : Hook ε EmulatorData Unit :=
  fun scene =>
    if select != 0 then
      (.ok (), scene)
    else if features.toUInt64 &&& ~~~offered != 0 then
      (.error .featureNotOffered, scene)
    else
      requireState (fun state => { state with guestFeatures := features }) scene

/-- Set a queue up on a page of the device's guest; page 0 takes its ring away. -/
def initQueue (view : DeviceView ε) (index pageSize align page : UInt32) :
    Hook ε EmulatorData Unit := fun scene =>
  match state? scene, scene.queues[index.toNat]? with
  | none, _ => (.error .echoStateMissing, scene)
  | some _, none => (.error .queueOutOfRange, scene)
  | some state, some queue =>
    let (outcome, queue) :=
      if page = 0 then (.ok (), queue.cleanup)
      else queue.setupIn scene.guests view.profile.guest page.toUInt64 pageSize.toUInt64
        state.queueSize align.toUInt64
    (outcome, { scene with queues := scene.queues.set index.toNat queue })

/-- Drain a queue, count the chains, and notify the guest. -/
def notifyQueue (longest : Option Nat) (view : DeviceView ε) (index : UInt32) :
    Hook ε EmulatorData Unit := fun scene =>
  match scene.queues[index.toNat]? with
  | none => (.error .queueOutOfRange, scene)
  | some queue =>
    let (outcome, queue, guests) := drain view.profile.guest longest maxDrain queue scene.guests 0
    let scene := { scene with guests, queues := scene.queues.set index.toNat queue }
    match outcome with
    | .error error => (.error error, scene)
    | .ok answered =>
      let scene := updateState scene fun state => { state with echoed := state.echoed + answered }
      let (outcome, scene) := view.signalIfNeeded index scene
      (outcome.map fun _ => (), scene)

/-- Whether a status says that the driver is ready and has not given up. -/
def isReady (status : UInt32) : Bool :=
  status &&& DeviceStatus.driverOk != 0 && status &&& DeviceStatus.failed == 0

/-- The echo emulator that goes by the given name and offers the given features. It makes its
buffers as long as the chains are, or no longer than `longest`, which is 64 KiB unless something else
is asked for. -/
def emulator (name : String) (typeIds : List UInt32) (features : UInt64)
    (longest : Option Nat := some 65536) : Emulator ε EmulatorData where
  name := name
  typeIds := typeIds
  hostFeatures _ scene := (features, scene)
  setGuestFeatures _ := setGuestFeatures features
  initQueue := initQueue
  queuePage _ index scene :=
    (((scene.queues[index.toNat]?).map (·.pageNumber.toUInt32)).getD 0, scene)
  queueSize _ _ scene := (queueSize, scene)
  setQueueSize _ _ size := requireState fun state => { state with queueSize := size }
  notifyQueue := notifyQueue longest
  statusChanged _ status scene :=
    (.ok (), updateState scene fun state => { state with driverOk := isReady status })
  reset _ scene :=
    (.ok (), { scene with queues := scene.queues.map (·.cleanup), data := some (.echo {}) })
  connect _ scene := (.ok (), { scene with data := some (.echo {}) })

end Echo

end Paravirt

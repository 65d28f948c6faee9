import Paravirt.Emulator.Scripted
import Paravirt.Proofs.Host.HookCall
import Paravirt.Proofs.Queue.Lifecycle

/-!
# A signal counts as sent before it is delivered

Whether the driver is to be told is decided by the queue, which then takes it that the driver is
told. Only after that the transport is asked to notify the guest, and its failure is passed on to the
caller. Nobody takes the record back: until the device publishes something new, the question whether
the driver is to be told is answered in the negative and the transport is not asked again.
-/

namespace Paravirt

namespace ActiveRing

variable {ring : ActiveRing} {space : AddressSpace} {used : UInt16}

end ActiveRing

namespace Queue

variable {queue : Queue} {ring : ActiveRing} {guests : Guests} {used : UInt16}

/-- The used index about which the driver is to be told now, if there is one. -/
def due (queue : Queue) (guests : Guests) : Option UInt16 :=
  queue.ring.bind fun ring => ring.dueSignal (guests.space ring.guest)

end Queue

variable {ε δ : Type} {queue : Queue} {used : UInt16} {index : UInt32}

section Scene

variable {view : DeviceView ε} {scene : Scene ε δ}

end Scene

namespace Host

variable {host : Host ε δ} {number : Nat} {device : Device ε δ}

section Enter

variable {α : Type} {hook : DeviceView ε → Reply ε δ α} {answer : α}

end Enter

section Signal

variable (listed : host.devices[number]? = some device)

include listed

end Signal

end Host

end Paravirt

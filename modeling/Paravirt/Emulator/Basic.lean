import Paravirt.Device.Hook

/-!
# Emulators

An emulator implements one or more device types. It is a record of hooks, each with a default that
does nothing, so that an emulator states only what its device types need. `connect` is called once a
device has been bound to it and may refuse the device; `disconnect` is called before the binding is
undone.
-/

namespace Paravirt

variable {ε δ : Type}

/-- The behaviour of one or more device types. -/
structure Emulator (ε δ : Type) where
  /-- The name of the emulator, unique within a registry. -/
  name : String
  /-- The device types that it implements. A 0 ends the list. -/
  typeIds : List UInt32
  /-- The features that the device offers. -/
  hostFeatures : DeviceView ε → Reply ε δ UInt64 := fun _ scene => (0, scene)
  /-- The driver accepts features; `select` says which word of them. -/
  setGuestFeatures : DeviceView ε → (select features : UInt32) → Hook ε δ Unit :=
    fun _ _ _ scene => (.ok (), scene)
  /-- The driver has placed the ring of a queue on a page. -/
  initQueue : DeviceView ε → (queue pageSize align page : UInt32) → Hook ε δ Unit :=
    fun _ _ _ _ _ scene => (.ok (), scene)
  /-- The page on which the ring of a queue starts. -/
  queuePage : DeviceView ε → (queue : UInt32) → Reply ε δ UInt32 := fun _ _ scene => (0, scene)
  /-- The most descriptors that a queue may have. -/
  queueSize : DeviceView ε → (queue : UInt32) → Reply ε δ UInt32 := fun _ _ scene => (0, scene)
  /-- The driver chooses the number of descriptors of a queue. -/
  setQueueSize : DeviceView ε → (queue size : UInt32) → Hook ε δ Unit :=
    fun _ _ _ scene => (.ok (), scene)
  /-- The driver has published heads on a queue. -/
  notifyQueue : DeviceView ε → (queue : UInt32) → Hook ε δ Unit :=
    fun _ _ scene => (.ok (), scene)
  /-- The driver has changed the status of the device. -/
  statusChanged : DeviceView ε → (status : UInt32) → Hook ε δ Unit :=
    fun _ _ scene => (.ok (), scene)
  /-- The driver reads the configuration of the device into a buffer, which is the answer. -/
  readConfig : DeviceView ε → (offset : UInt64) → (buffer : List UInt8) → Hook ε δ (List UInt8) :=
    fun _ _ buffer scene => (.ok buffer, scene)
  /-- The driver writes the configuration of the device. -/
  writeConfig : DeviceView ε → (offset : UInt64) → (bytes : List UInt8) → Hook ε δ Unit :=
    fun _ _ _ scene => (.ok (), scene)
  /-- The driver resets the device. -/
  reset : DeviceView ε → Hook ε δ Unit := fun _ scene => (.ok (), scene)
  /-- A device has been bound to the emulator. A failure undoes the binding. -/
  connect : DeviceView ε → Hook ε δ Unit := fun _ scene => (.ok (), scene)
  /-- The binding of a device is about to be undone. -/
  disconnect : DeviceView ε → Reply ε δ Unit := fun _ scene => ((), scene)

/-- Whether a list of device types, read up to its first 0, has the given type. -/
def supportsType (typeIds : List UInt32) (typeId : UInt32) : Bool :=
  (typeIds.takeWhile (· != 0)).contains typeId

/-- Whether the emulator implements the type of a device. -/
def Emulator.supports (emulator : Emulator ε δ) (profile : DeviceProfile ε) : Bool :=
  supportsType emulator.typeIds profile.typeId

end Paravirt

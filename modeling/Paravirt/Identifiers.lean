/-!
# Well-known numbers

Device types, status bits and feature bits that drivers, transports and emulators agree upon.
-/

namespace Paravirt

namespace DeviceType

/-- Network card. -/
def network : UInt32 := 1

/-- Block device. -/
def block : UInt32 := 2

/-- Console. -/
def console : UInt32 := 3

/-- Source of randomness. -/
def entropy : UInt32 := 4

/-- Memory balloon. -/
def balloon : UInt32 := 5

/-- SCSI host. -/
def scsi : UInt32 := 8

/-- 9P transport. -/
def ninep : UInt32 := 9

/-- Input device. -/
def input : UInt32 := 18

end DeviceType

namespace DeviceStatus

/-- The guest has noticed the device. -/
def acknowledge : UInt32 := 1

/-- The guest knows how to drive the device. -/
def driver : UInt32 := 2

/-- The driver is ready. -/
def driverOk : UInt32 := 4

/-- The driver has finished choosing features. -/
def featuresOk : UInt32 := 8

/-- The guest has given up on the device. -/
def failed : UInt32 := 128

end DeviceStatus

namespace RingFeature

/-- Number of the feature bit for descriptors that hold descriptors. -/
def indirectDescriptors : UInt32 := 28

/-- Number of the feature bit for event slots. -/
def eventIndex : UInt32 := 29

end RingFeature

end Paravirt

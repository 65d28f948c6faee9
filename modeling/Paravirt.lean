import Paravirt.Emulator.Echo
import Paravirt.Emulator.Scripted
import Paravirt.Host.Device
import Paravirt.Host.Registry
import Paravirt.Memory.View
import Paravirt.Ring.Driver
import Paravirt.Proofs.Queue.Containment
import Paravirt.Proofs.Queue.Whole
import Paravirt.Proofs.Queue.Signal
import Paravirt.Proofs.Memory.Frame
import Paravirt.Proofs.Ring.Halves
import Paravirt.Proofs.Ring.Slots
import Paravirt.Proofs.Queue.Arrival
import Paravirt.Proofs.Memory.Span
import Paravirt.Proofs.Queue.Draining
import Paravirt.Proofs.Queue.Completion
import Paravirt.Proofs.Queue.Path
import Paravirt.Proofs.Segment.Transfer
import Paravirt.Proofs.Queue.Request
import Paravirt.Proofs.Emulator.Exchange
import Paravirt.Proofs.Memory.Declaration
import Paravirt.Proofs.Memory.History
import Paravirt.Proofs.Host.Binding
import Paravirt.Proofs.Host.Story
import Paravirt.Proofs.Host.Operation
import Paravirt.Proofs.Host.Effect
import Paravirt.Proofs.Host.Safety
import Paravirt.Proofs.Host.Assignment
import Paravirt.Proofs.Host.Handover
import Paravirt.Proofs.Host.HookCall
import Paravirt.Proofs.Host.Custody
import Paravirt.Proofs.Queue.Trail
import Paravirt.Proofs.Queue.Walk
import Paravirt.Proofs.Queue.Cycles
import Paravirt.Proofs.Memory.Contents
import Paravirt.Proofs.Queue.Publication
import Paravirt.Proofs.Queue.Indirect
import Paravirt.Proofs.Host.Delivery
import Paravirt.Proofs.Host.Reached
import Paravirt.Proofs.Host.Removal
import Paravirt.Proofs.Memory.Validity
import Paravirt.Proofs.Memory.Resolution
import Paravirt.Proofs.Memory.Rearrangement
import Paravirt.Proofs.Memory.Bytewise
import Paravirt.Proofs.Segment.Extent
import Paravirt.Proofs.Queue.Acceptance
import Paravirt.Proofs.Queue.Consumption
import Paravirt.Proofs.Segment.Prefix
import Paravirt.Proofs.Segment.RoundTrip
import Paravirt.Proofs.Segment.Clearing
import Paravirt.Proofs.Segment.Zeros
import Paravirt.Proofs.Ring.Partition
import Paravirt.Proofs.Queue.Cursors
import Paravirt.Proofs.Queue.Table

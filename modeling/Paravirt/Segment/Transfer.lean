import Paravirt.Memory.AddressSpace
import Paravirt.Segment.Basic

/-!
# Transfers over segments

A device moves bytes between a buffer of its own and a list of segments, in the order of the list.
Every transfer stops at the first segment that the address space does not serve in full, and counts
the bytes moved until then, those of that segment included.
-/

namespace Paravirt

namespace AddressSpace

/-- The bytes read from segments, one after another, until `room` bytes are there. -/
def gather (space : AddressSpace) : List Segment → (room : Nat) → List UInt8
  | [], _ => []
  | segment :: rest, room =>
    if room = 0 then
      []
    else
      let wanted := min room segment.length.toNat
      let bytes := space.read segment.address wanted
      if bytes.length = wanted then bytes ++ space.gather rest (room - wanted) else bytes

/-- Read segments into a buffer: the count of bytes transferred, and the buffer with those bytes at
its start and the rest as it was. -/
def gatherInto (space : AddressSpace) (segments : List Segment) (buffer : List UInt8) :
    Nat × List UInt8 :=
  let bytes := space.gather segments buffer.length
  (bytes.length, bytes ++ buffer.drop bytes.length)

/-- Store bytes in segments, one after another; the count of bytes stored, and the space after. -/
def scatter (space : AddressSpace) : List Segment → List UInt8 → Nat × AddressSpace
  | [], _ => (0, space)
  | segment :: rest, bytes =>
    if bytes.isEmpty then
      (0, space)
    else
      let part := bytes.take segment.length.toNat
      let (count, space) := space.write segment.address part
      if count = part.length then
        let (further, space) := space.scatter rest (bytes.drop segment.length.toNat)
        (count + further, space)
      else
        (count, space)

/-- How many zero bytes one write stores when segments are cleared. -/
def zeroChunk : Nat := 16

/-- Clear a segment from an offset on, at most `chunks` writes long; the offset that was reached,
and the space after. -/
def zeroFrom (segment : Segment) :
    (chunks : Nat) → (offset : Nat) → AddressSpace → Nat × AddressSpace
  | 0, offset, space => (offset, space)
  | chunks + 1, offset, space =>
    let wanted := min (segment.length.toNat - offset) zeroChunk
    let (count, space) :=
      space.write (segment.address + UInt64.ofNat offset) (List.replicate wanted 0)
    if count = wanted then zeroFrom segment chunks (offset + wanted) space
    else (offset + count, space)

/-- Clear one segment; the count of bytes cleared, and the space after. -/
def zeroSegment (space : AddressSpace) (segment : Segment) : Nat × AddressSpace :=
  zeroFrom segment ((segment.length.toNat + (zeroChunk - 1)) / zeroChunk) 0 space

/-- Clear segments, one after another; the count of bytes cleared, and the space after. -/
def zeroFill (space : AddressSpace) : List Segment → Nat × AddressSpace
  | [] => (0, space)
  | segment :: rest =>
    let (count, space) := space.zeroSegment segment
    if count = segment.length.toNat then
      let (further, space) := space.zeroFill rest
      (count + further, space)
    else
      (count, space)

end AddressSpace

end Paravirt

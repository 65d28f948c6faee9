import Paravirt.Queue.Basic

/-!
# Setting up a queue

The driver names the page on which it has placed a ring. The queue takes the ring only if its size
and alignment are allowed and all of it lies in one memory region of the guest. A queue that is set
up anew forgets its earlier ring first, so a refusal leaves it without one.
-/

namespace Paravirt

/-- What is recorded of a ring of the given size on the given page, which starts at the given
addresses of guest and host. -/
def RingGeometry.placedAt (address hostAddress pageNumber pageSize : UInt64) (count : UInt32)
    (align : UInt64) : RingGeometry where
  count := count
  align := align
  pageNumber := pageNumber
  pageSize := pageSize
  address := address
  hostAddress := hostAddress
  totalSize := ringSize count align
  addresses := (RingLayout.ofAlign count align).addressesAt address

/-- Find the ring of the given size on the given page, or say why it cannot be used. -/
def RingGeometry.locate (space : AddressSpace) (pageNumber pageSize : UInt64) (count : UInt32)
    (align : UInt64) : Except DeviceError RingGeometry :=
  if count = 0 || RingLayout.maxCount < count then
    .error .queueSizeOutOfRange
  else if !Word.isPowerOfTwo align then
    .error .alignmentNotPowerOfTwo
  else
    let size := ringSize count align
    match Word.mul? pageNumber pageSize with
    | none => .error .queueAddressOverflow
    | some address =>
      if (Word.add? address size).isNone then
        .error .queueAddressOverflow
      else
        match space.map address size with
        | .error _ => .error (.ringUnmapped address size)
        | .ok mapped =>
          if !mapped.isRam then
            .error (.ringNotRam address size)
          else if mapped.availableSize < size then
            .error (.ringTooLarge address size)
          else
            .ok (.placedAt address mapped.hostAddress pageNumber pageSize count align)

/-- Set the queue up on the ring of the given size on the given page of a guest. -/
def Queue.setup (queue : Queue) (guest : Nat) (space : AddressSpace) (pageNumber pageSize : UInt64)
    (count : UInt32) (align : UInt64) : Except DeviceError Unit × Queue :=
  match RingGeometry.locate space pageNumber pageSize count align with
  | .error error => (.error error, queue.cleanup)
  | .ok geometry => (.ok (), { queue.cleanup with guest := some guest, geometry })

end Paravirt

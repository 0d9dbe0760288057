import Rtos.Ring

/-!
# Character devices

A device that carries bytes both ways, with one ring buffer for each direction. Tasks read what the
interrupt side has received and write what it will transmit.
-/

namespace Rtos

/-- A device is named by its slot in the device registry. -/
abbrev DeviceId := Nat

/-- A byte-stream device whose buffers hold `capacity` bytes each. -/
structure CharDevice (capacity : Nat) where
  /-- The name under which the device reports. -/
  id : DeviceId
  /-- Bytes received and not read yet. -/
  rx : Ring capacity
  /-- Bytes written and not transmitted yet. -/
  tx : Ring capacity
deriving DecidableEq, Repr

namespace CharDevice

variable {capacity : Nat}

/-- A device with empty buffers. -/
def new (id : DeviceId) : CharDevice capacity :=
  ⟨id, .empty, .empty⟩

/-- The task side takes received bytes into `dest`. -/
def read (d : CharDevice capacity) (dest : List UInt8) :
    Nat × List UInt8 × CharDevice capacity :=
  let (count, dest', rx) := d.rx.read dest
  (count, dest', { d with rx })

/-- The task side stores bytes to be sent. -/
def write (d : CharDevice capacity) (data : List UInt8) : Nat × CharDevice capacity :=
  let (count, tx) := d.tx.write data
  (count, { d with tx })

/-- The interrupt side stores received bytes. -/
def receive (d : CharDevice capacity) (data : List UInt8) : Nat × CharDevice capacity :=
  let (count, rx) := d.rx.write data
  (count, { d with rx })

/-- The interrupt side takes bytes to send into `dest`. -/
def transmit (d : CharDevice capacity) (dest : List UInt8) :
    Nat × List UInt8 × CharDevice capacity :=
  let (count, dest', tx) := d.tx.read dest
  (count, dest', { d with tx })

/-- The number of bytes that wait to be read. -/
def readable (d : CharDevice capacity) : Nat :=
  d.rx.length

/-- The number of bytes that can still be written. -/
def writable (d : CharDevice capacity) : Nat :=
  d.tx.free

end CharDevice

end Rtos

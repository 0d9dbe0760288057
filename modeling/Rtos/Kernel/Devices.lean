import Rtos.CharDevice
import Rtos.Kernel

/-!
# Devices of the kernel

Devices are registered, report changes of state, and are waited for. A report never waits: when no
entity or queue place is left it is refused, and what it would have told is still in the device.
-/

namespace Rtos.Kernel

variable {π : Type}

/-- The entity of a registered device. -/
def deviceEntity? (k : Kernel π) (device : DeviceId) : Option EntityId :=
  (k.devices[device]?).join

/-- The first free slot of the registry. -/
def freeDeviceSlot? (k : Kernel π) : Option (Fin maxDevices) :=
  k.devices.findFinIdx? (·.isNone)

variable [Port π]

/-- Registers a device under the root. -/
def registerDevice (k : Kernel π) : Checked (Except Error DeviceId × Kernel π) := do
  let some slot := k.freeDeviceSlot? | return (.error .outOfMemory, k)
  match ← k.createEntity (some .root) (.device slot) .nothing with
  | (.error e, k) => return (.error e, k)
  | (.ok entity, k) =>
    let devices := k.devices.set slot (some entity)
    return (.ok slot, { k with devices }.note (.deviceRegistered slot))

/-- Takes a device out of the registry. Its entity lives on while events about it are in flight. -/
def unregisterDevice (k : Kernel π) (device : DeviceId) :
    Checked (Except Error Unit × Kernel π) := do
  let some entity := k.deviceEntity? device | return (.error .badDevice, k)
  let k := { k with devices := k.devices.setIfInBounds device none }
  return (.ok (), ← k.release entity)

/-- Reports a change of a device's state. -/
def reportDevice (k : Kernel π) (device : DeviceId) (flags : DeviceFlags) :
    Checked (Except Error Unit × Kernel π) := do
  let some entity := k.deviceEntity? device | return (.error .badDevice, k)
  k.announce (some entity) (.device device flags)

/-- Reports a change of a device's state and runs a pass, so that a task it wakes need not wait for
the next tick. -/
def signalDevice (k : Kernel π) (device : DeviceId) (flags : DeviceFlags) :
    Checked (Except Error Unit × Kernel π) := do
  match ← k.reportDevice device flags with
  | (.error e, k) => return (.error e, k)
  | (.ok (), k) => return (.ok (), ← k.schedule)

/-- Reports a change of a file on behalf of the current task. -/
def reportFile (k : Kernel π) (handle : Nat) (flags : DeviceFlags) :
    Checked (Except Error Unit × Kernel π) := do
  let some entity := (← k.sched.currentTask).entity | return (.error .noSuchTask, k)
  k.announce (some entity) (.file handle flags)

/-- Parks the current task until a device reports in one of the given directions, or an error; when
no listener can be registered, the task yields and polls. -/
def waitDevice (k : Kernel π) (device : DeviceId) (direction : DeviceFlags) :
    Checked (Except Error (Progress Unit) × Kernel π) := do
  let pid := k.current
  if (k.deviceEntity? device).isNone then
    return (.error .badDevice, k)
  else if 0 < k.sched.sectionDepth then
    return (.error .atomicContext, k.note (.refusedInSection pid .deviceWait))
  else
    let (registered, bus) ← k.bus.subscribe .device .deviceReady pid
    let k := { k with bus }
    match registered with
    | .ok _ =>
      let sched ← k.sched.modify pid fun t => { t with deviceWait := some ⟨device, direction⟩ }
      let sched ← sched.parkCurrent .awaitingDevice
      return (.ok .parked, ← { k with sched }.schedule)
    | .error _ =>
      return (.ok .polling, ← (k.note (.pollingDevice pid device)).schedule)

end Rtos.Kernel

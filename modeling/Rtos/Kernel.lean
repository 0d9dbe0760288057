import Rtos.EventBus
import Rtos.Scheduler

/-!
# The kernel

The scheduler, the entities, the event bus and the device registry together, and the pass that joins
them: queued events are delivered, which may wake tasks, then the next task is chosen and switched
to.

No operation waits. One that cannot finish moves the current task out of the running state, runs a
pass, and answers that its caller has to go on waiting. An operation that is refused answers with an
`Error`; a broken promise is a `Fault`.
-/

namespace Rtos

/-- What runs when an entity of the kernel is destroyed. -/
inductive Cleanup
  /-- The task's stack and slot are given back. -/
  | releaseTask
  /-- Nothing: devices and events own nothing else. -/
  | nothing
deriving DecidableEq, Repr

/-- What a listener on the kernel's bus does. -/
inductive KernelListener
  /-- Wakes a parent that waits for a child. -/
  | childExit
  /-- Wakes a task that waits for a device. -/
  | deviceReady
  /-- Writes down what it is told, and answers with a fixed action. -/
  | observer (action : ListenerAction)
  /-- Writes down what it is told, and makes the task of its extra word ready. -/
  | waker
deriving DecidableEq, Repr

/-- The part of the kernel that callbacks work on. -/
structure Core (π : Type) where
  /-- The scheduler. -/
  sched : Scheduler π
  /-- The entities. -/
  entities : EntityTree Cleanup
  /-- What observers wrote down, newest first: their extra word and the event. -/
  heard : List (Nat × Payload)
deriving DecidableEq, Repr

/-- The kernel. -/
structure Kernel (π : Type) extends Core π where
  /-- The event bus. -/
  bus : EventBus KernelListener
  /-- The entities of the registered devices. -/
  devices : Vector (Option EntityId) maxDevices
deriving DecidableEq, Repr

/-- One step of an operation that may have to wait. -/
inductive Progress (α : Type)
  /-- The operation is finished. -/
  | done (result : α)
  /-- The task is parked; it tries again once it is resumed. -/
  | parked
  /-- No listener could be registered; the task yielded and tries again. -/
  | polling
deriving DecidableEq, Repr

variable {π : Type}

/-! ## Callbacks -/

/-- Runs the clean-up of a destroyed entity. -/
def Cleanup.run [Port π] : Cleanup → Owner → Scheduler π → Checked (Scheduler π)
  | .releaseTask, .task pid, s => s.freeTask pid
  | _, _, s => .ok s

namespace Core

/-- Wakes `waiter` if it waits for the child that an event reports. -/
def wakeParent (c : Core π) (payload : Payload) (waiter : Pid) :
    Checked (ListenerAction × Core π) := do
  let .task pid parent _ := payload | return (.proceed, c)
  let t ← c.sched.task waiter
  if parent ≠ waiter || t.state ≠ .awaitingChild || !t.childFilter.accepts pid then
    return (.proceed, c)
  else
    let sched ← c.sched.modify waiter fun t => { t with state := .ready, exitListener := none }
    return (.remove, { c with sched := sched.note (.childWoke waiter pid) })

/-- Wakes `waiter` if it waits for the device that an event reports, in one of its directions; an
error wakes it in any. -/
def wakeDeviceWaiter (c : Core π) (payload : Payload) (waiter : Pid) :
    Checked (ListenerAction × Core π) := do
  let .device device flags := payload | return (.proceed, c)
  let t ← c.sched.task waiter
  let some wait := t.deviceWait | return (.proceed, c)
  if t.state ≠ .awaitingDevice || wait.device ≠ device ||
      !flags.intersects (wait.direction.union DeviceFlags.err) then
    return (.proceed, c)
  else
    let sched ← c.sched.modify waiter fun t => { t with state := .ready, deviceWait := none }
    return (.remove, { c with sched := sched.note (.deviceWoke waiter device flags) })

/-- What a listener does when it is told of an event. -/
def onEvent (c : Core π) (payload : Payload) (extra : Nat) :
    KernelListener → Checked (ListenerAction × Core π)
  | .childExit => c.wakeParent payload extra
  | .deviceReady => c.wakeDeviceWaiter payload extra
  | .observer action => .ok (action, { c with heard := (extra, payload) :: c.heard })
  | .waker => do
    let c := { c with heard := (extra, payload) :: c.heard }
    return (.proceed, { c with sched := ← c.sched.setState extra .ready })

variable [Port π]

/-- Drops a reference on an entity. -/
def release (c : Core π) (id : EntityId) : Checked (Core π) := do
  let (entities, sched) ← c.entities.release Cleanup.run id c.sched
  return { c with entities, sched }

/-- The callbacks of the kernel's bus: listeners work on the core alone, and a delivered event gives
up its entity. -/
def callbacks : Callbacks KernelListener (Core π) where
  listen listener event extra c := .done (c.onEvent event.payload extra listener)
  release event c := .done (c.release event.entity)

end Core

namespace Kernel

/-- Writes a notice to the log. -/
def note (k : Kernel π) (notice : Notice) : Kernel π :=
  { k with sched := k.sched.note notice }

/-- Dispatches an event on the bus. -/
def dispatch (k : Kernel π) (event : Event) : Checked (Dispatched × Kernel π) := do
  let (result, bus) ← k.bus.dispatch event
  return (result, { k with bus }.note (.dispatched event.payload result))

/-- Enters an atomic section. -/
def enterSection (k : Kernel π) : Checked (Kernel π) := do
  let sectionDepth ← Word.add k.sched.sectionDepth 1
  return { k with sched := { k.sched with sectionDepth } }

/-! ## Queries -/

/-- The running task. -/
def current (k : Kernel π) : Pid :=
  k.sched.current

/-- The clock. -/
def uptime (k : Kernel π) : UInt64 :=
  k.sched.tick

/-- What anyone may ask about a task. -/
def summary (k : Kernel π) (pid : Pid) : Except Error TaskSummary :=
  match k.sched.summary? pid with
  | some summary => .ok summary
  | none => .error .noSuchTask

/-- What a task is doing, if there is one of that number. -/
def taskState? (k : Kernel π) (pid : Pid) : Option TaskState :=
  k.sched.state? pid

variable [Port π]

/-- Builds a kernel whose idle task, in slot 0, is running. Whatever runs before the first pass runs
as the idle task. -/
def boot (port : π) : Checked (Except Error (Kernel π)) := do
  let some (stack, port) := Port.takeStack port | return .error .outOfMemory
  let (stackPointer, port) ← Port.layOutStack stack .idle port
  let entities : EntityTree Cleanup := .new
  match ← entities.create (some .root) (.task idlePid) (some .releaseTask) with
  | .error e => return .error e
  | .ok (entity, entities) =>
    let idle := { Task.spawned idlePid idlePid entity stack stackPointer with state := .running }
    let sched ← (Scheduler.new port).modify idlePid fun _ => idle
    return .ok {
      sched := sched.note .booted
      entities := entities
      heard := []
      bus := .empty
      devices := .replicate maxDevices none }

/-- Starts the periodic tick. -/
def startTimer (k : Kernel π) : Checked (Kernel π) := do
  let port ← Port.startTimer tickHz k.sched.port
  return { k with sched := { k.sched with port } }

/-! ## Passes -/

/-- Delivers everything that is queued on the bus. The kernel's callbacks dispatch nothing, so no
more events are handled than were queued. -/
def deliverEvents (k : Kernel π) : Checked (Kernel π) := do
  let (bus, core) ← k.bus.deliverAll Core.callbacks k.bus.queues.load k.toCore
  return { k with toCore := core, bus }

/-- Runs a pass and switches to the task it chooses. Inside an atomic section the pass is put off
until the section ends. -/
def schedule (k : Kernel π) : Checked (Kernel π) := do
  if 0 < k.sched.sectionDepth then
    return { k with sched := { k.sched with passPending := true } }
  else
    let k ← k.deliverEvents
    let ((previous, next), sched) ← k.sched.choose
    let sched ← { sched with passPending := false }.switchTask previous next
    return { k with sched }

/-- Advances the clock by a tick and runs a pass. -/
def tick (k : Kernel π) : Checked (Kernel π) :=
  { k with sched := { k.sched with tick := k.sched.tick + 1 } }.schedule

/-- Gives up the processor and stays ready. -/
def yield (k : Kernel π) : Checked (Kernel π) :=
  k.schedule

/-- Leaves an atomic section; behind the outermost one, a pass that was asked for meanwhile runs. -/
def leaveSection (k : Kernel π) : Checked (Kernel π) := do
  if k.sched.sectionDepth = 0 then
    .error .unbalancedEnable
  else
    let k := { k with sched := { k.sched with sectionDepth := k.sched.sectionDepth - 1 } }
    if k.sched.sectionDepth = 0 && k.sched.passPending then k.schedule else return k

/-! ## Entities and events -/

/-- Creates an entity. -/
def createEntity (k : Kernel π) (parent : Option EntityId) (owner : Owner) (cleanup : Cleanup) :
    Checked (Except Error EntityId × Kernel π) := do
  match ← k.entities.create parent owner (some cleanup) with
  | .error e => return (.error e, k)
  | .ok (id, entities) => return (.ok id, { k with entities })

/-- Drops a reference on an entity. -/
def release (k : Kernel π) (id : EntityId) : Checked (Kernel π) := do
  return { k with toCore := ← k.toCore.release id }

/-- Drops references on several entities, one after the other. -/
def releaseAll (k : Kernel π) (ids : List EntityId) : Checked (Kernel π) :=
  ids.foldlM release k

/-- Creates an event under `parent` and dispatches it. An event that is handed back is released. -/
def announce (k : Kernel π) (parent : Option EntityId) (payload : Payload) :
    Checked (Except Error Unit × Kernel π) := do
  match ← k.createEntity parent .event .nothing with
  | (.error e, k) => return (.error e, k)
  | (.ok entity, k) =>
    match ← k.dispatch ⟨entity, payload⟩ with
    | (.refused event, k) => return (.error .outOfMemory, ← k.release event.entity)
    | (_, k) => return (.ok (), k)

end Kernel

end Rtos

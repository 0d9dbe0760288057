import Rtos.Kernel

/-!
# Tasks of the kernel

Tasks are spawned, sleep, exit and are waited for. An exit is recorded on the parent's list of dead
children, and an event tells a waiting parent of it; the record is what counts, so a lost event
loses no child. Children of the idle task, and of a task that exited itself, are reaped on the spot.
-/

namespace Rtos.Kernel

variable {π : Type} [Port π]

/-- Creates a task that runs `entry`, as a child of the current task. It is refused when the table
is full and when no stack or entity is left; then nothing stays allocated. -/
def spawn (k : Kernel π) (entry : EntryPoint) : Checked (Except Error Pid × Kernel π) := do
  let some pid := k.sched.freeSlot? | return (.error .noFreeSlot, k)
  let parent := k.current
  let parentEntity := (← k.sched.task parent).entity
  let some (stack, port) := Port.takeStack k.sched.port | return (.error .outOfMemory, k)
  let k := { k with sched := { k.sched with port } }
  match ← k.createEntity parentEntity (.task pid) .releaseTask with
  | (.error e, k) =>
    let port ← Port.returnStack stack k.sched.port
    return (.error e, { k with sched := { k.sched with port } })
  | (.ok entity, k) =>
    let (stackPointer, port) ← Port.layOutStack stack entry k.sched.port
    let sched := { k.sched with port }
    let sched ← sched.modify pid fun _ => .spawned pid parent entity stack stackPointer
    return (.ok pid, { k with sched }.note (.spawned pid parent))

/-- Dispatches the event of an exit. The answer tells whether it is queued. -/
def dispatchExit (k : Kernel π) (pid parent : Pid) (status : Int) (child : EntityId) :
    Checked (Bool × Kernel π) := do
  match ← k.createEntity (some child) .event .nothing with
  | (.error _, k) => return (false, k.note (.noExitEntity pid))
  | (.ok entity, k) =>
    match ← k.dispatch ⟨entity, .task pid parent status⟩ with
    | (.refused event, k) => return (false, ← k.release event.entity)
    | (_, k) => return (true, k)

/-- Tells a parent of the exit of a child: by an event, or, when there can be none, by waking the
parent here if it waits for that child. -/
def tellParent (k : Kernel π) (pid parent : Pid) (status : Int) (child : EntityId) :
    Checked (Kernel π) := do
  let (queued, k) ← k.dispatchExit pid parent status child
  let waiter ← k.sched.task parent
  if !queued && waiter.state = .awaitingChild && waiter.childFilter.accepts pid then
    let bus := match waiter.exitListener with
      | some id => (k.bus.unsubscribe .task id).2
      | none => k.bus
    let sched ← k.sched.modify parent fun t => { t with exitListener := none, state := .ready }
    return { k with bus, sched }
  else
    return k

/-- Leaves every atomic section: none outlives the task that entered it. -/
def closeSections (k : Kernel π) (pid : Pid) : Kernel π :=
  if 0 < k.sched.sectionDepth then
    { k with sched := { k.sched with sectionDepth := 0 } }.note (.exitedInSection pid)
  else
    k

/-- Ends the current task, reaps its dead children, records its death with its parent or reaps it on
the spot, and runs a pass. The idle task cannot exit. -/
def exit (k : Kernel π) (status : Int) : Checked (Except Error Unit × Kernel π) := do
  let pid := k.current
  if pid = idlePid then return (.error .invalidArgument, k)
  let t ← k.sched.task pid
  let some entity := t.entity | return (.error .noSuchTask, k)
  let (orphans, t) := t.clearUnreaped
  let k := { k with sched := ← k.sched.modify pid fun _ => t }
  let k ← k.releaseAll (orphans.map (·.entity))
  let parent := (← k.sched.task pid).parent
  let sched ← k.sched.modify pid fun t => { t with state := .dead, exitStatus := status }
  let k := { k with sched }.note (.exited pid status)
  let parentAlive := parent ≠ idlePid && (← k.sched.task parent).isAlive
  let k ←
    if parentAlive then do
      let parentTask ← (← k.sched.task parent).addUnreaped ⟨pid, status, entity⟩
      let k := { k with sched := ← k.sched.modify parent fun _ => parentTask }
      k.tellParent pid parent status entity
    else
      k.release entity
  return (.ok (), ← (k.closeSections pid).schedule)

/-- One step of a wait for a child. The oldest dead child that the filter accepts is reaped. If
there is none, but a live child that the filter accepts, the task parks behind a listener for exits;
when no listener can be registered, it yields and polls. -/
def waitChild (k : Kernel π) (filter : ChildFilter) (options : WaitOptions) :
    Checked (Except Error (Progress (Pid × Int)) × Kernel π) := do
  let pid := k.current
  let (child, t) := (← k.sched.task pid).reap filter
  let k := { k with sched := ← k.sched.modify pid fun _ => t }
  match child with
  | some child =>
    let k ← k.release child.entity
    return (.ok (.done (child.pid, child.status)), k.note (.reaped pid child.pid child.status))
  | none =>
    if !(k.sched.liveChildren pid).any filter.accepts then
      return (.error .noChild, k)
    else if options.contains WaitOptions.noHang then
      return (.error .wouldBlock, k)
    else if 0 < k.sched.sectionDepth then
      return (.error .atomicContext, k.note (.refusedInSection pid .childWait))
    else
      let (registered, bus) ← k.bus.subscribe .task .childExit pid
      let k := { k with bus }
      match registered with
      | .ok id =>
        let sched ← k.sched.modify pid fun t =>
          { t with childFilter := filter, exitListener := some id }
        let sched ← sched.parkCurrent .awaitingChild
        return (.ok .parked, ← { k with sched }.schedule)
      | .error _ =>
        return (.ok .polling, ← (k.note (.pollingForChildren pid)).schedule)

/-- Puts the current task to sleep for a number of milliseconds, rounded down to ticks, and runs a
pass. -/
def sleep (k : Kernel π) (millis : UInt32) : Checked (Except Error Unit × Kernel π) := do
  if 0 < k.sched.sectionDepth then
    return (.error .atomicContext, k.note (.refusedInSection k.current .sleep))
  else
    let now := k.sched.tick
    let sched ← k.sched.modify k.current fun t =>
      { t with sleepLength := ticksOfMillis millis, stamp := now }
    let sched ← sched.parkCurrent .sleeping
    return (.ok (), ← { k with sched }.schedule)

end Rtos.Kernel

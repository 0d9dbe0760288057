import Rtos.Error
import Rtos.EventBus.Queues
import Rtos.Limits

/-!
# Notices

What the kernel writes to its log. A notice says what happened; its level and its words are fixed
here.
-/

namespace Rtos

/-- How much a notice matters. -/
inductive Level
  /-- A step of normal work. -/
  | trace
  /-- A change in what exists. -/
  | debug
  /-- Something went wrong. -/
  | warn
deriving DecidableEq, Repr

/-- The name of a level. -/
def Level.name : Level → String
  | trace => "TRACE"
  | debug => "DEBUG"
  | warn => "WARN"

/-- A request that may park its caller. -/
inductive Blocking
  /-- A wait for a child. -/
  | childWait
  /-- A sleep. -/
  | sleep
  /-- A wait for a device. -/
  | deviceWait
  /-- A lock of a held mutex. -/
  | mutexLock
deriving DecidableEq, Repr

/-- The name of a request that may park its caller. -/
def Blocking.name : Blocking → String
  | childWait => "wait_for_child"
  | sleep => "sleep"
  | deviceWait => "device wait"
  | mutexLock => "mutex lock"

/-- Something the kernel did or met. -/
inductive Notice
  /-- The kernel was built. -/
  | booted
  /-- A task was created by another. -/
  | spawned (pid parent : Pid)
  /-- A task exited. -/
  | exited (pid : Pid) (status : Int)
  /-- A task exited inside an atomic section. -/
  | exitedInSection (pid : Pid)
  /-- No entity was left for the event of an exit. -/
  | noExitEntity (pid : Pid)
  /-- A parent took the record of a dead child. -/
  | reaped (parent pid : Pid) (status : Int)
  /-- The slot of a task was freed. -/
  | released (pid : Pid)
  /-- A pass chose the next task. -/
  | scheduled (previous next : Pid) (tick : UInt64)
  /-- The processor was handed to a task. -/
  | handedOff (previous next : Pid)
  /-- A hand-off was left to the pass after an atomic section. -/
  | handOffDeferred (previous next : Pid)
  /-- An event was dispatched. -/
  | dispatched (payload : Payload) (result : Dispatched)
  /-- The exit of a child woke its parent. -/
  | childWoke (waiter pid : Pid)
  /-- A report of a device woke a task. -/
  | deviceWoke (waiter : Pid) (device : Nat) (flags : DeviceFlags)
  /-- A device was registered. -/
  | deviceRegistered (slot : Nat)
  /-- A request that may park was refused inside an atomic section. -/
  | refusedInSection (pid : Pid) (request : Blocking)
  /-- A parent found no place for a listener. -/
  | pollingForChildren (pid : Pid)
  /-- A task waiting for a device found no place for a listener. -/
  | pollingDevice (pid : Pid) (device : Nat)
  /-- A task found the wait queue of a mutex full. -/
  | spinning (pid : Pid)
  /-- An exit was refused. -/
  | exitRefused (status : Int) (reason : Error)
deriving DecidableEq, Repr

namespace Notice

/-- How much a notice matters. -/
def level : Notice → Level
  | .booted | .spawned _ _ | .exited _ _ | .reaped _ _ _ | .released _ | .deviceRegistered _ =>
    .debug
  | .scheduled _ _ _ | .handedOff _ _ | .handOffDeferred _ _ | .childWoke _ _
  | .deviceWoke _ _ _ => .trace
  | .dispatched _ (.refused _) => .warn
  | .dispatched _ _ => .trace
  | .exitedInSection _ | .noExitEntity _ | .refusedInSection _ _ | .pollingForChildren _
  | .pollingDevice _ _ | .spinning _ | .exitRefused _ _ => .warn

/-- The words of a notice. -/
def text : Notice → String
  | .booted => s!"kernel initialised, {tickHz} ticks/s"
  | .spawned pid parent => s!"task {pid} spawned by {parent}"
  | .exited pid status => s!"task {pid} exited with {status}"
  | .exitedInSection pid => s!"task {pid} exited with preemption disabled"
  | .noExitEntity pid => s!"no kent for exit kevent of task {pid}"
  | .reaped parent pid status => s!"task {parent} reaped {pid} (status {status})"
  | .released pid => s!"task {pid} released"
  | .scheduled previous next tick => s!"schedule: {previous} -> {next} at tick {tick}"
  | .handedOff previous next => s!"hand-off: {previous} -> {next}"
  | .handOffDeferred previous next => s!"hand-off {previous} -> {next} deferred"
  | .dispatched payload .queued => s!"kevent {payload.describe} queued"
  | .dispatched payload .overflowed => s!"kevent {payload.describe} queued on overflow"
  | .dispatched _ (.refused event) => s!"kevent {event.payload.describe} dropped: queues full"
  | .childWoke waiter pid => s!"task {waiter} woken by exit of {pid}"
  | .deviceWoke waiter device flags =>
    s!"task {waiter} woken by device {device} ({flags.describe})"
  | .deviceRegistered slot => s!"device {slot} registered"
  | .refusedInSection pid request => s!"task {pid}: {request.name} with preemption disabled"
  | .pollingForChildren pid => s!"task {pid} polling for children: no listener slot"
  | .pollingDevice pid device => s!"task {pid} polling device {device}: no listener slot"
  | .spinning pid => s!"task {pid} spinning: mutex wait queue full"
  | .exitRefused status reason => s!"exit({status}) failed: {reason.text}"

/-- The log line of a notice: its level and its words. -/
def line (n : Notice) : String :=
  s!"{n.level.name} {n.text}"

end Notice

end Rtos

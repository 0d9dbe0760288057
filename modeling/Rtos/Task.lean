import Rtos.Event
import Rtos.Fifo
import Rtos.Stack

/-!
# Task control blocks

A slot of the task table: the saved context of a task, its stack, its entity, and what it is blocked
on. The table holds one reference on each task's entity; when the task exits, that reference moves
into a record on its parent's list of dead children, and reaping the record drops it.
-/

namespace Rtos

/-- The record of a child that exited and was not reaped yet. It owns the reference that the task
table held on the child. -/
structure ExitRecord where
  /-- The child. -/
  pid : Pid
  /-- The status it exited with. -/
  status : Int
  /-- The child's entity. -/
  entity : EntityId
deriving DecidableEq, Repr

/-- What a task parked on a device waits for. -/
structure DeviceWait where
  /-- The device. -/
  device : Nat
  /-- The reports that wake the task, besides errors. -/
  direction : DeviceFlags
deriving DecidableEq, Repr

/-- What anyone may ask about a task. -/
structure TaskSummary where
  /-- The task. -/
  pid : Pid
  /-- The task that spawned it. -/
  parent : Pid
  /-- What it is doing. -/
  state : TaskState
  /-- When it was last put on the processor or went to sleep. -/
  stamp : UInt64
  /-- The number of its dead children that were not reaped yet. -/
  unreaped : Nat
deriving DecidableEq, Repr

/-- A slot of the task table. -/
structure Task where
  /-- The slot's own number. -/
  pid : Pid
  /-- The task that spawned this one. -/
  parent : Pid
  /-- The task's entity. -/
  entity : Option EntityId
  /-- What the task is doing. -/
  state : TaskState
  /-- The saved stack pointer. -/
  stackPointer : Nat
  /-- The stack, until the entity is destroyed. -/
  stack : Option Stack
  /-- How long the task sleeps, from `stamp` on. -/
  sleepLength : UInt64
  /-- When the task was last put on the processor or went to sleep. -/
  stamp : UInt64
  /-- The status that the task exited with. -/
  exitStatus : Int
  /-- Children that exited and were not reaped yet, oldest first. -/
  unreaped : Fifo maxTasks ExitRecord
  /-- The children that a parked parent accepts. -/
  childFilter : ChildFilter
  /-- The listener of a parent parked until a child exits. -/
  exitListener : Option ListenerId
  /-- What a task parked on a device waits for. -/
  deviceWait : Option DeviceWait
  /-- Whether the slot is taken. -/
  active : Bool
deriving DecidableEq, Repr

namespace Task

/-- A free slot. -/
def empty : Task where
  pid := 0
  parent := 0
  entity := none
  state := .dead
  stackPointer := 0
  stack := none
  sleepLength := 0
  stamp := 0
  exitStatus := 0
  unreaped := .empty
  childFilter := .any
  exitListener := none
  deviceWait := none
  active := false

/-- A slot that a new task takes, ready to run. -/
def spawned (pid parent : Pid) (entity : EntityId) (stack : Stack) (stackPointer : Nat) :
    Task :=
  { empty with
    pid, parent, stackPointer
    entity := some entity
    stack := some stack
    state := .ready
    active := true }

/-- Whether the scheduler may pick the task at tick `now`. The ticks slept are counted modulo the
clock's range, so a sleep may cross the point where the clock wraps. -/
def isRunnable (t : Task) (now : UInt64) : Bool :=
  t.active &&
    match t.state with
    | .ready | .running => true
    | .sleeping => t.sleepLength ≤ now - t.stamp
    | .dead | .awaitingDevice | .awaitingMutex | .awaitingChild => false

/-- Whether the slot holds a task that has not exited. -/
def isAlive (t : Task) : Bool :=
  t.active && t.state != .dead

/-- Puts a dead child at the end of the list, which has a place for every task there can be. -/
def addUnreaped (t : Task) (child : ExitRecord) : Checked Task :=
  match t.unreaped.push? child with
  | some unreaped => .ok { t with unreaped }
  | none => .error .unreapedOverflow

/-- Takes the oldest dead child that the filter accepts, if there is one, by a turn of the list; the
others keep their order. -/
def reap (t : Task) (filter : ChildFilter) : Option ExitRecord × Task :=
  let (child, unreaped) := t.unreaped.extract fun child => filter.accepts child.pid
  (child, { t with unreaped })

/-- The dead child that is taken, and the task without it, if the filter accepts one. -/
def reap? (t : Task) (filter : ChildFilter) : Option (ExitRecord × Task) :=
  let (child, t) := t.reap filter
  child.map fun child => (child, t)

/-- Takes every dead child. -/
def clearUnreaped (t : Task) : List ExitRecord × Task :=
  (t.unreaped.items, { t with unreaped := .empty })

/-- What anyone may ask about the task. -/
def summary (t : Task) : TaskSummary where
  pid := t.pid
  parent := t.parent
  state := t.state
  stamp := t.stamp
  unreaped := t.unreaped.length

end Task

end Rtos

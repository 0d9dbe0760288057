/-!
# Task states

How tasks are named, what a task may be doing, and which children a waiting parent accepts.
-/

namespace Rtos

/-- A task is named by its slot in the task table. -/
abbrev Pid := Nat

/-- The idle task, which also runs whatever comes before the first scheduler pass. -/
abbrev idlePid : Pid := 0

/-- What a task is doing, as the scheduler sees it. -/
inductive TaskState
  /-- Exited, or a free slot. -/
  | dead
  /-- On the processor. -/
  | running
  /-- Ready to run. -/
  | ready
  /-- Asleep until a number of ticks has passed. -/
  | sleeping
  /-- Parked until a device reports. -/
  | awaitingDevice
  /-- Parked in the wait queue of a mutex. -/
  | awaitingMutex
  /-- Parked until a child exits. -/
  | awaitingChild
deriving DecidableEq, Repr

/-- The name of a state. -/
def TaskState.name : TaskState → String
  | dead => "Dead"
  | running => "Running"
  | ready => "Queue"
  | sleeping => "Sleep"
  | awaitingDevice => "IoWait"
  | awaitingMutex => "LockWait"
  | awaitingChild => "WaitPid"

/-- Which children a waiting parent accepts. -/
inductive ChildFilter
  /-- Any child. -/
  | any
  /-- The child of that number. -/
  | pid (wanted : Pid)
deriving DecidableEq, Repr

namespace ChildFilter

/-- Whether the filter accepts a child. -/
def accepts : ChildFilter → Pid → Bool
  | any, _ => true
  | pid wanted, child => wanted == child

/-- The text of a filter. -/
def describe : ChildFilter → String
  | any => "Any"
  | pid wanted => s!"Pid({wanted})"

end ChildFilter

end Rtos

/-!
# Refusals

The reasons for which the kernel turns a request down. A refused request leaves the kernel as it
was; the caller decides what to do next.
-/

namespace Rtos

/-- Why a request was refused. -/
inductive Error
  /-- An argument was unset or out of range. -/
  | invalidArgument
  /-- The request would have waited and the caller asked not to. -/
  | wouldBlock
  /-- There is no kernel yet. -/
  | notStarted
  /-- A waiting request was made with preemption disabled. -/
  | atomicContext
  /-- Every task slot is taken. -/
  | noFreeSlot
  /-- No stack, entity, queue place or listener place is left. -/
  | outOfMemory
  /-- The caller has no child that the wait filter accepts. -/
  | noChild
  /-- No task has that number. -/
  | noSuchTask
  /-- The device is not registered. -/
  | badDevice
deriving DecidableEq, Repr

namespace Error

/-- The positive number of an error: general ones below 16, then resources, tasks and devices. -/
def code : Error → Nat
  | invalidArgument => 1
  | wouldBlock => 2
  | notStarted => 3
  | atomicContext => 4
  | noFreeSlot => 16
  | outOfMemory => 17
  | noChild => 32
  | noSuchTask => 33
  | badDevice => 48

/-- The value a system call returns for an error: its code, negated. -/
def errno (e : Error) : Int :=
  -(e.code : Int)

/-- The words shown for an error. -/
def text : Error → String
  | invalidArgument => "invalid argument"
  | wouldBlock => "operation would block"
  | notStarted => "kernel not started"
  | atomicContext => "blocking call in atomic context"
  | noFreeSlot => "no free task slot"
  | outOfMemory => "out of memory"
  | noChild => "no matching child"
  | noSuchTask => "no such task"
  | badDevice => "bad device"

end Error

end Rtos

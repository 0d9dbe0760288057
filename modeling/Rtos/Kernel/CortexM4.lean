import Rtos.Kernel
import Rtos.Port.CortexM4

/-!
# A kernel on a Cortex-M4

How the first task is entered, and what the switch interrupt does. The interrupt does not trust the
pair of tasks it was pended for: it saves the stack pointer of the task that is really on the
processor and resumes the one that the scheduler now calls current.
-/

namespace Rtos.Kernel

/-- Stores the stack pointer of the task on the processor, and answers with that of the current
task, which is on the processor from now on. -/
def resumeCurrent (k : Kernel CortexM4) (stackPointer : Nat) : Checked (Nat × Kernel CortexM4) := do
  let next := k.current
  let sched ← k.sched.modify k.sched.port.onCpu fun t => { t with stackPointer }
  let resumed := (← sched.task next).stackPointer
  let sched := { sched with port := { sched.port with onCpu := next } }
  return (resumed, { k with sched })

/-- Changes the board under the kernel. -/
def withBoard (k : Kernel CortexM4) (f : Board → Board) : Kernel CortexM4 :=
  let port := { k.sched.port with board := f k.sched.port.board }
  { k with sched := { k.sched with port } }

/-- The switch interrupt, given the stack pointer of the task it interrupts; the answer is the stack
pointer of the task it returns to. -/
def switchInterrupt (k : Kernel CortexM4) (stackPointer : Nat) :
    Checked (Nat × Kernel CortexM4) :=
  (k.withBoard ({ · with switchPending := false })).resumeCurrent stackPointer

/-- Sets priorities and timer with interrupts masked, and enters the current task, which lets
interrupts in again. The answer is the stack pointer of the frame that is entered. -/
def enterFirst (k : Kernel CortexM4) : Checked (Nat × Kernel CortexM4) := do
  let k := k.withBoard fun b => { b.lowerPriorities with masked := true }
  let k ← k.startTimer
  let first ← k.sched.currentTask
  let port := { k.sched.port with onCpu := k.current }
  let k := { k with sched := { k.sched with port } }
  return (first.stackPointer, k.withBoard ({ · with masked := false }))

end Rtos.Kernel

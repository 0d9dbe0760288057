import Rtos.Limits
import Rtos.Stack

/-!
# Ports

What the kernel needs of the hardware: stacks, initial frames, context switches and a periodic
timer. A port is a state type with these services on it.
-/

namespace Rtos

/-- What a task runs from its first switch on. -/
inductive EntryPoint
  /-- The idle loop. -/
  | idle
  /-- The program of that number. -/
  | program (number : Nat)
deriving DecidableEq, Repr

/-- The services of a port whose state is a `π`. -/
class Port (π : Type) where
  /-- Takes a stack from the pool, if there is one. -/
  takeStack : π → Option (Stack × π)
  /-- Gives a stack back. -/
  returnStack : Stack → π → Checked π
  /-- Lays out the frame from which a first switch starts `entry`, and answers with the stack
  pointer to switch to. -/
  layOutStack : Stack → EntryPoint → π → Checked (Nat × π)
  /-- Suspends one task and resumes another, given their saved stack pointers, and answers with the
  pointer to save for the first. A port may put the switch off until no atomic section is open. -/
  switchTask : (source : Pid) → (saved : Nat) → (target : Pid) → (resumed : Nat) → π → Nat × π
  /-- Starts the periodic tick. -/
  startTimer : (hz : Nat) → π → Checked π

/-- The first stack slot that is not in use. -/
def firstUnused (used : Vector Bool maxTasks) : Option (Fin maxTasks) :=
  used.findFinIdx? (! ·)

end Rtos

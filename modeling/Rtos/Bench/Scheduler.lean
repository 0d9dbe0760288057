import Rtos.Scheduler

/-!
# A scheduler without a kernel

A task table filled by hand: tasks are installed without entities of their own, and whatever a
kernel would keep in order may be set at will.
-/

namespace Rtos.Scheduler

variable {π : Type}

/-- Replaces the slot of a task. -/
def put (s : Scheduler π) (pid : Pid) (t : Task) : Checked (Scheduler π) :=
  s.modify pid fun _ => t

variable [Port π]

/-- Takes a stack and installs a task on it, ready to run from the stack's top; the task stands for
the root entity. The answer is the stack, if there was one. -/
def install (s : Scheduler π) (pid parent : Pid) : Checked (Option Stack × Scheduler π) := do
  match Port.takeStack s.port with
  | none => return (none, s)
  | some (stack, port) =>
    let s ← { s with port }.put pid (.spawned pid parent .root stack (← stack.top))
    return (some stack, s)

/-- Gives a stack back past the table. -/
def returnStack (s : Scheduler π) (stack : Stack) : Checked (Scheduler π) := do
  return { s with port := ← Port.returnStack stack s.port }

end Rtos.Scheduler

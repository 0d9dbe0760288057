import Rtos.Notice
import Rtos.Port
import Rtos.Task

/-!
# The scheduler

The task table and the choice of the next task. A pass demotes the running task, looks for the first
task that can run, starting behind the current one and going round, and puts it on the processor;
the idle task runs when no other can. A hand-off puts a chosen task on the processor past that
order.
-/

namespace Rtos

/-- The task table and all that a pass reads and writes. -/
structure Scheduler (π : Type) where
  /-- The hardware. -/
  port : π
  /-- The task table; slot 0 is the idle task. -/
  tasks : Vector Task maxTasks
  /-- The running task. -/
  current : Pid
  /-- The clock. -/
  tick : UInt64
  /-- Whether a pass was asked for inside the present atomic section. -/
  passPending : Bool
  /-- How many atomic sections are open. -/
  sectionDepth : Nat
  /-- What was logged, newest first. -/
  journal : List Notice
deriving DecidableEq, Repr

namespace Scheduler

variable {π : Type}

/-- A scheduler without tasks. -/
def new (port : π) : Scheduler π where
  port := port
  tasks := .replicate maxTasks .empty
  current := idlePid
  tick := 0
  passPending := false
  sectionDepth := 0
  journal := []

/-- Writes a notice to the log. -/
def note (s : Scheduler π) (notice : Notice) : Scheduler π :=
  { s with journal := notice :: s.journal }

/-! ## The table -/

/-- The slot of a task, for a number that has one. -/
def task? (s : Scheduler π) (pid : Pid) : Option Task :=
  s.tasks[pid]?

/-- The slot of a task. -/
def task (s : Scheduler π) (pid : Pid) : Checked Task :=
  match s.task? pid with
  | some t => .ok t
  | none => .error (.indexOutOfRange maxTasks pid)

/-- Changes the slot of a task. -/
def modify (s : Scheduler π) (pid : Pid) (f : Task → Task) : Checked (Scheduler π) := do
  let t ← s.task pid
  return { s with tasks := s.tasks.setIfInBounds pid (f t) }

/-- Changes what a task is doing. -/
def setState (s : Scheduler π) (pid : Pid) (state : TaskState) : Checked (Scheduler π) :=
  s.modify pid fun t => { t with state }

/-- The slot of the running task. -/
def currentTask (s : Scheduler π) : Checked Task :=
  s.task s.current

/-- The first free slot behind the idle task's. -/
def freeSlot? (s : Scheduler π) : Option Pid :=
  (List.range' 1 (maxTasks - 1)).find? fun pid => (s.task? pid).any fun t => !t.active

/-- The live children of a task, in the order of the table. -/
def liveChildren (s : Scheduler π) (parent : Pid) : List Pid :=
  (s.tasks.toList.filter fun t => t.isAlive && t.parent == parent && t.pid != parent).map (·.pid)

/-- What anyone may ask about a task. -/
def summary? (s : Scheduler π) (pid : Pid) : Option TaskSummary :=
  (s.task? pid).bind fun t => if t.active then some t.summary else none

/-- What a task is doing, if there is one of that number. -/
def state? (s : Scheduler π) (pid : Pid) : Option TaskState :=
  (s.summary? pid).map (·.state)

/-- A slot is there exactly for the numbers of the table. -/
theorem task_eq_ok {s : Scheduler π} {pid : Pid} {t : Task} :
    s.task pid = .ok t ↔ s.task? pid = some t := by
  unfold task
  split
  case h_1 found => simp [found]
  case h_2 missing => simp [missing]

/-- A change succeeds exactly for the numbers of the table. -/
theorem modify_eq_ok {s r : Scheduler π} {pid : Pid} {f : Task → Task} :
    s.modify pid f = .ok r ↔
      ∃ t, s.task? pid = some t ∧ r = { s with tasks := s.tasks.setIfInBounds pid (f t) } := by
  simp only [modify, Checked.bind_eq_ok, task_eq_ok]
  simp [pure, Except.pure, eq_comm]

/-! ## Choosing a task -/

/-- The order in which a pass looks at the tasks: upwards from the one behind `previous`, round the
table, with `previous` itself last and without the idle task. -/
def scanOrder (previous : Pid) : List Pid :=
  ((List.range maxTasks).map fun i => (previous + 1 + i) % maxTasks).filter (· != idlePid)

/-- Makes a running task ready. -/
def demote (s : Scheduler π) (pid : Pid) : Checked (Scheduler π) :=
  s.modify pid fun t => if t.state = .running then { t with state := .ready } else t

/-- Puts a task on the processor and stamps the tick. -/
def promote (s : Scheduler π) (pid : Pid) : Checked (Scheduler π) := do
  let s ← s.modify pid fun t => { t with state := .running, stamp := s.tick }
  return { s with current := pid }

/-- Chooses the next task and makes it current; the answer is the pair of the previous and the next
task. -/
def choose (s : Scheduler π) : Checked ((Pid × Pid) × Scheduler π) := do
  let previous := s.current
  let s ← s.demote previous
  let isRunnable := fun pid => (s.task? pid).any (·.isRunnable s.tick)
  let next := ((scanOrder previous).find? isRunnable).getD idlePid
  let s ← s.promote next
  return ((previous, next), s.note (.scheduled previous next s.tick))

/-- Moves the running task into another state. -/
def parkCurrent (s : Scheduler π) (state : TaskState) : Checked (Scheduler π) :=
  s.setState s.current state

variable [Port π]

/-! ## Switching -/

/-- Asks the port for a switch, if the task changed. -/
def switchTask (s : Scheduler π) (previous next : Pid) : Checked (Scheduler π) := do
  if previous = next then
    return s
  else
    let resumed ← s.task next
    let saved ← s.task previous
    let (stackPointer, port) :=
      Port.switchTask previous saved.stackPointer next resumed.stackPointer s.port
    let s := { s with port }
    s.modify previous fun t => { t with stackPointer }

/-- Hands the processor to a task at once. Inside an atomic section the task is only made ready, and
the switch is left to the pass that runs when the section ends. -/
def handOff (s : Scheduler π) (pid : Pid) : Checked (Scheduler π) := do
  let previous := s.current
  let s ← s.setState pid .ready
  if 0 < s.sectionDepth then
    return { s with passPending := true }.note (.handOffDeferred previous pid)
  else
    let s ← s.demote previous
    let s ← s.promote pid
    (s.note (.handedOff previous pid)).switchTask previous pid

/-- Clears the slot of a task and gives its stack back. -/
def freeTask (s : Scheduler π) (pid : Pid) : Checked (Scheduler π) := do
  let t ← s.task pid
  let port ← match t.stack with
    | some stack => Port.returnStack stack s.port
    | none => .ok s.port
  let s ← { s with port }.modify pid fun _ => .empty
  return s.note (.released pid)

end Scheduler

end Rtos

import Rtos.Port.Host
import Rtos.Syscall

/-!
# Simulations

Tasks that act out scripts of system calls on the host port, with interrupts and ticks in between.
One task runs at a time: whenever a critical section ends, the task that the kernel calls current
goes on from where it stood. The main script runs first, as the idle task; when it is over, the idle
task lets the clock tick until no other task is alive.

A simulation advances by stages, each with at most one critical section, so that a task can be
switched away between any two of them and nowhere else.
-/

namespace Rtos

/-- The script that a task acts out. -/
inductive ScriptName
  /-- The script of the idle task. -/
  | main
  /-- The program of that number. -/
  | program (number : Nat)
deriving DecidableEq, Repr

/-- The text of a script's name. -/
def ScriptName.describe : ScriptName → String
  | .main => "main"
  | .program number => toString number

/-- Where a task stands in its script. -/
inductive Stage
  /-- Before the next command. -/
  | arriving
  /-- Before the next command, which was counted as step `now`; due interrupts are served. -/
  | serving (now : Nat)
  /-- In a call. -/
  | calling (next : Pursuit)
  /-- Behind a call, which has answered. -/
  | reporting (result : Except Error Answer)
  /-- The task exited, or there is none. -/
  | gone

/-- A task as the simulation sees it. -/
structure Fiber where
  /-- The script. -/
  script : ScriptName
  /-- The number of commands that are over. -/
  index : Nat
  /-- The commands that are not over. -/
  rest : List Request
  /-- Where the task stands. -/
  stage : Stage

namespace Fiber

/-- A task before its script. -/
def start (script : ScriptName) (commands : List Request) : Fiber :=
  ⟨script, 0, commands, .arriving⟩

/-- No task. -/
def none : Fiber :=
  ⟨.main, 0, [], .gone⟩

/-- The call that comes next: the first command that is not over; behind its script, the idle task
lets the clock tick, and any other task exits. -/
def nextRequest (f : Fiber) : Request :=
  match f.rest, f.script with
  | request :: _, _ => request
  | [], .main => .interrupt .tick
  | [], .program _ => .exit 0

/-- The stage behind a call. The ticks of the idle task are not written down. -/
def behind (f : Fiber) (result : Except Error Answer) : Stage :=
  if f.rest.isEmpty then .arriving else .reporting result

end Fiber

/-- What is written down when a command is over or an interrupt was served. -/
structure TraceEntry where
  /-- The running task, if there is a kernel. -/
  pid : Option Pid
  /-- The clock, if there is a kernel. -/
  tick : Option UInt64
  /-- The script and the number of the command, or the word for an interrupt. -/
  label : String
  /-- What was answered. -/
  result : Except Error Answer

/-- How a simulation ended. -/
inductive Ending
  /-- All scripts are over. -/
  | done
  /-- The steps are used up. -/
  | limit
  /-- The tasks go round without coming to a next step. -/
  | livelock
  /-- The kernel stopped. -/
  | fault (f : Fault)

/-- What is to be simulated. -/
structure Scenario where
  /-- The script of the idle task. -/
  main : List Request
  /-- The programs that tasks are spawned with. -/
  programs : List (List Request)
  /-- The character devices. -/
  devices : List AttachedDevice
  /-- The interrupts, each with the step at which it is due. -/
  interrupts : List (Nat × Interrupt)
  /-- The number of steps between two ticks; none come if it is zero. -/
  tickEvery : Nat
  /-- The number of steps. -/
  maxSteps : Nat
  /-- Whether the kernel is built at all. -/
  started : Bool
  /-- Whether the port refuses every stack. -/
  refuseStacks : Bool

/-- A simulation under way. -/
structure Simulation where
  /-- What is simulated. -/
  scenario : Scenario
  /-- What the calls work on. -/
  world : World HostPort
  /-- The tasks, by their slots. -/
  fibers : Vector Fiber maxTasks
  /-- The interrupts that were not served yet. -/
  interrupts : List (Nat × Interrupt)
  /-- The number of steps counted. -/
  steps : Nat
  /-- What was written down, newest first. -/
  trace : List TraceEntry

namespace Simulation

/-- A simulation before its first step, and what came of building the kernel. -/
def start (scenario : Scenario) : Checked (Except Error Unit × Simulation) := do
  let world : World HostPort := .initial scenario.devices
  let (result, world) ←
    if scenario.started then
      world.boot (HostPort.new scenario.refuseStacks)
    else
      .ok (.ok (), world)
  let main := Fiber.start .main scenario.main
  return (result, {
    scenario, world
    fibers := (Vector.replicate maxTasks .none).set idlePid main
    interrupts := scenario.interrupts
    steps := 0
    trace := [] })

/-- The running task. -/
def current (s : Simulation) : Pid :=
  match s.world.kernel? with
  | some kernel => kernel.current
  | none => idlePid

/-- A task. -/
def fiber (s : Simulation) (pid : Pid) : Fiber :=
  s.fibers[pid]?.getD .none

/-- Changes one task. -/
def setFiber (s : Simulation) (pid : Pid) (f : Fiber) : Simulation :=
  { s with fibers := s.fibers.setIfInBounds pid f }

/-- Moves a task to another stage. -/
def setStage (s : Simulation) (pid : Pid) (stage : Stage) : Simulation :=
  s.setFiber pid { s.fiber pid with stage }

/-- Writes down an answer. -/
def record (s : Simulation) (label : String) (result : Except Error Answer) : Simulation :=
  let entry : TraceEntry :=
    ⟨s.world.kernel?.map (·.current), s.world.kernel?.map (·.uptime), label, result⟩
  { s with trace := entry :: s.trace }

/-- Whether a task besides the idle task is alive. -/
def anyAlive (s : Simulation) : Bool :=
  match s.world.kernel? with
  | some kernel => (kernel.sched.tasks.toList.drop 1).any (·.isAlive)
  | none => false

/-- Lets a new task begin its program. -/
def noteSpawn (s : Simulation) : Request → Except Error Answer → Simulation
  | .spawn (.program number), .ok (.number pid) =>
    s.setFiber pid (.start (.program number) (s.scenario.programs.getD number []))
  | _, _ => s

/-! ## Stages -/

/-- Counts the next command as a step. A task that is not the idle task exits behind its script
without a further step, and the idle task goes on only while another task is alive. -/
def arrive (s : Simulation) (pid : Pid) (f : Fiber) : Except Ending Simulation :=
  match f.rest, f.script with
  | [], .program _ => .ok (s.setStage pid (.calling (.request f.nextRequest)))
  | [], .main =>
    if s.anyAlive then count else .error .done
  | _ :: _, _ => count
where
  /-- The simulation one step on, if there is one left. -/
  count : Except Ending Simulation :=
    let now := s.steps + 1
    let s := { s with steps := now }
    if s.scenario.maxSteps < now then .error .limit else .ok (s.setStage pid (.serving now))

/-- Serves the next interrupt that is due; when there is none, the clock ticks if its turn has come,
and the command begins. -/
def serve (s : Simulation) (pid : Pid) (f : Fiber) (now : Nat) : Checked Simulation := do
  match s.interrupts with
  | (due, work) :: rest =>
    if due ≤ s.steps then
      let (result, world) ← s.world.serve work
      return { s with world, interrupts := rest }.record "isr" result
    else
      begin
  | [] => begin
where
  /-- The simulation at the start of the command. -/
  begin : Checked Simulation := do
    let s := s.setStage pid (.calling (.request f.nextRequest))
    if 0 < s.scenario.tickEvery ∧ now % s.scenario.tickEvery = 0 then
      let (_, world) ← s.world.serve .tick
      return { s with world }
    else
      return s

/-- Makes the next attempt of a call. An exit does not come back. -/
def call (s : Simulation) (pid : Pid) (f : Fiber) (next : Pursuit) : Checked Simulation := do
  let (attempt, world) ← s.world.pursue next
  let s := { s with world }
  match attempt, next with
  | .again next, _ => return s.setStage pid (.calling next)
  | .finished _, .request (.exit _) => return s.setStage pid .gone
  | .finished result, .request request =>
    return (s.setStage pid (f.behind result)).noteSpawn request result
  | .finished result, .spin _ => return s.setStage pid (f.behind result)

/-- Writes down the answer of a command and goes on to the next. -/
def report (s : Simulation) (pid : Pid) (f : Fiber) (result : Except Error Answer) : Simulation :=
  let s := s.record s!"{f.script.describe}.{f.index}" result
  s.setFiber pid { f with index := f.index + 1, rest := f.rest.tail, stage := .arriving }

/-- A fault ends the simulation. -/
def ofChecked : Checked Simulation → Except Ending Simulation
  | .ok s => .ok s
  | .error f => .error (.fault f)

/-- Lets the running task go through one stage. -/
def advance (s : Simulation) : Except Ending Simulation :=
  let pid := s.current
  let f := s.fiber pid
  match f.stage with
  | .arriving => s.arrive pid f
  | .serving now => ofChecked (s.serve pid f now)
  | .calling next => ofChecked (s.call pid f next)
  | .reporting result => .ok (s.report pid f result)
  | .gone => .error .livelock

/-- Advances by at most `fuel` stages, to the end of the simulation. -/
def runFor : (fuel : Nat) → Simulation → Ending × Simulation
  | 0, s => (.livelock, s)
  | fuel + 1, s =>
    match s.advance with
    | .ok s => s.runFor fuel
    | .error ending => (ending, s)

/-- How many stages a simulation may go through for each of its steps, on average, before its tasks
count as going round. -/
abbrev patience : Nat := 1000

/-- Runs a simulation to its end. -/
def run (s : Simulation) : Ending × Simulation :=
  s.runFor ((s.scenario.maxSteps + 1) * patience)

end Simulation

end Rtos

import Rtos.Proofs.Port.Recording
import Rtos.Proofs.System.Sections

/-!
# The path of the processor

Every call asks the port for one switch if another task is current behind it, from the one to the other,
and else for none.  Whatever happens to a kernel from the time it is built, the switches that its port is
asked for lead from the idle task to the current one without a gap (`System.leads_of_journey`).
-/

namespace Rtos

/-- Switches lead from one task to another: each one starts where the one before it ended, and none ends
where it started. -/
inductive Leads : Pid → List (Pid × Pid) → Pid → Prop
  /-- There is none. -/
  | stay (pid : Pid) : Leads pid [] pid
  /-- There is one more. -/
  | go {source mid target : Pid} {switches : List (Pid × Pid)} (path : Leads source switches mid)
      (ne : mid ≠ target) : Leads source (switches ++ [(mid, target)]) target

/-- The switch to another task leads there, and no switch leads to the task that has the processor. -/
theorem Leads.switchPath {source mid : Pid} {switches : List (Pid × Pid)}
    (path : Leads source switches mid) (target : Pid) :
    Leads source (switches ++ switchPath mid target) target := by
  by_cases same : mid = target
  · subst same
    rwa [switchPath_self, List.append_nil]
  · rw [Rtos.switchPath, if_neg same]
    exact path.go same

variable {π : Type} [Port π] [RecordingPort π]

open RecordingPort

namespace System

/-- A kernel gets from one state to another by calls, by starting its timer, and by whatever leaves the
current task and the record of its port alone: others may register listeners and put events on the bus,
hold entities, and change clocks and tasks. -/
inductive Journey : System π → System π → Prop
  /-- Nothing has happened. -/
  | start (s : System π) : Journey s s
  /-- A call is made. -/
  | call {s s' s'' : System π} {call : Call} {reply : Reply} (before : Journey s s')
      (step : s'.step call = .ok (reply, s'')) : Journey s s''
  /-- The timer is started. -/
  | timer {s s' : System π} {k : Kernel π} (before : Journey s s')
      (started : s'.kernel.startTimer = .ok k) : Journey s { s' with kernel := k }
  /-- Something else happens. -/
  | outside {s s' s'' : System π} (before : Journey s s')
      (current : s''.kernel.current = s'.kernel.current)
      (record : recorded s''.kernel.sched.port = recorded s'.kernel.sched.port) : Journey s s''

variable {s s' : System π} {port : π} {k k' : Kernel π} {call : Call} {calls : List Call} {reply : Reply}
  {replies : List Reply} {mutexes : MutexId → Mutex}

theorem Journey.of_run {s₀ : System π} (before : Journey s₀ s) (h : s.run calls = .ok (replies, s')) :
    Journey s₀ s' := by
  induction calls generalizing s replies with
  | nil => cases h; exact before
  | cons call calls ih =>
    obtain ⟨⟨reply, s₁⟩, step, h⟩ := Checked.bind_eq_ok.1 h
    obtain ⟨⟨replies₁, s₂⟩, rest, eq⟩ := Checked.bind_eq_ok.1 h
    cases eq
    exact ih (before.call step) rest

/-- What a call adds to the record: the switch to the task that is current behind it, if it is another. -/
theorem recorded_of_step {asked : List (Pid × Pid)} (h : s.step call = .ok (reply, s'))
    (before : recorded s.kernel.sched.port = fitting (room π) asked) :
    recorded s'.kernel.sched.port =
      fitting (room π) (asked ++ switchPath s.kernel.current s'.kernel.current) :=
  recorded_of_serves (hands_step h).hardware before

theorem recorded_of_startTimer (h : k.startTimer = .ok k') :
    k'.current = k.current ∧ recorded k'.sched.port = recorded k.sched.port := by
  obtain ⟨port, starts, eq⟩ := Checked.bind_eq_ok.1 h
  cases eq
  exact ⟨rfl, recorded_timer starts⟩

theorem recorded_of_boot (h : Kernel.boot port = .ok (.ok k)) :
    k.current = idlePid ∧ recorded k.sched.port = recorded port := by
  obtain ⟨stack, stackPointer, taken, laid, e, id, take, layOut, -, -, -, rfl⟩ := Kernel.boot_eq_ok h
  exact ⟨rfl, (recorded_layOut layOut).trans (recorded_take take)⟩

/-- The switches asked for lead from a task to the current one, and the port keeps the first ones. -/
def TracedFrom (source : Pid) (s : System π) (switches : List (Pid × Pid)) : Prop :=
  Leads source switches s.kernel.current ∧
    recorded s.kernel.sched.port = fitting (room π) switches

/-- All along a journey the switches lead to the current task. -/
theorem Journey.traced {s₀ : System π} {source : Pid} {asked : List (Pid × Pid)}
    (journey : Journey s₀ s) (start : s₀.TracedFrom source asked) :
    ∃ switches, s.TracedFrom source switches := by
  induction journey with
  | start => exact ⟨asked, start⟩
  | call before step ih =>
    obtain ⟨switches, leads, record⟩ := ih
    exact ⟨_, leads.switchPath _, recorded_of_step step record⟩
  | timer before started ih =>
    obtain ⟨switches, leads, record⟩ := ih
    obtain ⟨current, kept⟩ := recorded_of_startTimer started
    exact ⟨switches, current ▸ leads, kept.trans record⟩
  | outside before current kept ih =>
    obtain ⟨switches, leads, record⟩ := ih
    exact ⟨switches, current ▸ leads, kept.trans record⟩

/-- The switches that a port is asked for, from the time when its kernel is built, lead from the idle task
to the current one without a gap, and the port keeps the first of them that there is room for.  Each
further call asks for the one switch from the task that was current to the one that is, if they differ,
and else for none; starting the timer asks for none, and the current task stays. -/
theorem leads_of_journey (booted : Kernel.boot port = .ok (.ok k)) (fresh : recorded port = [])
    (journey : Journey ⟨k, mutexes⟩ s) :
    ∃ switches, Leads idlePid switches s.kernel.current ∧
      recorded s.kernel.sched.port = fitting (room π) switches ∧
      (∀ {call reply s'}, s.step call = .ok (reply, s') →
        Port.Serves (switchPath s.kernel.current s'.kernel.current) s.kernel.sched.port
          s'.kernel.sched.port ∧
        recorded s'.kernel.sched.port =
          fitting (room π) (switches ++ switchPath s.kernel.current s'.kernel.current)) ∧
      ∀ {k'}, s.kernel.startTimer = .ok k' →
        k'.current = s.kernel.current ∧ recorded k'.sched.port = recorded s.kernel.sched.port := by
  have start : System.TracedFrom idlePid ⟨k, mutexes⟩ [] := by
    obtain ⟨current, record⟩ := recorded_of_boot booted
    exact ⟨current ▸ .stay idlePid, by rw [record, fresh, fitting_nil]⟩
  obtain ⟨switches, leads, record⟩ := Journey.traced journey start
  refine ⟨switches, leads, record, fun step => ?_, recorded_of_startTimer⟩
  exact ⟨(hands_step step).hardware, recorded_of_step step record⟩

/-- Two children take turns: by a pass that was put off to the end of a section, by a lock and the hand-off
that answers it, by a tick, and by their exits.  The host port has recorded the way. -/
theorem leads_of_journey_host : ∃ k s switches,
    Kernel.boot (HostPort.new false) = .ok (.ok k) ∧ Journey ⟨k, fun _ => .free⟩ s ∧
      s.kernel.sched.port.switches = [(0, 1), (1, 2), (2, 1), (1, 2), (2, 1), (1, 2), (2, 0)] ∧
      Leads idlePid switches s.kernel.current ∧
      s.kernel.sched.port.switches = switches.take HostPort.recordedSwitches := by
  have runs : (((Kernel.boot (HostPort.new false)).toOption.bind Except.toOption).any fun k =>
        (System.run ⟨k, fun _ => .free⟩ [.spawn (.program 0), .spawn (.program 1), .schedule, .lock 0,
          .enterSection, .tick, .tick, .leaveSection, .lock 0, .unlock 0, .tick, .exit 0,
          .exit 0]).toOption.any fun out =>
            decide (out.2.kernel.sched.port.switches =
              [(0, 1), (1, 2), (2, 1), (1, 2), (2, 1), (1, 2), (2, 0)])) = true := by
    decide +kernel
  obtain ⟨k, booted, runs⟩ := Kernel.exists_of_boot runs
  obtain ⟨⟨replies, s⟩, run, record⟩ := Checked.exists_of_any runs
  have journey : Journey ⟨k, fun _ => .free⟩ s := (Journey.start _).of_run run
  obtain ⟨switches, leads, kept, -⟩ := leads_of_journey booted rfl journey
  exact ⟨k, s, switches, booted, journey, of_decide_eq_true record, leads, kept⟩

end System

end Rtos

import Rtos.Proofs.Kernel.Listeners
import Rtos.Proofs.System.Resuming

/-!
# Listeners serve once

A call that tells its caller to wait for an event has registered a listener, and the listener is
gone when the caller runs again (`System.OneShot`).  So a task has at most one listener of a kind,
and tasks that wait again and again find room for it.

The idle task is an exception.  A pass that finds nobody else to run resumes it although it waits,
and its listener stays on the list for good.  Eight waits fill the list, and then every wait has to
poll (`idle_fills_list_host`).
-/

namespace Rtos

/-- The kind of events that a wait is for. -/
def Wait.kind? : Wait → Option EventKind
  | .mutex _ => none
  | .device _ => some .device
  | .child _ => some .task

namespace Observation

/-- The kind of events for which the caller was told to wait. -/
def listens? (o : Observation) : Option EventKind :=
  (o.call.wait? o.reply).bind Wait.kind?

/-- The kind of events for which the caller was told to poll. -/
def polls? (o : Observation) : Option EventKind :=
  match o.reply with
  | .child .polling => some .task
  | .device .polling => some .device
  | _ => none

end Observation

namespace System

variable {π : Type} [Port π] {s s' : System π} {call : Call} {reply : Reply}
  {log : List Observation} {kind : EventKind} {sub : Subscription KernelListener}

/-- Whoever is listed is so for a call that told it to wait, and has not run since; the idle task may
have. -/
structure OneShot (s : System π) (log : List Observation) : Prop where
  /-- A listener belongs to a task that a call told to wait. Unless it is the idle task, it has made
  no call since, and does not run now. -/
  unresumed : ∀ {kind}, ∀ sub ∈ s.kernel.bus.registry.lists.get kind,
    ∃ newer o older, log = newer ++ o :: older ∧ o.caller = sub.extra ∧ o.listens? = some kind ∧
      (sub.extra ≠ idlePid →
        s.kernel.current ≠ sub.extra ∧ ∀ later ∈ newer, later.caller ≠ sub.extra)
  /-- Unless it is the idle task, it is parked for an event of the kind; so it has not exited. -/
  parked : ∀ {kind}, ∀ sub ∈ s.kernel.bus.registry.lists.get kind, sub.extra ≠ idlePid →
    ∃ t, s.kernel.sched.task? sub.extra = some t ∧ kind.waiting? = some t.state
  /-- A task other than the idle one has at most one listener of a kind. -/
  single : ∀ kind pid, pid ≠ idlePid →
    (s.kernel.bus.registry.lists.get kind).countP (·.extra = pid) ≤ 1
  /-- A list that the idle task was never told to wait on has room for another listener, so no call
  polls. -/
  room : ∀ kind, (∀ o ∈ log, o.caller = idlePid → o.listens? ≠ some kind) →
    (s.kernel.bus.registry.lists.get kind).length < maxListeners ∧
      ∀ {call reply s'}, s.step call = .ok (reply, s') →
        Observation.polls? ⟨s.kernel.current, call, reply⟩ ≠ some kind

/-! ## One call -/

/-- Who is listed behind a call was listed before, or is the caller, which was told to wait. -/
theorem listed_step (healthy : s.Healthy) (step : s.step call = .ok (reply, s'))
    (listed : sub ∈ s'.kernel.bus.registry.lists.get kind) :
    sub ∈ s.kernel.bus.registry.lists.get kind ∨
      sub.extra = s.kernel.current ∧
        Observation.listens? ⟨s.kernel.current, call, reply⟩ = some kind := by
  have operates := operates_step healthy.sound healthy.settled step
  rcases operates.listed_back healthy.sound listed with old | ⟨state, waits, parks⟩
  · exact .inl old
  · -- what parks is the body of a wait, which answers that the caller waits
    have quiet {P : Label → Prop} (operates : Kernel.Operates P [] [] s.kernel s'.kernel)
        (silent : ∀ state, ¬P (.parks sub.extra state)) :
        sub ∈ s.kernel.bus.registry.lists.get kind :=
      (operates.listed_back healthy.sound listed).resolve_right fun ⟨state, _, parks⟩ =>
        silent state parks
    obtain ⟨extra, ⟨filter, options, rfl, rfl⟩ | ⟨millis, rfl, rfl⟩ | ⟨id, rfl, rfl⟩ |
      ⟨device, direction, rfl, rfl⟩⟩ := Call.parks_of_labels parks
    · have eq : kind = .task := by cases kind <;> cases waits; rfl
      obtain ⟨result, wait, answer, -⟩ := request_eq_ok (f := (·.waitChild filter options)) step
      obtain ⟨t, slot, running⟩ := healthy.settled
      cases Kernel.waitChild_eq_ok healthy.sound healthy.settled slot wait with
      | reaps found rest moves =>
        refine .inl (quiet (.still moves ?_ healthy.sound healthy.settled) ?_)
        · rintro label (rfl | rfl) <;> rfl
        · rintro state (quiet | reaps)
          · cases quiet
          · cases reaps
      | goesOn unrecorded unfinished operates =>
        exact .inl (quiet operates fun state quiet => by cases quiet)
      | parks =>
        rw [answer, eq]
        exact .inr ⟨extra, rfl⟩
    · cases kind <;> cases waits
    · cases kind <;> cases waits
    · have eq : kind = .device := by cases kind <;> cases waits; rfl
      obtain ⟨result, wait, answer, -⟩ := request_eq_ok (f := (·.waitDevice device direction)) step
      rcases Kernel.waitDevice_eq_ok healthy.sound healthy.settled wait with
        ⟨-, operates⟩ | ⟨rfl, -⟩
      · exact .inl (quiet operates fun state quiet => by cases quiet)
      · rw [answer, eq]
        exact .inr ⟨extra, rfl⟩

omit [Port π] in
theorem polls_of_request {α : Type} {f : Kernel π → Checked (Except Error α × Kernel π)}
    {of : α → Reply} (h : s.request f of = .ok (reply, s'))
    (polls : Observation.polls? ⟨s.kernel.current, call, reply⟩ = some kind) :
    ∃ a, f s.kernel = .ok (.ok a, s'.kernel) ∧
      Observation.polls? ⟨s.kernel.current, call, of a⟩ = some kind := by
  obtain ⟨result, operation, rfl, -⟩ := request_eq_ok h
  cases result with
  | error => cases polls
  | ok a => exact ⟨a, operation, polls⟩

/-- A call that polls finds the list of its kind full. -/
theorem full_of_polls (step : s.step call = .ok (reply, s'))
    (polls : Observation.polls? ⟨s.kernel.current, call, reply⟩ = some kind) :
    maxListeners ≤ (s.kernel.bus.registry.lists.get kind).length := by
  unfold System.step at step
  cases call with
  | waitChild filter options =>
    obtain ⟨progress, wait, polls⟩ := polls_of_request step polls
    cases progress <;> cases polls
    exact Kernel.full_of_waitChild_polling wait
  | waitDevice device direction =>
    obtain ⟨progress, wait, polls⟩ := polls_of_request step polls
    cases progress <;> cases polls
    exact Kernel.full_of_waitDevice_polling wait
  | spawn | exit | sleep | registerDevice | unregisterDevice | reportDevice | signalDevice
  | reportFile =>
    obtain ⟨_, -, polls⟩ := polls_of_request step polls
    cases polls
  | tick | schedule | yield | enterSection | leaveSection =>
    rw [(perform_eq_ok step).2.1] at polls
    cases polls
  | lock id =>
    obtain ⟨⟨result, mutex, kernel⟩, -, eq⟩ := Checked.bind_eq_ok.1 step
    cases eq
    cases result <;> cases polls
  | tryLock id =>
    cases step
    cases polls
  | unlock id =>
    obtain ⟨_, -, eq⟩ := Checked.bind_eq_ok.1 step
    cases eq
    cases polls

/-! ## Runs -/

/-- Whoever is listed was told to wait, and has not run since, unless it is the idle task. -/
structure Listening (s : System π) (log : List Observation) : Prop extends Healthy s where
  watched : s.kernel.Watched
  attended : s.kernel.Attended
  slots : ∀ {kind}, ∀ sub ∈ s.kernel.bus.registry.lists.get kind,
    ∃ t, s.kernel.sched.task? sub.extra = some t
  told : ∀ {kind}, ∀ sub ∈ s.kernel.bus.registry.lists.get kind,
    ∃ newer o older, log = newer ++ o :: older ∧ o.caller = sub.extra ∧ o.listens? = some kind ∧
      (sub.extra ≠ idlePid → ∀ later ∈ newer, later.caller ≠ sub.extra)

theorem listening_boot {port : π} {k : Kernel π} (booted : Kernel.boot port = .ok (.ok k))
    (mutexes : MutexId → Mutex) : Listening ⟨k, mutexes⟩ [] := by
  have empty (kind : EventKind) : k.bus.registry.lists.get kind = [] := by
    obtain ⟨_, _, -, _, _, _, -, -, -, -, -, rfl⟩ := Kernel.boot_eq_ok booted
    cases kind <;> rfl
  refine ⟨healthy_boot booted mutexes, Kernel.watched_boot booted, Kernel.attended_boot booted,
    ?_, ?_⟩
  · intro kind sub listed
    rw [empty kind] at listed
    cases listed
  · intro kind sub listed
    rw [empty kind] at listed
    cases listed

namespace Listening

omit [Port π] in
/-- A task that is listed does not run, unless it is the idle task. -/
theorem waiting (h : Listening s log) (listed : sub ∈ s.kernel.bus.registry.lists.get kind)
    (busy : sub.extra ≠ idlePid) : s.kernel.current ≠ sub.extra ∧
      ∃ t, s.kernel.sched.task? sub.extra = some t ∧ kind.waiting? = some t.state := by
  obtain ⟨t, slot⟩ := h.slots sub listed
  have waits := Kernel.waiting_of_listed h.sound h.watched h.attended slot busy listed
  refine ⟨fun runs => ?_, t, slot, waits⟩
  obtain ⟨t', slot', running⟩ := h.settled
  rw [runs] at slot'
  cases slot.symm.trans slot'
  rw [running] at waits
  cases kind <;> cases waits

theorem step (h : Listening s log) (step : s.step call = .ok (reply, s')) :
    Listening s' (⟨s.kernel.current, call, reply⟩ :: log) where
  toHealthy := h.toHealthy.step step
  watched := ((operates_step h.sound h.settled step).moves h.sound).watched h.sound h.watched
  attended := ((operates_step h.sound h.settled step).moves h.sound).attended h.sound h.attended
  slots {kind} sub listed := by
    apply Scheduler.exists_task?
    rcases listed_step h.toHealthy step listed with old | ⟨caller, -⟩
    · obtain ⟨t, slot⟩ := h.slots sub old
      exact Scheduler.lt_of_task? slot
    · obtain ⟨t, slot, -⟩ := h.settled
      rw [caller]
      exact Scheduler.lt_of_task? slot
  told {kind} sub listed := by
    rcases listed_step h.toHealthy step listed with old | ⟨caller, listens⟩
    · obtain ⟨newer, o, older, rfl, caller, listens, unresumed⟩ := h.told sub old
      refine ⟨_ :: newer, o, older, rfl, caller, listens, fun busy later mem => ?_⟩
      rcases List.mem_cons.1 mem with rfl | mem
      · exact (h.waiting old busy).1
      · exact unresumed busy later mem
    · exact ⟨[], _, log, rfl, caller.symm, listens, fun _ later mem => by cases mem⟩

theorem oneShot (h : Listening s log) : s.OneShot log where
  unresumed {kind} sub listed := by
    obtain ⟨newer, o, older, split, caller, listens, unresumed⟩ := h.told sub listed
    exact ⟨newer, o, older, split, caller, listens, fun busy =>
      ⟨(h.waiting listed busy).1, unresumed busy⟩⟩
  parked sub listed busy := (h.waiting listed busy).2
  single kind pid busy := by
    by_cases lt : pid < maxTasks
    · obtain ⟨t, slot⟩ := s.kernel.sched.exists_task? lt
      exact Kernel.countP_listed_le h.sound h.watched h.attended slot busy kind
    · rw [List.countP_eq_zero.2]
      · exact Nat.zero_le 1
      · intro sub listed extra
        obtain ⟨t, slot⟩ := h.slots sub listed
        rw [of_decide_eq_true extra] at slot
        exact lt (Scheduler.lt_of_task? slot)
  room kind untold := by
    have busy (sub) (listed : sub ∈ s.kernel.bus.registry.lists.get kind) :
        sub.extra ≠ idlePid := by
      intro idle
      obtain ⟨newer, o, older, rfl, caller, listens, -⟩ := h.told sub listed
      exact untold o (by simp) (caller.trans idle) listens
    have room := Kernel.length_listed_lt h.sound h.watched h.attended h.slots busy
    refine ⟨room, fun step polls => ?_⟩
    exact absurd (full_of_polls step polls) (Nat.not_le_of_lt room)

end Listening

/-- Whatever calls are made on a kernel that was just built, listeners serve once. -/
theorem oneShot_of_record {port : π} {k : Kernel π} {mutexes : MutexId → Mutex}
    {calls : List Call} (booted : Kernel.boot port = .ok (.ok k))
    (run : System.record ⟨k, mutexes⟩ [] calls = .ok (log, s)) : s.OneShot log := by
  have h : Listening s log := record_keeps (I := fun log s => Listening s log) Listening.step
    (listening_boot booted mutexes) run
  exact h.oneShot

/-- A run that leaves one task waiting for a device and its parent waiting for a child. -/
theorem oneShot_of_record_host : ∃ k log s, Kernel.boot (HostPort.new false) = .ok (.ok k) ∧
    System.record ⟨k, fun _ => .free⟩ [] [.registerDevice, .spawn (.program 0), .schedule,
      .spawn (.program 1), .waitChild .any .empty, .schedule, .waitDevice 0 DeviceFlags.rx] =
        .ok (log, s) ∧
    (s.kernel.bus.registry.lists.task.map (·.extra) = [1] ∧
      s.kernel.bus.registry.lists.device.map (·.extra) = [2] ∧ s.kernel.current = idlePid) ∧
    s.OneShot log := by
  have runs : (((Kernel.boot (HostPort.new false)).toOption.bind Except.toOption).any fun k =>
        (System.record ⟨k, fun _ => .free⟩ [] [.registerDevice, .spawn (.program 0), .schedule,
          .spawn (.program 1), .waitChild .any .empty, .schedule,
          .waitDevice 0 DeviceFlags.rx]).toOption.any fun out =>
            out.2.kernel.bus.registry.lists.task.map (·.extra) = [1] ∧
              out.2.kernel.bus.registry.lists.device.map (·.extra) = [2] ∧
              out.2.kernel.current = idlePid) = true := by
    decide +kernel
  obtain ⟨k, booted, runs⟩ := Kernel.exists_of_boot runs
  obtain ⟨⟨log, s⟩, run, seen⟩ := Checked.exists_of_any runs
  exact ⟨k, log, s, booted, run, of_decide_eq_true seen, oneShot_of_record booted run⟩

/-- The idle task waits for a child eight times, and each time it is resumed while its listener
stays. Then it is told to poll. -/
theorem idle_fills_list_host : ∃ k log s s', Kernel.boot (HostPort.new false) = .ok (.ok k) ∧
    System.record ⟨k, fun _ => .free⟩ [] ((List.replicate maxListeners
      [.spawn (.program 0), .waitChild .any .empty, .exit 0]).flatten ++
        [.spawn (.program 0)]) = .ok (log, s) ∧
    (s.kernel.current = idlePid ∧ s.kernel.taskState? idlePid = some .running ∧
      s.kernel.bus.registry.lists.task.map (·.extra) = List.replicate maxListeners idlePid) ∧
    s.step (.waitChild .any .empty) = .ok (.child .polling, s') := by
  have runs : (((Kernel.boot (HostPort.new false)).toOption.bind Except.toOption).any fun k =>
        (System.record ⟨k, fun _ => .free⟩ [] ((List.replicate maxListeners
          [.spawn (.program 0), .waitChild .any .empty, .exit 0]).flatten ++
            [.spawn (.program 0)])).toOption.any fun out =>
              (out.2.kernel.current = idlePid ∧
                out.2.kernel.taskState? idlePid = some .running ∧
                out.2.kernel.bus.registry.lists.task.map (·.extra) =
                  List.replicate maxListeners idlePid) ∧
              (out.2.step (.waitChild .any .empty)).toOption.any fun next =>
                next.1 = .child .polling) = true := by
    decide +kernel
  obtain ⟨k, booted, runs⟩ := Kernel.exists_of_boot runs
  obtain ⟨⟨log, s⟩, run, seen⟩ := Checked.exists_of_any runs
  obtain ⟨listed, next⟩ := of_decide_eq_true seen
  obtain ⟨⟨reply, s'⟩, step, polls⟩ := Checked.exists_of_any next
  obtain rfl := of_decide_eq_true polls
  exact ⟨k, log, s, s', booted, run, listed, step⟩

end System

end Rtos

import Rtos.Proofs.System.Listeners

/-!
# Room for those who wait

A wait queue and a list of listeners have as many places as the task table has slots.  Who stands in
one is a parked task other than the idle one, once, and the caller itself is not parked; so there is
always a place left, and nobody is told to spin or to poll (`System.Headroom`).

The idle task must not wait itself: a pass that finds nobody else resumes it while it is still
listed (`idle_fills_list_host`).  A kernel with listeners beside its own is not considered either.
-/

namespace Rtos

/-- An answer that makes the caller burn its turns: to spin on a mutex, or to poll for an event. -/
def Reply.Degraded : Reply → Prop
  | .locked .spin | .child .polling | .device .polling => True
  | _ => False

/-- The idle task was never told to wait. -/
def Observation.IdleRuns (log : List Observation) : Prop :=
  ∀ o ∈ log, o.caller = idlePid → o.call.wait? o.reply = none

/-- A task that is told to spin finds the wait queue full. -/
theorem Kernel.full_of_lock_spin {π : Type} [Port π] {k k' : Kernel π} {m m' : Mutex}
    (h : k.lock m = .ok (.ok .spin, m', k')) : m.waiters.items.length = mutexWaiters := by
  cases LockStep.of_eq_ok h with
  | spins _ full => exact Fifo.push?_eq_none.1 full

namespace System

variable {π : Type} [Port π] {s s' : System π} {call : Call} {reply : Reply} {id : MutexId}
  {kind : EventKind} {log : List Observation}

/-- There is a place left wherever tasks wait, so every wait parks its caller. -/
structure Headroom (s : System π) (log : List Observation) : Prop where
  /-- Nobody stands twice in a wait queue. -/
  distinct : ∀ id, (s.mutexes id).waiters.items.Nodup
  /-- A wait queue has a place left. -/
  queues : ∀ id, (s.mutexes id).waiters.items.length < mutexWaiters
  /-- A list of listeners has a place left. -/
  lists : ∀ kind, (s.kernel.bus.registry.lists.get kind).length < maxListeners
  /-- No call was told to spin or to poll. -/
  answered : ∀ o ∈ log, ¬o.reply.Degraded
  /-- The next call is not told so. -/
  answer : ∀ {call reply s'}, s.step call = .ok (reply, s') → ¬reply.Degraded

theorem full_of_spins (step : s.step call = .ok (.locked .spin, s')) :
    ∃ id, (s.mutexes id).waiters.items.length = mutexWaiters := by
  unfold System.step at step
  cases call with
  | lock id =>
    obtain ⟨⟨result, mutex, kernel⟩, lock, eq⟩ := Checked.bind_eq_ok.1 step
    cases result with
    | error e => cases eq
    | ok progress =>
      cases eq
      exact ⟨id, Kernel.full_of_lock_spin lock⟩
  | tryLock id => cases step
  | unlock id =>
    obtain ⟨_, -, eq⟩ := Checked.bind_eq_ok.1 step
    cases eq
  | tick | schedule | yield | enterSection | leaveSection => cases (perform_eq_ok step).2.1
  | spawn | exit | sleep | waitChild | registerDevice | unregisterDevice | reportDevice
  | signalDevice | reportFile | waitDevice =>
    obtain ⟨result, -, eq, -⟩ := request_eq_ok step
    cases result <;> cases eq

/-- Where there are places left nobody is told to spin or to poll. -/
theorem not_degraded (queues : ∀ id, (s.mutexes id).waiters.items.length < mutexWaiters)
    (lists : ∀ kind, (s.kernel.bus.registry.lists.get kind).length < maxListeners)
    (step : s.step call = .ok (reply, s')) : ¬reply.Degraded := by
  intro degraded
  have polls {kind : EventKind}
      (polls : Observation.polls? ⟨s.kernel.current, call, reply⟩ = some kind) : False :=
    absurd (full_of_polls step polls) (Nat.not_le_of_lt (lists kind))
  unfold Reply.Degraded at degraded
  split at degraded
  case h_1 =>
    obtain ⟨id, full⟩ := full_of_spins step
    exact absurd full (Nat.ne_of_lt (queues id))
  case h_2 => exact polls rfl
  case h_3 => exact polls rfl
  case h_4 => exact degraded

/-! ## Runs -/

/-- Whoever stands in a queue or on a list is a parked task, or the idle one, which was told to
wait. -/
structure Waiting (s : System π) (log : List Observation) : Prop where
  queued : Queued s
  listening : Listening s log
  told : ∀ {id}, idlePid ∈ (s.mutexes id).waiters.items → ¬Observation.IdleRuns log
  answered : Observation.IdleRuns log → ∀ o ∈ log, ¬o.reply.Degraded

theorem waiting_boot {port : π} {k : Kernel π} (booted : Kernel.boot port = .ok (.ok k)) :
    Waiting ⟨k, fun _ => .free⟩ [] where
  queued := queued_boot booted
  listening := listening_boot booted _
  told := nofun
  answered _ := nofun

namespace Waiting

omit [Port π] in
/-- A wait queue holds a task once. -/
theorem distinct (h : Waiting s log) (runs : Observation.IdleRuns log) (id : MutexId) :
    (s.mutexes id).waiters.items.Nodup := by
  apply List.nodup_iff_count_le_one.2
  intro pid
  by_cases idle : pid = idlePid
  · subst idle
    rw [List.count_eq_zero.2 fun mem => h.told mem runs]
    exact Nat.zero_le 1
  · exact h.queued.once idle id

omit [Port π] in
/-- Those who wait for a mutex are tasks beside the idle one, so there are fewer than places. -/
theorem queues (h : Waiting s log) (runs : Observation.IdleRuns log) (id : MutexId) :
    (s.mutexes id).waiters.items.length < mutexWaiters := by
  apply length_lt_maxTasks (h.distinct runs id)
  intro pid mem
  have busy : pid ≠ idlePid := by
    rintro rfl
    exact h.told mem runs
  obtain ⟨t, slot, -⟩ := h.queued.parked busy mem
  exact ⟨busy, Scheduler.lt_of_task? slot⟩

/-- Those who listen for events of a kind are tasks beside the idle one, so there are fewer than places.
-/
theorem lists (h : Waiting s log) (runs : Observation.IdleRuns log) (kind : EventKind) :
    (s.kernel.bus.registry.lists.get kind).length < maxListeners := by
  apply (h.listening.oneShot.room kind _).1
  intro o mem idle listens
  rw [Observation.listens?, runs o mem idle] at listens
  cases listens

theorem headroom (h : Waiting s log) (runs : Observation.IdleRuns log) : s.Headroom log where
  distinct := h.distinct runs
  queues := h.queues runs
  lists := h.lists runs
  answered := h.answered runs
  answer := not_degraded (h.queues runs) (h.lists runs)

theorem step (h : Waiting s log) (step : s.step call = .ok (reply, s')) :
    Waiting s' (⟨s.kernel.current, call, reply⟩ :: log) where
  queued := h.queued.step step
  listening := h.listening.step step
  told {id} mem runs := by
    rcases (mutex_step h.queued.sound h.queued.settled step id).mem_waiters mem with
      old | ⟨parks, idle⟩
    · exact h.told old fun o seen => runs o (List.mem_cons_of_mem _ seen)
    · -- the idle task has joined the queue just now, so it was told to wait
      rcases Observation.event?_eq_some parks with eq | ⟨-, rfl, rfl⟩ | ⟨eq, -⟩
      · cases eq
      · cases runs _ List.mem_cons_self idle.symm
      · cases eq
  answered runs o seen := by
    have before : Observation.IdleRuns log := fun o seen => runs o (List.mem_cons_of_mem _ seen)
    rcases List.mem_cons.1 seen with rfl | seen
    · exact (h.headroom before).answer step
    · exact h.answered before o seen

end Waiting

/-- As long as the idle task does not wait, every wait on a kernel that was just built parks its
caller, whatever calls are made and in which order: there is always a place left. -/
theorem headroom_of_record {port : π} {k : Kernel π} {calls : List Call}
    (booted : Kernel.boot port = .ok (.ok k))
    (run : System.record ⟨k, fun _ => .free⟩ [] calls = .ok (log, s))
    (runs : Observation.IdleRuns log) : s.Headroom log := by
  have h : Waiting s log := record_keeps (I := fun log s => Waiting s log) Waiting.step
    (waiting_boot booted) run
  exact h.headroom runs

/-- A run in which the idle task takes a mutex and every other task that there can be queues up
for it. -/
theorem headroom_of_record_host : ∃ k log s, Kernel.boot (HostPort.new false) = .ok (.ok k) ∧
    System.record ⟨k, fun _ => .free⟩ [] (.lock 0 ::
      (List.replicate (maxTasks - 1) (.spawn (.program 0)) ++
        .schedule :: List.replicate (maxTasks - 1) (.lock 0))) = .ok (log, s) ∧
    Observation.IdleRuns log ∧
    ((s.mutexes 0).waiters.items = [1, 2, 3, 4, 5, 6, 7] ∧ s.kernel.current = idlePid) ∧
    s.Headroom log := by
  have runs : (((Kernel.boot (HostPort.new false)).toOption.bind Except.toOption).any fun k =>
        (System.record ⟨k, fun _ => .free⟩ [] (.lock 0 ::
          (List.replicate (maxTasks - 1) (.spawn (.program 0)) ++
            .schedule :: List.replicate (maxTasks - 1) (.lock 0)))).toOption.any fun out =>
              (∀ o ∈ out.1, o.caller = idlePid → o.call.wait? o.reply = none) ∧
              (out.2.mutexes 0).waiters.items = [1, 2, 3, 4, 5, 6, 7] ∧
              out.2.kernel.current = idlePid) = true := by
    decide +kernel
  obtain ⟨k, booted, runs⟩ := Kernel.exists_of_boot runs
  obtain ⟨⟨log, s⟩, run, seen⟩ := Checked.exists_of_any runs
  obtain ⟨idle, queue⟩ := of_decide_eq_true seen
  exact ⟨k, log, s, booted, run, idle, queue, headroom_of_record booted run idle⟩

end System

end Rtos

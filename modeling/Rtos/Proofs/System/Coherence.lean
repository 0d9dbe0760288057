import Rtos.Proofs.System.WaitQueues

/-!
# Coherent systems

What a task is doing is spread over its state, three fields of its slot, the lists of listeners and
the queues of the mutexes.  `Coherent` says how they agree, and `coherent_of_run` that they do in
every state between calls.
-/

namespace Rtos

namespace System

variable {π : Type}

/-- The task table, the listeners and the wait queues tell the same of every task. -/
structure Coherent (s : System π) : Prop where
  /-- The current task is in a taken slot, and runs. -/
  current : ∃ t, s.kernel.sched.task? s.kernel.current = some t ∧ t.active = true ∧
    t.state = .running
  /-- No other task runs. -/
  sole : ∀ {pid t}, s.kernel.sched.task? pid = some t → t.state = .running →
    pid = s.kernel.current
  /-- A taken slot holds its own number, an entity and a stack. -/
  taken : ∀ {pid t}, s.kernel.sched.task? pid = some t → t.active = true →
    t.pid = pid ∧ (∃ id, t.entity = some id) ∧ ∃ stack, t.stack = some stack
  /-- A free slot is blank. -/
  blank : ∀ {pid t}, s.kernel.sched.task? pid = some t → t.active = false → t = .empty
  /-- The idle task has not exited, and keeps no records. -/
  idle : ∃ t, s.kernel.sched.task? idlePid = some t ∧ t.state ≠ .dead ∧ t.unreaped.items = []
  /-- A dead task keeps no records. -/
  cleared : ∀ {pid t}, s.kernel.sched.task? pid = some t → t.state = .dead → t.unreaped.items = []
  /-- A record is of a dead child of the task that keeps it. -/
  recorded : ∀ {pid t r}, s.kernel.sched.task? pid = some t → r ∈ t.unreaped.items →
    ∃ c, s.kernel.sched.task? r.pid = some c ∧ c.active = true ∧ c.state = .dead ∧ c.parent = pid
  /-- A task waits for a device exactly while it knows which, and exactly while one listener is its
  own. -/
  device : ∀ {pid t}, pid ≠ idlePid → s.kernel.sched.task? pid = some t →
    (t.state = .awaitingDevice ↔ t.deviceWait.isSome = true) ∧
      (t.state = .awaitingDevice ↔
        s.kernel.bus.registry.lists.device.countP (·.extra = pid) = 1)
  /-- A task waits for a child exactly while it remembers a listener. -/
  child : ∀ {pid t}, pid ≠ idlePid → s.kernel.sched.task? pid = some t →
    (t.state = .awaitingChild ↔ t.exitListener.isSome = true)
  /-- A task waits for a mutex exactly while it stands in one queue, and there once. -/
  mutex : ∀ {pid t}, pid ≠ idlePid → s.kernel.sched.task? pid = some t →
    (t.state = .awaitingMutex ↔ ∃ id, (s.mutexes id).waiters.items.count pid = 1 ∧
      ∀ other, other ≠ id → pid ∉ (s.mutexes other).waiters.items)
  /-- A mutex that somebody waits for is locked. -/
  locked : ∀ id, (s.mutexes id).waiters.items ≠ [] → (s.mutexes id).locked = true

variable [Port π] [DeferringPort π] {s s' : System π} {call : Call} {reply : Reply}

/-- What makes a system coherent, each kept by every call. -/
structure Orderly (s : System π) : Prop where
  /-- Who is parked for a mutex waits in a queue. -/
  queued : s.Queued
  /-- Nothing runs but the current task, and free slots are blank. -/
  tidy : s.kernel.sched.Tidy
  /-- Slots are regular. -/
  regular : s.kernel.Regular
  /-- Who waits for a device is listed for reports. -/
  watched : s.kernel.Watched
  /-- Who waits for a child is listed for exits. -/
  attended : s.kernel.Attended

omit [DeferringPort π] in
theorem orderly_boot {port : π} {k : Kernel π} (booted : Kernel.boot port = .ok (.ok k)) :
    Orderly ⟨k, fun _ => .free⟩ :=
  ⟨queued_boot booted, Kernel.tidy_boot booted, Kernel.regular_boot booted,
    Kernel.watched_boot booted, Kernel.attended_boot booted⟩

namespace Orderly

theorem tidy_step (h : Orderly s) (step : s.step call = .ok (reply, s')) :
    s'.kernel.sched.Tidy := by
  by_cases unlocks : ∃ id, call = .unlock id
  · obtain ⟨id, rfl⟩ := unlocks
    obtain ⟨⟨mutex, kernel⟩, unlock, eq⟩ := Checked.bind_eq_ok.1 step
    cases eq
    exact Kernel.tidy_unlock h.queued.sound h.queued.settled h.tidy unlock
  · refine (operates_step h.queued.sound h.queued.settled step).tidy ?_ h.queued.sound h.tidy
    rintro label allowed rfl
    exact unlocks (Call.switches_of_labels allowed)

theorem step (h : Orderly s) (step : s.step call = .ok (reply, s')) : Orderly s' := by
  have moves := (operates_step h.queued.sound h.queued.settled step).moves h.queued.sound
  exact ⟨h.queued.step step, h.tidy_step step, moves.regular h.queued.sound h.regular,
    moves.watched h.queued.sound h.watched, moves.attended h.queued.sound h.attended⟩

theorem run {calls : List Call} {replies : List Reply} (h : Orderly s)
    (run : s.run calls = .ok (replies, s')) : Orderly s' :=
  run_keeps Orderly.step h run

omit [Port π] [DeferringPort π] in
/-- Who waits for a mutex stands in one queue, and there once. -/
theorem awaitingMutex_iff (h : Orderly s) {pid : Pid} {t : Task} (busy : pid ≠ idlePid)
    (slot : s.kernel.sched.task? pid = some t) :
    t.state = .awaitingMutex ↔ ∃ id, (s.mutexes id).waiters.items.count pid = 1 ∧
      ∀ other, other ≠ id → pid ∉ (s.mutexes other).waiters.items := by
  constructor
  · intro parked
    obtain ⟨id, mem⟩ := h.queued.listed busy ⟨t, slot, parked⟩
    refine ⟨id, ?_, fun other ne mem' => ne (h.queued.apart busy mem' mem)⟩
    have once := h.queued.once busy id
    have there : 0 < (s.mutexes id).waiters.items.count pid := List.count_pos_iff.2 mem
    omega
  · rintro ⟨id, once, -⟩
    have mem : pid ∈ (s.mutexes id).waiters.items := List.count_pos_iff.1 (by omega)
    obtain ⟨t', slot', parked⟩ := h.queued.parked busy mem
    cases slot.symm.trans slot'
    exact parked

omit [Port π] [DeferringPort π] in
/-- An orderly system is coherent. -/
theorem coherent (h : Orderly s) : s.Coherent where
  current := by
    obtain ⟨t, slot, running, alive⟩ := h.queued.settled.alive h.queued.sound
    exact ⟨t, slot, Task.active_of_alive alive, running⟩
  sole := h.tidy.sole
  taken {pid t} slot active := by
    obtain ⟨id, owns, -⟩ := h.queued.sound.linked.task slot active
    exact ⟨h.queued.sound.tasks.numbered slot active, ⟨id, owns⟩,
      (h.regular pid t slot).stack active⟩
  blank := h.tidy.blank
  idle := by
    obtain ⟨t, slot, alive⟩ := h.queued.sound.tasks.idle
    exact ⟨t, slot, Task.live_of_alive alive, (h.regular idlePid t slot).idle rfl⟩
  cleared := h.queued.sound.tasks.cleared
  recorded slot record := by
    obtain ⟨c, child, active, dead, parent, -⟩ := h.queued.sound.tasks.recorded slot record
    exact ⟨c, child, active, dead, parent⟩
  device {pid t} busy slot := by
    refine ⟨(h.regular pid t slot).wait busy, ?_⟩
    rw [h.watched pid t busy slot]
    split
    case isTrue parked => exact ⟨fun _ => rfl, fun _ => parked⟩
    case isFalse other => exact ⟨fun parked => absurd parked other, nofun⟩
  child {pid t} busy slot := by
    have listens := h.attended.listens busy slot
    constructor
    · intro parked
      obtain ⟨id, named, -⟩ := listens.of_parked parked
      rw [named]
      rfl
    · intro named
      by_contra other
      rw [(listens.of_other other).1] at named
      cases named
  mutex := h.awaitingMutex_iff
  locked := h.queued.locked

end Orderly

/-- Whatever calls are made on a kernel that was just built, with any mutexes, the system is
coherent. -/
theorem coherent_of_run {port : π} {k : Kernel π} {calls : List Call} {replies : List Reply}
    (booted : Kernel.boot port = .ok (.ok k))
    (run : System.run ⟨k, fun _ => .free⟩ calls = .ok (replies, s')) : s'.Coherent :=
  ((orderly_boot booted).run run).coherent

/-- A run that leaves one task waiting for a mutex, one for a device and one for a child. -/
theorem coherent_of_run_host : ∃ k replies s, Kernel.boot (HostPort.new false) = .ok (.ok k) ∧
    System.run ⟨k, fun _ => .free⟩ [.registerDevice, .tryLock 0, .spawn (.program 0),
      .spawn (.program 1), .spawn (.program 2), .schedule, .lock 0, .waitDevice 0 DeviceFlags.rx,
      .spawn (.program 3), .waitChild .any .empty] = .ok (replies, s) ∧
    (List.range 5).map s.kernel.taskState? = [some .ready, some .awaitingMutex,
      some .awaitingDevice, some .awaitingChild, some .running] ∧ s.Coherent := by
  have runs : (((Kernel.boot (HostPort.new false)).toOption.bind Except.toOption).any fun k =>
        (System.run ⟨k, fun _ => .free⟩ [.registerDevice, .tryLock 0, .spawn (.program 0),
          .spawn (.program 1), .spawn (.program 2), .schedule, .lock 0,
          .waitDevice 0 DeviceFlags.rx, .spawn (.program 3),
          .waitChild .any .empty]).toOption.any fun out =>
            (List.range 5).map out.2.kernel.taskState? = [some .ready, some .awaitingMutex,
              some .awaitingDevice, some .awaitingChild, some .running]) = true := by
    decide +kernel
  obtain ⟨k, booted, runs⟩ := Kernel.exists_of_boot runs
  obtain ⟨⟨replies, s⟩, run, states⟩ := Checked.exists_of_any runs
  exact ⟨k, replies, s, booted, run, by simpa using states, coherent_of_run booted run⟩

end System

end Rtos

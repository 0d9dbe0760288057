import Rtos.Proofs.System.MutexStep

/-!
# Mutexes as locks with a queue

A mutex keeps no owner: it is a flag that stays set while the mutex is handed from one task to the
next, and a queue of parked tasks.  Its callers see a lock that has an owner and serves those who
wait in the order of their arrival (`FifoLock`).  `FairRun.refines_fifoLock` says so for every run
in which only owners unlock, and the idle task, which nothing can park, does not ask for a held
mutex.
-/

namespace Rtos

/-! ## Fair runs -/

namespace System

variable {π : Type} [Port π]

/-- The calls of well-behaved programs: only the owner of a mutex unlocks it, and the idle task does
not ask for a held one. -/
def Fair (s : System π) (log : List Observation) : Call → Prop
  | .unlock id => (Observation.lock id log).owner = some s.kernel.current
  | .lock id => s.kernel.current = idlePid → (s.mutexes id).locked = false
  | _ => True

instance (s : System π) (log : List Observation) : DecidablePred (s.Fair log) := fun call =>
  match call with
  | .unlock id =>
    inferInstanceAs (Decidable ((Observation.lock id log).owner = some s.kernel.current))
  | .lock id =>
    inferInstanceAs (Decidable (s.kernel.current = idlePid → (s.mutexes id).locked = false))
  | .spawn _ | .exit _ | .waitChild _ _ | .sleep _ | .tick | .schedule | .yield | .enterSection
  | .leaveSection | .tryLock _ | .registerDevice | .unregisterDevice _ | .reportDevice _ _
  | .signalDevice _ _ | .reportFile _ _ | .waitDevice _ _ => .isTrue trivial

/-- A run of fair calls, with the log of what its callers saw, newest first. -/
inductive FairRun (start : System π) : List Observation → System π → Prop
  /-- Nothing was called yet. -/
  | refl : FairRun start [] start
  /-- Another call. -/
  | call {log s s' call reply} (before : FairRun start log s) (fair : s.Fair log call)
      (step : s.step call = .ok (reply, s')) :
      FairRun start (⟨s.kernel.current, call, reply⟩ :: log) s'

/-- A mutex is the lock that its callers see. -/
structure Refines (s : System π) (log : List Observation) (id : MutexId) : Prop where
  /-- It is locked exactly while it has an owner. -/
  locked : (s.mutexes id).locked = (Observation.lock id log).owner.isSome
  /-- Its queue holds those who wait. -/
  waiting : (s.mutexes id).waiters.items = (Observation.lock id log).waiting
  /-- Those who were told to wait got it, or wait for it, in the order in which they were told. -/
  order : Observation.parked id log =
    (Observation.lock id log).served ++ (Observation.lock id log).waiting
  /-- Who waits is parked. -/
  parked : ∀ pid ∈ (s.mutexes id).waiters.items,
    s.kernel.taskState? pid = some .awaitingMutex ∧ pid ≠ s.kernel.current
  /-- A task becomes its owner by an attempt or a lock that succeeds, or by an unlock that takes the
  task off the queue; in no other way. -/
  becomes : ∀ {call reply s' pid}, s.step call = .ok (reply, s') →
    (Observation.lock id log).owner ≠ some pid →
    ((Observation.lock id (⟨s.kernel.current, call, reply⟩ :: log)).owner = some pid ↔
      (pid = s.kernel.current ∧ (call = .tryLock id ∧ reply = .taken true ∨
        call = .lock id ∧ reply = .locked .acquired)) ∨
      (call = .unlock id ∧ (s.mutexes id).waiters.items.head? = some pid))
  /-- Nobody takes it while it is owned or others wait for it. -/
  barred : ∀ {call reply s' pid}, s.step call = .ok (reply, s') →
    Observation.event? id ⟨s.kernel.current, call, reply⟩ = some (.takes pid) →
    (s.mutexes id).locked = false ∧ (s.mutexes id).waiters.items = []
  /-- Whatever happens to it next may happen to a lock. -/
  allowed : ∀ {call reply s' event}, s.Fair log call → s.step call = .ok (reply, s') →
    Observation.event? id ⟨s.kernel.current, call, reply⟩ = some event →
    (Observation.lock id log).Allows event
  /-- Its owner can unlock it, which resumes the oldest of those who wait. -/
  unlock : (Observation.lock id log).owner = some s.kernel.current →
    ∃ s', s.step (.unlock id) = .ok (.done, s') ∧
      ∀ pid rest, (s.mutexes id).waiters.items = pid :: rest →
        (s'.mutexes id).waiters.items = rest ∧
          s'.kernel.taskState? pid =
            some (if 0 < s.kernel.sched.sectionDepth then .ready else .running)

end System

/-! ## Every run -/

namespace System

variable {π : Type} [Port π] {s s' : System π} {call : Call} {reply : Reply} {id other : MutexId}
  {log : List Observation} {pid : Pid}

/-- Mutexes are locks, and those who wait are parked, each for one mutex. -/
structure Locking (s : System π) (log : List Observation) : Prop where
  healthy : s.Healthy
  is : ∀ id, (s.mutexes id).Is (Observation.lock id log)
  awaits : ∀ {id pid}, pid ∈ (s.mutexes id).waiters.items →
    s.kernel.AwaitsMutex pid ∧ pid ≠ idlePid
  distinct : ∀ id, (s.mutexes id).waiters.items.Nodup
  apart : ∀ {id other pid}, pid ∈ (s.mutexes id).waiters.items →
    pid ∈ (s.mutexes other).waiters.items → id = other

theorem locking_boot {port : π} {k : Kernel π} (booted : Kernel.boot port = .ok (.ok k)) :
    Locking ⟨k, fun _ => .free⟩ [] where
  healthy := healthy_boot booted _
  is _ := ⟨rfl, rfl, fun _ => rfl⟩
  awaits := nofun
  distinct _ := List.nodup_nil
  apart := nofun

namespace Locking

omit [Port π] in
theorem current_not_waiting (h : Locking s log) :
    s.kernel.current ∉ (s.mutexes id).waiters.items := by
  intro mem
  obtain ⟨⟨t, slot, parked⟩, -⟩ := h.awaits mem
  obtain ⟨t', slot', running⟩ := h.healthy.settled
  cases slot.symm.trans slot'
  cases parked.symm.trans running

theorem awaits_step (h : Locking s log) (fair : s.Fair log call)
    (step : s.step call = .ok (reply, s')) (mem : pid ∈ (s'.mutexes id).waiters.items) :
    s'.kernel.AwaitsMutex pid ∧ pid ≠ idlePid := by
  have sound := h.healthy.sound
  have settled := h.healthy.settled
  have mutex := mutex_step sound settled step id
  rcases mutex.mem_waiters mem with old | ⟨parks, rfl⟩
  · obtain ⟨parked, busy⟩ := h.awaits old
    refine ⟨awaitsMutex_step sound settled step parked busy ?_, busy⟩
    -- the oldest waiter of an unlocked mutex leaves its queue, and stands in no other
    rintro other rfl head
    obtain rfl := h.apart old (List.mem_of_mem_head? head)
    obtain ⟨rest, waiters⟩ := List.head?_eq_some_iff.1 head
    rw [Observation.event?_eq_unlocks.2 ⟨rfl, rfl, reply_unlock step⟩] at mutex
    have distinct := h.distinct id
    rw [mutex.waiters_of_unlocks, waiters] at mem
    rw [waiters, List.nodup_cons] at distinct
    exact distinct.1 mem
  · obtain eq | ⟨-, rfl, rfl⟩ | ⟨eq, -⟩ := Observation.event?_eq_some parks
    · cases eq
    · have busy : s.kernel.current ≠ idlePid := by
        intro idle
        rw [parks] at mutex
        cases (fair idle).symm.trans mutex.locked_of_parks
      exact ⟨awaitsMutex_of_parked sound settled step busy, busy⟩
    · cases eq

/-- A fair call keeps mutexes locks. -/
theorem step (h : Locking s log) (fair : s.Fair log call)
    (step : s.step call = .ok (reply, s')) :
    Locking s' (⟨s.kernel.current, call, reply⟩ :: log) where
  healthy := h.healthy.step step
  is id := (mutex_step h.healthy.sound h.healthy.settled step id).is_lock (h.is id)
  awaits := h.awaits_step fair step
  distinct id := (mutex_step h.healthy.sound h.healthy.settled step id).nodup_waiters
    h.current_not_waiting (h.distinct id)
  apart {id other pid} mem mem' := by
    have mutex (id : MutexId) := mutex_step h.healthy.sound h.healthy.settled step id
    rcases (mutex id).mem_waiters mem with old | ⟨parks, rfl⟩
    · rcases (mutex other).mem_waiters mem' with old' | ⟨-, rfl⟩
      · exact h.apart old old'
      · exact absurd old h.current_not_waiting
    · rcases (mutex other).mem_waiters mem' with old' | ⟨parks', -⟩
      · exact absurd old' h.current_not_waiting
      · obtain eq | ⟨-, rfl, -⟩ | ⟨eq, -⟩ := Observation.event?_eq_some parks
        · cases eq
        · obtain eq | ⟨-, same, -⟩ | ⟨eq, -⟩ := Observation.event?_eq_some parks'
          · cases eq
          · exact Call.lock.inj same
          · cases eq
        · cases eq

omit [Port π] in
theorem taskState?_of_mem (h : Locking s log) (mem : pid ∈ (s.mutexes id).waiters.items) :
    s.kernel.taskState? pid = some .awaitingMutex := by
  obtain ⟨⟨t, slot, parked⟩, -⟩ := h.awaits mem
  have active := h.healthy.sound.tasks.active slot (by rw [parked]; nofun)
  exact Kernel.taskState?_eq_some.2 ⟨t, slot, active, parked⟩

/-- Unlocking a mutex that is held goes through. -/
theorem unlock_total (h : Locking s log) (held : (s.mutexes id).locked = true) :
    ∃ m k, s.kernel.unlock (s.mutexes id) = .ok (m, k) := by
  unfold Kernel.unlock
  rw [held]
  dsimp only [Bool.not_true]
  rw [if_neg nofun]
  split
  case h_1 => exact ⟨_, _, rfl⟩
  case h_2 first waiters popped =>
    have mem : first ∈ (s.mutexes id).waiters.items := by
      rw [Fifo.pop?_eq_some.1 popped]
      exact List.mem_cons_self
    rw [if_pos (h.taskState?_of_mem mem)]
    obtain ⟨t, current, -⟩ := h.healthy.settled
    obtain ⟨⟨u, slot, -⟩, -⟩ := h.awaits mem
    obtain ⟨sched, handOff⟩ := s.kernel.sched.handOff_total (Scheduler.lt_of_task? current)
      (Scheduler.lt_of_task? slot)
    rw [handOff]
    exact ⟨_, _, rfl⟩

theorem unlock (h : Locking s log)
    (owner : (Observation.lock id log).owner = some s.kernel.current) :
    ∃ s', s.step (.unlock id) = .ok (.done, s') ∧
      ∀ pid rest, (s.mutexes id).waiters.items = pid :: rest →
        (s'.mutexes id).waiters.items = rest ∧
          s'.kernel.taskState? pid =
            some (if 0 < s.kernel.sched.sectionDepth then .ready else .running) := by
  have held : (s.mutexes id).locked = true := by rw [(h.is id).locked, owner]; rfl
  obtain ⟨m, k, unlock⟩ := h.unlock_total held
  have step : s.step (.unlock id) = .ok (.done, { s with kernel := k }.setMutex id m) := by
    simp only [System.step, unlock]
    rfl
  refine ⟨_, step, fun pid rest waiters => ?_⟩
  have after : (({ s with kernel := k } : System π).setMutex id m).mutexes id = m := if_pos rfl
  rw [after]
  obtain ⟨-, ⟨empty, -⟩ | ⟨first, leaves, -, grants, t, slot, resumed⟩⟩ :=
    Kernel.operates_unlock h.healthy.sound h.healthy.settled unlock
  · cases empty.symm.trans waiters
  · obtain ⟨rfl, rfl⟩ := List.cons.inj (leaves.symm.trans waiters)
    have sound := grants.sound h.healthy.sound
    have active := sound.tasks.active slot (by rw [resumed]; split <;> nofun)
    exact ⟨rfl, Kernel.taskState?_eq_some.2 ⟨t, slot, active, resumed⟩⟩

/-- How a task becomes the owner of a mutex. -/
theorem becomes (h : Locking s log) (step : s.step call = .ok (reply, s'))
    (other : (Observation.lock id log).owner ≠ some pid) :
    (Observation.lock id (⟨s.kernel.current, call, reply⟩ :: log)).owner = some pid ↔
      (pid = s.kernel.current ∧ (call = .tryLock id ∧ reply = .taken true ∨
        call = .lock id ∧ reply = .locked .acquired)) ∨
      (call = .unlock id ∧ (s.mutexes id).waiters.items.head? = some pid) := by
  rw [(h.is id).waiting]
  constructor
  · intro owns
    cases seen : Observation.event? id ⟨s.kernel.current, call, reply⟩ with
    | none => rw [Observation.lock_cons_of_none seen] at owns; exact absurd owns other
    | some event =>
      rw [Observation.lock_cons_of_some seen] at owns
      cases event with
      | takes q =>
        cases owns
        exact .inl (Observation.event?_eq_takes.1 seen)
      | parks q => exact absurd owns other
      | unlocks q =>
        refine .inr ⟨(Observation.event?_eq_unlocks.1 seen).2.1, ?_⟩
        simp only [FifoLock.next] at owns
        split at owns
        case h_1 => cases owns
        case h_2 first rest waiting => cases owns; rw [waiting]; rfl
  · rintro (⟨rfl, took⟩ | ⟨rfl, first⟩)
    · rw [Observation.lock_cons_of_some (Observation.event?_eq_takes.2 ⟨rfl, took⟩)]
      rfl
    · rw [Observation.lock_cons_of_some
        (Observation.event?_eq_unlocks.2 ⟨rfl, rfl, reply_unlock step⟩)]
      obtain ⟨rest, waiting⟩ := List.head?_eq_some_iff.1 first
      simp only [FifoLock.next, waiting]

/-- A mutex is the lock that its callers see. -/
theorem refines (h : Locking s log) (id : MutexId) : s.Refines log id where
  locked := (h.is id).locked
  waiting := (h.is id).waiting
  order := Observation.parked_eq id log
  parked pid mem := ⟨h.taskState?_of_mem mem, fun current => h.current_not_waiting (current ▸ mem)⟩
  becomes := h.becomes
  barred {call reply s' pid} step taken := by
    have mutex := mutex_step h.healthy.sound h.healthy.settled step id
    rw [taken] at mutex
    exact ⟨mutex.free_of_takes, (h.is id).waiting.trans ((h.is id).unowned mutex.free_of_takes).2⟩
  allowed {call reply s' event} fair step seen := by
    have mutex := mutex_step h.healthy.sound h.healthy.settled step id
    rw [seen] at mutex
    obtain rfl | ⟨rfl, -⟩ | ⟨rfl, rfl⟩ := Observation.event?_eq_some seen
    · exact (h.is id).unowned mutex.free_of_takes
    · refine ⟨fun unowned => ?_, ?_⟩
      · have held := mutex.locked_of_parks
        rw [(h.is id).locked, unowned] at held
        cases held
      · rw [← (h.is id).waiting]
        exact h.current_not_waiting
    · exact fair
  unlock := h.unlock

end Locking

/-- Carries out calls and keeps the log, as long as the calls are fair. -/
def runFair (s : System π) (log : List Observation) :
    List Call → Option (List Observation × System π)
  | [] => some (log, s)
  | call :: calls =>
    if s.Fair log call then
      match s.step call with
      | .ok (reply, s') => s'.runFair (⟨s.kernel.current, call, reply⟩ :: log) calls
      | .error _ => none
    else
      none

/-- What `runFair` carries out is a fair run. -/
theorem FairRun.of_runFair {start s s' : System π} {log log' : List Observation}
    {calls : List Call} (before : FairRun start log s)
    (h : s.runFair log calls = some (log', s')) : FairRun start log' s' := by
  induction calls generalizing s log with
  | nil => cases h; exact before
  | cons call calls ih =>
    unfold runFair at h
    split at h
    case isFalse => cases h
    case isTrue fair =>
      split at h
      case h_1 reply s₁ step => exact ih (before.call fair step) h
      case h_2 => cases h

/-- In every run in which only owners unlock, and the idle task does not ask for a held mutex, every
mutex is the lock that its callers see. -/
theorem FairRun.refines_fifoLock {port : π} {k : Kernel π} {log : List Observation} {s : System π}
    (booted : Kernel.boot port = .ok (.ok k)) (run : FairRun ⟨k, fun _ => .free⟩ log s)
    (id : MutexId) : s.Refines log id := by
  refine Locking.refines ?_ id
  induction run with
  | refl => exact locking_boot booted
  | call before fair step ih => exact ih.step fair step

/-- A run in which the first task unlocks inside an atomic section, and the second, which was
parked, gets the mutex. -/
theorem refines_fifoLock_host : ∃ k log s, Kernel.boot (HostPort.new false) = .ok (.ok k) ∧
    FairRun ⟨k, fun _ => .free⟩ log s ∧
    Observation.lock 0 log = ⟨some 2, [], [2]⟩ ∧ s.Refines log 0 := by
  have runs : (((Kernel.boot (HostPort.new false)).toOption.bind Except.toOption).any fun k =>
        (runFair ⟨k, fun _ => .free⟩ [] [.spawn (.program 0), .spawn (.program 1), .schedule,
          .lock 0, .schedule, .lock 0, .enterSection, .unlock 0, .tryLock 0]).any
            fun out => Observation.lock 0 out.1 = ⟨some 2, [], [2]⟩) = true := by decide +kernel
  obtain ⟨k, booted, runs⟩ := Kernel.exists_of_boot runs
  obtain ⟨⟨log, s⟩, fair, handed⟩ := (Option.any_eq_true _ _).1 runs
  have run := FairRun.of_runFair .refl fair
  exact ⟨k, log, s, booted, run, by simpa using handed, run.refines_fifoLock booted 0⟩

end System

end Rtos

import Rtos.Proofs.System.FifoLock
import Rtos.Proofs.System.Runs

/-!
# What a call does to a mutex

A call leaves a mutex alone, takes it, queues up for it or gives it up (`Mutex.Step`), and the lock
that callers see does the same.  Who is parked for a mutex stays parked until an unlock.
-/

namespace Rtos

/-- What a call of task `pid` does to a mutex. -/
inductive Mutex.Step (pid : Pid) (m : Mutex) : Option LockEvent → Mutex → Prop
  /-- Nothing. -/
  | rest : Step pid m none m
  /-- It is taken. -/
  | take (free : m.locked = false) : Step pid m (some (.takes pid)) { m with locked := true }
  /-- The caller joins the queue. -/
  | park {m' : Mutex} (held : m.locked = true) (held' : m'.locked = true)
      (joins : m'.waiters.items = m.waiters.items ++ [pid]) : Step pid m (some (.parks pid)) m'
  /-- It is given up. -/
  | release (held : m.locked = true) (empty : m.waiters.items = []) :
      Step pid m (some (.unlocks pid)) { m with locked := false }
  /-- It is handed to the oldest waiter. -/
  | handOver {m' : Mutex} {first : Pid} (held : m.locked = true) (held' : m'.locked = true)
      (leaves : m.waiters.items = first :: m'.waiters.items) :
      Step pid m (some (.unlocks pid)) m'

namespace System

variable {π : Type} [Port π] {s s' : System π} {call : Call} {reply : Reply} {id : MutexId}
  {log : List Observation} {pid : Pid}

omit [Port π] in
theorem mutexes_setMutex (s : System π) (other id : MutexId) (m : Mutex) :
    (s.setMutex other m).mutexes id = if id = other then m else s.mutexes id := rfl

/-- Every call is a `Mutex.Step` of every mutex. -/
theorem mutex_step (sound : Moment.Sound ⟨s.kernel, [], none⟩) (settled : s.kernel.Settled)
    (h : s.step call = .ok (reply, s')) (id : MutexId) :
    Mutex.Step s.kernel.current (s.mutexes id)
      (Observation.event? id ⟨s.kernel.current, call, reply⟩) (s'.mutexes id) := by
  unfold step at h
  cases call with
  | spawn | exit | waitChild | sleep | registerDevice | unregisterDevice | reportDevice
  | signalDevice | reportFile | waitDevice =>
    obtain ⟨result, -, -, same⟩ := request_eq_ok h
    rw [same]
    exact .rest
  | tick | schedule | yield | enterSection | leaveSection =>
    rw [(perform_eq_ok h).2.2]
    exact .rest
  | tryLock other =>
    cases h
    rw [mutexes_setMutex]
    split
    case isTrue eq =>
      subst eq
      cases locked : (s.mutexes id).locked with
      | false =>
        have take : Mutex.Step s.kernel.current _ _ _ := .take locked
        simpa [Observation.event?, Mutex.tryLock, locked] using take
      | true =>
        have same : (⟨true, (s.mutexes id).waiters⟩ : Mutex) = s.mutexes id := by
          rw [← locked]
        rw [same]
        simpa [Observation.event?, Mutex.tryLock, locked] using Mutex.Step.rest
    case isFalse ne =>
      cases (s.mutexes other).locked <;>
        simpa [Observation.event?, Ne.symm ne] using Mutex.Step.rest
  | lock other =>
    obtain ⟨⟨result, mutex, kernel⟩, lock, eq⟩ := Checked.bind_eq_ok.1 h
    cases eq
    rw [mutexes_setMutex]
    split
    case isTrue eq =>
      subst eq
      rcases Kernel.operates_lock sound settled lock with ⟨free, rfl, rfl, -⟩ |
        ⟨-, refused, rfl, -⟩ | ⟨held, rfl, held', joins, -⟩
      · simpa [Observation.event?, Reply.of] using Mutex.Step.take free
      · rcases refused with rfl | ⟨e, rfl⟩ <;> exact .rest
      · simpa [Observation.event?, Reply.of] using Mutex.Step.park held held' joins
    case isFalse ne =>
      have none : Observation.event? id ⟨s.kernel.current, .lock other, .of .locked result⟩ =
          .none := by
        cases result with
        | error e => rfl
        | ok progress => cases progress <;> simp [Observation.event?, Reply.of, Ne.symm ne]
      rw [none]
      exact .rest
  | unlock other =>
    obtain ⟨⟨mutex, kernel⟩, unlock, eq⟩ := Checked.bind_eq_ok.1 h
    cases eq
    rw [mutexes_setMutex]
    split
    case isTrue eq =>
      subst eq
      obtain ⟨held, ⟨empty, rfl, -⟩ | ⟨first, leaves, held', -⟩⟩ :=
        Kernel.operates_unlock sound settled unlock
      · simpa [Observation.event?] using Mutex.Step.release held empty
      · simpa [Observation.event?] using Mutex.Step.handOver held held' leaves
    case isFalse ne => simpa [Observation.event?, Ne.symm ne] using Mutex.Step.rest

theorem reply_unlock (h : s.step (.unlock id) = .ok (reply, s')) : reply = .done := by
  obtain ⟨_, -, eq⟩ := Checked.bind_eq_ok.1 h
  exact (Prod.mk.inj (Except.ok.inj eq)).1.symm

/-- A task parked for a mutex stays parked, unless an unlock hands it the mutex. -/
theorem awaitsMutex_step (sound : Moment.Sound ⟨s.kernel, [], none⟩) (settled : s.kernel.Settled)
    (h : s.step call = .ok (reply, s')) (parked : s.kernel.AwaitsMutex pid) (busy : pid ≠ idlePid)
    (kept : ∀ {id}, call = .unlock id → (s.mutexes id).waiters.items.head? ≠ some pid) :
    s'.kernel.AwaitsMutex pid := by
  have operates := operates_step sound settled h
  by_cases unlocks : ∃ id, call = .unlock id
  · obtain ⟨id, rfl⟩ := unlocks
    obtain ⟨⟨mutex, kernel⟩, unlock, eq⟩ := Checked.bind_eq_ok.1 h
    cases eq
    obtain ⟨-, ⟨-, -, rfl⟩ | ⟨first, leaves, -, grants, -⟩⟩ :=
      Kernel.operates_unlock sound settled unlock
    · exact parked
    · refine (grants.moves sound).awaitsMutex sound parked busy ?_
      have other : first ≠ pid := by
        rintro rfl
        exact kept rfl (by rw [leaves]; rfl)
      rintro ((eq | eq | eq) | (eq | eq) | eq) <;> cases eq
      exact other rfl
  · refine (operates.moves sound).awaitsMutex sound parked busy ?_
    rintro (body | (eq | eq) | eq)
    · exact unlocks (Call.grants_of_labels body)
    · cases eq
    · cases eq
    · cases eq

theorem awaitsMutex_of_parked (sound : Moment.Sound ⟨s.kernel, [], none⟩)
    (settled : s.kernel.Settled) (h : s.step (.lock id) = .ok (.locked .parked, s'))
    (busy : s.kernel.current ≠ idlePid) : s'.kernel.AwaitsMutex s.kernel.current := by
  obtain ⟨⟨result, mutex, kernel⟩, lock, eq⟩ := Checked.bind_eq_ok.1 h
  obtain ⟨parked, rfl⟩ := Prod.mk.inj (Except.ok.inj eq)
  rcases Kernel.operates_lock sound settled lock with ⟨-, rfl, -⟩ | ⟨-, rfl | ⟨e, rfl⟩, -⟩ |
    ⟨-, rfl, -, -, k₁, parks, awaits, -, pass⟩
  · cases parked
  · cases parked
  · cases parked
  · refine
      (Kernel.moves_schedule (parks.sound sound) pass).awaitsMutex (parks.sound sound) awaits
        busy nofun

end System

/-! ## The lock behind a mutex -/

/-- A mutex is in the state of a lock. Nobody waits for a lock that nobody has. -/
structure Mutex.Is (m : Mutex) (l : FifoLock) : Prop where
  locked : m.locked = l.owner.isSome
  waiting : m.waiters.items = l.waiting
  owned : l.owner = none → l.waiting = []

theorem Mutex.Is.unowned {m : Mutex} {l : FifoLock} (h : m.Is l) (free : m.locked = false) :
    l.owner = none ∧ l.waiting = [] := by
  have unowned : l.owner = none := by simpa [free] using h.locked.symm
  exact ⟨unowned, h.owned unowned⟩

namespace Mutex.Step

variable {pid p : Pid} {m m' : Mutex} {l : FifoLock} {event : LockEvent}

theorem is_next (step : Step pid m (some event) m') (h : m.Is l) : m'.Is (l.next event) := by
  cases step with
  | take free => exact ⟨rfl, h.waiting, fun unowned => by cases unowned⟩
  | park held held' joins =>
    have owned : l.owner.isSome = true := h.locked.symm.trans held
    refine ⟨held'.trans owned.symm, joins.trans (congrArg (· ++ [pid]) h.waiting), fun none => ?_⟩
    have none : l.owner = .none := none
    rw [none] at owned
    cases owned
  | release held empty =>
    have empty := h.waiting.symm.trans empty
    simp only [FifoLock.next, empty]
    exact ⟨rfl, h.waiting.trans empty, fun _ => rfl⟩
  | handOver held held' leaves =>
    have leaves := h.waiting.symm.trans leaves
    simp only [FifoLock.next, leaves]
    exact ⟨held', rfl, fun unowned => by cases unowned⟩

/-- What a call does to a mutex, its callers see of the lock. -/
theorem is_lock {o : Observation} {id : MutexId} {log : List Observation}
    (step : Step pid m (o.event? id) m') (h : m.Is (Observation.lock id log)) :
    m'.Is (Observation.lock id (o :: log)) := by
  cases seen : o.event? id with
  | none =>
    rw [seen] at step
    rw [Observation.lock_cons_of_none seen]
    cases step
    exact h
  | some event =>
    rw [seen] at step
    rw [Observation.lock_cons_of_some seen]
    exact step.is_next h

theorem mem_waiters {event : Option LockEvent} (step : Step pid m event m')
    (mem : p ∈ m'.waiters.items) :
    p ∈ m.waiters.items ∨ event = some (.parks pid) ∧ p = pid := by
  cases step with
  | rest | take | release => exact .inl mem
  | park held held' joins =>
    rw [joins, List.mem_append, List.mem_singleton] at mem
    exact mem.imp_right fun eq => ⟨rfl, eq⟩
  | handOver held held' leaves => rw [leaves]; exact .inl (List.mem_cons_of_mem _ mem)

theorem nodup_waiters {event : Option LockEvent} (step : Step pid m event m')
    (new : pid ∉ m.waiters.items) (distinct : m.waiters.items.Nodup) : m'.waiters.items.Nodup := by
  cases step with
  | rest | take | release => exact distinct
  | park held held' joins =>
    rw [joins, List.nodup_append]
    refine ⟨distinct, List.pairwise_singleton _ pid, ?_⟩
    rintro p mem q same rfl
    exact new (List.mem_singleton.1 same ▸ mem)
  | handOver held held' leaves =>
    rw [leaves] at distinct
    exact distinct.of_cons

/-- Only a free mutex is taken. -/
theorem free_of_takes {q : Pid} (step : Step pid m (some (.takes q)) m') : m.locked = false := by
  cases step with
  | take free => exact free

/-- Only a held mutex is waited for. -/
theorem locked_of_parks {q : Pid} (step : Step pid m (some (.parks q)) m') : m.locked = true := by
  cases step with
  | park held => exact held

theorem mem_of_parks {q : Pid} (step : Step pid m (some (.parks q)) m') :
    q ∈ m'.waiters.items := by
  cases step with
  | park held held' joins =>
    rw [joins]
    exact List.mem_append_right _ (List.mem_singleton_self _)

theorem waiters_of_unlocks {q : Pid} (step : Step pid m (some (.unlocks q)) m') :
    m'.waiters.items = m.waiters.items.tail := by
  cases step with
  | release held empty => rw [empty]; rfl
  | handOver held held' leaves => rw [leaves]; rfl

end Mutex.Step

end Rtos

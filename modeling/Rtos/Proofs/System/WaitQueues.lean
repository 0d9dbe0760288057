import Rtos.Proofs.Kernel.TaskTable
import Rtos.Proofs.System.MutexStep

/-!
# Wait queues and the task table

A task is parked for a mutex exactly while it stands in a wait queue, in one and there once.  This
needs no fairness, since an unlock that finds its waiter not parked is a fault.  The idle task is left
out: the scheduler runs it whatever it waits for.
-/

namespace Rtos

namespace Mutex.Step

variable {pid p : Pid} {m m' : Mutex} {event : Option LockEvent}

/-- The queue loses nobody but its head. -/
theorem mem_waiters_of_mem (step : Step pid m event m') (mem : p ∈ m.waiters.items) :
    p ∈ m'.waiters.items ∨ event = some (.unlocks pid) ∧ m.waiters.items.head? = some p := by
  cases step with
  | rest | take | release => exact .inl mem
  | park held held' joins => exact .inl (joins ▸ List.mem_append_left _ mem)
  | handOver held held' leaves =>
    rw [leaves, List.mem_cons] at mem
    rcases mem with rfl | mem
    · exact .inr ⟨rfl, by rw [leaves]; rfl⟩
    · exact .inl mem

/-- A mutex that somebody waits for stays locked. -/
theorem locked (step : Step pid m event m') (h : m.waiters.items ≠ [] → m.locked = true)
    (waited : m'.waiters.items ≠ []) : m'.locked = true := by
  cases step with
  | rest => exact h waited
  | take => rfl
  | park held held' => exact held'
  | release held empty => exact absurd empty waited
  | handOver held held' => exact held'

/-- Who waits once goes on to wait once, and a caller that parks did not wait before. -/
theorem count_waiters (step : Step pid m event m') (new : p = pid → p ∉ m.waiters.items)
    (once : m.waiters.items.count p ≤ 1) : m'.waiters.items.count p ≤ 1 := by
  cases step with
  | rest | take | release => exact once
  | park held held' joins =>
    rw [joins, List.count_append, List.count_singleton]
    split
    case isTrue eq =>
      have absent := List.count_eq_zero.2 (new (eq_of_beq eq).symm)
      omega
    case isFalse => exact once
  | handOver held held' leaves =>
    rw [leaves] at once
    exact Nat.le_trans (List.Sublist.count_le p (List.sublist_cons_self _ _)) once

end Mutex.Step

/-! ## Wait queues -/

namespace System

variable {π : Type} [Port π] {s s' : System π} {call : Call} {reply : Reply} {id other : MutexId}
  {pid : Pid}

/-- Every task but the idle one is parked for a mutex exactly while it waits in a queue, in one and
there once. -/
structure Queued (s : System π) : Prop where
  /-- The kernel is sound. -/
  sound : Moment.Sound ⟨s.kernel, [], none⟩
  /-- The current task runs. -/
  settled : s.kernel.Settled
  /-- A mutex that somebody waits for is locked. -/
  locked : ∀ id, (s.mutexes id).waiters.items ≠ [] → (s.mutexes id).locked = true
  /-- Who waits is parked. -/
  parked : ∀ {id pid}, pid ≠ idlePid → pid ∈ (s.mutexes id).waiters.items →
    s.kernel.AwaitsMutex pid
  /-- Nobody waits twice for a mutex. -/
  once : ∀ {pid}, pid ≠ idlePid → ∀ id, (s.mutexes id).waiters.items.count pid ≤ 1
  /-- Nobody waits for two. -/
  apart : ∀ {id other pid}, pid ≠ idlePid → pid ∈ (s.mutexes id).waiters.items →
    pid ∈ (s.mutexes other).waiters.items → id = other
  /-- Who is parked waits. -/
  listed : ∀ {pid}, pid ≠ idlePid → s.kernel.AwaitsMutex pid →
    ∃ id, pid ∈ (s.mutexes id).waiters.items

theorem queued_boot {port : π} {k : Kernel π} (booted : Kernel.boot port = .ok (.ok k)) :
    Queued ⟨k, fun _ => .free⟩ where
  sound := Kernel.sound_boot booted
  settled := Kernel.settled_boot booted
  locked _ waited := absurd rfl waited
  parked := nofun
  once _ _ := Nat.zero_le 1
  apart := nofun
  listed busy awaits := by
    obtain ⟨t, slot, parked⟩ := awaits
    cases Kernel.empty_of_boot booted busy slot
    cases parked

namespace Queued

omit [Port π] in
/-- The current task waits for nothing, unless it is the idle one. -/
theorem current_not_mem (h : Queued s) (busy : s.kernel.current ≠ idlePid) :
    s.kernel.current ∉ (s.mutexes id).waiters.items := by
  intro mem
  obtain ⟨t, slot, parked⟩ := h.parked busy mem
  obtain ⟨t', slot', running⟩ := h.settled
  cases slot.symm.trans slot'
  cases parked.symm.trans running

theorem parked_step (h : Queued s) (step : s.step call = .ok (reply, s')) (busy : pid ≠ idlePid)
    (mem : pid ∈ (s'.mutexes id).waiters.items) : s'.kernel.AwaitsMutex pid := by
  have mutex := mutex_step h.sound h.settled step id
  rcases mutex.mem_waiters mem with old | ⟨parks, rfl⟩
  · refine awaitsMutex_step h.sound h.settled step (h.parked busy old) busy ?_
    rintro unlocked rfl head
    -- the head of the queue that the unlock shortens stands there once
    have first := List.mem_of_mem_head? (Option.mem_def.2 head)
    cases h.apart busy old first
    have event : Observation.event? id ⟨s.kernel.current, .unlock id, reply⟩ =
        some (.unlocks s.kernel.current) :=
      Observation.event?_eq_unlocks.2 ⟨rfl, rfl, reply_unlock step⟩
    rw [event] at mutex
    rw [mutex.waiters_of_unlocks] at mem
    have once := h.once busy id
    obtain ⟨rest, waiters⟩ := List.head?_eq_some_iff.1 head
    rw [waiters] at once mem
    have again : 0 < rest.count pid := List.count_pos_iff.2 mem
    rw [List.count_cons_self] at once
    omega
  · obtain eq | ⟨-, rfl, rfl⟩ | ⟨eq, -⟩ := Observation.event?_eq_some parks
    · cases eq
    · exact awaitsMutex_of_parked h.sound h.settled step busy
    · cases eq

theorem listed_step (h : Queued s) (step : s.step call = .ok (reply, s')) (busy : pid ≠ idlePid)
    (awaits : s'.kernel.AwaitsMutex pid) : ∃ id, pid ∈ (s'.mutexes id).waiters.items := by
  have operates := operates_step h.sound h.settled step
  have mutex (id : MutexId) := mutex_step h.sound h.settled step id
  have stays (before : s.kernel.AwaitsMutex pid) : ∃ id, pid ∈ (s'.mutexes id).waiters.items := by
    obtain ⟨id, mem⟩ := h.listed busy before
    rcases (mutex id).mem_waiters_of_mem mem with mem | ⟨unlocks, head⟩
    · exact ⟨id, mem⟩
    · -- an unlock has woken it
      obtain ⟨-, rfl, -⟩ := Observation.event?_eq_unlocks.1 unlocks
      obtain ⟨⟨mutex, kernel⟩, unlock, eq⟩ := Checked.bind_eq_ok.1 step
      cases eq
      obtain ⟨-, ⟨empty, -⟩ | ⟨first, leaves, -, -, t, slot, resumed⟩⟩ :=
        Kernel.operates_unlock h.sound h.settled unlock
      · rw [empty] at mem
        cases mem
      · rw [leaves] at head
        cases head
        obtain ⟨t', slot', parked⟩ := awaits
        cases slot.symm.trans slot'
        rw [parked] at resumed
        split at resumed <;> cases resumed
  have back {P : Label → Prop} (operates : Kernel.Operates P [] [] s.kernel s'.kernel)
      (none : ¬P (.parks pid .awaitingMutex)) : s.kernel.AwaitsMutex pid := by
    obtain ⟨t', slot', waits⟩ := awaits
    obtain ⟨t, slot, before, -⟩ :=
      operates.waits_back h.sound slot' waits (.inr (.inl rfl)) none
    exact ⟨t, slot, before⟩
  by_cases locks : ∃ id, call = .lock id
  · obtain ⟨id, rfl⟩ := locks
    obtain ⟨⟨result, mutex, kernel⟩, lock, eq⟩ := Checked.bind_eq_ok.1 step
    cases eq
    rcases Kernel.operates_lock h.sound h.settled lock with ⟨-, -, -, rfl⟩ | ⟨-, -, -, quiet⟩ |
      ⟨-, -, -, joins, -⟩
    · exact stays awaits
    · exact stays (back quiet nofun)
    · by_cases current : pid = s.kernel.current
      · refine ⟨id, ?_⟩
        rw [mutexes_setMutex, if_pos rfl, joins, current]
        exact List.mem_append_right _ (List.mem_singleton_self _)
      · refine stays (back operates ?_)
        rintro (quiet | parks)
        · cases quiet
        · cases parks
          exact current rfl
  · refine stays (back operates fun parks => ?_)
    obtain ⟨-, ⟨_, _, -, eq⟩ | ⟨_, -, eq⟩ | ⟨id, eq, -⟩ | ⟨_, _, -, eq⟩⟩ :=
      Call.parks_of_labels parks
    · cases eq
    · cases eq
    · exact locks ⟨id, eq⟩
    · cases eq

theorem step (h : Queued s) (step : s.step call = .ok (reply, s')) : Queued s' where
  sound := (operates_step h.sound h.settled step).sound h.sound
  settled := (operates_step h.sound h.settled step).settled h.sound
  locked id := (mutex_step h.sound h.settled step id).locked (h.locked id)
  parked := h.parked_step step
  once {pid} busy id := by
    refine (mutex_step h.sound h.settled step id).count_waiters ?_ (h.once busy id)
    rintro rfl
    exact h.current_not_mem busy
  apart {id other pid} busy mem mem' := by
    have mutex (id : MutexId) := mutex_step h.sound h.settled step id
    rcases (mutex id).mem_waiters mem with old | ⟨parks, rfl⟩
    · rcases (mutex other).mem_waiters mem' with old' | ⟨-, rfl⟩
      · exact h.apart busy old old'
      · exact absurd old (h.current_not_mem busy)
    · rcases (mutex other).mem_waiters mem' with old' | ⟨parks', -⟩
      · exact absurd old' (h.current_not_mem busy)
      · obtain eq | ⟨-, locks, -⟩ | ⟨eq, -⟩ := Observation.event?_eq_some parks
        · cases eq
        · obtain eq | ⟨-, locks', -⟩ | ⟨eq, -⟩ := Observation.event?_eq_some parks'
          · cases eq
          · exact Call.lock.inj (locks.symm.trans locks')
          · cases eq
        · cases eq
  listed := h.listed_step step

end Queued

end System

end Rtos

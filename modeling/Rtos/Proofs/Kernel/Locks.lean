import Rtos.Proofs.Kernel.Operations

/-!
# Operations on mutexes

A lock takes a free mutex or parks the current task behind those that wait for it.  An unlock hands
the mutex to the oldest of them.
-/

namespace Rtos.Kernel

variable {π : Type} [Port π] {k k' : Kernel π} {held : List EntityId} {pid : Pid}

/-- What a step of a lock does. -/
inductive LockStep (k : Kernel π) (m : Mutex) :
    Except Error LockProgress → Mutex → Kernel π → Prop
  /-- The mutex is free, and taken. -/
  | acquires (free : m.locked = false) : LockStep k m (.ok .acquired) { m with locked := true } k
  /-- The mutex is held, and an atomic section refuses to wait. -/
  | refused (locked : m.locked = true) (inside : 0 < k.sched.sectionDepth) :
      LockStep k m (.error .atomicContext) m (k.note (.refusedInSection k.current .mutexLock))
  /-- The mutex is held, and there is no place to wait. -/
  | spins (locked : m.locked = true) (full : m.waiters.push? k.current = none) :
      LockStep k m (.ok .spin) m (k.note (.spinning k.current))
  /-- The mutex is held, and the current task waits behind the others. -/
  | parks {waiters : Fifo mutexWaiters Pid} {s : Scheduler π} {k' : Kernel π}
      (locked : m.locked = true) (outside : k.sched.sectionDepth = 0)
      (put : m.waiters.push? k.current = some waiters)
      (parks : k.sched.parkCurrent .awaitingMutex = .ok s)
      (pass : ({ k with sched := s } : Kernel π).schedule = .ok k') :
      LockStep k m (.ok .parked) { m with waiters } k'

theorem LockStep.of_eq_ok {m m' : Mutex} {result : Except Error LockProgress}
    (h : k.lock m = .ok (result, m', k')) : k.LockStep m result m' k' := by
  unfold lock at h
  split at h
  case isTrue free => cases h; exact .acquires (by simpa using free)
  case isFalse locked =>
  have locked : m.locked = true := by simpa using locked
  split at h
  case isTrue inside => cases h; exact .refused locked inside
  case isFalse outside =>
  dsimp only at h
  split at h
  case h_1 full => cases h; exact .spins locked full
  case h_2 waiters put =>
    obtain ⟨s, parks, next⟩ := Checked.bind_eq_ok.1 h
    obtain ⟨k₁, pass, eq⟩ := Checked.bind_eq_ok.1 next
    cases eq
    exact .parks locked (Nat.eq_zero_of_not_pos outside) put parks pass

/-- A step of a lock takes a free mutex, finds a held one and is refused or told to spin, or parks
the current task at the end of the wait queue. -/
theorem operates_lock {m m' : Mutex} {result : Except Error LockProgress}
    (sound : Moment.Sound ⟨k, held, none⟩) (settled : k.Settled)
    (h : k.lock m = .ok (result, m', k')) :
    (m.locked = false ∧ result = .ok .acquired ∧ m' = { m with locked := true } ∧ k' = k) ∨
      (m.locked = true ∧ (result = .ok .spin ∨ ∃ e, result = .error e) ∧ m' = m ∧
        Operates (· = .quiet) held held k k') ∨
      (m.locked = true ∧ result = .ok .parked ∧ m'.locked = true ∧
        m'.waiters.items = m.waiters.items ++ [k.current] ∧
        ∃ k₁, Moves (fun label => label = .quiet ∨ label = .parks k.current .awaitingMutex)
            ⟨k, held, none⟩ ⟨k₁, held, none⟩ ∧
          k₁.AwaitsMutex k.current ∧ k₁.sched.sectionDepth = 0 ∧ k₁.schedule = .ok k') := by
  cases LockStep.of_eq_ok h with
  | acquires free => exact .inl ⟨free, rfl, rfl, rfl⟩
  | refused locked =>
    exact .inr (.inl ⟨locked, .inr ⟨_, rfl⟩, rfl,
      .still (moves_note k held none _) steady_quiet sound settled⟩)
  | spins locked =>
    exact .inr (.inl ⟨locked, .inl rfl, rfl,
      .still (moves_note k held none _) steady_quiet sound settled⟩)
  | parks locked outside put parks pass =>
    obtain ⟨t, slot, rfl⟩ := Scheduler.modify_eq_ok.1 parks
    obtain ⟨t', slot', running⟩ := settled
    cases slot.symm.trans slot'
    have park : Move _ ⟨k, held, .none⟩ _ := .change slot (.awaitMutex running)
    exact .inr (.inr ⟨locked, rfl, locked, (Fifo.push?_eq_some.1 put).2,
      _, .single (.inr rfl) park, ⟨_, Scheduler.task?_setTask_self slot _, rfl⟩, outside, pass⟩)

omit [Port π] in
theorem taskState?_eq_some {state : TaskState} :
    k.taskState? pid = some state ↔
      ∃ t, k.sched.task? pid = some t ∧ t.active = true ∧ t.state = state := by
  simp only [taskState?, Scheduler.state?, Scheduler.summary?, Option.map_eq_some_iff,
    Option.bind_eq_some_iff]
  constructor
  · rintro ⟨summary, ⟨t, slot, shown⟩, rfl⟩
    split at shown
    case isTrue active => cases shown; exact ⟨t, slot, active, rfl⟩
    case isFalse => cases shown
  · rintro ⟨t, slot, active, rfl⟩
    exact ⟨t.summary, ⟨t, slot, if_pos active⟩, rfl⟩

/-- What an unlock does with a held mutex. -/
inductive UnlockStep (k : Kernel π) (m : Mutex) : Mutex → Kernel π → Prop
  /-- Nobody waits, and the mutex is free. -/
  | frees (locked : m.locked = true) (empty : m.waiters.items = []) :
      UnlockStep k m { m with locked := false } k
  /-- The oldest waiter, which is parked for it, gets it and the processor. -/
  | hands {waiter : Pid} {waiters : Fifo mutexWaiters Pid} {t : Task} {s : Scheduler π}
      (locked : m.locked = true) (oldest : m.waiters.items = waiter :: waiters.items)
      (slot : k.sched.task? waiter = some t) (active : t.active = true)
      (parked : t.state = .awaitingMutex) (handOff : k.sched.handOff waiter = .ok s) :
      UnlockStep k m { m with waiters } { k with sched := s }

theorem UnlockStep.of_eq_ok {m m' : Mutex} (h : k.unlock m = .ok (m', k')) :
    k.UnlockStep m m' k' := by
  unfold unlock at h
  split at h
  case isTrue => cases h
  case isFalse locked =>
  have locked : m.locked = true := by simpa using locked
  split at h
  case h_1 empty => cases h; exact .frees locked (Fifo.pop?_eq_none.1 empty)
  case h_2 waiter waiters popped =>
  dsimp only at h
  split at h
  case isFalse => cases h
  case isTrue parked =>
    obtain ⟨s, handOff, eq⟩ := Checked.bind_eq_ok.1 h
    cases eq
    obtain ⟨t, slot, active, parked⟩ := taskState?_eq_some.1 parked
    exact .hands locked (Fifo.pop?_eq_some.1 popped) slot active parked handOff

/-- An unlock is quiet, or it grants the mutex to the oldest waiter, which is parked no more. -/
theorem operates_unlock {m m' : Mutex} (sound : Moment.Sound ⟨k, held, none⟩) (settled : k.Settled)
    (h : k.unlock m = .ok (m', k')) :
    m.locked = true ∧
      ((m.waiters.items = [] ∧ m' = { m with locked := false } ∧ k' = k) ∨
        ∃ waiter, m.waiters.items = waiter :: m'.waiters.items ∧ m'.locked = true ∧
          Operates (fun label => label = .quiet ∨ label = .switches ∨ label = .grants waiter) held
            held k k' ∧
          ∃ t, k'.sched.task? waiter = some t ∧
            t.state = if 0 < k.sched.sectionDepth then .ready else .running) := by
  cases UnlockStep.of_eq_ok h with
  | frees locked empty => exact ⟨locked, .inl ⟨empty, rfl, rfl⟩⟩
  | @hands waiter _ _ _ locked oldest slot _ parked handOff =>
    obtain ⟨moves, settled, resumed⟩ := moves_handOff sound settled handOff slot parked
    exact ⟨locked, .inr ⟨waiter, oldest, locked, ⟨_, moves, .rest settled rfl⟩, resumed⟩⟩

end Rtos.Kernel

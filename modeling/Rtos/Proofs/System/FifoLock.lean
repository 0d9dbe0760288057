import Rtos.System

/-!
# Locks as their callers see them

A lock has an owner, and serves those who wait in the order of their arrival.  What became of it is
read off the calls that were made and their answers.
-/

namespace Rtos

/-- What happens to a lock. -/
inductive LockEvent
  /-- A task takes it without waiting. -/
  | takes (pid : Pid)
  /-- A task parks for it. -/
  | parks (pid : Pid)
  /-- A task gives it up. -/
  | unlocks (pid : Pid)
deriving DecidableEq, Repr

/-- A lock with an owner and a queue. -/
structure FifoLock where
  /-- Who has it. -/
  owner : Option Pid
  /-- Who waits for it, oldest first. -/
  waiting : List Pid
  /-- Who has waited for it and got it, in the order in which they got it. -/
  served : List Pid
deriving DecidableEq, Repr

namespace FifoLock

/-- A lock that nobody has asked for. -/
def free : FifoLock :=
  ⟨none, [], []⟩

/-- What the lock becomes. -/
def next (l : FifoLock) : LockEvent → FifoLock
  | .takes pid => { l with owner := some pid }
  | .parks pid => { l with waiting := l.waiting ++ [pid] }
  | .unlocks _ =>
    match l.waiting with
    | [] => { l with owner := none }
    | first :: rest => ⟨some first, rest, l.served ++ [first]⟩

/-- What may happen to a lock: it is taken while nobody has it and nobody waits, tasks wait while
somebody else has it, and only its owner gives it up. -/
def Allows (l : FifoLock) : LockEvent → Prop
  | .takes _ => l.owner = none ∧ l.waiting = []
  | .parks pid => l.owner ≠ none ∧ pid ∉ l.waiting
  | .unlocks pid => l.owner = some pid

end FifoLock

/-- What a caller sees of a call. -/
structure Observation where
  /-- The task that made the call. -/
  caller : Pid
  /-- The call. -/
  call : Call
  /-- The answer. -/
  reply : Reply
deriving DecidableEq, Repr

namespace Observation

/-- What an observation says of a mutex: a task owns it once an attempt or a lock of it succeeded,
and waits for it once it was told so. -/
def event? (id : MutexId) (o : Observation) : Option LockEvent :=
  match o.call, o.reply with
  | .tryLock other, .taken true => if other = id then some (.takes o.caller) else none
  | .lock other, .locked .acquired => if other = id then some (.takes o.caller) else none
  | .lock other, .locked .parked => if other = id then some (.parks o.caller) else none
  | .unlock other, .done => if other = id then some (.unlocks o.caller) else none
  | _, _ => none

/-- The lock that a log of observations, newest first, tells of. -/
def lock (id : MutexId) : List Observation → FifoLock
  | [] => .free
  | o :: log =>
    match o.event? id with
    | some event => (lock id log).next event
    | none => lock id log

/-- Who was told to wait for a mutex, in that order. -/
def parked (id : MutexId) : List Observation → List Pid
  | [] => []
  | o :: log =>
    match o.event? id with
    | some (.parks pid) => parked id log ++ [pid]
    | _ => parked id log

/-! ## What a log tells -/

variable {id : MutexId} {o : Observation} {event : LockEvent} {log : List Observation}

/-- A mutex is taken by an attempt or a lock that succeeds. -/
theorem event?_eq_takes {pid : Pid} : o.event? id = some (.takes pid) ↔
    pid = o.caller ∧ (o.call = .tryLock id ∧ o.reply = .taken true ∨
      o.call = .lock id ∧ o.reply = .locked .acquired) := by
  unfold event?
  constructor
  · intro h
    split at h <;> (first | split at h | skip) <;> cases h
    case h_1.isTrue call reply eq => exact ⟨rfl, .inl ⟨eq ▸ call, reply⟩⟩
    case h_2.isTrue call reply eq => exact ⟨rfl, .inr ⟨eq ▸ call, reply⟩⟩
  · rintro ⟨rfl, ⟨call, reply⟩ | ⟨call, reply⟩⟩
    · rw [call, reply]
      exact if_pos rfl
    · rw [call, reply]
      exact if_pos rfl

theorem event?_eq_unlocks {pid : Pid} : o.event? id = some (.unlocks pid) ↔
    pid = o.caller ∧ o.call = .unlock id ∧ o.reply = .done := by
  unfold event?
  constructor
  · intro h
    split at h <;> (first | split at h | skip) <;> cases h
    case h_4.isTrue call reply eq => exact ⟨rfl, eq ▸ call, reply⟩
  · rintro ⟨rfl, call, reply⟩
    rw [call, reply]
    exact if_pos rfl

/-- What an observation says of a mutex is about its caller and its call. -/
theorem event?_eq_some (h : o.event? id = some event) :
    event = .takes o.caller ∨
      (event = .parks o.caller ∧ o.call = .lock id ∧ o.reply = .locked .parked) ∨
      (event = .unlocks o.caller ∧ o.call = .unlock id) := by
  unfold event? at h
  split at h
  case h_1 call reply => split at h <;> cases h; exact .inl rfl
  case h_2 call reply => split at h <;> cases h; exact .inl rfl
  case h_3 call reply =>
    split at h <;> cases h
    case isTrue eq => exact .inr (.inl ⟨rfl, eq ▸ call, reply⟩)
  case h_4 call reply =>
    split at h <;> cases h
    case isTrue eq => exact .inr (.inr ⟨rfl, eq ▸ call⟩)
  case h_5 => cases h

theorem lock_cons_of_some (h : o.event? id = some event) :
    lock id (o :: log) = (lock id log).next event := by
  simp only [lock, h]

theorem lock_cons_of_none (h : o.event? id = none) : lock id (o :: log) = lock id log := by
  simp only [lock, h]

/-- Those who parked got the lock or wait for it, in order. -/
theorem parked_eq (id : MutexId) (log : List Observation) :
    parked id log = (lock id log).served ++ (lock id log).waiting := by
  induction log with
  | nil => rfl
  | cons o log ih =>
    unfold parked lock
    split
    case h_1 pid parks =>
      simp only [parks, FifoLock.next]
      rw [ih, List.append_assoc]
    case h_2 other =>
      split
      case h_2 => exact ih
      case h_1 event seen =>
        cases event with
        | takes => exact ih
        | parks pid => exact absurd seen (other pid)
        | unlocks =>
          simp only [FifoLock.next]
          split
          case h_1 empty => rw [ih, empty]
          case h_2 first rest waiting => rw [ih, waiting, List.append_assoc]; rfl

end Observation

/-! ## Logged runs -/

namespace System

variable {π : Type} [Port π] {s s' : System π} {log log' : List Observation} {calls : List Call}

/-- Carries out calls, and logs what their callers see, newest first. -/
def record (s : System π) (log : List Observation) :
    List Call → Checked (List Observation × System π)
  | [] => return (log, s)
  | call :: calls => do
    let (reply, s') ← s.step call
    s'.record (⟨s.kernel.current, call, reply⟩ :: log) calls

/-- What every call keeps, a logged run keeps. -/
theorem record_keeps {I : List Observation → System π → Prop}
    (kept : ∀ {log s call reply s'}, I log s → s.step call = .ok (reply, s') →
      I (⟨s.kernel.current, call, reply⟩ :: log) s')
    (start : I log s) (h : s.record log calls = .ok (log', s')) : I log' s' := by
  induction calls generalizing s log with
  | nil => cases h; exact start
  | cons call calls ih =>
    obtain ⟨⟨reply, s₁⟩, step, rest⟩ := Checked.bind_eq_ok.1 h
    exact ih (kept start step) rest

end System

end Rtos

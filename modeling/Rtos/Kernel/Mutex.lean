import Rtos.Kernel

/-!
# Mutexes

Sleeping mutual exclusion. A mutex is a flag and a queue of parked tasks. An unlock hands the mutex
to the oldest waiter and switches to it at once; the flag stays set meanwhile, so that no other task
can take the mutex in between. When the queue is full, a caller has to spin on the flag.
-/

namespace Rtos

/-- A mutex. -/
structure Mutex where
  /-- Whether a task holds the mutex. -/
  locked : Bool
  /-- The tasks parked for it, oldest first. -/
  waiters : Fifo mutexWaiters Pid
deriving DecidableEq, Repr

namespace Mutex

/-- A mutex that nobody holds. -/
def free : Mutex :=
  ⟨false, .empty⟩

instance : Inhabited Mutex := ⟨free⟩

/-- Takes the mutex if nobody holds it, and tells whether it was taken. -/
def tryLock (m : Mutex) : Bool × Mutex :=
  (!m.locked, { m with locked := true })

/-- The number of parked tasks. -/
def waiterCount (m : Mutex) : Nat :=
  m.waiters.length

end Mutex

/-- One step of a lock. -/
inductive LockProgress
  /-- The caller holds the mutex. -/
  | acquired
  /-- The caller is parked; it holds the mutex once it is resumed. -/
  | parked
  /-- The queue is full; the caller has to spin. -/
  | spin
deriving DecidableEq, Repr

namespace Kernel

variable {π : Type} [Port π]

/-- One step of locking a mutex for the current task: it takes a free mutex, and parks behind a held
one. -/
def lock (k : Kernel π) (m : Mutex) :
    Checked (Except Error LockProgress × Mutex × Kernel π) := do
  let pid := k.current
  if !m.locked then
    return (.ok .acquired, m.tryLock.2, k)
  else if 0 < k.sched.sectionDepth then
    return (.error .atomicContext, m, k.note (.refusedInSection pid .mutexLock))
  else
    match m.waiters.push? pid with
    | none => return (.ok .spin, m, k.note (.spinning pid))
    | some waiters =>
      let sched ← k.sched.parkCurrent .awaitingMutex
      return (.ok .parked, { m with waiters }, ← { k with sched }.schedule)

/-- Unlocks a mutex: the oldest waiter gets it and the processor; without waiters it is free. -/
def unlock (k : Kernel π) (m : Mutex) : Checked (Mutex × Kernel π) := do
  if !m.locked then
    .error .unlockUnlocked
  else
    match m.waiters.pop? with
    | none => return ({ m with locked := false }, k)
    | some (waiter, waiters) =>
      let state := k.taskState? waiter
      if state = some .awaitingMutex then
        return ({ m with waiters }, { k with sched := ← k.sched.handOff waiter })
      else
        .error (.waiterNotParked state)

end Kernel

end Rtos

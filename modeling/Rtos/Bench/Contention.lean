import Rtos.Port.Host
import Rtos.Syscall

/-!
# Contention for a mutex

The idle task takes a mutex, queues itself behind it a number of times, and then locks it by a
system call. Before that call goes on, the mutex is unlocked until it is free: each queued wait is
granted, and a caller that found the queue full stops spinning.
-/

namespace Rtos.Bench

/-- What was seen of a contention. -/
structure Contention where
  /-- Whether the mutex could be taken at first. -/
  held : Bool
  /-- What came of the attempts to queue. -/
  queued : List (Except Error LockProgress)
  /-- The mutex before the system call. -/
  before : Mutex
  /-- What the system call answered. -/
  result : Except Error Answer
  /-- The mutex after the system call. -/
  after : Mutex
  /-- The kernel after the system call. -/
  kernel : Kernel HostPort

namespace Contention

/-- Queues the current task behind a mutex a number of times. -/
def enqueue (k : Kernel HostPort) (m : Mutex) :
    Nat → Checked (List (Except Error LockProgress) × Mutex × Kernel HostPort)
  | 0 => return ([], m, k)
  | times + 1 => do
    let (step, m, k) ← k.lock m
    let (steps, m, k) ← enqueue k m times
    return (step :: steps, m, k)

/-- Unlocks a mutex until it is free. The idle task counts as parked as long as it is queued. -/
def unlockAll (k : Kernel HostPort) (m : Mutex) : (limit : Nat) → Checked (Mutex × Kernel HostPort)
  | 0 => return (m, k)
  | limit + 1 =>
    if !m.locked then
      return (m, k)
    else do
      let sched ←
        if m.waiters.items.isEmpty then .ok k.sched else k.sched.setState idlePid .awaitingMutex
      let (m, k) ← { k with sched }.unlock m
      unlockAll k m limit

/-- Goes on with a lock until it answers. -/
def await (w : World HostPort) : (limit : Nat) → Pursuit →
    Checked (Except Error Answer × World HostPort)
  | 0, _ => .error .endless
  | limit + 1, next => do
    match ← w.pursue next with
    | (.finished result, w) => return (result, w)
    | (.again next, w) => await w limit next

/-- Acts out a contention: `times` waits are queued, and the system call is made in an atomic
section if `disable` is set. -/
def run (times : Nat) (disable : Bool) : Checked (Except Error Contention) := do
  match ← Kernel.boot (HostPort.new false) with
  | .error e => return .error e
  | .ok k =>
    let (held, m) := Mutex.free.tryLock
    let (queued, before, k) ← enqueue k m times
    let k ← if disable then k.enterSection else .ok k
    let w : World HostPort := ⟨some k, System.update (fun _ => .free) 0 before, []⟩
    let (first, w) ← w.attemptLock 0
    let some k := w.kernel? | return .error .notStarted
    let (m, k) ← unlockAll k (w.mutexes 0) (mutexWaiters + 1)
    let w := { w with kernel? := some k }.setMutex 0 m
    let (result, w) ← match first with
      | .finished result => .ok (result, w)
      | .again next => await w 1 next
    return .ok ⟨held, queued, before, result, w.mutexes 0, k⟩

end Contention

end Rtos.Bench

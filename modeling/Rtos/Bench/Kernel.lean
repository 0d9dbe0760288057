import Rtos.Port.Host
import Rtos.System

/-!
# A kernel under observation

A kernel on the host port, its mutexes, and an outsider with a free hand: it registers observing
listeners, holds entities of its own, and dispatches events that no device or task stands behind.
-/

namespace Rtos.Bench

/-- A kernel and what the outsider holds. -/
structure ObservedKernel where
  /-- The kernel and its mutexes. -/
  system : System HostPort
  /-- The listeners that the outsider registered, in order. -/
  registered : List (EventKind × ListenerId)
  /-- The entities that the outsider keeps, newest first. -/
  kept : List EntityId

namespace ObservedKernel

/-- Builds a kernel to observe. -/
def boot (refuseStacks : Bool) : Checked (Except Error ObservedKernel) := do
  match ← Kernel.boot (HostPort.new refuseStacks) with
  | .error e => return .error e
  | .ok kernel => return .ok ⟨⟨kernel, fun _ => .free⟩, [], []⟩

/-- The kernel. -/
def kernel (b : ObservedKernel) : Kernel HostPort :=
  b.system.kernel

/-- The same outsider with another kernel. -/
def withKernel (b : ObservedKernel) (kernel : Kernel HostPort) : ObservedKernel :=
  { b with system := { b.system with kernel } }

/-- Changes the scheduler past the kernel. -/
def withSched (b : ObservedKernel) (f : Scheduler HostPort → Scheduler HostPort) :
    ObservedKernel :=
  b.withKernel { b.kernel with sched := f b.kernel.sched }

/-- Forgets what was logged and what observers wrote down. -/
def forget (b : ObservedKernel) : ObservedKernel :=
  b.withKernel { b.kernel with sched := { b.kernel.sched with journal := [] }, heard := [] }

/-- Makes a call. -/
def call (b : ObservedKernel) (c : Call) : Checked (Reply × ObservedKernel) := do
  let (reply, system) ← b.system.step c
  return (reply, { b with system })

/-- Makes the same call a number of times. -/
def repeatCall (b : ObservedKernel) (c : Call) : Nat → Checked ObservedKernel
  | 0 => return b
  | times + 1 => do (← b.call c).2.repeatCall c times

/-- Runs passes until a task is current, at most `limit` times, and counts them. -/
def runUntil (b : ObservedKernel) (pid : Pid) : (limit : Nat) → Checked (Nat × ObservedKernel)
  | 0 => return (0, b)
  | limit + 1 =>
    if b.kernel.current = pid then
      return (0, b)
    else do
      let (count, b) ← (← b.call .schedule).2.runUntil pid limit
      return (count + 1, b)

/-- Sets what a task is doing. -/
def setState (b : ObservedKernel) (pid : Pid) (state : TaskState) : Checked ObservedKernel := do
  let sched ← b.kernel.sched.setState pid state
  return b.withSched fun _ => sched

/-- Registers a listener. -/
def subscribe (b : ObservedKernel) (kind : EventKind) (listener : KernelListener) (extra : Nat) :
    Checked (Except Error ListenerId × ObservedKernel) := do
  let (result, bus) ← b.kernel.bus.subscribe kind listener extra
  let registered := match result with
    | .ok id => b.registered ++ [(kind, id)]
    | .error _ => b.registered
  return (result, { b.withKernel { b.kernel with bus } with registered })

/-- Registers a listener a number of times, and answers with the result of the last. -/
def subscribeTimes (b : ObservedKernel) (kind : EventKind) (listener : KernelListener)
    (extra : Nat) :
    (times : Nat) → Checked (Option (Except Error ListenerId) × ObservedKernel)
  | 0 => return (none, b)
  | times + 1 => do
    let (result, b) ← b.subscribe kind listener extra
    if times = 0 then
      return (some result, b)
    else
      b.subscribeTimes kind listener extra times

/-- Takes the listener of the given registration off its list, and tells whether it was there. -/
def unsubscribe (b : ObservedKernel) (registration : Nat) : Bool × ObservedKernel :=
  match b.registered[registration]? with
  | none => (false, b)
  | some (kind, id) =>
    let (found, bus) := b.kernel.bus.unsubscribe kind id
    (found, b.withKernel { b.kernel with bus })

/-- Creates an event entity under the root. -/
def createEvent (b : ObservedKernel) : Checked (Option EntityId × ObservedKernel) := do
  match ← b.kernel.createEntity (some .root) .event .nothing with
  | (.error _, kernel) => return (none, b.withKernel kernel)
  | (.ok id, kernel) => return (some id, b.withKernel kernel)

/-- Dispatches an event a number of times, until no entity is left for it, and counts how often it
was queued. -/
def inject (b : ObservedKernel) (payload : Payload) : Nat → Checked (Nat × ObservedKernel)
  | 0 => return (0, b)
  | times + 1 => do
    match ← b.createEvent with
    | (none, b) => return (0, b)
    | (some entity, b) =>
      match ← b.kernel.dispatch ⟨entity, payload⟩ with
      | (.refused event, kernel) =>
        (b.withKernel (← kernel.release event.entity)).inject payload times
      | (_, kernel) =>
        let (count, b) ← (b.withKernel kernel).inject payload times
        return (count + 1, b)

/-- Creates entities to keep, at most `limit`, until none is left, and counts them. -/
def hoard (b : ObservedKernel) : (limit : Nat) → Checked (Nat × ObservedKernel)
  | 0 => return (0, b)
  | limit + 1 => do
    match ← b.createEvent with
    | (none, b) => return (0, b)
    | (some entity, b) =>
      let (count, b) ← { b with kept := entity :: b.kept }.hoard limit
      return (count + 1, b)

/-- Gives up the newest entities that it keeps, at most `limit`, and counts them. -/
def giveUp (b : ObservedKernel) (limit : Nat) : Checked (Nat × ObservedKernel) := do
  let (given, kept) := b.kept.splitAt limit
  let kernel ← b.kernel.releaseAll given
  return (given.length, { b.withKernel kernel with kept })

end ObservedKernel

end Rtos.Bench

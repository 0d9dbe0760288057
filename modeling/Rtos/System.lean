import Rtos.Kernel.Devices
import Rtos.Kernel.Mutex
import Rtos.Kernel.Tasks

/-!
# Systems

A kernel together with the mutexes that its tasks share, and the calls that may be made on it. A run
is a list of calls; `System.run` carries it out.
-/

namespace Rtos

/-- A mutex is named by a number. -/
abbrev MutexId := Nat

/-- A kernel and its mutexes. -/
structure System (π : Type) where
  /-- The kernel. -/
  kernel : Kernel π
  /-- The mutexes. -/
  mutexes : MutexId → Mutex

/-- A call on behalf of the current task or of an interrupt. -/
inductive Call
  /-- Create a child. -/
  | spawn (entry : EntryPoint)
  /-- End the current task. -/
  | exit (status : Int)
  /-- One step of a wait for a child. -/
  | waitChild (filter : ChildFilter) (options : WaitOptions)
  /-- Sleep. -/
  | sleep (millis : UInt32)
  /-- The timer ticks. -/
  | tick
  /-- Run a pass. -/
  | schedule
  /-- Give up the processor. -/
  | yield
  /-- Enter an atomic section. -/
  | enterSection
  /-- Leave an atomic section. -/
  | leaveSection
  /-- One step of a lock. -/
  | lock (mutex : MutexId)
  /-- Take a mutex that is free. -/
  | tryLock (mutex : MutexId)
  /-- Unlock a mutex. -/
  | unlock (mutex : MutexId)
  /-- Register a device. -/
  | registerDevice
  /-- Take a device out of the registry. -/
  | unregisterDevice (device : DeviceId)
  /-- Report a change of a device. -/
  | reportDevice (device : DeviceId) (flags : DeviceFlags)
  /-- Report a change of a device and run a pass. -/
  | signalDevice (device : DeviceId) (flags : DeviceFlags)
  /-- Report a change of a file. -/
  | reportFile (handle : Nat) (flags : DeviceFlags)
  /-- One step of a wait for a device. -/
  | waitDevice (device : DeviceId) (direction : DeviceFlags)
deriving DecidableEq, Repr

/-- The answer to a call. -/
inductive Reply
  /-- The call was refused. -/
  | refused (reason : Error)
  /-- The call is done. -/
  | done
  /-- A task or a device got this number. -/
  | number (n : Nat)
  /-- Whether a mutex was taken. -/
  | taken (ok : Bool)
  /-- The state of a lock. -/
  | locked (step : LockProgress)
  /-- The state of a wait for a child. -/
  | child (step : Progress (Pid × Int))
  /-- The state of a wait for a device. -/
  | device (step : Progress Unit)
deriving DecidableEq, Repr

/-- The reply to a call that may be refused. -/
def Reply.of {α : Type} (f : α → Reply) : Except Error α → Reply
  | .ok a => f a
  | .error e => .refused e

namespace System

/-- The mutexes with one of them changed. -/
def update (mutexes : MutexId → Mutex) (id : MutexId) (m : Mutex) : MutexId → Mutex :=
  fun other => if other = id then m else mutexes other

variable {π : Type} [Port π]

/-- Changes one mutex. -/
def setMutex (s : System π) (id : MutexId) (m : Mutex) : System π :=
  { s with mutexes := update s.mutexes id m }

/-- Carries out a kernel operation that cannot be refused. -/
def perform (s : System π) (f : Kernel π → Checked (Kernel π)) : Checked (Reply × System π) := do
  return (.done, { s with kernel := ← f s.kernel })

/-- Carries out a kernel operation that may be refused. -/
def request {α : Type} (s : System π) (f : Kernel π → Checked (Except Error α × Kernel π))
    (reply : α → Reply) : Checked (Reply × System π) := do
  let (result, kernel) ← f s.kernel
  return (.of reply result, { s with kernel })

/-- Carries out a call. -/
def step (s : System π) : Call → Checked (Reply × System π)
  | .spawn entry => s.request (·.spawn entry) .number
  | .exit status => s.request (·.exit status) fun _ => .done
  | .waitChild filter options => s.request (·.waitChild filter options) .child
  | .sleep millis => s.request (·.sleep millis) fun _ => .done
  | .tick => s.perform Kernel.tick
  | .schedule => s.perform Kernel.schedule
  | .yield => s.perform Kernel.yield
  | .enterSection => s.perform Kernel.enterSection
  | .leaveSection => s.perform Kernel.leaveSection
  | .lock id => do
    let (result, mutex, kernel) ← s.kernel.lock (s.mutexes id)
    return (.of .locked result, { s with kernel }.setMutex id mutex)
  | .tryLock id =>
    let (ok, mutex) := (s.mutexes id).tryLock
    return (.taken ok, s.setMutex id mutex)
  | .unlock id => do
    let (mutex, kernel) ← s.kernel.unlock (s.mutexes id)
    return (.done, { s with kernel }.setMutex id mutex)
  | .registerDevice => s.request Kernel.registerDevice .number
  | .unregisterDevice device => s.request (·.unregisterDevice device) fun _ => .done
  | .reportDevice device flags => s.request (·.reportDevice device flags) fun _ => .done
  | .signalDevice device flags => s.request (·.signalDevice device flags) fun _ => .done
  | .reportFile handle flags => s.request (·.reportFile handle flags) fun _ => .done
  | .waitDevice device direction => s.request (·.waitDevice device direction) .device

/-- Carries out calls, one after the other. -/
def run (s : System π) : List Call → Checked (List Reply × System π)
  | [] => return ([], s)
  | call :: calls => do
    let (reply, s) ← s.step call
    let (replies, s) ← s.run calls
    return (reply :: replies, s)

end System

end Rtos

import Rtos.System

/-!
# System calls

What tasks and interrupts ask for. A kernel operation never waits; a system call does, by going
round a loop of attempts. Each attempt is one critical section. After it the task may have been
switched away, and goes on only once it is resumed: then it has its answer, or makes the next
attempt.

The kernel stands in a place that is empty before the kernel is built; calls made then are refused.
-/

namespace Rtos

/-- A character device of any size. -/
structure AttachedDevice where
  /-- The bytes that each of its buffers holds. -/
  capacity : Nat
  /-- The device. -/
  device : CharDevice capacity

/-- What calls work on. -/
structure World (π : Type) where
  /-- The kernel, once it is built. -/
  kernel? : Option (Kernel π)
  /-- The mutexes. -/
  mutexes : MutexId → Mutex
  /-- The character devices; a call names one by its place in the list. -/
  devices : List AttachedDevice

/-- What an interrupt does. -/
inductive Interrupt
  /-- Bytes arrive at a device. -/
  | receive (device : Nat) (data : List UInt8)
  /-- A device sends up to `count` bytes. -/
  | transmit (device : Nat) (count : Nat)
  /-- A registered device reports. -/
  | signal (device : DeviceId) (flags : DeviceFlags)
  /-- The timer ticks. -/
  | tick
deriving DecidableEq, Repr

/-- What a task asks for. -/
inductive Request
  /-- Create a child. -/
  | spawn (entry : EntryPoint)
  /-- End the task. -/
  | exit (status : Int)
  /-- Wait for a child and reap it. -/
  | waitChild (filter : ChildFilter) (options : WaitOptions)
  /-- Sleep. -/
  | sleep (millis : UInt32)
  /-- Give up the processor. -/
  | yield
  /-- The number of the running task. -/
  | getPid
  /-- The clock. -/
  | uptime
  /-- What a task is doing. -/
  | summary (pid : Pid)
  /-- Enter an atomic section. -/
  | enterSection
  /-- Leave an atomic section. -/
  | leaveSection
  /-- Lock a mutex. -/
  | lock (mutex : MutexId)
  /-- Take a mutex that is free. -/
  | tryLock (mutex : MutexId)
  /-- Unlock a mutex. -/
  | unlock (mutex : MutexId)
  /-- Register a device. -/
  | registerDevice
  /-- Read up to `count` bytes, at least one. -/
  | read (device : Nat) (count : Nat)
  /-- Write bytes, at least one. -/
  | write (device : Nat) (data : List UInt8)
  /-- Report a change of a file. -/
  | reportFile (handle : Nat) (flags : DeviceFlags)
  /-- Whether there is a kernel. -/
  | isStarted
  /-- Do what an interrupt does. -/
  | interrupt (work : Interrupt)
deriving DecidableEq, Repr

/-- What a call answers. -/
inductive Answer
  /-- It is done. -/
  | unit
  /-- A number: a task, a device, or a count of bytes. -/
  | number (n : Nat)
  /-- A reading of the clock. -/
  | ticks (n : UInt64)
  /-- Whether something is so. -/
  | flag (b : Bool)
  /-- A child and the status it exited with. -/
  | child (pid : Pid) (status : Int)
  /-- What a task is doing. -/
  | summary (summary : TaskSummary)
  /-- A count of bytes, and the buffer they were put into. -/
  | bytes (count : Nat) (buffer : List UInt8)
deriving DecidableEq, Repr

/-- Where a task stands in a call. -/
inductive Pursuit
  /-- It makes an attempt at a request. -/
  | request (r : Request)
  /-- It spins until a mutex is free. -/
  | spin (mutex : MutexId)
deriving DecidableEq, Repr

/-- What came of an attempt. -/
inductive Attempt
  /-- The call answers once the task is resumed. -/
  | finished (result : Except Error Answer)
  /-- The call goes on once the task is resumed. -/
  | again (next : Pursuit)

/-- The attempt after which a call goes on as long as its step is not done. -/
def Attempt.ofProgress {α : Type} (retry : Request) (f : α → Answer) :
    Except Error (Progress α) → Attempt
  | .error e => .finished (.error e)
  | .ok (.done a) => .finished (.ok (f a))
  | .ok _ => .again (.request retry)

namespace World

/-- The world before the kernel is built. -/
def initial {π : Type} (devices : List AttachedDevice) : World π :=
  ⟨none, fun _ => .free, devices⟩

variable {π : Type} [Port π] {α : Type}

/-- Builds the kernel. -/
def boot (w : World π) (port : π) : Checked (Except Error Unit × World π) := do
  match ← Kernel.boot port with
  | .error e => return (.error e, w)
  | .ok kernel => return (.ok (), { w with kernel? := some kernel })

/-- Carries out a kernel operation that may be refused. -/
def within (w : World π) (f : Kernel π → Checked (Except Error α × Kernel π)) :
    Checked (Except Error α × World π) := do
  match w.kernel? with
  | none => return (.error .notStarted, w)
  | some kernel =>
    let (result, kernel) ← f kernel
    return (result, { w with kernel? := some kernel })

/-- Carries out a kernel operation that is not refused. -/
def enter (w : World π) (f : Kernel π → Checked (Kernel π)) :
    Checked (Except Error Unit × World π) :=
  w.within fun k => return (.ok (), ← f k)

/-- Asks the kernel something. -/
def query (w : World π) (f : Kernel π → Except Error α) : Checked (Except Error α × World π) :=
  w.within fun k => return (f k, k)

/-- Changes one mutex. -/
def setMutex (w : World π) (id : MutexId) (m : Mutex) : World π :=
  { w with mutexes := System.update w.mutexes id m }

/-- Changes one device. -/
def setDevice (w : World π) (device : Nat) (d : AttachedDevice) : World π :=
  { w with devices := w.devices.set device d }

/-- A registered device reports, and a pass runs. -/
def signal (w : World π) (device : DeviceId) (flags : DeviceFlags) :
    Checked (Except Error Unit × World π) :=
  w.within (·.signalDevice device flags)

/-- Tells the kernel of bytes that a device moved, if there were any. -/
def signalMoved (w : World π) (device : DeviceId) (count : Nat) (flags : DeviceFlags)
    (answer : Answer) : Checked (Except Error Answer × World π) := do
  if count = 0 then
    return (.ok answer, w)
  else
    let (result, w) ← w.signal device flags
    return (result.map fun _ => answer, w)

/-! ## Interrupts -/

/-- Does what an interrupt does. Bytes move first, and the kernel is told of them then; when it
refuses, they have moved all the same. -/
def serve (w : World π) : Interrupt → Checked (Except Error Answer × World π)
  | .receive device data => do
    let some ⟨capacity, d⟩ := w.devices[device]? | return (.error .badDevice, w)
    let (count, d) := d.receive data
    (w.setDevice device ⟨capacity, d⟩).signalMoved d.id count DeviceFlags.rx (.number count)
  | .transmit device count => do
    let some ⟨capacity, d⟩ := w.devices[device]? | return (.error .badDevice, w)
    let (taken, buffer, d) := d.transmit (List.replicate count 0)
    (w.setDevice device ⟨capacity, d⟩).signalMoved d.id taken DeviceFlags.tx (.bytes taken buffer)
  | .signal device flags => do
    let (result, w) ← w.signal device flags
    return (result.map fun _ => .unit, w)
  | .tick => do
    let (result, w) ← w.enter Kernel.tick
    return (result.map fun _ => .unit, w)

/-! ## Attempts -/

/-- An attempt to read: bytes are taken if there are any; otherwise the task waits for the device,
within the same critical section. -/
def attemptRead (w : World π) (device count : Nat) : Checked (Attempt × World π) := do
  let some ⟨capacity, d⟩ := w.devices[device]? | return (.finished (.error .badDevice), w)
  match w.kernel? with
  | none => return (.finished (.error .notStarted), w)
  | some kernel =>
    let (taken, buffer, d) := d.read (List.replicate count 0)
    if taken = 0 then
      let (result, kernel) ← kernel.waitDevice d.id DeviceFlags.rx
      return (.ofProgress (.read device count) (fun _ => .unit) result,
        { w with kernel? := some kernel })
    else
      return (.finished (.ok (.bytes taken buffer)), w.setDevice device ⟨capacity, d⟩)

/-- An attempt to write: bytes are stored if there is room for any; otherwise the task waits for the
device, within the same critical section. -/
def attemptWrite (w : World π) (device : Nat) (data : List UInt8) :
    Checked (Attempt × World π) := do
  let some ⟨capacity, d⟩ := w.devices[device]? | return (.finished (.error .badDevice), w)
  match w.kernel? with
  | none => return (.finished (.error .notStarted), w)
  | some kernel =>
    let (stored, d) := d.write data
    if stored = 0 then
      let (result, kernel) ← kernel.waitDevice d.id DeviceFlags.tx
      return (.ofProgress (.write device data) (fun _ => .unit) result,
        { w with kernel? := some kernel })
    else
      return (.finished (.ok (.number stored)), w.setDevice device ⟨capacity, d⟩)

/-- An attempt to lock. A parked task is resumed when the mutex is handed to it, so its call is
finished then. -/
def attemptLock (w : World π) (mutex : MutexId) : Checked (Attempt × World π) := do
  match w.kernel? with
  | none => return (.finished (.error .notStarted), w)
  | some kernel =>
    let (result, m, kernel) ← kernel.lock (w.mutexes mutex)
    let w := { w with kernel? := some kernel }.setMutex mutex m
    match result with
    | .error e => return (.finished (.error e), w)
    | .ok .spin => return (.again (.spin mutex), w)
    | .ok _ => return (.finished (.ok .unit), w)

/-- Unlocks a mutex. -/
def unlock (w : World π) (mutex : MutexId) : Checked (Except Error Unit × World π) := do
  match w.kernel? with
  | none => return (.error .notStarted, w)
  | some kernel =>
    let (m, kernel) ← kernel.unlock (w.mutexes mutex)
    return (.ok (), { w with kernel? := some kernel }.setMutex mutex m)

/-- The attempt of a call that needs only one. -/
def once (f : α → Answer) (outcome : Checked (Except Error α × World π)) :
    Checked (Attempt × World π) := do
  let (result, w) ← outcome
  return (.finished (result.map f), w)

/-- Ends the current task. A refusal is logged. -/
def exit (w : World π) (status : Int) : Checked (Except Error Unit × World π) :=
  w.within fun k => do
    match ← k.exit status with
    | (.error e, k) => return (.error e, k.note (.exitRefused status e))
    | (.ok (), k) => return (.ok (), k)

/-- One attempt at a request. -/
def attempt (w : World π) : Request → Checked (Attempt × World π)
  | .spawn entry => once .number (w.within (·.spawn entry))
  | .exit status => once (fun _ => .unit) (w.exit status)
  | .waitChild filter options => do
    let (result, w) ← w.within (·.waitChild filter options)
    return (.ofProgress (.waitChild filter options) (fun c => .child c.1 c.2) result, w)
  | .sleep millis => once (fun _ => .unit) (w.within (·.sleep millis))
  | .yield => once (fun _ => .unit) (w.enter Kernel.yield)
  | .getPid => once .number (w.query fun k => .ok k.current)
  | .uptime => once .ticks (w.query fun k => .ok k.uptime)
  | .summary pid => once .summary (w.query (·.summary pid))
  | .enterSection => once (fun _ => .unit) (w.enter Kernel.enterSection)
  | .leaveSection => once (fun _ => .unit) (w.enter Kernel.leaveSection)
  | .lock mutex => w.attemptLock mutex
  | .tryLock mutex =>
    let (ok, m) := (w.mutexes mutex).tryLock
    return (.finished (.ok (.flag ok)), w.setMutex mutex m)
  | .unlock mutex => once (fun _ => .unit) (w.unlock mutex)
  | .registerDevice => once .number (w.within Kernel.registerDevice)
  | .read device count =>
    if count = 0 then return (.finished (.ok (.bytes 0 [])), w) else w.attemptRead device count
  | .write device data =>
    if data.isEmpty then return (.finished (.ok (.number 0)), w) else w.attemptWrite device data
  | .reportFile handle flags => once (fun _ => .unit) (w.within (·.reportFile handle flags))
  | .isStarted => return (.finished (.ok (.flag w.kernel?.isSome)), w)
  | .interrupt work => once id (w.serve work)

/-- What a task does next in a call. -/
def pursue (w : World π) : Pursuit → Checked (Attempt × World π)
  | .request r => w.attempt r
  | .spin mutex =>
    match (w.mutexes mutex).tryLock with
    | (true, m) => return (.finished (.ok .unit), w.setMutex mutex m)
    | (false, _) => return (.again (.spin mutex), w)

end World

end Rtos

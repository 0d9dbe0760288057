import Rtos.Entity
import Rtos.FlagSet

/-!
# Events

What producers announce and listeners are told: a device or a file changed state, or a task exited.
An event owns one reference on an entity, whose parent is whatever the event is about, until it has
been delivered.
-/

namespace Rtos

/-- The routing class of an event. -/
inductive EventKind
  /-- Reports of devices. -/
  | device
  /-- Exits of tasks. -/
  | task
  /-- Reports about files. -/
  | file
deriving DecidableEq, Repr

/-- All kinds, in the order in which their queues are drained. -/
def EventKind.all : List EventKind :=
  [device, task, file]

/-- The body of an event. -/
inductive Payload
  /-- A device reports. -/
  | device (device : Nat) (flags : DeviceFlags)
  /-- A child of `parent` exited with a status. -/
  | task (pid parent : Pid) (status : Int)
  /-- An open file changed. -/
  | file (handle : Nat) (flags : DeviceFlags)
deriving DecidableEq, Repr

namespace Payload

/-- The kind of a body. -/
def kind : Payload → EventKind
  | .device _ _ => .device
  | .task _ _ _ => .task
  | .file _ _ => .file

/-- The text of a body: its kind and its fields by name. -/
def describe : Payload → String
  | .device number flags =>
    s!"Device \x7b device: {number}, flags: {flags.describe} \x7d"
  | .task pid parent status =>
    s!"Task \x7b pid: {pid}, parent: {parent}, status: {status} \x7d"
  | .file handle flags =>
    s!"File \x7b handle: {handle}, flags: {flags.describe} \x7d"

end Payload

/-- An event and the entity whose reference it owns. -/
structure Event where
  /-- The event's entity. -/
  entity : EntityId
  /-- What happened. -/
  payload : Payload
deriving DecidableEq, Repr

/-- The kind of an event. -/
def Event.kind (e : Event) : EventKind :=
  e.payload.kind

/-- One value for each kind of event. -/
structure ByKind (α : Type) where
  /-- The value for device events. -/
  device : α
  /-- The value for task events. -/
  task : α
  /-- The value for file events. -/
  file : α
deriving DecidableEq, Repr

namespace ByKind

variable {α : Type}

/-- The same value for every kind. -/
def replicate (a : α) : ByKind α :=
  ⟨a, a, a⟩

/-- The value for a kind. -/
def get (v : ByKind α) : EventKind → α
  | .device => v.device
  | .task => v.task
  | .file => v.file

/-- Another value for one kind. -/
def set (v : ByKind α) : EventKind → α → ByKind α
  | .device, a => { v with device := a }
  | .task, a => { v with task := a }
  | .file, a => { v with file := a }

/-- A kind has the value that was set for it. -/
@[simp] theorem get_set_self (v : ByKind α) (kind : EventKind) (a : α) :
    (v.set kind a).get kind = a := by
  cases kind <;> rfl

/-- Setting a value for one kind leaves the others alone. -/
theorem get_set_of_ne (v : ByKind α) {kind other : EventKind} (a : α) (h : kind ≠ other) :
    (v.set kind a).get other = v.get other := by
  cases kind <;> cases other <;> simp_all [get, set]

/-- Setting the value that a kind has changes nothing. -/
theorem set_get (v : ByKind α) (kind : EventKind) : v.set kind (v.get kind) = v := by
  cases kind <;> rfl

/-- Of two values set for a kind the last one counts. -/
theorem set_set (v : ByKind α) (kind : EventKind) (a b : α) :
    (v.set kind a).set kind b = v.set kind b := by
  cases kind <;> rfl

end ByKind

/-- The number that names a registered listener; numbers count from one and are not used again. -/
structure ListenerId where
  /-- The number. -/
  number : Nat
deriving DecidableEq, Repr

/-- The text of a listener's name. -/
def ListenerId.describe (id : ListenerId) : String :=
  s!"ListenerId({id.number})"

end Rtos

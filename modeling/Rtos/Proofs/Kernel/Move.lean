import Rtos.Kernel.Devices
import Rtos.Kernel.Tasks
import Rtos.Proofs.Scheduler.Slots
import Rtos.Proofs.Entity.References
import Rtos.Proofs.EventBus.Pass
import Mathlib.Logic.Relation

/-!
# Moves

The operations of the kernel differ in what they decide, but they change the kernel in few ways.
Each way is a `Move`, with the conditions under which an operation makes it.  Between two moves an
operation may have references in hand that stand nowhere in the kernel; a `Moment` is a kernel
together with those.

A label tells what a move does to the tasks.  A property that holds in every state is shown to
survive each move, and a theorem about one operation says with which labels it gets by.
-/

namespace Rtos

/-- A kernel in the middle of an operation. -/
structure Moment (π : Type) where
  /-- The kernel. -/
  kernel : Kernel π
  /-- The references that the operation has in hand. -/
  held : List EntityId
  /-- The entity that is about to lose a reference. -/
  falling : Option EntityId

/-- What a move does to the tasks. -/
inductive Label
  /-- Nothing to the live ones. -/
  | quiet
  /-- An outsider takes a reference on an entity. -/
  | shares
  /-- A task is created. -/
  | spawns (pid parent : Pid)
  /-- An event with this body is queued. -/
  | posts (payload : Payload)
  /-- An event is taken off the bus, or a listener is told of one. -/
  | delivers
  /-- A task leaves the processor or gets it. -/
  | switches
  /-- The running task parks. -/
  | parks (pid : Pid) (state : TaskState)
  /-- A task parked for a mutex gets it. -/
  | grants (pid : Pid)
  /-- A parent is woken past its listener, for one of its children. -/
  | wakes (pid child : Pid)
  /-- A task takes records off its list of dead children. -/
  | reaps (pid : Pid)
  /-- The running task exits. -/
  | exits (pid parent : Pid)
deriving DecidableEq, Repr

namespace Label

/-- The labels of what is done while the bus is emptied. -/
def InPass (label : Label) : Prop :=
  label = .quiet ∨ label = .delivers

/-- The labels of what does nothing to live tasks and creates none. -/
def Calm (label : Label) : Prop :=
  label = .quiet ∨ ∃ payload, label = .posts payload

/-- The labels of a pass and the switch behind it. -/
def InSchedule (label : Label) : Prop :=
  label.InPass ∨ label = .switches

end Label

/-! ## Changes of a kernel -/

/-- The counters, the clock and the log. -/
structure Books where
  /-- The clock. -/
  tick : UInt64
  /-- Whether a pass was asked for. -/
  passPending : Bool
  /-- How many atomic sections are open. -/
  sectionDepth : Nat
  /-- The log. -/
  journal : List Notice
  /-- The number of events refused. -/
  dropped : Counter
  /-- How many names of listeners were given out. -/
  issued : Counter

namespace Kernel

variable {π : Type}

/-- The books of a kernel. -/
def books (k : Kernel π) : Books :=
  ⟨k.sched.tick, k.sched.passPending, k.sched.sectionDepth, k.sched.journal,
    k.bus.queues.dropped, k.bus.registry.issued⟩

/-- The kernel with other books. -/
def setBooks (k : Kernel π) (b : Books) : Kernel π :=
  { k with
    sched := { k.sched with
      tick := b.tick, passPending := b.passPending, sectionDepth := b.sectionDepth,
      journal := b.journal }
    bus := {
      queues := { k.bus.queues with dropped := b.dropped }
      registry := { k.bus.registry with issued := b.issued } } }

/-- The kernel on hardware in another state. -/
def setPort (k : Kernel π) (port : π) : Kernel π :=
  { k with sched := { k.sched with port } }

/-- The kernel with another running task. -/
def setCurrent (k : Kernel π) (current : Pid) : Kernel π :=
  { k with sched := { k.sched with current } }

/-- The kernel with another occupant of a task slot. -/
def setTask (k : Kernel π) (pid : Pid) (t : Task) : Kernel π :=
  { k with sched := k.sched.setTask pid t }

/-- The kernel with other entities. -/
def setEntities (k : Kernel π) (entities : EntityTree Cleanup) : Kernel π :=
  { k with entities }

/-- The kernel with other queues. -/
def setQueues (k : Kernel π) (queues : Queues) : Kernel π :=
  { k with bus := { k.bus with queues } }

/-- The kernel with another list of listeners of a kind. -/
def setListeners (k : Kernel π) (kind : EventKind) (list : List (Subscription KernelListener)) :
    Kernel π :=
  { k with bus := { k.bus with registry :=
    { k.bus.registry with lists := k.bus.registry.lists.set kind list } } }

/-- The kernel with other devices. -/
def setDevices (k : Kernel π) (devices : Vector (Option EntityId) maxDevices) : Kernel π :=
  { k with devices }

theorem dispatch_eq_ok {k k' : Kernel π} {event : Event} {result : Dispatched}
    (h : k.dispatch event = .ok (result, k')) :
    ∃ queues, k.bus.queues.dispatch event = .ok (result, queues) ∧
      k' = (k.setQueues queues).note (.dispatched event.payload result) := by
  obtain ⟨⟨_, bus⟩, dispatch, eq⟩ := Checked.bind_eq_ok.1 h
  cases eq
  obtain ⟨queues, dispatched, rfl⟩ := EventBus.dispatch_eq_ok dispatch
  exact ⟨queues, dispatched, rfl⟩

end Kernel

/-! ## Waking -/

/-- An event with this body wakes the task in a slot once a listener of the task is told of it. -/
def Payload.Wakes (pid : Pid) (t : Task) : Payload → Prop
  | .task child parent _ =>
    parent = pid ∧ t.state = .awaitingChild ∧ t.childFilter.accepts child = true
  | .device number flags =>
    t.state = .awaitingDevice ∧ ∃ wait, t.deviceWait = some wait ∧ wait.device = number ∧
      flags.intersects (wait.direction.union DeviceFlags.err) = true
  | .file _ _ => False

/-- A task that was woken by an event. -/
def Task.woken (t : Task) : Payload → Task
  | .task _ _ _ => { t with state := .ready, exitListener := none }
  | .device _ _ => { t with state := .ready, deviceWait := none }
  | .file _ _ => t

theorem Payload.Wakes.parked {payload : Payload} {pid : Pid} {t : Task} (h : payload.Wakes pid t) :
    t.state = .awaitingChild ∨ t.state = .awaitingDevice := by
  cases payload with
  | task => exact .inl h.2.1
  | device => exact .inr h.1
  | file => exact h.elim

theorem Payload.Wakes.state_woken {payload : Payload} {pid : Pid} {t : Task}
    (h : payload.Wakes pid t) : (t.woken payload).state = .ready := by
  cases payload with
  | task => rfl
  | device => rfl
  | file => exact h.elim

/-! ## Moves -/

variable {π : Type}

/-- The changes of a task slot that change nothing else. -/
inductive Change (pid : Pid) : Label → Task → Task → Prop
  /-- The running task is made ready. -/
  | demote {t : Task} (running : t.state = .running) :
      Change pid .switches t { t with state := .ready }
  /-- The stack pointer is saved. -/
  | save {t : Task} (stackPointer : Nat) : Change pid .switches t { t with stackPointer }
  /-- The running task goes to sleep. -/
  | sleep {t : Task} (running : t.state = .running) (sleepLength stamp : UInt64) :
      Change pid (.parks pid .sleeping) t { t with sleepLength, stamp, state := .sleeping }
  /-- The running task parks for a mutex. -/
  | awaitMutex {t : Task} (running : t.state = .running) :
      Change pid (.parks pid .awaitingMutex) t { t with state := .awaitingMutex }
  /-- A task parked for a mutex gets it. -/
  | grant {t : Task} (parked : t.state = .awaitingMutex) :
      Change pid (.grants pid) t { t with state := .ready }

/-- The changes of the hardware that the kernel asks for without an effect on its tables. -/
inductive HardwareMove [Port π] (port : π) : π → Prop
  /-- A switch. -/
  | switch (source : Pid) (saved : Nat) (target : Pid) (resumed : Nat) :
      HardwareMove port (Port.switchTask source saved target resumed port).2
  /-- A stack is taken and given back. -/
  | lend {stack : Stack} {taken port' : π} (take : Port.takeStack port = some (stack, taken))
      (back : Port.returnStack stack taken = .ok port') : HardwareMove port port'

/-- The small changes that operations are made of. -/
inductive Move [Port π] : Label → Moment π → Moment π → Prop
  /-- The books are changed. -/
  | book {k : Kernel π} {held falling} (b : Books)
      (later : k.bus.registry.issued.value ≤ b.issued.value) :
      Move .quiet ⟨k, held, falling⟩ ⟨k.setBooks b, held, falling⟩
  /-- The hardware is asked for something. -/
  | hardware {k : Kernel π} {held falling port} (change : HardwareMove k.sched.port port) :
      Move .quiet ⟨k, held, falling⟩ ⟨k.setPort port, held, falling⟩
  /-- A task slot is changed. -/
  | change {k : Kernel π} {held falling label pid t t'} (found : k.sched.task? pid = some t)
      (change : Change pid label t t') :
      Move label ⟨k, held, falling⟩ ⟨k.setTask pid t', held, falling⟩
  /-- A task that can run, or the idle task, gets the processor. -/
  | promote {k : Kernel π} {held falling pid t} (found : k.sched.task? pid = some t)
      (alive : t.isAlive = true)
      (runnable : pid = idlePid ∨ t.state = .ready ∨ t.state = .running ∨ t.state = .sleeping) :
      Move .switches ⟨k, held, falling⟩
        ⟨(k.setTask pid { t with state := .running, stamp := k.sched.tick }).setCurrent pid, held,
          falling⟩
  /-- The running task parks behind a listener for exits. -/
  | awaitChild {k : Kernel π} {held falling pid t} {filter : ChildFilter} {id : ListenerId}
      (found : k.sched.task? pid = some t) (running : t.state = .running)
      (unrecorded : ∀ r ∈ t.unreaped.items, filter.accepts r.pid = false)
      (child : (k.sched.liveChildren pid).any filter.accepts = true)
      (fresh : id.number = k.bus.registry.issued.value + 1) :
      Move (.parks pid .awaitingChild) ⟨k, held, falling⟩
        ⟨((k.setTask pid { t with
            childFilter := filter, exitListener := some id, state := .awaitingChild }).setListeners
          .task (k.bus.registry.lists.task ++ [⟨id, .childExit, pid⟩])).setBooks
          { k.books with issued := ⟨id.number⟩ }, held, falling⟩
  /-- The running task parks behind a listener for reports of devices. -/
  | awaitDevice {k : Kernel π} {held falling pid t} {wait : DeviceWait} {id : ListenerId}
      (found : k.sched.task? pid = some t) (running : t.state = .running) :
      Move (.parks pid .awaitingDevice) ⟨k, held, falling⟩
        ⟨(k.setTask pid { t with deviceWait := some wait, state := .awaitingDevice }).setListeners
          .device (k.bus.registry.lists.device ++ [⟨id, .deviceReady, pid⟩]), held, falling⟩
  /-- A listener wakes its task. -/
  | wake {k : Kernel π} {held falling payload pre sub post t}
      (listed : k.bus.registry.lists.get payload.kind = pre ++ sub :: post)
      (found : k.sched.task? sub.extra = some t) (wakes : payload.Wakes sub.extra t) :
      Move .delivers ⟨k, held, falling⟩
        ⟨(k.setTask sub.extra (t.woken payload)).setListeners payload.kind (pre ++ post), held,
          falling⟩
  /-- A parent is woken past its listener. -/
  | wakeDirect {k : Kernel π} {held falling pid t child} (found : k.sched.task? pid = some t)
      (parked : t.state = .awaitingChild) (accepts : t.childFilter.accepts child = true)
      (busy : pid ≠ idlePid) :
      Move (.wakes pid child) ⟨k, held, falling⟩
        ⟨(k.setTask pid { t with exitListener := none, state := .ready }).setListeners .task
          (match t.exitListener with
          | some id => k.bus.registry.lists.task.eraseP (·.id == id)
          | none => k.bus.registry.lists.task), held, falling⟩
  /-- The entity of an event is created. -/
  | createEvent {k : Kernel π} {held p e id} (parent : k.entities.get? p = some e)
      (lasting : e.owner ≠ .event) (free : k.entities.get? id = none) :
      Move .quiet ⟨k, held, none⟩
        ⟨k.setEntities (k.entities.addChild p e id .event .nothing), id :: held, none⟩
  /-- An outsider creates the entity of an event, under any other. -/
  | hold {k : Kernel π} {held p e id} (parent : k.entities.get? p = some e)
      (free : k.entities.get? id = none) :
      Move .shares ⟨k, held, none⟩
        ⟨k.setEntities (k.entities.addChild p e id .event .nothing), id :: held, none⟩
  /-- Another reference is taken. -/
  | share {k : Kernel π} {held id e} (found : k.entities.get? id = some e) :
      Move .shares ⟨k, held, none⟩
        ⟨k.setEntities (k.entities.setCount id e (e.count.value + 1)), id :: held, none⟩
  /-- A reference in hand is dropped. -/
  | drop {k : Kernel π} {held id rest} (mine : held.Perm (id :: rest)) :
      Move .quiet ⟨k, held, none⟩ ⟨k, rest, some id⟩
  /-- An entity loses a reference and keeps others. -/
  | settle {k : Kernel π} {held id e} (found : k.entities.get? id = some e)
      (others : 1 < e.count.value) :
      Move .quiet ⟨k, held, some id⟩
        ⟨k.setEntities (k.entities.setCount id e (e.count.value - 1)), held, none⟩
  /-- An entity that owns nothing loses its last reference. -/
  | destroy {k : Kernel π} {held id e} (found : k.entities.get? id = some e)
      (last : e.count.value = 1) (below : id ≠ EntityId.root)
      (plain : ∀ pid, e.owner = .task pid → e.cleanup ≠ some .releaseTask) :
      Move .quiet ⟨k, held, some id⟩
        ⟨k.setEntities (k.entities.remove id), held, e.parent⟩
  /-- The entity of a task loses its last reference, and the slot of the task is freed. -/
  | destroyTask {k : Kernel π} {held id e pid t port} (found : k.entities.get? id = some e)
      (last : e.count.value = 1) (below : id ≠ EntityId.root) (owner : e.owner = .task pid)
      (cleanup : e.cleanup = some .releaseTask) (slot : k.sched.task? pid = some t)
      (stack : ∀ stack, t.stack = some stack → Port.returnStack stack k.sched.port = .ok port)
      (bare : t.stack = none → port = k.sched.port) :
      Move .quiet ⟨k, held, some id⟩
        ⟨((k.setEntities (k.entities.remove id)).setPort port).setTask pid .empty, held, e.parent⟩
  /-- An event is queued. -/
  | post {k : Kernel π} {held rest event result queues}
      (mine : held.Perm (event.entity :: rest))
      (owner : k.entities.owner? event.entity = some .event)
      (dispatched : k.bus.queues.dispatch event = .ok (result, queues))
      (queued : ∀ handed, result ≠ .refused handed) :
      Move (.posts event.payload) ⟨k, held, none⟩ ⟨k.setQueues queues, rest, none⟩
  /-- An event is taken off the bus. -/
  | fetch {k : Kernel π} {held event queues} (taken : k.bus.queues.Takes event queues) :
      Move .delivers ⟨k, held, none⟩ ⟨k.setQueues queues, event.entity :: held, none⟩
  /-- An overflowed event takes a place in its own queue. -/
  | shift {k : Kernel π} {held event taken queues}
      (oldest : k.bus.queues.dequeueOverflow? = some (event, taken))
      (put : taken.enqueue? event = some queues) :
      Move .delivers ⟨k, held, none⟩ ⟨k.setQueues queues, held, none⟩
  /-- A task takes records off its list of dead children. -/
  | reap {k : Kernel π} {held pid t taken unreaped} (found : k.sched.task? pid = some t)
      (split : t.unreaped.items.Perm (taken ++ unreaped.items)) :
      Move (.reaps pid) ⟨k, held, none⟩
        ⟨k.setTask pid { t with unreaped }, taken.map ExitRecord.entity ++ held, none⟩
  /-- The running task exits, and its parent gets a record of it. -/
  | exitRecorded {k : Kernel π} {held pid t p entity status unreaped}
      (found : k.sched.task? pid = some t) (running : t.state = .running)
      (busy : pid ≠ idlePid) (owns : t.entity = some entity) (cleared : t.unreaped.items = [])
      (parent : k.sched.task? t.parent = some p) (other : t.parent ≠ pid)
      (alive : p.isAlive = true) (notIdle : t.parent ≠ idlePid)
      (put : p.unreaped.push? ⟨pid, status, entity⟩ = some unreaped) :
      Move (.exits pid t.parent) ⟨k, held, none⟩
        ⟨(k.setTask pid { t with state := .dead, exitStatus := status }).setTask t.parent
          { p with unreaped }, held, none⟩
  /-- The running task exits, and nobody keeps a record of it. -/
  | exitForgotten {k : Kernel π} {held pid t entity status}
      (found : k.sched.task? pid = some t) (running : t.state = .running)
      (busy : pid ≠ idlePid) (owns : t.entity = some entity) (cleared : t.unreaped.items = [])
      (orphan : t.parent = idlePid ∨ t.parent = pid ∨
        ∃ p, k.sched.task? t.parent = some p ∧ p.isAlive = false) :
      Move (.exits pid t.parent) ⟨k, held, none⟩
        ⟨k.setTask pid { t with state := .dead, exitStatus := status }, entity :: held, none⟩
  /-- A task is created. -/
  | spawn {k : Kernel π} {held pid t parent pt pe e entity stack stackPointer entry}
      {taken laid : π} (found : k.sched.task? pid = some t) (free : t.active = false)
      (busy : pid ≠ idlePid) (spawner : k.sched.task? parent = some pt)
      (above : pt.entity = some pe) (live : k.entities.get? pe = some e)
      (lasting : e.owner ≠ .event) (unused : k.entities.get? entity = none)
      (take : Port.takeStack k.sched.port = some (stack, taken))
      (layOut : Port.layOutStack stack entry taken = .ok (stackPointer, laid)) :
      Move (.spawns pid parent) ⟨k, held, none⟩
        ⟨((k.setEntities (k.entities.addChild pe e entity (.task pid) .releaseTask)).setPort
          laid).setTask pid (.spawned pid parent entity stack stackPointer), held, none⟩
  /-- A device is registered. -/
  | register {k : Kernel π} {held entity e} (slot : Fin maxDevices)
      (vacant : k.devices.get slot = none) (root : k.entities.get? .root = some e)
      (unused : k.entities.get? entity = none) :
      Move .quiet ⟨k, held, none⟩
        ⟨(k.setEntities (k.entities.addChild .root e entity (.device slot) .nothing)).setDevices
          (k.devices.set slot (some entity) slot.isLt), held, none⟩
  /-- A device is taken out of the registry. -/
  | unregister {k : Kernel π} {held entity} (device : DeviceId)
      (registered : k.deviceEntity? device = some entity) :
      Move .quiet ⟨k, held, none⟩
        ⟨k.setDevices (k.devices.setIfInBounds device none), entity :: held, none⟩

/-- A sequence of moves with the labels allowed. -/
def Moves [Port π] (allowed : Label → Prop) : Moment π → Moment π → Prop :=
  Relation.ReflTransGen fun m m' => ∃ label, allowed label ∧ Move label m m'

namespace Moves

variable [Port π] {P Q : Label → Prop} {a b c : Moment π} {label : Label}

@[refl] theorem refl (a : Moment π) : Moves P a a :=
  Relation.ReflTransGen.refl

theorem single (allowed : P label) (move : Move label a b) : Moves P a b :=
  Relation.ReflTransGen.single ⟨label, allowed, move⟩

theorem trans (first : Moves P a b) (rest : Moves P b c) : Moves P a c :=
  Relation.ReflTransGen.trans first rest

theorem tail (first : Moves P a b) (allowed : P label) (move : Move label b c) : Moves P a c :=
  Relation.ReflTransGen.tail first ⟨label, allowed, move⟩

theorem mono (le : ∀ label, P label → Q label) (moves : Moves P a b) : Moves Q a b := by
  induction moves with
  | refl => exact refl a
  | tail _ last ih =>
    obtain ⟨label, allowed, move⟩ := last
    exact ih.tail (le label allowed) move

/-- What survives each move survives a sequence of them. -/
theorem keeps {I : Moment π → Prop} (moves : Moves P a b) (start : I a)
    (step : ∀ {label m m'}, P label → Move label m m' → I m → I m') : I b := by
  induction moves with
  | refl => exact start
  | tail _ last ih =>
    obtain ⟨label, allowed, move⟩ := last
    exact step allowed move ih

end Moves

end Rtos

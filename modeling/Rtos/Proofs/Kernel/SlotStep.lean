import Rtos.Proofs.Kernel.SoundMoves

/-!
# What a move does to a slot

A move changes a slot of the task table in one of few ways, which its label restricts
(`Move.slotStep`).  What is said of a task that stays parked, or of the running task, follows by
cases of `SlotStep`.
-/

namespace Rtos

variable {π : Type}

/-- What a move may do to the task in slot `pid`. -/
inductive SlotStep (pid : Pid) : Label → Task → Task → Prop
  /-- Nothing. -/
  | same {label : Label} (t : Task) : SlotStep pid label t t
  /-- A change of the slot alone. -/
  | change {label : Label} {t t' : Task} (change : Change pid label t t') : SlotStep pid label t t'
  /-- It gets the processor. -/
  | promote {t : Task} {stamp : UInt64} (alive : t.isAlive = true)
      (runnable : pid = idlePid ∨ t.state = .ready ∨ t.state = .running ∨ t.state = .sleeping) :
      SlotStep pid .switches t { t with state := .running, stamp }
  /-- It parks until a child exits. -/
  | awaitChild {t : Task} {filter : ChildFilter} {id : ListenerId} (running : t.state = .running) :
      SlotStep pid (.parks pid .awaitingChild) t
        { t with childFilter := filter, exitListener := some id, state := .awaitingChild }
  /-- It parks until a device reports. -/
  | awaitDevice {t : Task} {wait : DeviceWait} (running : t.state = .running) :
      SlotStep pid (.parks pid .awaitingDevice) t
        { t with deviceWait := some wait, state := .awaitingDevice }
  /-- A listener wakes it. -/
  | wake {t : Task} {payload : Payload} (wakes : payload.Wakes pid t) :
      SlotStep pid .delivers t (t.woken payload)
  /-- It is woken past its listener. -/
  | wakeDirect {t : Task} {child : Pid} (parked : t.state = .awaitingChild)
      (accepts : t.childFilter.accepts child = true) :
      SlotStep pid (.wakes pid child) t { t with exitListener := none, state := .ready }
  /-- It was dead, and its slot is freed. -/
  | freed {t : Task} (dead : t.state = .dead) : SlotStep pid .quiet t .empty
  /-- It takes records off its list of dead children. -/
  | reap {t : Task} {taken : List ExitRecord} {unreaped : Fifo maxTasks ExitRecord}
      (split : t.unreaped.items.Perm (taken ++ unreaped.items)) :
      SlotStep pid (.reaps pid) t { t with unreaped }
  /-- It gets the record of a child. -/
  | record {t : Task} {child : ExitRecord} {unreaped : Fifo maxTasks ExitRecord}
      (alive : t.isAlive = true) (busy : pid ≠ idlePid)
      (put : t.unreaped.push? child = some unreaped) :
      SlotStep pid (.exits child.pid pid) t { t with unreaped }
  /-- It exits. -/
  | die {t : Task} {status : Int} (running : t.state = .running) (busy : pid ≠ idlePid)
      (cleared : t.unreaped.items = []) :
      SlotStep pid (.exits pid t.parent) t { t with state := .dead, exitStatus := status }
  /-- The slot was free, and a task is created in it. -/
  | spawned {t : Task} {parent : Pid} {entity : EntityId} {stack : Stack} {stackPointer : Nat}
      (free : t.active = false) (busy : pid ≠ idlePid) :
      SlotStep pid (.spawns pid parent) t (.spawned pid parent entity stack stackPointer)

theorem SlotStep.setTask {label : Label} {s : Scheduler π} {p pid : Pid} {t u u' : Task}
    (found : s.task? p = some u) (slot : s.task? pid = some t) (step : SlotStep p label u u') :
    ∃ t', (s.setTask p u').task? pid = some t' ∧ SlotStep pid label t t' := by
  rw [Scheduler.task?_setTask found]
  split
  case isTrue eq =>
    subst eq
    cases found.symm.trans slot
    exact ⟨u', rfl, step⟩
  case isFalse => exact ⟨t, slot, .same t⟩

/-- Calm moves leave live tasks alone. -/
theorem SlotStep.calm {label : Label} {pid : Pid} {t t' : Task} (step : SlotStep pid label t t')
    (calm : label.Calm) (alive : t.isAlive = true) : t' = t := by
  rcases calm with rfl | ⟨payload, rfl⟩
  · cases step with
    | same => rfl
    | change change => cases change
    | freed dead => simp [Task.isAlive, dead] at alive
  · cases step with
    | same => rfl
    | change change => cases change

theorem SlotStep.reaps {pid other : Pid} {t t' : Task} (step : SlotStep pid (.reaps other) t t')
    (ne : other ≠ pid) : t' = t := by
  cases step with
  | same => rfl
  | change change => cases change
  | reap => exact absurd rfl ne

/-! ## Parked tasks -/

/-- A task in this state has to be woken. -/
def TaskState.Parked (state : TaskState) : Prop :=
  state = .awaitingDevice ∨ state = .awaitingMutex ∨ state = .awaitingChild

namespace TaskState.Parked

variable {state : TaskState}

theorem not_dead (h : state.Parked) : state ≠ .dead := by
  rcases h with rfl | rfl | rfl <;> nofun

theorem not_running (h : state.Parked) : state ≠ .running := by
  rcases h with rfl | rfl | rfl <;> nofun

theorem not_ready (h : state.Parked) : state ≠ .ready := by
  rcases h with rfl | rfl | rfl <;> nofun

theorem not_sleeping (h : state.Parked) : state ≠ .sleeping := by
  rcases h with rfl | rfl | rfl <;> nofun

end TaskState.Parked

/-- Two tasks wait for the same. -/
structure Task.SameWait (t t' : Task) : Prop where
  /-- They are in the same state. -/
  state : t'.state = t.state
  /-- They accept the same children. -/
  filter : t'.childFilter = t.childFilter
  /-- They wait for the same device. -/
  device : t'.deviceWait = t.deviceWait

namespace Task.SameWait

variable {t t' t'' : Task}

@[refl] theorem refl (t : Task) : t.SameWait t :=
  ⟨rfl, rfl, rfl⟩

theorem trans (h : t.SameWait t') (h' : t'.SameWait t'') : t.SameWait t'' :=
  ⟨h'.state.trans h.state, h'.filter.trans h.filter, h'.device.trans h.device⟩

theorem wakes_iff (h : t.SameWait t') {payload : Payload} {pid : Pid} :
    payload.Wakes pid t' ↔ payload.Wakes pid t := by
  cases payload with
  | task | device => simp only [Payload.Wakes, h.state, h.filter, h.device]
  | file => exact Iff.rfl

end Task.SameWait

namespace SlotStep

variable {label : Label} {pid : Pid} {t t' : Task}

/-- A step leaves a parked task where it is, but for what wakes it.  The idle task may get the
processor nevertheless. -/
theorem sameWait (step : SlotStep pid label t t') (parked : t.state.Parked) (active : t.active = true)
    (busy : pid ≠ idlePid) (deaf : ∀ payload : Payload, payload.Wakes pid t → label ≠ .delivers)
    (ungranted : t.state = .awaitingMutex → label ≠ .grants pid)
    (unwoken : t.state = .awaitingChild → ∀ child, t.childFilter.accepts child = true →
      label ≠ .wakes pid child) : t.SameWait t' := by
  cases step with
  | same | reap | record => exact ⟨rfl, rfl, rfl⟩
  | change change =>
    cases change with
    | save => exact ⟨rfl, rfl, rfl⟩
    | demote running | sleep running | awaitMutex running =>
      exact absurd running parked.not_running
    | grant waits => exact absurd rfl (ungranted waits)
  | promote alive runnable =>
    rcases runnable with idle | ready | running | sleeping
    · exact absurd idle busy
    · exact absurd ready parked.not_ready
    · exact absurd running parked.not_running
    · exact absurd sleeping parked.not_sleeping
  | awaitChild running | awaitDevice running | die running =>
    exact absurd running parked.not_running
  | wake wakes => exact absurd rfl (deaf _ wakes)
  | wakeDirect waits accepts => exact absurd rfl (unwoken waits _ accepts)
  | freed dead => exact absurd dead parked.not_dead
  | spawned free => cases active.symm.trans free

/-- Who is parked behind a step has just been parked, or was before, for the same. -/
theorem parked_back {state : TaskState} (step : SlotStep pid label t t') (waits : t'.state = state)
    (parked : state.Parked) : label = .parks pid state ∨ t.SameWait t' := by
  subst waits
  cases step with
  | same | reap | record => exact .inr ⟨rfl, rfl, rfl⟩
  | change change =>
    cases change with
    | save => exact .inr ⟨rfl, rfl, rfl⟩
    | awaitMutex => exact .inl rfl
    | sleep => exact absurd rfl parked.not_sleeping
    | demote | grant => exact absurd rfl parked.not_ready
  | awaitChild | awaitDevice => exact .inl rfl
  | wake wakes => exact absurd wakes.state_woken parked.not_ready
  | promote => exact absurd rfl parked.not_running
  | wakeDirect | spawned => exact absurd rfl parked.not_ready
  | freed | die => exact absurd rfl parked.not_dead

end SlotStep

namespace Move

variable [Port π] {label : Label} {m m' : Moment π} {pid : Pid} {t : Task}

/-- Every move changes every slot in one of the ways of `SlotStep`. -/
theorem slotStep (move : Move label m m') (h : m.Sound)
    (slot : m.kernel.sched.task? pid = some t) :
    ∃ t', m'.kernel.sched.task? pid = some t' ∧ SlotStep pid label t t' := by
  cases move with
  | book | hardware | createEvent | hold | share | drop | settle | destroy | post | fetch | shift
  | register | unregister => exact ⟨t, slot, .same t⟩
  | change found change => exact SlotStep.setTask found slot (.change change)
  | promote found alive runnable => exact SlotStep.setTask found slot (.promote alive runnable)
  | awaitChild found running => exact SlotStep.setTask found slot (.awaitChild running)
  | awaitDevice found running => exact SlotStep.setTask found slot (.awaitDevice running)
  | wake listed found wakes => exact SlotStep.setTask found slot (.wake wakes)
  | wakeDirect found parked accepts =>
    exact SlotStep.setTask found slot (.wakeDirect parked accepts)
  | @destroyTask k held id e pid t port found last below owner cleanup taken =>
    obtain ⟨-, u, taken', -, owns⟩ := h.linked.owner found owner
    cases taken.symm.trans taken'
    exact SlotStep.setTask taken slot (.freed (h.dead_of_last found last taken owns).1)
  | reap found split => exact SlotStep.setTask found slot (.reap split)
  | @exitRecorded k held p u q entity status unreaped found running busy owns cleared parent other
      alive notIdle put =>
    have parent' := (Scheduler.task?_setTask_of_ne k.sched
      { u with state := .dead, exitStatus := status } other).trans parent
    change ∃ t', ((k.sched.setTask p _).setTask u.parent _).task? pid = some t' ∧ _
    rw [Scheduler.task?_setTask parent']
    split
    case isTrue eq =>
      subst eq
      cases parent.symm.trans slot
      exact ⟨_, rfl, .record alive notIdle put⟩
    case isFalse ne =>
      rw [Scheduler.task?_setTask found]
      split
      case isTrue eq =>
        subst eq
        cases found.symm.trans slot
        exact ⟨_, rfl, .die running busy cleared⟩
      case isFalse => exact ⟨t, slot, .same t⟩
  | exitForgotten found running busy owns cleared =>
    exact SlotStep.setTask found slot (.die running busy cleared)
  | spawn found free busy => exact SlotStep.setTask found slot (.spawned free busy)

theorem slotStep_back (move : Move label m m') (h : m.Sound) {t' : Task}
    (slot : m'.kernel.sched.task? pid = some t') :
    ∃ t, m.kernel.sched.task? pid = some t ∧ SlotStep pid label t t' := by
  have lt := Scheduler.lt_of_task? slot
  have before : m.kernel.sched.task? pid = some m.kernel.sched.tasks[pid] :=
    Vector.getElem?_eq_getElem lt
  obtain ⟨t'', slot', step⟩ := move.slotStep h before
  cases slot.symm.trans slot'
  exact ⟨_, before, step⟩

end Move

theorem Moves.slot_calm [Port π] {P : Label → Prop} {m m' : Moment π} {pid : Pid} {t : Task}
    (moves : Moves P m m') (calm : ∀ label, P label → label.Calm) (h : m.Sound)
    (slot : m.kernel.sched.task? pid = some t) (alive : t.isAlive = true) :
    m'.kernel.sched.task? pid = some t := by
  refine (moves.keeps (I := fun m => m.Sound ∧ m.kernel.sched.task? pid = some t) ⟨h, slot⟩
    fun allowed move ⟨sound, slot⟩ => ⟨move.sound sound, ?_⟩).2
  obtain ⟨t', slot', step⟩ := move.slotStep sound slot
  rw [slot', step.calm (calm _ allowed) alive]

theorem Moves.slot_quiet [Port π] {m m' : Moment π} {pid : Pid} {t : Task}
    (moves : Moves (· = .quiet) m m') (h : m.Sound) (slot : m.kernel.sched.task? pid = some t)
    (alive : t.isAlive = true) : m'.kernel.sched.task? pid = some t :=
  moves.slot_calm (fun _ => .inl) h slot alive

theorem Moves.slot_reaps [Port π] {m m' : Moment π} {pid other : Pid} {t : Task}
    (moves : Moves (fun label => label = .quiet ∨ label = .reaps other) m m') (h : m.Sound)
    (slot : m.kernel.sched.task? pid = some t) (alive : t.isAlive = true) (ne : other ≠ pid) :
    m'.kernel.sched.task? pid = some t := by
  refine (moves.keeps (I := fun m => m.Sound ∧ m.kernel.sched.task? pid = some t) ⟨h, slot⟩
    fun allowed move ⟨sound, slot⟩ => ⟨move.sound sound, ?_⟩).2
  obtain ⟨t', slot', step⟩ := move.slotStep sound slot
  rcases allowed with rfl | rfl
  · rw [slot', step.calm (.inl rfl) alive]
  · rw [slot', step.reaps ne]

/-! ## Tasks that stay -/

/-- A task was in the slot before, and is what it was but for what it is doing. -/
structure Task.Remains (t t' : Task) : Prop where
  /-- The slot was taken. -/
  active : t.active = true
  /-- The parent is the same. -/
  parent : t'.parent = t.parent
  /-- The entity stays. -/
  entity : t'.entity = t.entity
  /-- The stack stays. -/
  stack : t'.stack = t.stack

namespace Task.Remains

variable {t t' t'' : Task}

theorem trans (h : t.Remains t') (h' : t'.Remains t'') : t.Remains t'' :=
  ⟨h.active, h'.parent.trans h.parent, h'.entity.trans h.entity, h'.stack.trans h.stack⟩

end Task.Remains

/-- Whoever is in a slot behind a step was there before, unless the step created it. -/
theorem SlotStep.remains {label : Label} {pid : Pid} {t t' : Task} (step : SlotStep pid label t t')
    (active : t'.active = true) (old : ∀ parent, label ≠ .spawns pid parent) : t.Remains t' := by
  cases step with
  | change change => cases change <;> exact ⟨active, rfl, rfl, rfl⟩
  | @wake t payload => cases payload <;> exact ⟨active, rfl, rfl, rfl⟩
  | freed => cases active
  | spawned => exact absurd rfl (old _)
  | same | promote | awaitChild | awaitDevice | wakeDirect | reap | record | die =>
    exact ⟨active, rfl, rfl, rfl⟩

theorem Moves.remains [Port π] {P : Label → Prop} {m m' : Moment π} {pid : Pid} {t' : Task}
    (moves : Moves P m m') (sound : m.Sound) (old : ∀ parent, ¬P (.spawns pid parent))
    (slot' : m'.kernel.sched.task? pid = some t') (active : t'.active = true) :
    ∃ t, m.kernel.sched.task? pid = some t ∧ t.Remains t' := by
  induction moves generalizing t' with
  | refl => exact ⟨t', slot', active, rfl, rfl, rfl⟩
  | tail first last ih =>
    obtain ⟨label, allowed, move⟩ := last
    obtain ⟨t₁, slot₁, step⟩ := move.slotStep_back (Moves.sound first sound) slot'
    have remains : t₁.Remains t' := step.remains active (by rintro parent rfl; exact old _ allowed)
    obtain ⟨t, slot, before⟩ := ih slot₁ remains.active
    exact ⟨t, slot, before.trans remains⟩

/-! ## Tasks that wait -/

/-- The task in slot `pid` waits for what `t` waits for. -/
def Kernel.Waits (k : Kernel π) (pid : Pid) (t : Task) : Prop :=
  ∃ t', k.sched.task? pid = some t' ∧ t.SameWait t'

/-- The task in a slot is parked for a mutex. -/
def Kernel.AwaitsMutex (k : Kernel π) (pid : Pid) : Prop :=
  ∃ t, k.sched.task? pid = some t ∧ t.state = .awaitingMutex

namespace Moves

variable [Port π] {P : Label → Prop} {m m' : Moment π} {pid : Pid} {t t' : Task}

/-- Moves leave a parked task where it is, but for what wakes it. -/
theorem waits (moves : Moves P m m') (sound : m.Sound) (h : m.kernel.Waits pid t)
    (parked : t.state.Parked) (busy : pid ≠ idlePid)
    (deaf : ∀ payload : Payload, payload.Wakes pid t → ¬P .delivers)
    (ungranted : t.state = .awaitingMutex → ¬P (.grants pid))
    (unwoken : t.state = .awaitingChild → ∀ child, t.childFilter.accepts child = true →
      ¬P (.wakes pid child)) : m'.kernel.Waits pid t := by
  refine (moves.keeps (I := fun m => m.Sound ∧ m.kernel.Waits pid t) ⟨sound, h⟩
    fun {label m m'} allowed move ⟨sound, t₁, slot, same⟩ => ⟨move.sound sound, ?_⟩).2
  obtain ⟨t₂, slot', step⟩ := move.slotStep sound slot
  have parked₁ : t₁.state.Parked := by rw [same.state]; exact parked
  have active := sound.tasks.active slot parked₁.not_dead
  refine ⟨t₂, slot', same.trans (step.sameWait parked₁ active busy ?_ ?_ ?_)⟩
  · rintro payload wakes rfl
    exact deaf payload (same.wakes_iff.1 wakes) allowed
  · rintro waits rfl
    exact ungranted (same.state ▸ waits) allowed
  · rintro waits child accepts rfl
    exact unwoken (same.state ▸ waits) child (same.filter ▸ accepts) allowed

/-- Who is parked behind moves that park it for nothing was parked before, for the same. -/
theorem waits_back {state : TaskState} (moves : Moves P m m') (sound : m.Sound)
    (slot' : m'.kernel.sched.task? pid = some t') (waits : t'.state = state) (parked : state.Parked)
    (none : ¬P (.parks pid state)) :
    ∃ t, m.kernel.sched.task? pid = some t ∧ t.state = state ∧ t.SameWait t' := by
  induction moves generalizing t' with
  | refl => exact ⟨t', slot', waits, .refl t'⟩
  | tail first last ih =>
    obtain ⟨label, allowed, move⟩ := last
    obtain ⟨t₁, slot₁, step⟩ := move.slotStep_back (Moves.sound first sound) slot'
    rcases step.parked_back waits parked with rfl | same
    · exact absurd allowed none
    · obtain ⟨t, slot, before, same'⟩ := ih slot₁ (same.state.symm.trans waits)
      exact ⟨t, slot, before, same'.trans same⟩

/-- A task parked for a mutex stays parked as long as no mutex is granted to it. -/
theorem awaitsMutex (moves : Moves P m m') (sound : m.Sound) (parked : m.kernel.AwaitsMutex pid)
    (busy : pid ≠ idlePid) (ungranted : ¬P (.grants pid)) : m'.kernel.AwaitsMutex pid := by
  obtain ⟨t, slot, parked⟩ := parked
  obtain ⟨t', slot', same⟩ := moves.waits sound ⟨t, slot, .refl t⟩ (.inr (.inl parked)) busy
    (fun payload wakes => by
      rcases wakes.parked with child | device
      · cases parked.symm.trans child
      · cases parked.symm.trans device)
    (fun _ => ungranted) (fun waits => by cases parked.symm.trans waits)
  exact ⟨t', slot', same.state.trans parked⟩

end Moves

end Rtos

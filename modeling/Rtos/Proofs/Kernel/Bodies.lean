import Rtos.Proofs.Kernel.Tasks
import Rtos.Proofs.Port.Services

/-!
# What happens apart from switches

All that an operation does before a pass or a hand-off leaves the processor to its task: the port is
asked for no switch, and stack pointers are left as they are (`Scheduler.Stays`).  Inside an atomic
section it also delivers nothing and parks nobody (`Kernel.Withholds`), and the pass that would follow is
only asked for.
-/

namespace Rtos

/-- A notice that a pass writes. -/
def Notice.isPass : Notice → Bool
  | .scheduled _ _ _ => true
  | _ => false

/-- A task in this state has left the processor, and cannot run before something happens. -/
def TaskState.Suspended (state : TaskState) : Prop :=
  state = .sleeping ∨ state.Parked

variable {π : Type}

/-! ## The processor stays with its task -/

namespace Scheduler

/-- How many passes the log tells of. -/
def passes (s : Scheduler π) : Nat :=
  s.journal.countP Notice.isPass

variable [Port π]

/-- The processor, the sections, the clock and the saved stack pointers are what they were, and there
was no pass; only those in `new` may be tasks that were not there. -/
structure Stays (new : Pid → Prop) (s r : Scheduler π) : Prop where
  /-- The same task is current. -/
  current : r.current = s.current
  /-- As many sections are open. -/
  depth : r.sectionDepth = s.sectionDepth
  /-- A pass is pending if one was. -/
  pending : r.passPending = s.passPending
  /-- The clock stands still. -/
  tick : r.tick = s.tick
  /-- No switch was asked for. -/
  hardware : Port.Serves [] s.port r.port
  /-- There was no pass. -/
  passes : r.passes = s.passes
  /-- Who was there has the stack pointer that it had. -/
  pointers : ∀ {pid t'}, r.task? pid = some t' → t'.active = true →
    new pid ∨ ∃ t, s.task? pid = some t ∧ t.active = true ∧ t'.stackPointer = t.stackPointer

namespace Stays

variable {new : Pid → Prop} {s r u : Scheduler π} {pid : Pid} {t t' : Task} {port : π}

@[refl] theorem refl (s : Scheduler π) : Stays new s s :=
  ⟨rfl, rfl, rfl, rfl, .refl _, rfl, fun slot active => .inr ⟨_, slot, active, rfl⟩⟩

theorem trans (first : Stays new s r) (rest : Stays new r u) : Stays new s u where
  current := rest.current.trans first.current
  depth := rest.depth.trans first.depth
  pending := rest.pending.trans first.pending
  tick := rest.tick.trans first.tick
  hardware := first.hardware.trans rest.hardware
  passes := rest.passes.trans first.passes
  pointers slot active := by
    rcases rest.pointers slot active with fresh | ⟨t, slot, active, same⟩
    · exact .inl fresh
    · exact (first.pointers slot active).imp_right fun ⟨t₀, slot₀, active₀, same₀⟩ =>
        ⟨t₀, slot₀, active₀, same.trans same₀⟩

theorem mono {more : Pid → Prop} (h : Stays new s r) (le : ∀ pid, new pid → more pid) :
    Stays more s r :=
  ⟨h.current, h.depth, h.pending, h.tick, h.hardware, h.passes, fun slot active =>
    (h.pointers slot active).imp_left (le _)⟩

theorem note (s : Scheduler π) {notice : Notice} (other : notice.isPass = false) :
    Stays new s (s.note notice) where
  current := rfl
  depth := rfl
  pending := rfl
  tick := rfl
  hardware := .refl _
  passes := List.countP_cons_of_neg (by rw [other]; nofun)
  pointers slot active := .inr ⟨_, slot, active, rfl⟩

theorem setPort (serves : Port.Serves [] s.port port) : Stays new s { s with port } :=
  ⟨rfl, rfl, rfl, rfl, serves, rfl, fun slot active => .inr ⟨_, slot, active, rfl⟩⟩

theorem setTask (found : s.task? pid = some t)
    (same : t'.active = true → t.active = true ∧ t'.stackPointer = t.stackPointer) :
    Stays new s (s.setTask pid t') where
  current := rfl
  depth := rfl
  pending := rfl
  tick := rfl
  hardware := .refl _
  passes := rfl
  pointers slot active := by
    rcases of_task?_setTask found slot with ⟨rfl, rfl⟩ | ⟨-, slot⟩
    · exact .inr ⟨t, found, same active⟩
    · exact .inr ⟨_, slot, active, rfl⟩

theorem setTask_new (found : s.task? pid = some t) (fresh : new pid) :
    Stays new s (s.setTask pid t') where
  current := rfl
  depth := rfl
  pending := rfl
  tick := rfl
  hardware := .refl _
  passes := rfl
  pointers slot active := by
    rcases of_task?_setTask found slot with ⟨rfl, -⟩ | ⟨-, slot⟩
    · exact .inl fresh
    · exact .inr ⟨_, slot, active, rfl⟩

theorem modify {f : Task → Task} (h : s.modify pid f = .ok r)
    (same : ∀ t, (f t).active = t.active ∧ (f t).stackPointer = t.stackPointer) :
    Stays new s r := by
  obtain ⟨t, found, rfl⟩ := modify_eq_ok.1 h
  exact setTask found fun active => ⟨(same t).1.symm.trans active, (same t).2⟩

theorem park {f : Task → Task} {state : TaskState} (changed : s.modify pid f = .ok r)
    (parked : r.parkCurrent state = .ok u)
    (same : ∀ t, (f t).active = t.active ∧ (f t).stackPointer = t.stackPointer) : Stays new s u :=
  (modify changed same).trans (.modify parked fun _ => ⟨rfl, rfl⟩)

theorem freeTask (h : s.freeTask pid = .ok r) : Stays new s r := by
  obtain ⟨t, port, found, back, bare, rfl⟩ := freeTask_eq_ok h
  have serves : Port.Serves [] s.port port := by
    cases stack : t.stack with
    | none => rw [bare stack]; exact .refl _
    | some stack' => exact (Port.Serves.refl _).giveBack (back stack' stack)
  have emptied : Stays new { s with port } (({ s with port } : Scheduler π).setTask pid .empty) :=
    setTask found fun active => by cases active
  exact (setPort serves).trans (emptied.trans (note _ rfl))

end Stays

end Scheduler

/-! ## Nothing is delivered, and nobody parks -/

/-- Nothing was taken off the bus, no listener came, went or was told of anything, and nobody left the
processor to wait. -/
structure Kernel.Withholds (k k' : Kernel π) : Prop where
  /-- What is queued stays queued, in front of what is new. -/
  queued : ∀ kind, (k.bus.queues.pending.get kind).items <+: (k'.bus.queues.pending.get kind).items
  /-- What has overflowed stays in the overflow queue. -/
  overflowed : k.bus.queues.overflow.items <+: k'.bus.queues.overflow.items
  /-- The listeners are the same. -/
  listeners : k'.bus.registry.lists = k.bus.registry.lists
  /-- No observer was told of anything. -/
  heard : k'.heard = k.heard
  /-- Who sleeps or is parked did so before. -/
  suspended : ∀ {pid t'}, k'.sched.task? pid = some t' → t'.state.Suspended →
    ∃ t, k.sched.task? pid = some t ∧ t.state = t'.state

namespace Kernel

namespace Withholds

variable {k k' k'' : Kernel π} {pid : Pid} {t t' : Task}

@[refl] theorem refl (k : Kernel π) : k.Withholds k :=
  ⟨fun _ => List.prefix_rfl, List.prefix_rfl, rfl, rfl, fun slot _ => ⟨_, slot, rfl⟩⟩

theorem trans (first : k.Withholds k') (rest : k'.Withholds k'') : k.Withholds k'' where
  queued kind := (first.queued kind).trans (rest.queued kind)
  overflowed := first.overflowed.trans rest.overflowed
  listeners := rest.listeners.trans first.listeners
  heard := rest.heard.trans first.heard
  suspended slot waits := by
    obtain ⟨t, slot, same⟩ := rest.suspended slot waits
    obtain ⟨t₀, slot₀, same₀⟩ := first.suspended slot (same ▸ waits)
    exact ⟨t₀, slot₀, same₀.trans same⟩

theorem of_eq (bus : k'.bus = k.bus) (heard : k'.heard = k.heard)
    (tasks : k'.sched.tasks = k.sched.tasks) : k.Withholds k' where
  queued kind := bus ▸ List.prefix_rfl
  overflowed := bus ▸ List.prefix_rfl
  listeners := bus ▸ rfl
  heard := heard
  suspended {pid t'} slot _ := by
    have same : k'.sched.task? pid = k.sched.task? pid := by simp only [Scheduler.task?, tasks]
    exact ⟨t', same.symm.trans slot, rfl⟩

theorem setTask (found : k.sched.task? pid = some t)
    (same : t'.state.Suspended → t'.state = t.state) : k.Withholds (k.setTask pid t') where
  queued _ := List.prefix_rfl
  overflowed := List.prefix_rfl
  listeners := rfl
  heard := rfl
  suspended slot waits := by
    rcases Scheduler.of_task?_setTask found slot with ⟨rfl, rfl⟩ | ⟨-, slot⟩
    · exact ⟨t, found, (same waits).symm⟩
    · exact ⟨_, slot, rfl⟩

end Withholds

/-! ## Both -/

variable [Port π]

/-- The processor stays with its task, nothing is delivered, and nobody parks. -/
structure Inert (new : Pid → Prop) (k k' : Kernel π) : Prop where
  /-- The processor stays with its task. -/
  stays : k.sched.Stays new k'.sched
  /-- Nothing is delivered, and nobody parks. -/
  withholds : k.Withholds k'

namespace Inert

variable {new : Pid → Prop} {k k' k'' : Kernel π} {pid : Pid} {t t' : Task} {id : EntityId}

@[refl] theorem refl (k : Kernel π) : k.Inert new k :=
  ⟨.refl _, .refl _⟩

theorem trans (first : k.Inert new k') (rest : k'.Inert new k'') : k.Inert new k'' :=
  ⟨first.stays.trans rest.stays, first.withholds.trans rest.withholds⟩

theorem mono {more : Pid → Prop} (h : k.Inert new k') (le : ∀ pid, new pid → more pid) :
    k.Inert more k' :=
  ⟨h.stays.mono le, h.withholds⟩

theorem note (k : Kernel π) {notice : Notice} (other : notice.isPass = false) :
    k.Inert new (k.note notice) :=
  ⟨.note _ other, .of_eq rfl rfl rfl⟩

theorem setPort {port : π} (serves : Port.Serves [] k.sched.port port) :
    k.Inert new { k with sched := { k.sched with port } } :=
  ⟨.setPort serves, .of_eq rfl rfl rfl⟩

theorem of_eq (sched : k'.sched = k.sched) (bus : k'.bus = k.bus) (heard : k'.heard = k.heard) :
    k.Inert new k' :=
  ⟨sched ▸ .refl _, .of_eq bus heard (sched ▸ rfl)⟩

theorem setTask (found : k.sched.task? pid = some t)
    (same : t'.active = true → t.active = true ∧ t'.stackPointer = t.stackPointer)
    (state : t'.state.Suspended → t'.state = t.state) : k.Inert new (k.setTask pid t') :=
  ⟨.setTask found same, .setTask found state⟩

theorem setTask_new (found : k.sched.task? pid = some t) (fresh : new pid)
    (state : ¬t'.state.Suspended) : k.Inert new (k.setTask pid t') :=
  ⟨.setTask_new found fresh, .setTask found fun waits => absurd waits state⟩

theorem freeTask {s : Scheduler π} (h : k.sched.freeTask pid = .ok s) :
    k.Inert new { k with sched := s } := by
  refine ⟨.freeTask h, ?_⟩
  obtain ⟨t, port, found, -, -, rfl⟩ := Scheduler.freeTask_eq_ok h
  have emptied : k.Withholds (k.setTask pid .empty) :=
    .setTask found (by rintro (sleeps | parked | parked | parked) <;> cases ‹_›)
  exact emptied.trans (.of_eq rfl rfl rfl)

theorem release (h : k.release id = .ok k') : k.Inert new k' := by
  obtain ⟨c, released, eq⟩ := Checked.bind_eq_ok.1 h
  cases eq
  obtain ⟨⟨entities, sched⟩, walked, eq⟩ := Checked.bind_eq_ok.1 released
  cases eq
  have kept : k.Inert new { k with sched } := by
    refine EntityTree.release_keeps (I := fun s => k.Inert new { k with sched := s }) ?_ walked
      (.refl k)
    intro tag owner s s' inert cleaned
    unfold Cleanup.run at cleaned
    split at cleaned
    case h_1 => exact inert.trans (freeTask (k := { k with sched := s }) cleaned)
    case h_2 => cases cleaned; exact inert
  exact kept.trans (.of_eq rfl rfl rfl)

theorem releaseAll {ids : List EntityId} (h : k.releaseAll ids = .ok k') : k.Inert new k' := by
  induction ids generalizing k with
  | nil => cases h; exact .refl _
  | cons id ids ih =>
    obtain ⟨k₁, released, rest⟩ := Checked.bind_eq_ok.1 h
    exact (release released).trans (ih rest)

theorem createEntity {parent : Option EntityId} {owner : Owner} {cleanup : Cleanup}
    {result : Except Error EntityId} (h : k.createEntity parent owner cleanup = .ok (result, k')) :
    k.Inert new k' := by
  obtain ⟨created, -, eq⟩ := Checked.bind_eq_ok.1 h
  cases created <;> cases eq
  · exact .refl _
  · exact .of_eq rfl rfl rfl

theorem dispatch {event : Event} {result : Dispatched} (h : k.dispatch event = .ok (result, k')) :
    k.Inert new k' := by
  obtain ⟨queues, dispatched, rfl⟩ := Kernel.dispatch_eq_ok h
  obtain ⟨queued, overflowed⟩ := Queues.queued_dispatch dispatched
  exact ⟨.note _ rfl, queued, overflowed, rfl, rfl, fun slot _ => ⟨_, slot, rfl⟩⟩

theorem announce {parent : Option EntityId} {payload : Payload} {result : Except Error Unit}
    (h : k.announce parent payload = .ok (result, k')) : k.Inert new k' := by
  obtain ⟨⟨created, k₁⟩, create, next⟩ := Checked.bind_eq_ok.1 h
  have first : k.Inert new k₁ := createEntity create
  cases created with
  | error e => cases next; exact first
  | ok entity =>
    obtain ⟨⟨dispatched, k₂⟩, dispatched', next⟩ := Checked.bind_eq_ok.1 next
    have second := first.trans (dispatch dispatched')
    cases dispatched with
    | refused =>
      obtain ⟨k₃, released, eq⟩ := Checked.bind_eq_ok.1 next
      cases eq
      exact second.trans (release released)
    | queued | overflowed => cases next; exact second

end Inert

end Kernel

end Rtos

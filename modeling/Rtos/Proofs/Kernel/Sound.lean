import Rtos.Proofs.Kernel.Move

/-!
# Sound moments

The counts in the arena agree with the references that stand somewhere: in the task table, in lists
of dead children, in the device registry, in queued events, in the hands of the present operation,
or with the children of an entity.  `Moment.Sound` says so, together with what the tables say of
each other, and every move keeps it (`Move.sound`).
-/

namespace Rtos

variable {π : Type}

/-- The listeners that the kernel itself registers for a kind. -/
def KernelListener.serves : KernelListener → EventKind → Bool
  | childExit, .task => true
  | deviceReady, .device => true
  | _, _ => false

namespace Kernel

/-- The references that the registry of devices holds. -/
def deviceReferences (k : Kernel π) : List EntityId :=
  k.devices.toList.flatMap Option.toList

/-- The references that stand in the kernel; the root's is its own. -/
def references (k : Kernel π) : List EntityId :=
  .root :: (k.sched.references ++ k.deviceReferences ++ k.bus.queues.events.map (·.entity))

/-- What the tables say of the entities. -/
structure Linked (k : Kernel π) : Prop where
  /-- The task in a slot has a live entity. -/
  task : ∀ {pid t}, k.sched.task? pid = some t → t.active = true →
    ∃ id, t.entity = some id ∧ k.entities.owner? id = some (.task pid)
  /-- The entity of a task is that of the task in its slot. -/
  owner : ∀ {id e pid}, k.entities.get? id = some e → e.owner = .task pid →
    e.cleanup = some .releaseTask ∧
      ∃ t, k.sched.task? pid = some t ∧ t.active = true ∧ t.entity = some id
  /-- A registered device has a live entity. -/
  device : ∀ {slot id}, k.deviceEntity? slot = some id → k.entities.owner? id = some (.device slot)
  /-- A queued event has a live entity. -/
  event : ∀ {event}, event ∈ k.bus.queues.events → k.entities.owner? event.entity = some .event

end Kernel

/-- The invariant of all moments. -/
structure Moment.Sound (m : Moment π) : Prop where
  /-- The arena is well-formed. -/
  tree : m.kernel.entities.Proper
  /-- The task table is well-formed. -/
  tasks : m.kernel.sched.Proper
  /-- What the tables say of the entities is true. -/
  linked : m.kernel.Linked
  /-- The listeners are the kernel's own. -/
  listeners : ∀ kind, ∀ sub ∈ m.kernel.bus.registry.lists.get kind,
    sub.listener.serves kind = true
  /-- Each reference is counted once. -/
  balance : ∀ id, m.kernel.entities.refs id =
    (m.kernel.references ++ m.held ++ m.falling.toList).count id +
      m.kernel.entities.parents.count id

/-! ## Changes of the tables -/

/-- Each change of a slot alone keeps what the slot refers to. -/
theorem Change.keeps {label : Label} {pid : Pid} {t t' : Task} (h : Change pid label t t') :
    t.Keeps t' := by
  cases h with
  | demote running => exact ⟨rfl, rfl, rfl, rfl, rfl, by simp [running]⟩
  | save => exact ⟨rfl, rfl, rfl, rfl, rfl, Iff.rfl⟩
  | sleep running => exact ⟨rfl, rfl, rfl, rfl, rfl, by simp [running]⟩
  | awaitMutex running => exact ⟨rfl, rfl, rfl, rfl, rfl, by simp [running]⟩
  | grant parked => exact ⟨rfl, rfl, rfl, rfl, rfl, by simp [parked]⟩

theorem Payload.Wakes.keeps {payload : Payload} {pid : Pid} {t : Task} (h : payload.Wakes pid t) :
    t.Keeps (t.woken payload) := by
  cases payload with
  | task => exact ⟨rfl, rfl, rfl, rfl, rfl, by simp [Task.woken, h.2.1]⟩
  | device => exact ⟨rfl, rfl, rfl, rfl, rfl, by simp [Task.woken, h.1]⟩
  | file => exact h.elim

namespace Kernel

variable {k : Kernel π} {id p : EntityId} {e : Entity Cleanup} {pid : Pid} {t t' : Task}

theorem count_references (k : Kernel π) (id : EntityId) :
    k.references.count id = [EntityId.root].count id + k.sched.references.count id +
      k.deviceReferences.count id + (k.bus.queues.events.map (·.entity)).count id := by
  rw [references, ← List.singleton_append, List.count_append, List.count_append, List.count_append]
  omega

theorem mem_deviceReferences :
    id ∈ k.deviceReferences ↔ ∃ slot, k.deviceEntity? slot = some id := by
  simp only [deviceReferences, List.mem_flatMap, Vector.mem_toList_iff, Option.mem_toList,
    deviceEntity?, Option.join_eq_some_iff, Vector.getElem?_eq_some_iff]
  constructor
  · rintro ⟨o, mem, rfl⟩
    obtain ⟨i, lt, eq⟩ := Vector.mem_iff_getElem.1 mem
    exact ⟨i, lt, eq⟩
  · rintro ⟨slot, lt, eq⟩
    exact ⟨some id, Vector.mem_iff_getElem.2 ⟨slot, lt, eq⟩, rfl⟩

theorem mem_references_of_task (found : k.sched.task? pid = some t) (h : id ∈ t.references) :
    id ∈ k.references := by
  have mem := Scheduler.mem_references found h
  simp [references, mem]

theorem mem_references_of_device {slot : DeviceId} (h : k.deviceEntity? slot = some id) :
    id ∈ k.references := by
  have mem := mem_deviceReferences.2 ⟨slot, h⟩
  simp [references, mem]

theorem mem_references_of_event {event : Event} (h : event ∈ k.bus.queues.events) :
    event.entity ∈ k.references := by
  have mem := List.mem_map_of_mem (f := Event.entity) h
  simp [references, mem]

theorem count_references_setTask (found : k.sched.task? pid = some t) (t' : Task) (id : EntityId) :
    (k.setTask pid t').references.count id + t.references.count id =
      k.references.count id + t'.references.count id := by
  have exchange := Scheduler.count_references_setTask found t' id
  simp only [count_references, setTask, deviceReferences] at exchange ⊢
  omega

namespace Linked

theorem of_eq {k' : Kernel π} (h : k.Linked) (tasks : k'.sched.tasks = k.sched.tasks)
    (entities : k'.entities = k.entities) (devices : k'.devices = k.devices)
    (events : k'.bus.queues.events = k.bus.queues.events) : k'.Linked where
  task slot := by
    simp only [Scheduler.task?, tasks, entities] at slot ⊢
    exact h.task slot
  owner live := by
    simp only [Scheduler.task?, tasks, entities] at live ⊢
    exact h.owner live
  device registered := by
    simp only [deviceEntity?, devices, entities] at registered ⊢
    exact h.device registered
  event queued := by
    rw [entities]
    exact h.event (events ▸ queued)

theorem setTask (h : k.Linked) (found : k.sched.task? pid = some t) (active : t'.active = t.active)
    (entity : t'.entity = t.entity) : (k.setTask pid t').Linked where
  task {p u} slot taken := by
    have slot : (k.sched.setTask pid t').task? p = some u := slot
    rcases Scheduler.of_task?_setTask found slot with ⟨rfl, rfl⟩ | ⟨-, slot⟩
    · rw [entity]
      exact h.task found (active ▸ taken)
    · exact h.task slot taken
  owner {x e p} live owner := by
    obtain ⟨cleanup, u, slot, taken, owns⟩ := h.owner live owner
    refine ⟨cleanup, ?_⟩
    change ∃ u, (k.sched.setTask pid t').task? p = some u ∧ _
    rw [Scheduler.task?_setTask found]
    split
    case isTrue eq =>
      subst eq
      cases found.symm.trans slot
      exact ⟨t', rfl, active.trans taken, entity.trans owns⟩
    case isFalse => exact ⟨u, slot, taken, owns⟩
  device := h.device
  event := h.event

theorem setCount (h : k.Linked) (found : k.entities.get? id = some e) (n : Nat) :
    (k.setEntities (k.entities.setCount id e n)).Linked where
  task slot active := by
    obtain ⟨x, owns, owner⟩ := h.task slot active
    exact ⟨x, owns, (EntityTree.owner?_setCount found n x).trans owner⟩
  owner {x e' pid} live owner := by
    have live : (k.entities.setCount id e n).get? x = some e' := live
    rw [EntityTree.get?_setCount] at live
    split at live
    case isTrue eq =>
      cases live
      subst eq
      have linked := h.owner found owner
      exact linked
    case isFalse => exact h.owner live owner
  device registered := (EntityTree.owner?_setCount found n _).trans (h.device registered)
  event queued := (EntityTree.owner?_setCount found n _).trans (h.event queued)

/-- A new entity that belongs to no task keeps the links. -/
theorem addChild (h : k.Linked) {owner : Owner} {tag : Cleanup}
    (found : k.entities.get? p = some e) (free : k.entities.get? id = none)
    (other : ∀ pid, owner ≠ .task pid) :
    (k.setEntities (k.entities.addChild p e id owner tag)).Linked where
  task slot active := by
    obtain ⟨x, owns, owned⟩ := h.task slot active
    exact ⟨x, owns, EntityTree.owner?_addChild_of_some found free owned⟩
  owner {x e' pid} live owned := by
    have live : (k.entities.addChild p e id owner tag).get? x = some e' := live
    rw [EntityTree.get?_addChild] at live
    split at live
    case isTrue => cases live; exact absurd owned (other pid)
    case isFalse =>
      split at live
      case isTrue eq =>
        cases live
        subst eq
        have linked := h.owner found owned
        exact linked
      case isFalse => exact h.owner live owned
  device registered := EntityTree.owner?_addChild_of_some found free (h.device registered)
  event queued := EntityTree.owner?_addChild_of_some found free (h.event queued)

end Linked

end Kernel

namespace Moment.Sound

variable {k : Kernel π} {held rest : List EntityId} {falling : Option EntityId} {id p : EntityId}
  {e : Entity Cleanup} {pid : Pid} {t t' : Task}

/-! ## What every move keeps -/

theorem setTask (h : Sound ⟨k, held, falling⟩) (found : k.sched.task? pid = some t)
    (keeps : t.Keeps t') : Sound ⟨k.setTask pid t', held, falling⟩ where
  tree := h.tree
  tasks := h.tasks.setTask found keeps
  linked := h.linked.setTask found keeps.active keeps.entity
  listeners := h.listeners
  balance x := by
    have balance := h.balance x
    have exchange := Kernel.count_references_setTask found t' x
    rw [keeps.references] at exchange
    simp only [List.count_append] at balance ⊢
    simp only [Kernel.setTask] at exchange ⊢
    omega

theorem of_eq {k' : Kernel π} (h : Sound ⟨k, held, falling⟩)
    (tasks : k'.sched.tasks = k.sched.tasks) (entities : k'.entities = k.entities)
    (devices : k'.devices = k.devices) (events : k'.bus.queues.events = k.bus.queues.events)
    (lists : k'.bus.registry.lists = k.bus.registry.lists) : Sound ⟨k', held, falling⟩ where
  tree := entities ▸ h.tree
  tasks := h.tasks.of_eq tasks
  linked := h.linked.of_eq tasks entities devices events
  listeners := lists ▸ h.listeners
  balance x := by
    have balance := h.balance x
    have same : k'.references = k.references := by
      simp only [Kernel.references, Scheduler.references, Kernel.deviceReferences, tasks, devices,
        events]
    rw [entities, same]
    exact balance

theorem setBooks (h : Sound ⟨k, held, falling⟩) (b : Books) :
    Sound ⟨k.setBooks b, held, falling⟩ :=
  h.of_eq rfl rfl rfl rfl rfl

theorem setListeners (h : Sound ⟨k, held, falling⟩) {kind : EventKind}
    {list : List (Subscription KernelListener)}
    (own : ∀ sub ∈ list, sub.listener.serves kind = true) :
    Sound ⟨k.setListeners kind list, held, falling⟩ where
  tree := h.tree
  tasks := h.tasks.of_eq rfl
  linked := h.linked.of_eq rfl rfl rfl rfl
  listeners other sub mem := by
    have mem : sub ∈ (k.bus.registry.lists.set kind list).get other := mem
    by_cases eq : kind = other
    · subst eq
      rw [ByKind.get_set_self] at mem
      exact own sub mem
    · rw [ByKind.get_set_of_ne _ _ eq] at mem
      exact h.listeners other sub mem
  balance := h.balance

/-! ## References in hand and on the way down -/

theorem create (h : Sound ⟨k, held, none⟩) {owner : Owner} {tag : Cleanup}
    (parent : k.entities.get? p = some e)
    (free : k.entities.get? id = none) (below : owner ≠ .root) (other : ∀ pid, owner ≠ .task pid) :
    Sound ⟨k.setEntities (k.entities.addChild p e id owner tag), id :: held, none⟩ where
  tree := h.tree.addChild parent free below
  tasks := h.tasks.of_eq rfl
  linked := h.linked.addChild parent free other
  listeners := h.listeners
  balance x := by
    have balance := h.balance x
    simp only [Kernel.setEntities, EntityTree.refs_addChild parent free,
      EntityTree.count_parents_addChild parent free, Kernel.count_references, List.count_append,
      List.count_cons, List.count_nil, Kernel.deviceReferences] at balance ⊢
    omega

theorem share (h : Sound ⟨k, held, none⟩) (found : k.entities.get? id = some e) :
    Sound ⟨k.setEntities (k.entities.setCount id e (e.count.value + 1)), id :: held, none⟩ where
  tree := h.tree.setCount found (Nat.succ_pos _)
  tasks := h.tasks.of_eq rfl
  linked := h.linked.setCount found _
  listeners := h.listeners
  balance x := by
    have balance := h.balance x
    have counted := EntityTree.refs_of_get? found
    simp only [Kernel.setEntities, EntityTree.refs_setCount,
      EntityTree.count_parents_setCount found, Kernel.count_references, List.count_append,
      List.count_cons, List.count_nil, Kernel.deviceReferences, beq_iff_eq] at balance ⊢
    by_cases eq : x = id
    · subst eq
      simp only [if_true] at balance ⊢
      omega
    · simp only [eq, Ne.symm eq, if_false] at balance ⊢
      omega

theorem drop (h : Sound ⟨k, held, none⟩) (mine : held.Perm (id :: rest)) :
    Sound ⟨k, rest, some id⟩ :=
  { h with
    balance := fun x => by
      have balance := h.balance x
      simp only [List.count_append, mine.count_eq, List.count_cons, List.count_nil,
        Option.toList_some, Option.toList_none] at balance ⊢
      omega }

theorem settle (h : Sound ⟨k, held, some id⟩) (found : k.entities.get? id = some e)
    (others : 1 < e.count.value) :
    Sound ⟨k.setEntities (k.entities.setCount id e (e.count.value - 1)), held, none⟩ where
  tree := h.tree.setCount found (by omega)
  tasks := h.tasks.of_eq rfl
  linked := h.linked.setCount found _
  listeners := h.listeners
  balance x := by
    have balance := h.balance x
    have counted := EntityTree.refs_of_get? found
    simp only [Kernel.setEntities, EntityTree.refs_setCount,
      EntityTree.count_parents_setCount found, Kernel.count_references, List.count_append,
      List.count_cons, List.count_nil, Kernel.deviceReferences, beq_iff_eq, Option.toList_some,
      Option.toList_none] at balance ⊢
    by_cases eq : x = id
    · subst eq
      simp only [if_true] at balance ⊢
      omega
    · simp only [eq, Ne.symm eq, if_false] at balance ⊢
      omega

/-- Nothing else refers to an entity whose last reference falls. -/
theorem unreferenced (h : Sound ⟨k, held, some id⟩) (found : k.entities.get? id = some e)
    (last : e.count.value = 1) :
    id ∉ k.references ∧ id ∉ held ∧ id ∉ k.entities.parents := by
  have balance := h.balance id
  simp only [EntityTree.refs_of_get? found, last, List.count_append, Option.toList_some,
    List.count_singleton_self] at balance
  simp only [← List.count_eq_zero]
  omega

/-- What the balance becomes when an entity goes and its parent begins to lose a reference. -/
theorem balance_remove (h : Sound ⟨k, held, some id⟩) (found : k.entities.get? id = some e)
    (last : e.count.value = 1) (x : EntityId) :
    (k.entities.remove id).refs x =
      (k.references ++ held ++ e.parent.toList).count x +
        (k.entities.remove id).parents.count x := by
  have balance := h.balance x
  have parents := EntityTree.count_parents_remove found x
  obtain ⟨standing, inHand, above⟩ := h.unreferenced found last
  rw [EntityTree.refs_remove]
  simp only [List.count_append, Option.toList_some] at balance ⊢
  by_cases eq : x = id
  · subst eq
    rw [← List.count_eq_zero] at standing inHand above
    rw [if_pos rfl]
    omega
  · rw [if_neg eq]
    rw [List.count_singleton, beq_eq_false_iff_ne.2 (Ne.symm eq)] at balance
    simp only [Bool.false_eq_true, if_false] at balance
    omega

/-- The entities that the tables name stay when an unreferenced one goes. -/
theorem owner?_remove_of_mem (h : Sound ⟨k, held, some id⟩) (found : k.entities.get? id = some e)
    (last : e.count.value = 1) {x : EntityId} {o : Owner} (mem : x ∈ k.references)
    (owned : k.entities.owner? x = some o) : (k.entities.remove id).owner? x = some o := by
  rw [EntityTree.owner?_remove, if_neg ?_, owned]
  rintro rfl
  exact (h.unreferenced found last).1 mem

end Moment.Sound

end Rtos

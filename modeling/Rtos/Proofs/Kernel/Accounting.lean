import Rtos.Proofs.Kernel.Boot

/-!
# The account of references

As long as nobody outside the kernel takes references, an entity has at most one reference besides
those of its children (`Moment.Single`).  With soundness this settles every count: it is what the
owner of the entity calls for, and the number of children (`Kernel.Accounted`).
-/

namespace Rtos

variable {π : Type}

/-! ## Single references -/

/-- Nothing stands under an event. -/
def EntityTree.Lasting {δ : Type} (t : EntityTree δ) : Prop :=
  ∀ id p, t.parent? id = some p → t.owner? p ≠ some .event

/-- What holds as long as nobody outside takes references. -/
structure Moment.Single (m : Moment π) : Prop where
  /-- An entity has at most one reference besides those of its children and the one that is about
  to be dropped. -/
  refs : ∀ id, m.kernel.entities.refs id ≤
    m.kernel.entities.parents.count id + m.falling.toList.count id + 1
  /-- No entity stands under an event. -/
  lasting : m.kernel.entities.Lasting

namespace EntityTree

variable {δ : Type} {t : EntityTree δ} {id p : EntityId} {e : Entity δ} {owner : Owner} {tag : δ}

theorem single_addChild (single : ∀ x, t.refs x ≤ t.parents.count x + 1)
    (found : t.get? p = some e) (free : t.get? id = none) (x : EntityId) :
    (t.addChild p e id owner tag).refs x ≤ (t.addChild p e id owner tag).parents.count x + 1 := by
  have single := single x
  rw [refs_addChild found free, count_parents_addChild found free, ← List.singleton_append,
    List.count_append]
  by_cases eq : x = id
  · subst eq
    rw [refs_of_free free, List.count_singleton_self]
    omega
  · rw [List.count_singleton (a := x) (b := id), beq_eq_false_iff_ne.2 (Ne.symm eq)]
    simp only [Bool.false_eq_true, if_false]
    omega

theorem single_setCount (single : ∀ x, t.refs x ≤ t.parents.count x + [id].count x + 1)
    (found : t.get? id = some e) (x : EntityId) :
    (t.setCount id e (e.count.value - 1)).refs x ≤
      (t.setCount id e (e.count.value - 1)).parents.count x + 1 := by
  have single := single x
  rw [refs_setCount, count_parents_setCount found]
  split
  case isTrue eq =>
    subst eq
    rw [refs_of_get? found, List.count_singleton_self] at single
    omega
  case isFalse ne =>
    rw [List.count_singleton, beq_eq_false_iff_ne.2 (Ne.symm ne)] at single
    simpa using single

theorem single_remove (single : ∀ x, t.refs x ≤ t.parents.count x + [id].count x + 1)
    (found : t.get? id = some e) (x : EntityId) :
    (t.remove id).refs x ≤ (t.remove id).parents.count x + e.parent.toList.count x + 1 := by
  have single := single x
  rw [refs_remove, count_parents_remove found]
  split
  case isTrue => exact Nat.zero_le _
  case isFalse ne =>
    rw [List.count_singleton, beq_eq_false_iff_ne.2 (Ne.symm ne)] at single
    simpa using single

namespace Lasting

theorem addChild (h : t.Lasting) (proper : t.Proper) (found : t.get? p = some e)
    (free : t.get? id = none) (above : e.owner ≠ .event) :
    (t.addChild p e id owner tag).Lasting := by
  intro x q parent
  have kept {y : EntityId} {o : Owner} (owned : t.owner? y = some o) (ne : o ≠ .event) :
      (t.addChild p e id owner tag).owner? y ≠ some .event := by
    rw [owner?_addChild_of_some found free owned]
    exact fun eq => ne (Option.some.inj eq)
  rw [parent?_addChild found] at parent
  split at parent
  case isTrue =>
    cases parent
    exact kept (owner?_eq_some.2 ⟨e, found, rfl⟩) above
  case isFalse =>
    obtain ⟨o, owned⟩ := proper.lasting parent
    exact kept owned fun eq => h x q parent (eq ▸ owned)

theorem setCount (h : t.Lasting) (found : t.get? id = some e) (n : Nat) :
    (t.setCount id e n).Lasting := by
  intro x q parent
  rw [parent?_setCount found] at parent
  rw [owner?_setCount found]
  exact h x q parent

theorem remove (h : t.Lasting) : (t.remove id).Lasting := by
  intro x q parent
  rw [parent?_remove] at parent
  rw [owner?_remove]
  split at parent
  case isTrue => cases parent
  case isFalse =>
    split
    case isTrue => nofun
    case isFalse => exact h x q parent

end Lasting

end EntityTree

/-- Every move but an outsider's keeps references single. -/
theorem Moment.Single.move [Port π] {label : Label} {m m' : Moment π} (h : m.Single)
    (sound : m.Sound) (move : Move label m m') (inside : label ≠ .shares) : m'.Single := by
  cases move with
  | book | hardware | change | promote | awaitChild | awaitDevice | wake | wakeDirect | post | fetch
  | shift | reap | exitRecorded | exitForgotten | unregister => exact ⟨h.refs, h.lasting⟩
  | hold | share => exact absurd rfl inside
  | createEvent parent lasting free =>
    exact ⟨EntityTree.single_addChild h.refs parent free,
      h.lasting.addChild sound.tree parent free lasting⟩
  | spawn found free busy spawner above live lasting unused =>
    exact ⟨EntityTree.single_addChild h.refs live unused,
      h.lasting.addChild sound.tree live unused lasting⟩
  | register slot vacant root unused =>
    refine ⟨EntityTree.single_addChild h.refs root unused,
      h.lasting.addChild sound.tree root unused ?_⟩
    obtain ⟨e, root', owner⟩ := EntityTree.owner?_eq_some.1 sound.tree.root
    cases root.symm.trans root'
    rw [owner]
    nofun
  | drop mine =>
    refine ⟨fun x => Nat.le_trans (h.refs x) ?_, h.lasting⟩
    simp only [Option.toList_none, List.count_nil]
    omega
  | settle found others =>
    exact ⟨EntityTree.single_setCount h.refs found, h.lasting.setCount found _⟩
  | destroy found last => exact ⟨EntityTree.single_remove h.refs found, h.lasting.remove⟩
  | destroyTask found last => exact ⟨EntityTree.single_remove h.refs found, h.lasting.remove⟩

theorem Moment.Single.moves [Port π] {P : Label → Prop} {m m' : Moment π} (h : m.Single)
    (sound : m.Sound) (moves : Moves P m m') (inside : ∀ label, P label → label ≠ .shares) :
    m'.Single :=
  (moves.keeps (I := fun m => m.Sound ∧ m.Single) ⟨sound, h⟩
    fun allowed move ⟨sound, single⟩ =>
      ⟨move.sound sound, single.move sound move (inside _ allowed)⟩).2

namespace Kernel

variable [Port π] {port : π} {k : Kernel π}

theorem single_boot (h : boot port = .ok (.ok k)) : Moment.Single ⟨k, [], none⟩ := by
  obtain ⟨stack, stackPointer, -, laid, e, id, -, -, root, unused, owner, rfl⟩ := boot_eq_ok h
  refine ⟨EntityTree.single_addChild (fun x => ?_) root unused,
    EntityTree.Lasting.addChild ?_ EntityTree.proper_new root unused (by rw [owner]; nofun)⟩
  · rw [EntityTree.refs_new, EntityTree.parents_new, List.count_nil]
    exact List.count_le_length
  · intro x p parent
    obtain ⟨e', found, above⟩ := EntityTree.parent?_eq_some.1 parent
    rw [EntityTree.get?_new] at found
    split at found <;> cases found
    cases above

end Kernel

/-! ## The account -/

/-- The reference that a slot holds on its own task's entity: one until the task exits. -/
def Task.own (t : Task) : List EntityId :=
  if t.state = .dead then [] else t.entity.toList

/-- How many records of dead children there are of an entity, on all lists together. -/
def Scheduler.recordCount (s : Scheduler π) (id : EntityId) : Nat :=
  (s.tasks.toList.flatMap (·.unreaped.items)).countP (·.entity = id)

namespace Kernel

/-- The references on a live entity that are not its children's, by what it stands for: one on the
root; one on a task that is not dead, or of which exactly one record stands on exactly one list; one
on a device that is registered; and one on an event. -/
def standing (k : Kernel π) (id : EntityId) : Owner → Nat
  | .root => 1
  | .task pid =>
    if (k.sched.task? pid).any (·.state != .dead) ∨ k.sched.recordCount id = 1 then 1 else 0
  | .device slot => if k.deviceEntity? slot = some id then 1 else 0
  | .event => 1

/-- The account of references of a kernel: every count is right, and every entity that is named
anywhere is live and belongs there. -/
structure Accounted (k : Kernel π) : Prop where
  /-- An entity has the references that its owner calls for, and one from each child. -/
  count : ∀ {id e}, k.entities.get? id = some e →
    e.count.value = k.standing id e.owner + k.entities.childCount id
  /-- The event of a live entity stands in one queue, once. -/
  once : ∀ {id}, k.entities.owner? id = some .event →
    (k.bus.queues.events.map (·.entity)).count id = 1
  /-- The entity of a task is live exactly if the task's slot is taken and holds it. -/
  task : ∀ {id pid}, k.entities.owner? id = some (.task pid) ↔
    ∃ t, k.sched.task? pid = some t ∧ t.active = true ∧ t.entity = some id
  /-- An entity in a slot of the task table is that of the task. -/
  slot : ∀ {pid t id}, k.sched.task? pid = some t → t.entity = some id →
    k.entities.owner? id = some (.task pid)
  /-- An entity in a record of a dead child is that of the child. -/
  record : ∀ {pid t r}, k.sched.task? pid = some t → r ∈ t.unreaped.items →
    k.entities.owner? r.entity = some (.task r.pid)
  /-- An entity in the registry of devices is that of the device. -/
  device : ∀ {slot id}, k.deviceEntity? slot = some id → k.entities.owner? id = some (.device slot)
  /-- The entity of a queued event is an event's. -/
  event : ∀ {event}, event ∈ k.bus.queues.events → k.entities.owner? event.entity = some .event

end Kernel

theorem Task.count_flatMap_references (l : List Task) (id : EntityId) :
    (l.flatMap Task.references).count id =
      (l.flatMap Task.own).count id + (l.flatMap (·.unreaped.items)).countP (·.entity = id) := by
  induction l with
  | nil => rfl
  | cons t rest ih =>
    have records : (t.unreaped.items.map (·.entity)).count id =
        t.unreaped.items.countP (·.entity = id) := by
      rw [List.count_eq_countP, List.countP_map]
      rfl
    simp only [List.flatMap_cons, List.count_append, List.countP_append, ih, Task.references,
      records, Task.own]
    omega

namespace Moment.Sound

variable {k : Kernel π} {id : EntityId} {o : Owner}

theorem owner_of_mem_sched (h : Sound ⟨k, [], none⟩) (mem : id ∈ k.sched.references) :
    ∃ pid, k.entities.owner? id = some (.task pid) := by
  obtain ⟨pid, t, slot, mem⟩ := Scheduler.exists_of_mem_references mem
  rcases List.mem_append.1 mem with own | record
  · split at own
    case isTrue => cases own
    case isFalse live =>
      obtain ⟨id', owns, owned⟩ := h.linked.task slot (h.tasks.active slot live)
      rw [owns, Option.toList_some, List.mem_singleton] at own
      exact ⟨pid, own ▸ owned⟩
  · obtain ⟨r, kept, rfl⟩ := List.mem_map.1 record
    obtain ⟨c, child, active, -, -, owns⟩ := h.tasks.recorded slot kept
    obtain ⟨id', owns', owned⟩ := h.linked.task child active
    cases owns.symm.trans owns'
    exact ⟨_, owned⟩

theorem count_sched_eq_zero (h : Sound ⟨k, [], none⟩) (owned : k.entities.owner? id = some o)
    (other : ∀ pid, o ≠ .task pid) : k.sched.references.count id = 0 := by
  refine List.count_eq_zero.2 fun mem => ?_
  obtain ⟨pid, owned'⟩ := h.owner_of_mem_sched mem
  cases owned.symm.trans owned'
  exact other pid rfl

theorem count_devices_eq_zero (h : Sound ⟨k, [], none⟩) (owned : k.entities.owner? id = some o)
    (other : ∀ slot, k.deviceEntity? slot = some id → o ≠ .device slot) :
    k.deviceReferences.count id = 0 := by
  refine List.count_eq_zero.2 fun mem => ?_
  obtain ⟨slot, registered⟩ := Kernel.mem_deviceReferences.1 mem
  cases owned.symm.trans (h.linked.device registered)
  exact other slot registered rfl

theorem count_events_eq_zero (h : Sound ⟨k, [], none⟩) (owned : k.entities.owner? id = some o)
    (other : o ≠ .event) : (k.bus.queues.events.map (·.entity)).count id = 0 := by
  refine List.count_eq_zero.2 fun mem => ?_
  obtain ⟨event, queued, rfl⟩ := List.mem_map.1 mem
  cases owned.symm.trans (h.linked.event queued)
  exact other rfl

theorem count_root_eq_zero (h : Sound ⟨k, [], none⟩) (owned : k.entities.owner? id = some o)
    (other : o ≠ .root) : [EntityId.root].count id = 0 := by
  refine List.count_eq_zero.2 fun mem => ?_
  rw [List.mem_singleton.1 mem] at owned
  cases owned.symm.trans h.tree.root
  exact other rfl

/-- A task's own slot alone holds the reference of a live task. -/
theorem count_own (h : Sound ⟨k, [], none⟩) {pid : Pid} {t : Task}
    (slot : k.sched.task? pid = some t) (owns : t.entity = some id)
    (owned : k.entities.owner? id = some (.task pid)) :
    (k.sched.tasks.toList.flatMap Task.own).count id = if t.state = .dead then 0 else 1 := by
  rw [Scheduler.count_flatMap_of_slot slot]
  · unfold Task.own
    split
    case isTrue => rfl
    case isFalse => rw [owns, Option.toList_some, List.count_singleton_self]
  · intro p u slot mem
    unfold Task.own at mem
    split at mem
    case isTrue => cases mem
    case isFalse live =>
      obtain ⟨id', owns, owned'⟩ := h.linked.task slot (h.tasks.active slot live)
      rw [owns, Option.toList_some, List.mem_singleton] at mem
      cases mem
      cases owned.symm.trans owned'
      rfl

/-- The registry holds one reference on a registered device. -/
theorem count_device (h : Sound ⟨k, [], none⟩) {slot : DeviceId}
    (registered : k.deviceEntity? slot = some id) : k.deviceReferences.count id = 1 := by
  have found : k.devices.toList[slot]? = some (some id) := by
    simpa [Kernel.deviceEntity?, Option.join_eq_some_iff] using registered
  rw [Kernel.deviceReferences, Table.count_flatMap_of_unique found, Option.toList_some,
    List.count_singleton_self]
  intro other x found mem
  obtain rfl := Option.mem_toList.1 mem
  have registered' : k.deviceEntity? other = some id := by
    simpa [Kernel.deviceEntity?, Option.join_eq_some_iff] using found
  cases (h.linked.device registered).symm.trans (h.linked.device registered')
  rfl

/-- With nothing in hand, an entity has the references of its children and at most one more, which a table
holds. -/
theorem count_standing (h : Sound ⟨k, [], none⟩) (single : Single ⟨k, [], none⟩)
    (id : EntityId) :
    k.entities.refs id = k.references.count id + k.entities.parents.count id ∧
      k.references.count id ≤ 1 := by
  have balance := h.balance id
  have single := single.refs id
  simp only [List.append_nil, Option.toList_none, List.count_nil] at balance single
  omega

/-- A live entity is referred to as its owner calls for. -/
theorem count_references_eq (h : Sound ⟨k, [], none⟩) (single : Single ⟨k, [], none⟩)
    (owned : k.entities.owner? id = some o) : k.references.count id = k.standing id o := by
  have most := (h.count_standing single id).2
  rw [Kernel.count_references] at most ⊢
  cases o with
  | root =>
    obtain rfl := h.tree.root_unique owned
    rw [h.count_sched_eq_zero owned (by simp), h.count_devices_eq_zero owned (by simp),
      h.count_events_eq_zero owned (by simp)]
    rfl
  | task pid =>
    obtain ⟨e, live, owner⟩ := EntityTree.owner?_eq_some.1 owned
    obtain ⟨-, t, slot, -, owns⟩ := h.linked.owner live owner
    rw [h.count_root_eq_zero owned (by simp), h.count_devices_eq_zero owned (by simp),
      h.count_events_eq_zero owned (by simp), Scheduler.references, Task.count_flatMap_references,
      h.count_own slot owns owned] at most ⊢
    simp only [Kernel.standing, slot, Option.any_some, bne_iff_ne, Scheduler.recordCount]
    by_cases dead : t.state = .dead
    · simp only [dead, if_true, ne_eq, not_true_eq_false, false_or] at most ⊢
      split <;> omega
    · simp only [dead, if_false, ne_eq, not_false_eq_true, true_or, if_true] at most ⊢
      omega
  | device slot =>
    rw [h.count_root_eq_zero owned (by simp), h.count_sched_eq_zero owned (by simp),
      h.count_events_eq_zero owned (by simp)]
    dsimp only [Kernel.standing]
    split
    case isTrue registered => rw [h.count_device registered]
    case isFalse missing =>
      rw [h.count_devices_eq_zero owned]
      rintro other registered eq
      cases eq
      exact missing registered
  | event =>
    obtain ⟨e, live, owner⟩ := EntityTree.owner?_eq_some.1 owned
    have childless : k.entities.parents.count id = 0 := by
      refine List.count_eq_zero.2 fun mem => ?_
      obtain ⟨child, above⟩ := EntityTree.mem_parents.1 mem
      exact single.lasting child id above owned
    have positive := h.tree.positive live
    have balance := (h.count_standing single id).1
    rw [EntityTree.refs_of_get? live, childless, Kernel.count_references] at balance
    dsimp only [Kernel.standing]
    omega

/-- In a sound state with single references every reference is accounted for. -/
theorem accounted (h : Sound ⟨k, [], none⟩) (single : Single ⟨k, [], none⟩) : k.Accounted where
  count {id e} live := by
    rw [← h.count_references_eq single (EntityTree.owner?_eq_some.2 ⟨e, live, rfl⟩),
      EntityTree.childCount_eq, ← (h.count_standing single _).1, EntityTree.refs_of_get? live]
  once {id} owned := by
    have standing := h.count_references_eq single owned
    rw [Kernel.count_references, h.count_root_eq_zero owned nofun,
      h.count_sched_eq_zero owned nofun, h.count_devices_eq_zero owned nofun] at standing
    simpa [Kernel.standing] using standing
  task {id pid} := by
    constructor
    · intro owned
      obtain ⟨e, live, owner⟩ := EntityTree.owner?_eq_some.1 owned
      exact (h.linked.owner live owner).2
    · rintro ⟨t, slot, active, owns⟩
      obtain ⟨id', owns', owned⟩ := h.linked.task slot active
      cases owns.symm.trans owns'
      exact owned
  slot {pid t id} slot owns := by
    have active : t.active = true := by
      by_contra free
      cases owns.symm.trans (h.tasks.free slot (Bool.eq_false_iff.2 free)).2
    obtain ⟨id', owns', owned⟩ := h.linked.task slot active
    cases owns.symm.trans owns'
    exact owned
  record {pid t r} slot mem := by
    obtain ⟨c, child, active, -, -, owns⟩ := h.tasks.recorded slot mem
    obtain ⟨id', owns', owned⟩ := h.linked.task child active
    cases owns.symm.trans owns'
    exact owned
  device := h.linked.device
  event := h.linked.event

end Moment.Sound

end Rtos

import Rtos.Proofs.Kernel.Sound

/-!
# Moves keep moments sound

One lemma for each move that carries references from one place to another; the rest is
`Move.sound`, by cases.
-/

namespace Rtos

open scoped List

variable {π : Type}

namespace Scheduler.Proper

variable {s : Scheduler π} {pid : Pid} {t : Task}

/-- The slot of a dead task of which no record is left may be freed. -/
theorem freed (h : s.Proper) (found : s.task? pid = some t) (dead : t.state = .dead)
    (unrecorded : ∀ {p u r}, s.task? p = some u → r ∈ u.unreaped.items → r.pid ≠ pid) :
    (s.setTask pid .empty).Proper := by
  refine h.replace found (fun _ => ⟨rfl, rfl⟩) nofun (fun _ => rfl) nofun
    (fun slot record eq _ _ => ?_) fun _ alive => ?_
  · rcases of_task?_setTask found slot with ⟨-, rfl⟩ | ⟨-, slot⟩
    · cases record
    · exact absurd eq (unrecorded slot record)
  · simp [Task.isAlive, dead] at alive

theorem died (h : s.Proper) (found : s.task? pid = some t) (running : t.state = .running)
    (busy : pid ≠ idlePid) (cleared : t.unreaped.items = []) (status : Int) :
    (s.setTask pid { t with state := .dead, exitStatus := status }).Proper := by
  have numbered := h.numbered found
  refine h.replace found (fun inactive => ⟨rfl, (h.free found inactive).2⟩) numbered
    (fun _ => cleared) (fun _ => .inl) (fun _ _ _ _ dead => ?_) fun idle => absurd idle busy
  cases running.symm.trans dead

theorem spawned (h : s.Proper) (found : s.task? pid = some t) (free : t.active = false)
    (parent : Pid) (entity : EntityId) (stack : Stack) (stackPointer : Nat) :
    (s.setTask pid (.spawned pid parent entity stack stackPointer)).Proper := by
  refine h.replace found nofun (fun _ => rfl) nofun nofun (fun _ _ _ active => ?_) fun _ _ => rfl
  cases free.symm.trans active

/-- A list of dead children may be changed, as long as the dead keep none and each new record is of
a dead child. -/
theorem setUnreaped (h : s.Proper) (found : s.task? pid = some t)
    {unreaped : Fifo maxTasks ExitRecord} (cleared : t.state = .dead → unreaped.items = [])
    (recorded : ∀ r ∈ unreaped.items, r ∈ t.unreaped.items ∨
      ∃ c, s.task? r.pid = some c ∧ c.active = true ∧ c.state = .dead ∧ c.parent = pid ∧
        c.entity = some r.entity) :
    (s.setTask pid { t with unreaped }).Proper := by
  have free := h.free found
  have numbered := h.numbered found
  exact h.replace found free numbered cleared recorded
    (fun _ _ _ active dead => ⟨active, dead, rfl, rfl⟩) fun _ alive => alive

end Scheduler.Proper

namespace Moment.Sound

variable {k : Kernel π} {held rest held' : List EntityId} {id p : EntityId} {e : Entity Cleanup}
  {pid : Pid} {t : Task}

/-! ## Destruction -/

theorem destroy (h : Sound ⟨k, held, some id⟩) (found : k.entities.get? id = some e)
    (last : e.count.value = 1) (below : id ≠ .root)
    (plain : ∀ pid, e.owner = .task pid → e.cleanup ≠ some .releaseTask) :
    Sound ⟨k.setEntities (k.entities.remove id), held, e.parent⟩ where
  tree := h.tree.remove found below fun x above =>
    (h.unreferenced found last).2.2 (EntityTree.mem_parents.2 ⟨x, above⟩)
  tasks := h.tasks.of_eq rfl
  linked :=
    { task := fun {pid t} slot active => by
        obtain ⟨x, owns, owned⟩ := h.linked.task slot active
        refine ⟨x, owns, ?_⟩
        change (k.entities.remove id).owner? x = _
        rw [EntityTree.owner?_remove, if_neg ?_, owned]
        rintro rfl
        obtain ⟨e', found', owner⟩ := EntityTree.owner?_eq_some.1 owned
        cases found.symm.trans found'
        exact plain pid owner (h.linked.owner found owner).1
      owner := fun {x e' pid} live owner => by
        have live : (k.entities.remove id).get? x = some e' := live
        exact h.linked.owner (EntityTree.get?_of_remove live).2 owner
      device := fun registered =>
        h.owner?_remove_of_mem found last (Kernel.mem_references_of_device registered)
          (h.linked.device registered)
      event := fun queued =>
        h.owner?_remove_of_mem found last (Kernel.mem_references_of_event queued)
          (h.linked.event queued) }
  listeners := h.listeners
  balance := h.balance_remove found last

/-- The task whose entity loses its last reference has exited, and no record of it is left. -/
theorem dead_of_last (h : Sound ⟨k, held, some id⟩) (found : k.entities.get? id = some e)
    (last : e.count.value = 1) (slot : k.sched.task? pid = some t) (owns : t.entity = some id) :
    t.state = .dead ∧
      ∀ {p u r}, k.sched.task? p = some u → r ∈ u.unreaped.items → r.pid ≠ pid := by
  have unreferenced := (h.unreferenced found last).1
  constructor
  · by_contra live
    exact unreferenced (Kernel.mem_references_of_task slot
      (Task.mem_references_of_alive (h.tasks.alive slot live) owns))
  · rintro p u r parent record rfl
    obtain ⟨c, child, -, -, -, entity⟩ := h.tasks.recorded parent record
    cases slot.symm.trans child
    cases owns.symm.trans entity
    exact unreferenced (Kernel.mem_references_of_task parent (Task.mem_references_of_record record))

theorem linked_destroyTask (h : Sound ⟨k, held, some id⟩) (found : k.entities.get? id = some e)
    (last : e.count.value = 1) (owner : e.owner = .task pid)
    (slot : k.sched.task? pid = some t) (owns : t.entity = some id) (port : π) :
    (((k.setEntities (k.entities.remove id)).setPort port).setTask pid .empty).Linked where
  task {p u} taken active := by
    have taken : (k.sched.setTask pid .empty).task? p = some u := taken
    rcases Scheduler.of_task?_setTask slot taken with ⟨-, rfl⟩ | ⟨ne, taken⟩
    · cases active
    · obtain ⟨x, has, owned⟩ := h.linked.task taken active
      refine ⟨x, has, ?_⟩
      change (k.entities.remove id).owner? x = _
      rw [EntityTree.owner?_remove, if_neg ?_, owned]
      rintro rfl
      cases owned.symm.trans (EntityTree.owner?_eq_some.2 ⟨e, found, owner⟩)
      exact ne rfl
  owner {x e' p} live owner' := by
    have live : (k.entities.remove id).get? x = some e' := live
    obtain ⟨ne, live⟩ := EntityTree.get?_of_remove live
    obtain ⟨cleanup, u, taken, active, has⟩ := h.linked.owner live owner'
    refine ⟨cleanup, u, ?_, active, has⟩
    refine (Scheduler.task?_setTask_of_ne k.sched .empty ?_).trans taken
    rintro rfl
    cases slot.symm.trans taken
    cases owns.symm.trans has
    exact ne rfl
  device registered :=
    h.owner?_remove_of_mem found last (Kernel.mem_references_of_device registered)
      (h.linked.device registered)
  event queued :=
    h.owner?_remove_of_mem found last (Kernel.mem_references_of_event queued)
      (h.linked.event queued)

theorem destroyTask (h : Sound ⟨k, held, some id⟩) (found : k.entities.get? id = some e)
    (last : e.count.value = 1) (below : id ≠ .root) (owner : e.owner = .task pid) (port : π) :
    Sound ⟨((k.setEntities (k.entities.remove id)).setPort port).setTask pid .empty, held,
      e.parent⟩ := by
  obtain ⟨-, t, slot, -, owns⟩ := h.linked.owner found owner
  obtain ⟨dead, unrecorded⟩ := h.dead_of_last found last slot owns
  refine ⟨h.tree.remove found below fun x above => ?_,
    (h.tasks.freed slot dead unrecorded).of_eq rfl,
    h.linked_destroyTask found last owner slot owns port, h.listeners, fun x => ?_⟩
  · exact (h.unreferenced found last).2.2 (EntityTree.mem_parents.2 ⟨x, above⟩)
  · have balance := h.balance_remove found last x
    have exchange := Kernel.count_references_setTask slot .empty x
    rw [Task.references_of_dead dead (h.tasks.cleared slot dead)] at exchange
    have same : (((k.setEntities (k.entities.remove id)).setPort port).setTask pid
      .empty).references.count x = k.references.count x := exchange
    rw [List.count_append, List.count_append, same]
    rw [List.count_append, List.count_append] at balance
    exact balance

/-! ## Events and devices -/

theorem setQueues (h : Sound ⟨k, held, none⟩) {queues : Queues}
    (kept : (queues.events.map (·.entity) ++ held').Perm
      (k.bus.queues.events.map (·.entity) ++ held))
    (own : ∀ event ∈ queues.events, k.entities.owner? event.entity = some .event) :
    Sound ⟨k.setQueues queues, held', none⟩ where
  tree := h.tree
  tasks := h.tasks.of_eq rfl
  linked := { h.linked with event := fun queued => own _ queued }
  listeners := h.listeners
  balance x := by
    have balance := h.balance x
    have kept := kept.count_eq x
    simp only [Kernel.count_references, List.count_append, Kernel.setQueues,
      Kernel.deviceReferences] at balance kept ⊢
    omega

theorem enterDevice (h : Sound ⟨k, id :: held, none⟩) (slot : Fin maxDevices)
    (vacant : k.devices.get slot = none) (owner : k.entities.owner? id = some (.device slot)) :
    Sound ⟨k.setDevices (k.devices.set slot (some id) slot.isLt), held, none⟩ where
  tree := h.tree
  tasks := h.tasks.of_eq rfl
  linked :=
    { task := h.linked.task
      owner := h.linked.owner
      event := h.linked.event
      device := fun {other x} registered => by
        change k.entities.owner? x = _
        simp only [Kernel.deviceEntity?, Kernel.setDevices, Vector.getElem?_set] at registered
        split at registered
        case isTrue eq => subst eq; cases registered; exact owner
        case isFalse => exact h.linked.device registered }
  listeners := h.listeners
  balance x := by
    have balance := h.balance x
    have vacant : k.devices[slot.val] = none := vacant
    have found : k.devices.toList[slot.val]? = some none := by simpa using vacant
    have exchange := Table.count_flatMap_set found (some id) Option.toList x
    simp only [Kernel.count_references, List.count_append, List.count_cons, List.count_nil,
      Kernel.setDevices, Kernel.deviceReferences, Vector.toList_set, Option.toList_some,
      Option.toList_none] at balance exchange ⊢
    omega

theorem leaveDevice (h : Sound ⟨k, held, none⟩) (device : DeviceId)
    (registered : k.deviceEntity? device = some id) :
    Sound ⟨k.setDevices (k.devices.setIfInBounds device none), id :: held, none⟩ where
  tree := h.tree
  tasks := h.tasks.of_eq rfl
  linked :=
    { task := h.linked.task
      owner := h.linked.owner
      event := h.linked.event
      device := fun {other x} registered => by
        change k.entities.owner? x = _
        simp only [Kernel.deviceEntity?, Kernel.setDevices, Vector.getElem?_setIfInBounds]
          at registered
        split at registered
        case isTrue => split at registered <;> cases registered
        case isFalse => exact h.linked.device registered }
  listeners := h.listeners
  balance x := by
    have balance := h.balance x
    have found : k.devices.toList[device]? = some (some id) := by
      simpa [Kernel.deviceEntity?, Option.join_eq_some_iff] using registered
    have exchange := Table.count_flatMap_set found none Option.toList x
    simp only [Kernel.count_references, List.count_append, List.count_cons, List.count_nil,
      Kernel.setDevices, Kernel.deviceReferences, Vector.toList_setIfInBounds, Option.toList_some,
      Option.toList_none] at balance exchange ⊢
    omega

/-! ## Records of dead children -/

/-- The list of dead children in a slot is changed; what it loses is in hand, and what it gains was.
Each new record is of a dead child. -/
theorem setUnreaped (h : Sound ⟨k, held, none⟩) (found : k.sched.task? pid = some t)
    {unreaped : Fifo maxTasks ExitRecord}
    (kept : (unreaped.items.map (·.entity) ++ held').Perm
      (t.unreaped.items.map (·.entity) ++ held))
    (cleared : t.state = .dead → unreaped.items = [])
    (recorded : ∀ r ∈ unreaped.items, r ∈ t.unreaped.items ∨
      ∃ c, k.sched.task? r.pid = some c ∧ c.active = true ∧ c.state = .dead ∧ c.parent = pid ∧
        c.entity = some r.entity) :
    Sound ⟨k.setTask pid { t with unreaped }, held', none⟩ where
  tree := h.tree
  tasks := h.tasks.setUnreaped found cleared recorded
  linked := h.linked.setTask found rfl rfl
  listeners := h.listeners
  balance x := by
    have balance := h.balance x
    have exchange := Kernel.count_references_setTask found { t with unreaped } x
    have kept := kept.count_eq x
    simp only [Task.references, List.count_append] at balance exchange kept ⊢
    simp only [Kernel.setTask] at exchange ⊢
    omega

/-! ## Exits and creations -/

theorem die (h : Sound ⟨k, held, none⟩) (found : k.sched.task? pid = some t)
    (running : t.state = .running) (busy : pid ≠ idlePid) (owns : t.entity = some id)
    (cleared : t.unreaped.items = []) (status : Int) :
    Sound ⟨k.setTask pid { t with state := .dead, exitStatus := status }, id :: held, none⟩ where
  tree := h.tree
  tasks := h.tasks.died found running busy cleared status
  linked := h.linked.setTask found rfl rfl
  listeners := h.listeners
  balance x := by
    have balance := h.balance x
    have exchange := Kernel.count_references_setTask found
      { t with state := .dead, exitStatus := status } x
    have dead : Task.references { t with state := .dead, exitStatus := status } = [] :=
      Task.references_of_dead rfl cleared
    rw [dead, Task.references_of_owner (by rw [running]; nofun) owns, cleared] at exchange
    simp only [List.count_append, List.count_cons, List.count_nil, List.map_nil]
      at balance exchange ⊢
    simp only [Kernel.setTask] at exchange ⊢
    omega

theorem linked_spawn (h : k.Linked) (found : k.sched.task? pid = some t) (free : t.active = false)
    (live : k.entities.get? p = some e) (unused : k.entities.get? id = none) (parent : Pid)
    (port : π) (stack : Stack) (stackPointer : Nat) :
    (((k.setEntities (k.entities.addChild p e id (.task pid) .releaseTask)).setPort
      port).setTask pid (.spawned pid parent id stack stackPointer)).Linked where
  task {q u} slot taken := by
    have slot : (k.sched.setTask pid _).task? q = some u := slot
    rcases Scheduler.of_task?_setTask found slot with ⟨rfl, rfl⟩ | ⟨-, slot⟩
    · refine ⟨id, rfl, ?_⟩
      change (k.entities.addChild p e id (.task q) .releaseTask).owner? id = _
      rw [EntityTree.owner?_addChild live, if_pos rfl]
    · obtain ⟨x, owns, owned⟩ := h.task slot taken
      exact ⟨x, owns, EntityTree.owner?_addChild_of_some live unused owned⟩
  owner {x e' q} live' owner := by
    have live' : (k.entities.addChild p e id (.task pid) .releaseTask).get? x = some e' := live'
    change _ ∧ ∃ u, (k.sched.setTask pid _).task? q = some u ∧ _
    rw [EntityTree.get?_addChild] at live'
    rw [Scheduler.task?_setTask found]
    -- An entity that was there before belongs to another task: the slot was free.
    have old {e'} (live' : k.entities.get? x = some e') (owner : e'.owner = .task q) :
        q ≠ pid ∧ e'.cleanup = some .releaseTask ∧
          ∃ u, k.sched.task? q = some u ∧ u.active = true ∧ u.entity = some x := by
      obtain ⟨cleanup, u, slot, active, has⟩ := h.owner live' owner
      refine ⟨?_, cleanup, u, slot, active, has⟩
      rintro rfl
      cases found.symm.trans slot
      cases free.symm.trans active
    split at live'
    case isTrue eq =>
      cases live'
      cases owner
      exact ⟨rfl, _, if_pos rfl, rfl, eq ▸ rfl⟩
    case isFalse =>
      split at live'
      case isTrue eq =>
        cases live'
        subst eq
        obtain ⟨ne, old⟩ := old live owner
        rw [if_neg ne]
        exact old
      case isFalse =>
        obtain ⟨ne, old⟩ := old live' owner
        rw [if_neg ne]
        exact old
  device registered := EntityTree.owner?_addChild_of_some live unused (h.device registered)
  event queued := EntityTree.owner?_addChild_of_some live unused (h.event queued)

theorem spawn (h : Sound ⟨k, held, none⟩) (found : k.sched.task? pid = some t)
    (free : t.active = false) (live : k.entities.get? p = some e)
    (unused : k.entities.get? id = none) (parent : Pid) (port : π)
    (stack : Stack) (stackPointer : Nat) :
    Sound ⟨((k.setEntities (k.entities.addChild p e id (.task pid) .releaseTask)).setPort
      port).setTask pid (.spawned pid parent id stack stackPointer), held, none⟩ where
  tree := h.tree.addChild live unused nofun
  tasks := (h.tasks.spawned found free parent id stack stackPointer).of_eq rfl
  linked := linked_spawn h.linked found free live unused parent port stack stackPointer
  listeners := h.listeners
  balance x := by
    have balance := h.balance x
    have dead := (h.tasks.free found free).1
    have exchange := Kernel.count_references_setTask found
      (.spawned pid parent id stack stackPointer) x
    have owned := Task.references_of_owner
      (t := .spawned pid parent id stack stackPointer) nofun rfl
    rw [Task.references_of_dead dead (h.tasks.cleared found dead), owned] at exchange
    have same : (((k.setEntities (k.entities.addChild p e id (.task pid) .releaseTask)).setPort
        port).setTask pid (.spawned pid parent id stack stackPointer)).references.count x =
        (k.setTask pid (.spawned pid parent id stack stackPointer)).references.count x := rfl
    have refs : (k.entities.addChild p e id (.task pid) .releaseTask).refs x = _ :=
      EntityTree.refs_addChild live unused x
    have parents : (k.entities.addChild p e id (.task pid) .releaseTask).parents.count x = _ :=
      EntityTree.count_parents_addChild live unused x
    change (k.entities.addChild p e id (.task pid) .releaseTask).refs x = _ +
      (k.entities.addChild p e id (.task pid) .releaseTask).parents.count x
    simp only [List.count_append, List.count_cons, List.count_nil, Task.spawned, Task.empty,
      Fifo.items_empty, List.map_nil] at balance exchange refs parents same ⊢
    omega

theorem record (h : Sound ⟨k, id :: held, none⟩) (found : k.sched.task? pid = some t)
    (alive : t.isAlive = true) {child : Pid} {c : Task} {status : Int}
    {unreaped : Fifo maxTasks ExitRecord} (slot : k.sched.task? child = some c)
    (active : c.active = true) (dead : c.state = .dead) (parent : c.parent = pid)
    (owns : c.entity = some id) (put : t.unreaped.push? ⟨child, status, id⟩ = some unreaped) :
    Sound ⟨k.setTask pid { t with unreaped }, held, none⟩ := by
  have put := (Fifo.push?_eq_some.1 put).2
  refine h.setUnreaped found ?_ ?_ fun r mem => ?_
  · rw [put, List.map_append, List.append_assoc]
    rfl
  · intro dead
    simp [Task.isAlive, dead] at alive
  · rw [put, List.mem_append, List.mem_singleton] at mem
    refine mem.imp_right ?_
    rintro rfl
    exact ⟨c, slot, active, dead, parent, owns⟩

end Moment.Sound

/-! ## All moves -/

/-- Every move keeps a moment sound. -/
theorem Move.sound [Port π] {label : Label} {m m' : Moment π} (move : Move label m m')
    (h : m.Sound) : m'.Sound := by
  cases move with
  | book b later => exact h.setBooks b
  | hardware change => exact h.of_eq rfl rfl rfl rfl rfl
  | change found change => exact h.setTask found change.keeps
  | @promote k held falling pid t found alive runnable =>
    refine Moment.Sound.of_eq (k := k.setTask pid _) (h.setTask found ?_) rfl rfl rfl rfl rfl
    exact ⟨rfl, rfl, rfl, rfl, rfl, by simp [Task.live_of_alive alive]⟩
  | awaitChild found running unrecorded child fresh =>
    refine Moment.Sound.setBooks (Moment.Sound.setListeners (h.setTask found ?_) ?_) _
    · exact ⟨rfl, rfl, rfl, rfl, rfl, by simp [running]⟩
    · intro sub mem
      rcases List.mem_append.1 mem with old | new
      · exact h.listeners .task sub old
      · rw [List.mem_singleton.1 new]; rfl
  | awaitDevice found running =>
    refine Moment.Sound.setListeners (h.setTask found ?_) ?_
    · exact ⟨rfl, rfl, rfl, rfl, rfl, by simp [running]⟩
    · intro sub mem
      rcases List.mem_append.1 mem with old | new
      · exact h.listeners .device sub old
      · rw [List.mem_singleton.1 new]; rfl
  | @wake k held falling payload pre sub post t listed found wakes =>
    refine Moment.Sound.setListeners (h.setTask found wakes.keeps) fun other mem => ?_
    refine h.listeners payload.kind other ?_
    change other ∈ k.bus.registry.lists.get payload.kind
    rw [listed]
    exact List.mem_append.2 ((List.mem_append.1 mem).imp_right (List.mem_cons_of_mem sub))
  | @wakeDirect k held falling pid t child found parked =>
    refine Moment.Sound.setListeners (h.setTask found ?_) fun other mem => ?_
    · exact ⟨rfl, rfl, rfl, rfl, rfl, by simp [parked]⟩
    · refine h.listeners .task other ?_
      change other ∈ k.bus.registry.lists.task
      split at mem
      case h_1 => exact List.mem_of_mem_eraseP mem
      case h_2 => exact mem
  | createEvent parent lasting free => exact h.create parent free (by simp) (by simp)
  | hold parent free => exact h.create parent free (by simp) (by simp)
  | share found => exact h.share found
  | drop mine => exact h.drop mine
  | settle found others => exact h.settle found others
  | destroy found last below plain => exact h.destroy found last below plain
  | destroyTask found last below owner => exact h.destroyTask found last below owner _
  | @post k held rest event result queues mine owner dispatched queued =>
    rcases Queues.dispatch_eq_ok dispatched with ⟨-, kept, -⟩ | ⟨refused, -⟩
    · refine h.setQueues ?_ fun other mem => ?_
      · calc queues.events.map (·.entity) ++ rest
          _ ~ event.entity :: k.bus.queues.events.map (·.entity) ++ rest :=
              (kept.map Event.entity).append_right rest
          _ ~ k.bus.queues.events.map (·.entity) ++ event.entity :: rest :=
              List.perm_middle.symm
          _ ~ k.bus.queues.events.map (·.entity) ++ held := mine.symm.append_left _
      · rcases List.mem_cons.1 (kept.subset mem) with rfl | old
        · exact owner
        · exact h.linked.event old
    · exact absurd refused (queued _)
  | @fetch k held event queues taken =>
    have taken := taken.events
    refine h.setQueues ?_ fun other mem => ?_
    · exact List.perm_middle.trans ((taken.map Event.entity).symm.append_right held)
    · exact h.linked.event (taken.symm.subset (List.mem_cons_of_mem _ mem))
  | shift oldest put =>
    have kept := Queues.events_refill oldest put
    refine h.setQueues ((kept.map _).append_right _) fun event mem => ?_
    exact h.linked.event (kept.subset mem)
  | @reap k held pid t taken unreaped found split =>
    refine h.setUnreaped found ?_ ?_ fun r mem => ?_
    · calc unreaped.items.map (·.entity) ++ (taken.map (·.entity) ++ held)
        _ ~ taken.map (·.entity) ++ (unreaped.items.map (·.entity) ++ held) :=
            List.perm_append_comm_assoc ..
        _ ~ t.unreaped.items.map (·.entity) ++ held := by
            rw [← List.append_assoc, ← List.map_append]
            exact (split.symm.map _).append_right held
    · intro dead
      have split := h.tasks.cleared found dead ▸ split
      exact (List.append_eq_nil_iff.1 split.nil_eq.symm).2
    · exact .inl (split.symm.subset (List.mem_append_right _ mem))
  | @exitRecorded k held pid t p entity status unreaped found running busy owns cleared parent
      other alive notIdle put =>
    have active := h.tasks.active found (by simp [running])
    have dead := h.die found running busy owns cleared status
    have slot := Scheduler.task?_setTask_self found { t with state := .dead, exitStatus := status }
    refine dead.record ?_ alive slot active rfl rfl owns put
    exact (Scheduler.task?_setTask_of_ne _ _ other).trans parent
  | exitForgotten found running busy owns cleared orphan =>
    exact h.die found running busy owns cleared _
  | spawn found free busy spawner above live lasting unused take layOut =>
    exact h.spawn found free live unused _ _ _ _
  | @register k held entity e slot vacant root unused =>
    refine Moment.Sound.enterDevice (h.create root unused ?_ ?_) slot vacant ?_
    · intro eq; cases eq
    · intro pid eq; cases eq
    · change (k.entities.addChild .root e entity (.device slot) .nothing).owner? entity = _
      rw [EntityTree.owner?_addChild root, if_pos rfl]
  | unregister device registered => exact h.leaveDevice device registered

theorem Moves.sound [Port π] {P : Label → Prop} {m m' : Moment π} (moves : Moves P m m')
    (h : m.Sound) : m'.Sound :=
  moves.keeps h fun _ move sound => move.sound sound

end Rtos

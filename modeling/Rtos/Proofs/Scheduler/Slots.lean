import Rtos.Scheduler
import Rtos.Proofs.Table
import Mathlib.Data.List.Perm.Subperm

/-!
# Slots of the task table

A change of one slot, as every operation makes it, and what it does to the references that the table
holds.
-/

namespace Rtos

/-- The references that a slot holds: one on the task's own entity until the task exits, and one for
each dead child that was not reaped. -/
def Task.references (t : Task) : List EntityId :=
  (if t.state = .dead then [] else t.entity.toList) ++ t.unreaped.items.map (·.entity)

/-- What is left as it was by the changes that concern the running of a task alone. -/
structure Task.Keeps (t t' : Task) : Prop where
  active : t'.active = t.active
  pid : t'.pid = t.pid
  parent : t'.parent = t.parent
  entity : t'.entity = t.entity
  unreaped : t'.unreaped = t.unreaped
  dead : t'.state = .dead ↔ t.state = .dead

namespace Task

variable {t t' : Task} {id : EntityId}

theorem active_of_alive (alive : t.isAlive = true) : t.active = true :=
  (Bool.and_eq_true_iff.1 alive).1

theorem live_of_alive (alive : t.isAlive = true) : t.state ≠ .dead :=
  bne_iff_ne.1 (Bool.and_eq_true_iff.1 alive).2

theorem mem_references_of_alive (alive : t.isAlive = true) (owns : t.entity = some id) :
    id ∈ t.references := by
  simp [references, live_of_alive alive, owns]

theorem mem_references_of_record {r : ExitRecord} (h : r ∈ t.unreaped.items) :
    r.entity ∈ t.references :=
  List.mem_append_right _ (List.mem_map_of_mem h)

theorem references_of_dead (dead : t.state = .dead) (cleared : t.unreaped.items = []) :
    t.references = [] := by
  simp [references, dead, cleared]

theorem references_of_owner (live : t.state ≠ .dead) (owns : t.entity = some id) :
    t.references = id :: t.unreaped.items.map (·.entity) := by
  simp [references, live, owns]

namespace Keeps

theorem references (h : t.Keeps t') : t'.references = t.references := by
  unfold Task.references
  rw [h.entity, h.unreaped]
  simp only [h.dead]

theorem isAlive (h : t.Keeps t') : t'.isAlive = t.isAlive := by
  have dead : (t'.state != .dead) = (t.state != .dead) := by
    rw [Bool.eq_iff_iff, bne_iff_ne, bne_iff_ne, ne_eq, ne_eq, h.dead]
  simp only [Task.isAlive, h.active, dead]

end Keeps

end Task

/-- There are fewer tasks beside the idle one than the table has slots. -/
theorem length_lt_maxTasks {pids : List Pid} (nodup : pids.Nodup)
    (seated : ∀ pid ∈ pids, pid ≠ idlePid ∧ pid < maxTasks) : pids.length < maxTasks := by
  have below : pids ⊆ List.range' 1 (maxTasks - 1) := by
    intro pid mem
    obtain ⟨busy, lt⟩ := seated pid mem
    exact List.mem_range'_1.2 ⟨Nat.pos_of_ne_zero busy, lt⟩
  have le := (nodup.subperm below).length_le
  rw [List.length_range'] at le
  exact Nat.lt_of_le_of_lt le (by decide)

namespace Scheduler

variable {π : Type} {s r : Scheduler π} {pid p : Pid} {t t' u old : Task}

/-- The table with another occupant of a slot. -/
def setTask (s : Scheduler π) (pid : Pid) (t : Task) : Scheduler π :=
  { s with tasks := s.tasks.setIfInBounds pid t }

/-- The references that the whole table holds. -/
def references (s : Scheduler π) : List EntityId :=
  s.tasks.toList.flatMap Task.references

theorem lt_of_task? (h : s.task? pid = some t) : pid < maxTasks :=
  (Vector.getElem?_eq_some_iff.1 h).1

theorem getElem?_tasks (s : Scheduler π) (pid : Pid) : s.tasks.toList[pid]? = s.task? pid := by
  simp [task?]

theorem mem_tasks : t ∈ s.tasks.toList ↔ ∃ pid, s.task? pid = some t := by
  simp only [List.mem_iff_getElem?, getElem?_tasks]

/-- Changing a slot exchanges what it contributes to a list. -/
theorem count_flatMap_setTask {α : Type} [BEq α] (found : s.task? pid = some old) (t : Task)
    (f : Task → List α) (a : α) :
    ((s.setTask pid t).tasks.toList.flatMap f).count a + (f old).count a =
      (s.tasks.toList.flatMap f).count a + (f t).count a := by
  have found : s.tasks.toList[pid]? = some old := (s.getElem?_tasks pid).trans found
  simp only [setTask, Vector.toList_setIfInBounds]
  exact Table.count_flatMap_set found t f a

/-- What one slot alone contributes to a list is all of it there. -/
theorem count_flatMap_of_slot {α : Type} [BEq α] [LawfulBEq α] (slot : s.task? pid = some t)
    (f : Task → List α) (a : α) (others : ∀ p u, s.task? p = some u → a ∈ f u → p = pid) :
    (s.tasks.toList.flatMap f).count a = (f t).count a := by
  refine Table.count_flatMap_of_unique ((s.getElem?_tasks pid).trans slot) f a ?_
  intro p u found mem
  exact others p u ((s.getElem?_tasks p).symm.trans found) mem

theorem task?_setTask (found : s.task? pid = some old) (t : Task) (p : Pid) :
    (s.setTask pid t).task? p = if p = pid then some t else s.task? p := by
  have lt := lt_of_task? found
  simp only [task?, setTask, Vector.getElem?_setIfInBounds, eq_comm (a := pid)]
  split
  case isTrue => rfl
  case isFalse => rfl

theorem task?_setTask_self (found : s.task? pid = some old) (t : Task) :
    (s.setTask pid t).task? pid = some t := by
  rw [task?_setTask found, if_pos rfl]

theorem task?_setTask_of_ne (s : Scheduler π) (t : Task) (ne : p ≠ pid) :
    (s.setTask pid t).task? p = s.task? p := by
  simp [task?, setTask, Ne.symm ne]

theorem setTask_self (found : s.task? pid = some t) : s.setTask pid t = s := by
  have same : s.tasks.setIfInBounds pid t = s.tasks := by
    ext i lt
    rw [Vector.getElem_setIfInBounds]
    split
    case isTrue eq => subst eq; exact ((Vector.getElem?_eq_some_iff.1 found).2).symm
    case isFalse => rfl
  unfold setTask
  rw [same]

theorem setTask_setTask (s : Scheduler π) (pid : Pid) (t u : Task) :
    (s.setTask pid t).setTask pid u = s.setTask pid u := by
  simp [setTask]

theorem mem_references (found : s.task? pid = some t) {id : EntityId} (h : id ∈ t.references) :
    id ∈ s.references :=
  List.mem_flatMap.2 ⟨t, mem_tasks.2 ⟨pid, found⟩, h⟩

theorem exists_of_mem_references {id : EntityId} (h : id ∈ s.references) :
    ∃ pid t, s.task? pid = some t ∧ id ∈ t.references := by
  obtain ⟨t, mem, held⟩ := List.mem_flatMap.1 h
  obtain ⟨pid, slot⟩ := mem_tasks.1 mem
  exact ⟨pid, t, slot, held⟩

theorem count_references_setTask (found : s.task? pid = some old) (t : Task) (id : EntityId) :
    (s.setTask pid t).references.count id + old.references.count id =
      s.references.count id + t.references.count id :=
  count_flatMap_setTask found t Task.references id

/-! ## Well-formed tables -/

/-- What the task table says of itself. -/
structure Proper (s : Scheduler π) : Prop where
  /-- A free slot holds no live task, and no entity. -/
  free : ∀ {pid t}, s.task? pid = some t → t.active = false → t.state = .dead ∧ t.entity = none
  /-- A slot holds its own number. -/
  numbered : ∀ {pid t}, s.task? pid = some t → t.active = true → t.pid = pid
  /-- A dead task keeps no records. -/
  cleared : ∀ {pid t}, s.task? pid = some t → t.state = .dead → t.unreaped.items = []
  /-- A record is of a dead child of the task that keeps it. -/
  recorded : ∀ {pid t r}, s.task? pid = some t → r ∈ t.unreaped.items →
    ∃ c, s.task? r.pid = some c ∧ c.active = true ∧ c.state = .dead ∧ c.parent = pid ∧
      c.entity = some r.entity
  /-- The idle task is alive. -/
  idle : ∃ t, s.task? idlePid = some t ∧ t.isAlive = true

theorem of_task?_setTask (found : s.task? pid = some t) (h : (s.setTask pid t').task? p = some u) :
    p = pid ∧ u = t' ∨ p ≠ pid ∧ s.task? p = some u := by
  rw [task?_setTask found] at h
  split at h
  case isTrue eq => cases h; exact .inl ⟨eq, rfl⟩
  case isFalse ne => exact .inr ⟨ne, h⟩

namespace Proper

theorem of_eq (h : s.Proper) (tasks : r.tasks = s.tasks) : r.Proper := by
  have same : r.task? = s.task? := by
    funext p
    simp only [task?, tasks]
  exact ⟨same ▸ h.free, same ▸ h.numbered, same ▸ h.cleared, same ▸ h.recorded, same ▸ h.idle⟩

theorem active (h : s.Proper) (found : s.task? pid = some t) (live : t.state ≠ .dead) :
    t.active = true := by
  by_contra free
  exact live (h.free found (Bool.eq_false_iff.2 free)).1

theorem alive (h : s.Proper) (found : s.task? pid = some t) (live : t.state ≠ .dead) :
    t.isAlive = true := by
  simp [Task.isAlive, h.active found live, live]

/-- A slot may change hands if what it gets is proper by itself, its new records are of dead
children, and a dead task of which a record is left stays what it is. -/
theorem replace (h : s.Proper) (found : s.task? pid = some t)
    (free : t'.active = false → t'.state = .dead ∧ t'.entity = none)
    (numbered : t'.active = true → t'.pid = pid)
    (cleared : t'.state = .dead → t'.unreaped.items = [])
    (recorded : ∀ r ∈ t'.unreaped.items, r ∈ t.unreaped.items ∨
      ∃ c, s.task? r.pid = some c ∧ c.active = true ∧ c.state = .dead ∧ c.parent = pid ∧
        c.entity = some r.entity)
    (kept : ∀ {p u r}, (s.setTask pid t').task? p = some u → r ∈ u.unreaped.items → r.pid = pid →
      t.active = true → t.state = .dead →
        t'.active = true ∧ t'.state = .dead ∧ t'.parent = t.parent ∧ t'.entity = t.entity)
    (idle : pid = idlePid → t.isAlive = true → t'.isAlive = true) :
    (s.setTask pid t').Proper where
  free slot inactive := by
    rcases of_task?_setTask found slot with ⟨rfl, rfl⟩ | ⟨-, slot⟩
    · exact free inactive
    · exact h.free slot inactive
  numbered slot active := by
    rcases of_task?_setTask found slot with ⟨rfl, rfl⟩ | ⟨-, slot⟩
    · exact numbered active
    · exact h.numbered slot active
  cleared slot dead := by
    rcases of_task?_setTask found slot with ⟨rfl, rfl⟩ | ⟨-, slot⟩
    · exact cleared dead
    · exact h.cleared slot dead
  recorded {p u r} slot record := by
    have child : ∃ c, s.task? r.pid = some c ∧ c.active = true ∧ c.state = .dead ∧
        c.parent = p ∧ c.entity = some r.entity := by
      rcases of_task?_setTask found slot with ⟨rfl, rfl⟩ | ⟨-, slot⟩
      · exact (recorded r record).elim (h.recorded found) id
      · exact h.recorded slot record
    obtain ⟨c, before, active, dead, parent, entity⟩ := child
    by_cases eq : r.pid = pid
    · rw [eq] at before
      cases found.symm.trans before
      obtain ⟨active, dead, same, owns⟩ := kept slot record eq active dead
      rw [eq]
      exact ⟨t', task?_setTask_self found t', active, dead, same.trans parent, owns.trans entity⟩
    · exact ⟨c, (task?_setTask_of_ne s t' eq).trans before, active, dead, parent, entity⟩
  idle := by
    obtain ⟨u, slot, alive⟩ := h.idle
    by_cases eq : idlePid = pid
    · subst eq
      cases found.symm.trans slot
      exact ⟨t', task?_setTask_self found t', idle rfl alive⟩
    · exact ⟨u, (task?_setTask_of_ne s t' eq).trans slot, alive⟩

/-- A change that keeps what a slot refers to leaves the table well-formed. -/
theorem setTask (h : s.Proper) (found : s.task? pid = some t) (keeps : t.Keeps t') :
    (s.setTask pid t').Proper := by
  refine h.replace found (fun inactive => ?_) (fun active => ?_) (fun dead => ?_)
    (fun r record => .inl (keeps.unreaped ▸ record)) (fun _ _ _ active dead => ?_)
    fun _ alive => keeps.isAlive.trans alive
  · obtain ⟨dead, bare⟩ := h.free found (keeps.active ▸ inactive)
    exact ⟨keeps.dead.2 dead, keeps.entity.trans bare⟩
  · exact keeps.pid.trans (h.numbered found (keeps.active ▸ active))
  · rw [keeps.unreaped]
    exact h.cleared found (keeps.dead.1 dead)
  · exact ⟨keeps.active.trans active, keeps.dead.2 dead, keeps.parent, keeps.entity⟩

end Proper

end Scheduler

end Rtos

import Rtos.Proofs.Kernel.Descent
import Rtos.Proofs.Kernel.Stacks
import Rtos.Proofs.Kernel.TaskTable

/-!
# What is left of a task

The slot of a task that exited is kept as long as anything refers to its entity, and `Kernel.Pinned`
tells why something does: a living parent keeps a record of the exit, or below the task there is one
that has not exited, or an event that is queued.  At the bottom of the branch below the task stands
an entity without children, so its one reference is what its owner calls for, and that is one of the
three (`Kernel.Arranged.pinned`).

Once the idle task alone is left and nothing is queued, no reason remains, and everything that tasks
and events had taken is given back (`Kernel.Arranged.cleared_of_quiet`).
-/

namespace Rtos

variable {π : Type}

/-- Why the slot of a task that exited is kept. -/
inductive Kernel.Pinned (k : Kernel π) (pid : Pid) (t : Task) : Prop
  /-- Its parent has not exited, and keeps a record of it. -/
  | recorded {p : Task} {r : ExitRecord} (parent : k.sched.task? t.parent = some p)
      (alive : p.isAlive = true) (record : r ∈ p.unreaped.items) (child : r.pid = pid)
  /-- A task below it has not exited. -/
  | survived {entity below : EntityId} {other : Pid} {u : Task} (owns : t.entity = some entity)
      (slot : k.sched.task? other = some u) (alive : u.isAlive = true)
      (theirs : u.entity = some below) (descends : k.entities.Below below entity)
  /-- An event below it is queued. -/
  | reported {entity : EntityId} {event : Event} (owns : t.entity = some entity)
      (queued : event ∈ k.bus.queues.events) (descends : k.entities.Below event.entity entity)

/-- No task but the idle one is left, and nothing is queued. -/
structure Kernel.Quiet (k : Kernel π) : Prop where
  /-- Every other slot is dead. -/
  alone : ∀ pid t, k.sched.task? pid = some t → pid ≠ idlePid → t.state = .dead
  /-- The queues are empty. -/
  drained : k.bus.queues.events = []

/-- Tasks and events have given back all that they had taken. -/
structure Kernel.Cleared [Port π] [LawfulPort π] (k : Kernel π) (others : List Stack) : Prop where
  /-- Every slot but the idle task's is free. -/
  slots : ∀ pid t, k.sched.task? pid = some t → pid ≠ idlePid → t.active = false
  /-- Besides what others had borrowed before, one stack is lent, to the idle task. -/
  lent : ∃ t stack, k.sched.task? idlePid = some t ∧ t.stack = some stack ∧
    (LawfulPort.lent k.sched.port).Perm (stack :: others)
  /-- The entities are the root, the idle task's and those of registered devices. -/
  entities : ∀ id, k.entities.isLive id = true ↔ id = .root ∨
    (∃ t, k.sched.task? idlePid = some t ∧ t.entity = some id) ∨
      ∃ slot, k.deviceEntity? slot = some id

namespace Kernel.Arranged

variable {k : Kernel π} {pid : Pid} {t : Task} {id : EntityId}

/-! ## Why a slot is kept -/

/-- A task that exited, whose entity is still called for, is recorded with its parent, who has not. -/
theorem recorded_of_standing (h : k.Arranged) (slot : k.sched.task? pid = some t)
    (active : t.active = true) (owns : t.entity = some id) (dead : t.state = .dead)
    (standing : k.standing id (.task pid) ≠ 0) :
    ∃ p r, k.sched.task? t.parent = some p ∧ p.isAlive = true ∧ r ∈ p.unreaped.items ∧
      r.pid = pid := by
  have once : k.sched.recordCount id = 1 := by
    by_contra never
    refine standing (if_neg ?_)
    simp [slot, dead, never]
  obtain ⟨r, mem, entity⟩ := List.countP_pos_iff.1 (Nat.lt_of_lt_of_eq Nat.one_pos once.symm)
  obtain ⟨p, place, record⟩ := List.mem_flatMap.1 mem
  obtain ⟨keeper, keeps⟩ := Scheduler.mem_tasks.1 place
  obtain ⟨c, child, taken, -, parent, theirs⟩ := h.sound.tasks.recorded keeps record
  -- the record names the task by its entity
  have same : r.pid = pid := by
    obtain ⟨x, owns', owned⟩ := h.sound.linked.task slot active
    obtain ⟨y, theirs', owned'⟩ := h.sound.linked.task child taken
    cases owns.symm.trans owns'
    cases theirs.symm.trans theirs'
    rw [of_decide_eq_true entity] at owned'
    cases owned.symm.trans owned'
    rfl
  rw [same] at child
  cases slot.symm.trans child
  refine ⟨_, r, parent ▸ keeps, ?_, record, same⟩
  refine h.sound.tasks.alive keeps fun dead => ?_
  rw [h.sound.tasks.cleared keeps dead] at record
  cases record

/-- The slot of a task that exited is kept for a reason. -/
theorem pinned (h : k.Arranged) (slot : k.sched.task? pid = some t) (active : t.active = true)
    (dead : t.state = .dead) : k.Pinned pid t := by
  have accounted := h.sound.accounted h.single
  obtain ⟨id, owns, owned⟩ := h.sound.linked.task slot active
  by_cases called : k.standing id (.task pid) = 0
  case neg =>
    obtain ⟨p, r, parent, alive, record, child⟩ :=
      h.recorded_of_standing slot active owns dead called
    exact .recorded parent alive record child
  case pos =>
    rcases h.kept_by owned (by simp) called with
      ⟨event, queued, below⟩ | ⟨leaf, other, below, task, busy, standing⟩
    · exact .reported owns queued below
    obtain ⟨u, slot', taken, theirs⟩ := accounted.task.1 task
    by_cases exited : u.state = .dead
    case neg => exact .survived owns slot' (h.sound.tasks.alive slot' exited) theirs below
    case pos =>
      -- it is recorded with its parent, who stands on the way to the task
      obtain ⟨p, r, parent, alive, -, -⟩ :=
        h.recorded_of_standing slot' taken theirs exited standing
      obtain ⟨above, stands, ownedAbove⟩ := h.rooted task busy slot'
      obtain ⟨next, stands', within⟩ := below.parent
      cases stands.symm.trans stands'
      obtain ⟨p', parent', -, owns'⟩ := accounted.task.1 ownedAbove
      cases parent.symm.trans parent'
      refine .survived owns parent alive owns' (within.below ?_)
      rintro rfl
      cases owned.symm.trans ownedAbove
      cases slot.symm.trans parent
      exact Task.live_of_alive alive dead

/-! ## When no reason is left -/

/-- When nobody is left, the slots are free. -/
theorem free_of_quiet (h : k.Arranged) (regular : k.Regular) (quiet : k.Quiet)
    (slot : k.sched.task? pid = some t) (busy : pid ≠ idlePid) : t.active = false := by
  refine Bool.eq_false_iff.2 fun active => ?_
  have left {other : Pid} {u : Task} (slot : k.sched.task? other = some u)
      (alive : u.isAlive = true) : other = idlePid := by
    by_contra busy
    exact Task.live_of_alive alive (quiet.alone other u slot busy)
  cases h.pinned slot active (quiet.alone pid t slot busy) with
  | recorded parent alive record =>
    rw [(regular t.parent _ parent).idle (left parent alive)] at record
    cases record
  | reported owns queued =>
    rw [quiet.drained] at queued
    cases queued
  | survived owns slot' alive theirs below =>
    -- the idle task stands below nobody but the root
    obtain rfl := left slot' alive
    obtain ⟨id, owns', owned⟩ := h.sound.linked.task slot active
    cases owns.symm.trans owns'
    obtain ⟨top, theirs', ownedTop⟩ := h.sound.linked.task slot' (Task.active_of_alive alive)
    cases theirs.symm.trans theirs'
    exact h.grounded.not_top below (h.ne_root owned (by simp)) ownedTop rfl

/-- When nobody is left, the entities are the root, the idle task's and those of registered devices. -/
theorem entities_of_quiet (h : k.Arranged) (regular : k.Regular) (quiet : k.Quiet)
    (id : EntityId) : k.entities.isLive id = true ↔ id = .root ∨
      (∃ t, k.sched.task? idlePid = some t ∧ t.entity = some id) ∨
        ∃ slot, k.deviceEntity? slot = some id := by
  have accounted := h.sound.accounted h.single
  have none (event : Event) : event ∉ k.bus.queues.events := by
    rw [quiet.drained]
    exact List.not_mem_nil
  have task {id : EntityId} {pid : Pid} (owned : k.entities.owner? id = some (.task pid)) :
      pid = idlePid := by
    obtain ⟨u, slot, active, -⟩ := accounted.task.1 owned
    by_contra busy
    cases (h.free_of_quiet regular quiet slot busy).symm.trans active
  constructor
  · intro live
    obtain ⟨o, owned⟩ := EntityTree.isLive_iff.1 live
    cases o with
    | root => exact .inl (h.sound.tree.root_unique owned)
    | event =>
      obtain ⟨event, queued, -⟩ := h.queued owned
      exact absurd queued (none event)
    | task pid =>
      obtain rfl := task owned
      obtain ⟨t, slot, -, owns⟩ := accounted.task.1 owned
      exact .inr (.inl ⟨t, slot, owns⟩)
    | device number =>
      refine .inr (.inr ⟨number, ?_⟩)
      by_contra unregistered
      rcases h.kept_by owned (by simp) (if_neg unregistered) with
        ⟨event, queued, -⟩ | ⟨leaf, pid, -, owned, busy, -⟩
      · exact none event queued
      · exact busy (task owned)
  · rw [EntityTree.isLive_iff]
    rintro (rfl | ⟨t, slot, owns⟩ | ⟨number, registered⟩)
    · exact ⟨_, h.sound.tree.root⟩
    · exact ⟨_, accounted.slot slot owns⟩
    · exact ⟨_, accounted.device registered⟩

theorem cleared_of_quiet [Port π] [LawfulPort π] {others : List Stack} (h : k.Arranged)
    (regular : k.Regular) (lends : k.Lends others) (quiet : k.Quiet) : k.Cleared others where
  slots _ _ := h.free_of_quiet regular quiet
  entities := h.entities_of_quiet regular quiet
  lent := by
    obtain ⟨idle, slot, alive⟩ := h.sound.tasks.idle
    obtain ⟨stack, has⟩ := (regular idlePid idle slot).stack (Task.active_of_alive alive)
    have own : k.sched.taskStacks.Perm [stack] := by
      refine List.perm_iff_count.2 fun x => ?_
      rw [Scheduler.taskStacks, Scheduler.count_flatMap_of_slot slot, has, Option.toList_some]
      intro pid u slot mem
      by_contra busy
      rw [lends.bare pid u slot (h.free_of_quiet regular quiet slot busy)] at mem
      cases mem
    exact ⟨idle, stack, slot, has, lends.exact.trans (own.append_right others)⟩

end Kernel.Arranged

end Rtos

import Rtos.Proofs.Kernel.Boot
import Rtos.Proofs.Kernel.Tasks
import Mathlib.Logic.Function.Basic

/-!
# Parents and children

What the task table says of a live task as a parent and as a child is its kin: who created it, and
which of its own children exited without being reaped.  Only creating a task, an exit and the wait
that is told of one change it.  The slot of a parent is not freed before those of its children, since
the entities of the children stand under its own (`Kernel.Rooted`); so a number that is handed out
again is nobody's parent.
-/

namespace Rtos

/-! ## What stands under what -/

namespace EntityTree

variable {δ : Type} {t : EntityTree δ} {id p new : EntityId} {e : Entity δ} {o owner : Owner}
  {tag : δ}

/-- The parent of an entity belongs to `o`. -/
def StandsUnder (t : EntityTree δ) (id : EntityId) (o : Owner) : Prop :=
  ∃ above, t.parent? id = some above ∧ t.owner? above = some o

namespace StandsUnder

theorem setCount (h : t.StandsUnder id o) (found : t.get? p = some e) (n : Nat) :
    (t.setCount p e n).StandsUnder id o := by
  obtain ⟨above, parent, owned⟩ := h
  exact ⟨above, (parent?_setCount found n id).trans parent,
    (owner?_setCount found n above).trans owned⟩

theorem addChild (h : t.StandsUnder id o) (found : t.get? p = some e) (free : t.get? new = none) :
    (t.addChild p e new owner tag).StandsUnder id o := by
  obtain ⟨above, parent, owned⟩ := h
  have old : id ≠ new := by
    rintro rfl
    obtain ⟨_, live, -⟩ := parent?_eq_some.1 parent
    cases free.symm.trans live
  refine ⟨above, ?_, owner?_addChild_of_some found free owned⟩
  rw [parent?_addChild found, if_neg old]
  exact parent

theorem remove (h : t.StandsUnder id o) (other : id ≠ p) (childless : p ∉ t.parents) :
    (t.remove p).StandsUnder id o := by
  obtain ⟨above, parent, owned⟩ := h
  have kept : above ≠ p := by
    rintro rfl
    exact childless (mem_parents.2 ⟨id, parent⟩)
  refine ⟨above, ?_, ?_⟩
  · rw [parent?_remove, if_neg other]
    exact parent
  · rw [owner?_remove, if_neg kept]
    exact owned

end StandsUnder

end EntityTree

/-! ## Parents keep their slots -/

variable {π : Type}

/-- The entity of every task but the idle one stands under that of its parent. -/
def Kernel.Rooted (k : Kernel π) : Prop :=
  ∀ {id pid t}, k.entities.owner? id = some (.task pid) → pid ≠ idlePid →
    k.sched.task? pid = some t → k.entities.StandsUnder id (.task t.parent)

/-- A task that stays in its slot keeps its parent. -/
theorem SlotStep.parent_eq {label : Label} {pid : Pid} {t t' : Task}
    (step : SlotStep pid label t t') (active : t'.active = true)
    (old : ∀ parent, label ≠ .spawns pid parent) : t'.parent = t.parent := by
  cases step with
  | change change => exact change.keeps.parent
  | wake wakes => exact wakes.keeps.parent
  | freed => cases active
  | spawned => exact absurd rfl (old _)
  | same | promote | awaitChild | awaitDevice | wakeDirect | reap | record | die => rfl

variable [Port π]

/-- Moves leave the entities of tasks under those of their parents. -/
theorem Move.rooted {label : Label} {m m' : Moment π} (move : Move label m m') (sound : m.Sound)
    (h : m.kernel.Rooted) : m'.kernel.Rooted := by
  intro id pid t' owned busy slot'
  have active : t'.active = true := by
    obtain ⟨e, live, owner⟩ := EntityTree.owner?_eq_some.1 owned
    obtain ⟨-, u, slot, active, -⟩ := (move.sound sound).linked.owner live owner
    cases slot'.symm.trans slot
    exact active
  obtain ⟨t, slot, step⟩ := move.slotStep_back sound slot'
  by_cases spawns : ∃ parent, label = .spawns pid parent
  · obtain ⟨parent, rfl⟩ := spawns
    cases move with
    | change found change => cases change
    | @spawn k held _ u _ pt pe e entity stack stackPointer entry taken laid found free _ spawner
        above live lasting unused =>
      cases found.symm.trans slot
      have new : id = entity := by
        by_contra old
        have owned : (k.entities.addChild pe e entity (.task pid) .releaseTask).owner? id = _ := owned
        rw [EntityTree.owner?_addChild live, if_neg old] at owned
        obtain ⟨e', live', owner⟩ := EntityTree.owner?_eq_some.1 owned
        obtain ⟨-, u, slot', active, -⟩ := sound.linked.owner live' owner
        cases slot.symm.trans slot'
        cases free.symm.trans active
      cases new
      cases (Scheduler.task?_setTask_self found _).symm.trans slot'
      have taken : pt.active = true := by
        by_contra free
        cases above.symm.trans (sound.tasks.free spawner (Bool.eq_false_iff.2 free)).2
      obtain ⟨pe', above', owned⟩ := sound.linked.task spawner taken
      cases above.symm.trans above'
      refine ⟨pe, ?_, EntityTree.owner?_addChild_of_some live unused owned⟩
      exact (EntityTree.parent?_addChild live _).trans (if_pos rfl)
  · rw [step.parent_eq active fun parent eq => spawns ⟨parent, eq⟩]
    have before (owned : m.kernel.entities.owner? id = some (.task pid)) := h owned busy slot
    -- a new entity that is not of this task
    have grows {p new : EntityId} {e : Entity Cleanup} {owner : Owner} {tag : Cleanup}
        (found : m.kernel.entities.get? p = some e) (free : m.kernel.entities.get? new = none)
        (other : owner ≠ .task pid)
        (owned : (m.kernel.entities.addChild p e new owner tag).owner? id = some (.task pid)) :
        (m.kernel.entities.addChild p e new owner tag).StandsUnder id (.task t.parent) := by
      rw [EntityTree.owner?_addChild found] at owned
      split at owned
      case isTrue => exact absurd (Option.some.inj owned) other
      case isFalse => exact (before owned).addChild found free
    -- an entity that nobody refers to
    have shrinks {k : Kernel π} {held : List EntityId} {gone : EntityId} {e : Entity Cleanup}
        (is : m = ⟨k, held, some gone⟩) (found : k.entities.get? gone = some e)
        (last : e.count.value = 1)
        (owned : (k.entities.remove gone).owner? id = some (.task pid)) :
        (k.entities.remove gone).StandsUnder id (.task t.parent) := by
      subst is
      rw [EntityTree.owner?_remove] at owned
      split at owned
      case isTrue => cases owned
      case isFalse other => exact (before owned).remove other (sound.unreferenced found last).2.2
    cases move with
    | share found | settle found =>
      exact (before ((EntityTree.owner?_setCount found _ id).symm.trans owned)).setCount found _
    | createEvent parent lasting free => exact grows parent free nofun owned
    | hold parent free => exact grows parent free nofun owned
    | register device vacant root unused => exact grows root unused nofun owned
    | @spawn k held child u parent pt pe e entity stack stackPointer entry taken laid found free _
        spawner above live lasting unused =>
      refine grows live unused ?_ owned
      rintro ⟨⟩
      exact spawns ⟨parent, rfl⟩
    | destroy found last => exact shrinks rfl found last owned
    | destroyTask found last => exact shrinks rfl found last owned
    | _ => exact before owned

theorem Moves.rooted {P : Label → Prop} {m m' : Moment π} (moves : Moves P m m') (sound : m.Sound)
    (h : m.kernel.Rooted) : m'.kernel.Rooted :=
  (moves.keeps (I := fun m => m.Sound ∧ m.kernel.Rooted) ⟨sound, h⟩
    fun _ move ⟨sound, rooted⟩ => ⟨move.sound sound, move.rooted sound rooted⟩).2

theorem Kernel.rooted_boot {port : π} {k : Kernel π} (h : boot port = .ok (.ok k)) : k.Rooted := by
  intro id pid t owned busy slot
  obtain ⟨e, live, owner⟩ := EntityTree.owner?_eq_some.1 owned
  obtain ⟨-, u, slot', active, -⟩ := (sound_boot h).linked.owner live owner
  cases slot.symm.trans slot'
  cases empty_of_boot h busy slot
  cases active

omit [Port π] in
theorem Kernel.Rooted.parent_ne {k : Kernel π} {held : List EntityId} {pid child : Pid} {t c : Task}
    (h : k.Rooted) (sound : Moment.Sound ⟨k, held, none⟩) (slot : k.sched.task? pid = some t)
    (free : t.active = false) (found : k.sched.task? child = some c) (active : c.active = true)
    (busy : child ≠ idlePid) : c.parent ≠ pid := by
  rintro rfl
  obtain ⟨id, -, owned⟩ := sound.linked.task found active
  obtain ⟨above, -, parent⟩ := h owned busy found
  obtain ⟨e, live, owner⟩ := EntityTree.owner?_eq_some.1 parent
  obtain ⟨-, u, slot', taken, -⟩ := sound.linked.owner live owner
  cases slot.symm.trans slot'
  cases free.symm.trans taken

/-! ## Kin -/

/-- What the task table says of a live task as a parent and as a child. -/
structure Kin where
  /-- The task that created it. -/
  parent : Pid
  /-- Its children that exited and were not reaped, with their statuses, oldest first. -/
  exits : List (Pid × Int)
deriving DecidableEq, Repr

/-- What a record tells a parent. -/
def ExitRecord.exit (r : ExitRecord) : Pid × Int :=
  (r.pid, r.status)

/-- The kin of a live task. -/
def Task.kin? (t : Task) : Option Kin :=
  if t.isAlive then some ⟨t.parent, t.unreaped.items.map ExitRecord.exit⟩ else none

/-- The kin of the live task in a slot. -/
def Kernel.kin? (k : Kernel π) (pid : Pid) : Option Kin :=
  (k.sched.task? pid).bind Task.kin?

/-- Whether moves with the label may change the kin of the task in slot `pid`. -/
def Label.Touches (pid : Pid) : Label → Prop
  | .spawns child _ => child = pid
  | .reaps parent => parent = pid
  | .exits child parent => child = pid ∨ parent = pid
  | _ => False

namespace Task

variable {t t' : Task}

theorem kin?_of_alive (alive : t.isAlive = true) :
    t.kin? = some ⟨t.parent, t.unreaped.items.map ExitRecord.exit⟩ :=
  if_pos alive

theorem kin?_setUnreaped (alive : t.isAlive = true) (unreaped : Fifo maxTasks ExitRecord) :
    kin? { t with unreaped } = some ⟨t.parent, unreaped.items.map ExitRecord.exit⟩ :=
  kin?_of_alive (t := { t with unreaped }) alive

theorem kin?_of_dead (dead : t.isAlive = false) : t.kin? = none :=
  if_neg (by rw [dead]; nofun)

theorem kin?_eq_some {kin : Kin} : t.kin? = some kin ↔
    t.isAlive = true ∧ kin = ⟨t.parent, t.unreaped.items.map ExitRecord.exit⟩ := by
  unfold kin?
  split
  case isTrue alive => simp [alive, eq_comm]
  case isFalse dead => simp [dead]

/-- What keeps what a slot refers to keeps the kin. -/
theorem Keeps.kin? (h : t.Keeps t') : t'.kin? = t.kin? := by
  unfold Task.kin?
  rw [h.isAlive, h.parent, h.unreaped]

end Task

theorem SlotStep.kin? {label : Label} {pid : Pid} {t t' : Task} (step : SlotStep pid label t t')
    (apart : ¬label.Touches pid) : t'.kin? = t.kin? := by
  cases step with
  | same => rfl
  | change change => exact change.keeps.kin?
  | wake wakes => exact wakes.keeps.kin?
  | promote alive =>
    have live := Task.live_of_alive alive
    exact Task.Keeps.kin? ⟨rfl, rfl, rfl, rfl, rfl, by simp [live]⟩
  | awaitChild running => exact Task.Keeps.kin? ⟨rfl, rfl, rfl, rfl, rfl, by simp [running]⟩
  | awaitDevice running => exact Task.Keeps.kin? ⟨rfl, rfl, rfl, rfl, rfl, by simp [running]⟩
  | wakeDirect parked => exact Task.Keeps.kin? ⟨rfl, rfl, rfl, rfl, rfl, by simp [parked]⟩
  | freed dead =>
    have gone : t.kin? = none := Task.kin?_of_dead (by simp [Task.isAlive, dead])
    exact gone.symm
  | reap | spawned => exact absurd rfl apart
  | record => exact absurd (.inr rfl) apart
  | die => exact absurd (.inl rfl) apart

/-- Moves that do not touch a task leave its kin. -/
theorem Moves.kin? {P : Label → Prop} {m m' : Moment π} {pid : Pid} (moves : Moves P m m')
    (sound : m.Sound) (apart : ∀ label, P label → ¬label.Touches pid) :
    m'.kernel.kin? pid = m.kernel.kin? pid := by
  refine (moves.keeps (I := fun m' => m'.Sound ∧ m'.kernel.kin? pid = m.kernel.kin? pid)
    ⟨sound, rfl⟩ fun {label m₁ m₂} allowed move ⟨sound, same⟩ => ⟨move.sound sound, ?_⟩).2
  rw [← same]
  cases slot : m₁.kernel.sched.task? pid with
  | some t =>
    obtain ⟨t', slot', step⟩ := move.slotStep sound slot
    simp only [Kernel.kin?, slot, slot', Option.bind_some]
    exact step.kin? (apart label allowed)
  | none =>
    cases slot' : m₂.kernel.sched.task? pid with
    | none => simp only [Kernel.kin?, slot, slot']
    | some t' =>
      obtain ⟨t, slot'', -⟩ := move.slotStep_back sound slot'
      cases slot.symm.trans slot''

theorem Moves.kin?_eq {P : Label → Prop} {m m' : Moment π} (moves : Moves P m m') (sound : m.Sound)
    (apart : ∀ pid label, P label → ¬label.Touches pid) : m'.kernel.kin? = m.kernel.kin? := by
  funext pid
  exact moves.kin? sound (apart pid)

theorem Kernel.Operates.kin? {P : Label → Prop} {k k' : Kernel π} {held held' : List EntityId}
    (h : Operates P held held' k k') (sound : Moment.Sound ⟨k, held, .none⟩)
    (apart : ∀ pid label, P label → ¬label.Touches pid) : k'.kin? = k.kin? := by
  refine (h.moves sound).kin?_eq sound ?_
  rintro pid label (body | (rfl | rfl) | rfl)
  · exact apart pid label body
  · exact id
  · exact id
  · exact id

/-! ## What changes kin -/

/-- The kin of a task with one more exit. -/
def Kin.add (kin : Kin) (exit : Pid × Int) : Kin :=
  { kin with exits := kin.exits ++ [exit] }

/-- The kin of a task without its oldest exit of a kind. -/
def Kin.remove (kin : Kin) (filter : ChildFilter) : Kin :=
  { kin with exits := kin.exits.eraseP fun exit => filter.accepts exit.1 }

/-- What becomes of all kin when a task exits: its own goes, and its parent, if it is alive and not the
idle task, has one more exit. -/
def Kin.bereave (before : Pid → Option Kin) (pid parent : Pid) (status : Int) :
    Pid → Option Kin := fun other =>
  if other = pid then none
  else if other = parent ∧ other ≠ idlePid then (before other).map (·.add (pid, status))
  else before other

theorem Kin.bereave_eq_some {before : Pid → Option Kin} {pid parent other : Pid} {status : Int}
    {kin : Kin} (h : bereave before pid parent status other = some kin) :
    other ≠ pid ∧ ∃ old, before other = some old ∧ kin.parent = old.parent := by
  unfold bereave at h
  split at h
  case isTrue => cases h
  case isFalse ne =>
    refine ⟨ne, ?_⟩
    split at h
    case isTrue =>
      obtain ⟨old, own, rfl⟩ := Option.map_eq_some_iff.1 h
      exact ⟨old, own, rfl⟩
    case isFalse => exact ⟨kin, h, rfl⟩

namespace Kernel

variable {k k' : Kernel π} {held : List EntityId} {pid : Pid} {status : Int} {entity : EntityId}
  {t : Task}

omit [Port π] in
theorem kin?_of_slot (slot : k.sched.task? pid = some t) : k.kin? pid = t.kin? := by
  rw [kin?, slot, Option.bind_some]

omit [Port π] in
theorem kin?_eq_some {kin : Kin} : k.kin? pid = some kin ↔
    ∃ t, k.sched.task? pid = some t ∧ t.isAlive = true ∧
      kin = ⟨t.parent, t.unreaped.items.map ExitRecord.exit⟩ := by
  simp only [kin?, Option.bind_eq_some_iff, Task.kin?_eq_some]

/-- The idle task alone has kin in a kernel that was just built. -/
theorem kin?_boot {port : π} (h : boot port = .ok (.ok k)) :
    k.kin? = Function.update (fun _ => none) idlePid (some ⟨idlePid, []⟩) := by
  funext pid
  rw [Function.update_apply]
  split
  case isTrue idle =>
    subst idle
    obtain ⟨stack, stackPointer, -, laid, e, id, -, -, -, -, -, rfl⟩ := boot_eq_ok h
    rfl
  case isFalse busy =>
    rw [Option.eq_none_iff_forall_ne_some]
    intro kin own
    obtain ⟨t, slot, alive, -⟩ := kin?_eq_some.1 own
    cases empty_of_boot h busy slot
    cases alive

omit [Port π] in
theorem kin?_setTask (found : k.sched.task? pid = some t) (t' : Task) :
    (k.setTask pid t').kin? = Function.update k.kin? pid t'.kin? := by
  funext other
  have slots : (k.setTask pid t').sched.task? other = _ := Scheduler.task?_setTask found t' other
  rw [kin?, slots, Function.update_apply]
  split
  case isTrue => rfl
  case isFalse => rfl

/-- A task that is created has no exits, and the others keep their kin. -/
theorem kin?_spawn {entry : EntryPoint} {result : Except Error Pid}
    (sound : Moment.Sound ⟨k, held, none⟩) (settled : k.Settled)
    (h : k.spawn entry = .ok (result, k')) :
    ((∃ e, result = .error e) ∧ k'.kin? = k.kin?) ∨
      ∃ pid u, result = .ok pid ∧ pid ≠ idlePid ∧ k.sched.task? pid = some u ∧ u.active = false ∧
        k'.kin? = Function.update k.kin? pid (some ⟨k.current, []⟩) := by
  rcases spawn_eq_ok sound settled h with ⟨refused, quiet⟩ |
    ⟨pid, u, entity, stack, stackPointer, rfl, busy, slot, free, moves, slot'⟩
  · refine .inl ⟨refused, quiet.kin?_eq sound ?_⟩
    rintro pid label rfl
    exact id
  · refine .inr ⟨pid, u, rfl, busy, slot, free, ?_⟩
    funext other
    rw [Function.update_apply]
    split
    case isTrue eq =>
      subst eq
      exact kin?_of_slot slot'
    case isFalse ne =>
      refine moves.kin? sound ?_
      rintro label (rfl | rfl)
      · exact id
      · exact Ne.symm ne

/-- Passing away takes a task out of all kin, and adds its exit to that of its parent. -/
theorem kin?_passes (sound : Moment.Sound ⟨k, held, none⟩) (slot : k.sched.task? pid = some t)
    (running : t.state = .running) (busy : pid ≠ idlePid) (owns : t.entity = some entity)
    (cleared : t.unreaped.items = []) (h : Passes k pid t status entity k') :
    k'.kin? = Kin.bereave k.kin? pid t.parent status := by
  have dies := kin?_setTask slot (t.exited status)
  have gone : (t.exited status).kin? = none := Task.kin?_of_dead (by simp [Task.isAlive, Task.exited])
  rw [gone] at dies
  cases h with
  | @told p unreaped parent other alive notIdle put tell =>
    obtain ⟨exits, tells, -⟩ := moves_told sound slot running busy owns cleared parent other alive
      notIdle put tell
    have parent' : (k.setTask pid (t.exited status)).sched.task? t.parent = some p :=
      (Scheduler.task?_setTask_of_ne k.sched (t.exited status) other).trans parent
    have same := tells.kin?_eq (exits.sound sound)
      (by rintro pid label (rfl | rfl | rfl) <;> exact id)
    refine Eq.trans same ?_
    have told := kin?_setTask parent' { p with unreaped }
    have recorded : Task.kin? { p with unreaped } = (k.kin? t.parent).map (·.add (pid, status)) := by
      rw [kin?_of_slot parent, Task.kin?_setUnreaped alive, Task.kin?_of_alive alive]
      simp [Kin.add, (Fifo.push?_eq_some.1 put).2, ExitRecord.exit]
    refine told.trans ?_
    rw [dies, recorded]
    funext o
    unfold Kin.bereave
    by_cases self : o = pid
    · subst self
      rw [if_pos rfl, Function.update_of_ne (Ne.symm other), Function.update_self]
    · rw [if_neg self]
      by_cases above : o = t.parent
      · subst above
        rw [if_pos ⟨rfl, notIdle⟩, Function.update_self]
      · rw [if_neg (fun h => above h.1), Function.update_of_ne above, Function.update_of_ne self]
  | forgotten orphan release =>
    have exits : Move (.exits pid t.parent) ⟨k, held, .none⟩
        ⟨k.setTask pid (t.exited status), entity :: held, .none⟩ :=
      .exitForgotten slot running busy owns cleared orphan
    have quiet : Moves (· = .quiet) ⟨k.setTask pid (t.exited status), entity :: held, none⟩
        ⟨k', held, none⟩ :=
      .trans (moves_note _ _ none (.exited pid status)) (moves_release release (.refl _))
    have same := quiet.kin?_eq (exits.sound sound) (by rintro pid label rfl; exact id)
    refine (same.trans dies).trans ?_
    funext o
    unfold Kin.bereave
    by_cases self : o = pid
    · rw [if_pos self, self, Function.update_self]
    · rw [if_neg self, Function.update_of_ne self]
      split
      case isFalse => rfl
      case isTrue above =>
        obtain ⟨rfl, notIdle⟩ := above
        rcases orphan with idle | own | ⟨p, parent, dead⟩
        · exact absurd idle notIdle
        · exact absurd own self
        · rw [kin?_of_slot parent, Task.kin?_of_dead dead]
          rfl

/-- An exit is refused to the idle task, and otherwise bereaves all kin of the current task. -/
theorem kin?_exit {result : Except Error Unit} (sound : Moment.Sound ⟨k, held, none⟩)
    (settled : k.Settled) (h : k.exit status = .ok (result, k')) :
    (k.current = idlePid ∧ result = .error .invalidArgument ∧ k'.kin? = k.kin?) ∨
      ∃ kin, result = .ok () ∧ k.current ≠ idlePid ∧ k.kin? k.current = some kin ∧
        k'.kin? = Kin.bereave k.kin? k.current kin.parent status := by
  rcases exit_eq_ok sound settled h with ⟨idle, rfl, rfl⟩ |
    ⟨u, t, entity, k₁, k₂, rfl, exiting, parent, busy, running, owns, cleared, reap, slot, passes,
      pass⟩
  · exact .inl ⟨idle, rfl, rfl⟩
  · have sound₁ := reap.sound sound
    have sound₂ := (moves_passes sound₁ slot running busy owns cleared passes).1.sound sound₁
    obtain ⟨u', exiting', -, alive⟩ := settled.alive sound
    cases exiting.symm.trans exiting'
    refine .inr ⟨_, rfl, busy, (kin?_of_slot exiting).trans (Task.kin?_of_alive alive), ?_⟩
    have closes : k'.kin? = k₂.kin? := by
      obtain ⟨close, outside⟩ := moves_closeSections k₂ k.current held
      have operates : Operates (· = .quiet) held held k₂ k' := ⟨_, close, .pass (.inr outside) pass⟩
      refine operates.kin? sound₂ ?_
      rintro pid label rfl
      exact id
    rw [closes, kin?_passes sound₁ slot running busy owns cleared passes, parent]
    funext o
    unfold Kin.bereave
    split
    case isTrue => rfl
    case isFalse other =>
      have same : k₁.kin? o = k.kin? o := by
        refine reap.kin? sound ?_
        rintro label (rfl | rfl)
        · exact id
        · exact Ne.symm other
      rw [same]

/-- A wait for a child is told of the oldest exit of the kind, and takes it off, or there is none. -/
theorem kin?_waitChild {filter : ChildFilter} {options : WaitOptions}
    {result : Except Error (Progress (Pid × Int))} (sound : Moment.Sound ⟨k, held, none⟩)
    (settled : k.Settled) (h : k.waitChild filter options = .ok (result, k')) :
    ∃ kin, k.kin? k.current = some kin ∧
      ((∃ exit, result = .ok (.done exit) ∧
          kin.exits.find? (fun exit => filter.accepts exit.1) = some exit ∧
          k'.kin? = Function.update k.kin? k.current (some (kin.remove filter))) ∨
        ((∀ exit, result ≠ .ok (.done exit)) ∧
          kin.exits.find? (fun exit => filter.accepts exit.1) = none ∧ k'.kin? = k.kin?)) := by
  obtain ⟨t, slot, running, alive⟩ := settled.alive sound
  refine ⟨_, (kin?_of_slot slot).trans (Task.kin?_of_alive alive), ?_⟩
  have none (unrecorded : ∀ r ∈ t.unreaped.items, filter.accepts r.pid = false) :
      (t.unreaped.items.map ExitRecord.exit).find? (fun exit => filter.accepts exit.1) = none := by
    simpa [ExitRecord.exit] using unrecorded
  cases waitChild_eq_ok sound ⟨t, slot, running⟩ slot h with
  | @reaps child unreaped _ found rest moves left =>
    refine .inl ⟨child.exit, rfl, ?_, ?_⟩
    · rw [List.find?_map]
      exact congrArg (Option.map ExitRecord.exit) found
    · funext o
      rw [Function.update_apply]
      split
      case isTrue eq =>
        subst eq
        rw [kin?_of_slot left, Task.kin?_setUnreaped alive]
        simp only [Kin.remove, rest, List.eraseP_map]
        rfl
      case isFalse other =>
        refine moves.kin? sound ?_
        rintro label (rfl | rfl)
        · exact id
        · exact Ne.symm other
  | goesOn unrecorded unfinished operates =>
    refine .inr ⟨?_, none unrecorded, operates.kin? sound ?_⟩
    · rintro exit rfl
      rcases unfinished with eq | ⟨e, eq⟩ <;> cases eq
    · rintro pid label rfl
      exact id
  | parks unrecorded moves parked outside pass =>
    refine .inr ⟨nofun, none unrecorded, ?_⟩
    have operates : Operates _ held held k k' := ⟨_, moves, .pass (.inr outside) pass⟩
    refine operates.kin? sound ?_
    rintro pid label (rfl | rfl) <;> exact id

end Kernel

end Rtos

import Rtos.Proofs.Entity.Releases
import Rtos.Proofs.Kernel.Tasks
import Rtos.Proofs.Kernel.Waiting
import Rtos.Proofs.Port.Lawful

/-!
# Stacks, and releases that do not fail

On a lawful port every task has its stack to itself until its slot is freed, and nobody but the tasks
has one (`Kernel.Lends`).  So a stack that is returned is one that was lent, and dropping a reference
in hand always comes to an end.
-/

namespace Rtos

variable {π : Type} [Port π]

/-- The stacks of all tasks. -/
def Scheduler.taskStacks (s : Scheduler π) : List Stack :=
  s.tasks.toList.flatMap (·.stack.toList)

omit [Port π] in
theorem Scheduler.count_stacks_setTask {s : Scheduler π} {pid : Pid} {old : Task}
    (found : s.task? pid = some old) (t : Task) (stack : Stack) :
    (s.setTask pid t).taskStacks.count stack + old.stack.toList.count stack =
      s.taskStacks.count stack + t.stack.toList.count stack :=
  count_flatMap_setTask found t (·.stack.toList) stack

variable [LawfulPort π]

/-- The stack of every task is lent to it alone. -/
def Kernel.OwnsStacks (k : Kernel π) : Prop :=
  ∀ stack, k.sched.taskStacks.count stack ≤ (LawfulPort.lent k.sched.port).count stack

theorem Kernel.OwnsStacks.lent {k : Kernel π} {pid : Pid} {t : Task} {stack : Stack}
    (h : k.OwnsStacks) (found : k.sched.task? pid = some t) (has : t.stack = some stack) :
    stack ∈ LawfulPort.lent k.sched.port := by
  have mem : stack ∈ k.sched.taskStacks :=
    List.mem_flatMap.2 ⟨t, Scheduler.mem_tasks.2 ⟨pid, found⟩, Option.mem_toList.2 has⟩
  exact List.count_pos_iff.1 (Nat.lt_of_lt_of_le (List.count_pos_iff.2 mem) (h stack))

/-! ## What is lent, and to whom -/

/-- As much of a stack is lent to nobody in one kernel as in the other, and so much less as the first
kernel had kept in free slots. -/
def Kernel.Exchanges (k k' : Kernel π) (stack : Stack) (dropped : Nat) : Prop :=
  (LawfulPort.lent k'.sched.port).count stack + k.sched.taskStacks.count stack =
    (LawfulPort.lent k.sched.port).count stack + k'.sched.taskStacks.count stack + dropped

namespace Kernel.Exchanges

variable {k : Kernel π} {pid : Pid} {t t' : Task} {port : π} {x : Stack}

theorem trans {k₁ k₂ : Kernel π} {a b : Nat} (first : k.Exchanges k₁ x a)
    (second : k₁.Exchanges k₂ x b) : k.Exchanges k₂ x (a + b) := by
  unfold Exchanges at *
  omega

theorem setTask (found : k.sched.task? pid = some t) (same : t'.stack = t.stack) :
    k.Exchanges (k.setTask pid t') x 0 := by
  have exchange := Scheduler.count_stacks_setTask found t' x
  rw [same] at exchange
  have kept : (k.setTask pid t').sched.taskStacks.count x = k.sched.taskStacks.count x :=
    Nat.add_right_cancel exchange
  rw [Exchanges, kept]
  rfl

theorem setPort (same : (LawfulPort.lent port).Perm (LawfulPort.lent k.sched.port)) :
    k.Exchanges (k.setPort port) x 0 := by
  have kept : (LawfulPort.lent (k.setPort port).sched.port).count x =
      (LawfulPort.lent k.sched.port).count x := same.count_eq x
  rw [Exchanges, kept]
  rfl

end Kernel.Exchanges

/-- A move borrows a stack for a new task and returns it with the slot. What a free slot keeps is
lost to the task that takes it. -/
theorem Move.exchanges {label : Label} {m m' : Moment π} (move : Move label m m')
    (owns : m.kernel.OwnsStacks) (x : Stack) :
    ∃ dropped, m.kernel.Exchanges m'.kernel x dropped ∧
      ((∀ pid t, m.kernel.sched.task? pid = some t → t.active = false → t.stack = none) →
        dropped = 0) := by
  have exact {m' : Moment π} (same : m.kernel.Exchanges m'.kernel x 0) :
      ∃ dropped, m.kernel.Exchanges m'.kernel x dropped ∧
        ((∀ pid t, m.kernel.sched.task? pid = some t → t.active = false → t.stack = none) →
          dropped = 0) :=
    ⟨0, same, fun _ => rfl⟩
  cases move with
  | book | createEvent | hold | share | drop | settle | destroy | post | fetch | shift | register
  | unregister => exact exact rfl
  | hardware change =>
    cases change with
    | switch source saved target resumed => exact exact (.setPort (LawfulPort.lent_switch ..))
    | @lend stack taken port' take back =>
      have lent := LawfulPort.lent_take take
      obtain ⟨port, returned, perm⟩ := LawfulPort.returns (lent.symm.subset List.mem_cons_self)
      cases returned.symm.trans back
      exact exact (.setPort ((perm.symm.trans lent).cons_inv))
  | change found change => exact exact (.setTask found (by cases change <;> rfl))
  | promote found => exact exact (Kernel.Exchanges.setTask found rfl)
  | awaitChild found => exact exact (Kernel.Exchanges.setTask found rfl)
  | awaitDevice found => exact exact (Kernel.Exchanges.setTask found rfl)
  | @wake k held falling payload pre sub post t listed found wakes =>
    have same : (t.woken payload).stack = t.stack := by cases payload <;> rfl
    exact exact (Kernel.Exchanges.setTask found same)
  | wakeDirect found => exact exact (Kernel.Exchanges.setTask found rfl)
  | reap found => exact exact (.setTask found rfl)
  | exitForgotten found => exact exact (.setTask found rfl)
  | @exitRecorded k held pid t p entity status unreaped found running busy owns cleared parent
      other =>
    have parent := (Scheduler.task?_setTask_of_ne k.sched
      { t with state := .dead, exitStatus := status } other).trans parent
    have own : k.Exchanges (k.setTask pid { t with state := .dead, exitStatus := status }) x 0 :=
      .setTask found rfl
    have record : (k.setTask pid { t with state := .dead, exitStatus := status }).Exchanges
        ((k.setTask pid { t with state := .dead, exitStatus := status }).setTask t.parent
          { p with unreaped }) x 0 := .setTask parent rfl
    exact exact (own.trans record)
  | @destroyTask k held id e pid t port found last below owner cleanup slot stack bare =>
    have exchange := Scheduler.count_stacks_setTask slot .empty x
    have empty : Task.empty.stack.toList.count x = 0 := rfl
    have returned : (LawfulPort.lent k.sched.port).count x =
        (LawfulPort.lent port).count x + t.stack.toList.count x := by
      cases has : t.stack with
      | none =>
        rw [bare has]
        rfl
      | some s =>
        obtain ⟨port', returned, perm⟩ := LawfulPort.returns (owns.lent slot has)
        cases returned.symm.trans (stack s has)
        rw [perm.count_eq x, ← List.singleton_append, List.count_append, Nat.add_comm]
        rfl
    refine exact ?_
    change (LawfulPort.lent port).count x + k.sched.taskStacks.count x =
      (LawfulPort.lent k.sched.port).count x + (k.sched.setTask pid .empty).taskStacks.count x
    omega
  | @spawn k held pid t parent pt pe e entity stack stackPointer entry taken laid found free busy
      spawner above live lasting unused take layOut =>
    have exchange := Scheduler.count_stacks_setTask found
      (.spawned pid parent entity stack stackPointer) x
    have lent := ((LawfulPort.lent_layOut layOut).trans (LawfulPort.lent_take take)).count_eq x
    rw [← List.singleton_append, List.count_append] at lent
    have own : (Task.spawned pid parent entity stack stackPointer).stack.toList.count x =
        [stack].count x := rfl
    refine ⟨t.stack.toList.count x, ?_, fun bare => ?_⟩
    · change (LawfulPort.lent laid).count x + k.sched.taskStacks.count x =
        (LawfulPort.lent k.sched.port).count x + (k.sched.setTask pid _).taskStacks.count x + _
      omega
    · rw [bare pid t found free]
      rfl

/-- A move leaves the stacks with their tasks. -/
theorem Move.ownsStacks {label : Label} {m m' : Moment π} (move : Move label m m')
    (h : m.kernel.OwnsStacks) : m'.kernel.OwnsStacks := by
  intro stack
  obtain ⟨dropped, exchanges, -⟩ := move.exchanges h stack
  have owns := h stack
  unfold Kernel.Exchanges at exchanges
  omega

theorem Moves.ownsStacks {P : Label → Prop} {m m' : Moment π} (moves : Moves P m m')
    (h : m.kernel.OwnsStacks) : m'.kernel.OwnsStacks :=
  moves.keeps h fun _ move owns => move.ownsStacks owns

/-! ## Nothing is lost -/

theorem SlotStep.bare {label : Label} {pid : Pid} {t t' : Task} (step : SlotStep pid label t t')
    (h : t.active = false → t.stack = none) (free : t'.active = false) : t'.stack = none := by
  cases step with
  | same | promote | awaitChild | awaitDevice | wakeDirect | reap | record | die => exact h free
  | change change => cases change <;> exact h free
  | @wake t payload => cases payload <;> exact h free
  | freed => rfl
  | spawned => cases free

/-- What is lent is what the tasks have, and what others had borrowed before. -/
structure Kernel.Lends (k : Kernel π) (others : List Stack) : Prop where
  /-- A free slot keeps no stack. -/
  bare : ∀ pid t, k.sched.task? pid = some t → t.active = false → t.stack = none
  /-- Nothing is lent but to tasks. -/
  exact : (LawfulPort.lent k.sched.port).Perm (k.sched.taskStacks ++ others)

namespace Kernel.Lends

variable {k : Kernel π} {others : List Stack}

theorem ownsStacks (h : k.Lends others) : k.OwnsStacks := by
  intro stack
  rw [h.exact.count_eq, List.count_append]
  exact Nat.le_add_right _ _

end Kernel.Lends

/-- Moves lose no stack. -/
theorem Moves.lends {P : Label → Prop} {m m' : Moment π} {others : List Stack}
    (moves : Moves P m m') (sound : m.Sound) (h : m.kernel.Lends others) :
    m'.kernel.Lends others := by
  refine (moves.keeps (I := fun m => m.Sound ∧ m.kernel.Lends others) ⟨sound, h⟩
    fun _ move ⟨sound, h⟩ => ⟨move.sound sound, ?_, ?_⟩).2
  · intro pid t' slot'
    obtain ⟨t, slot, step⟩ := move.slotStep_back sound slot'
    exact step.bare (h.bare pid t slot)
  · refine List.perm_iff_count.2 fun stack => ?_
    obtain ⟨dropped, exchanges, none⟩ := move.exchanges h.ownsStacks stack
    have before := h.exact.count_eq stack
    have dropped := none h.bare
    rw [List.count_append] at before ⊢
    unfold Kernel.Exchanges at exchanges
    omega

theorem Kernel.lends_boot {port : π} {k : Kernel π} (h : boot port = .ok (.ok k)) :
    k.Lends (LawfulPort.lent port) := by
  constructor
  · intro pid t slot free
    by_cases idle : pid = idlePid
    · obtain ⟨u, slot', alive⟩ := (sound_boot h).tasks.idle
      rw [idle] at slot
      cases slot.symm.trans slot'
      cases free.symm.trans (Task.active_of_alive alive)
    · cases empty_of_boot h idle slot
      rfl
  · obtain ⟨stack, stackPointer, taken, laid, e, id, take, layOut, root, unused, owner, rfl⟩ :=
      boot_eq_ok h
    refine List.perm_iff_count.2 fun x => ?_
    have vacant : (Scheduler.new laid).task? idlePid = some .empty := rfl
    have idle := Scheduler.count_stacks_setTask vacant
      { Task.spawned idlePid idlePid id stack stackPointer with state := .running } x
    have lent := ((LawfulPort.lent_layOut layOut).trans (LawfulPort.lent_take take)).count_eq x
    have empty : Task.empty.stack.toList.count x = 0 := rfl
    have none : (Scheduler.new laid).taskStacks.count x = 0 := rfl
    rw [← List.singleton_append, List.count_append] at lent
    rw [List.count_append]
    change (LawfulPort.lent laid).count x =
      ((Scheduler.new laid).setTask idlePid _).taskStacks.count x + _
    change _ = _ + [stack].count x at idle
    omega

theorem Kernel.ownsStacks_boot {port : π} {k : Kernel π} (h : boot port = .ok (.ok k)) :
    k.OwnsStacks :=
  (lends_boot h).ownsStacks

/-! ## Releases -/

theorem Scheduler.freeTask_total {k : Kernel π} {pid : Pid} {t : Task} (owns : k.OwnsStacks)
    (slot : k.sched.task? pid = some t) : ∃ s, k.sched.freeTask pid = .ok s := by
  refine Checked.bind_total ⟨t, task_eq_ok.2 slot⟩ fun t' slot' => ?_
  cases slot.symm.trans (task_eq_ok.1 slot')
  have freed (port : π) : ∃ s,
      (({ k.sched with port } : Scheduler π).modify pid (fun _ => .empty) >>= fun s =>
        pure (s.note (.released pid)) : Checked (Scheduler π)) = .ok s :=
    Checked.bind_total (modify_total _ (lt_of_task? slot) _) fun s _ => ⟨_, rfl⟩
  split
  case h_1 stack has =>
    obtain ⟨port, returned, -⟩ := LawfulPort.returns (owns.lent slot has)
    exact Checked.bind_total ⟨port, returned⟩ fun port _ => freed port
  case h_2 => exact freed k.sched.port

namespace Kernel

variable {k : Kernel π} {held rest : List EntityId} {id : EntityId}

omit [Port π] [LawfulPort π] in
theorem live_of_falling (sound : Moment.Sound ⟨k, held, some id⟩) :
    ∃ e, k.entities.get? id = some e := by
  have balance := sound.balance id
  cases live : k.entities.get? id with
  | some e => exact ⟨e, rfl⟩
  | none =>
    simp only [EntityTree.refs_of_free live, List.count_append, Option.toList_some,
      List.count_singleton_self] at balance
    omega

omit [Port π] [LawfulPort π] in
theorem not_root_of_last {e : Entity Cleanup} (sound : Moment.Sound ⟨k, held, some id⟩)
    (found : k.entities.get? id = some e) (last : e.count.value = 1) : id ≠ .root := by
  rintro rfl
  refine (sound.unreferenced found last).1 ?_
  exact List.mem_cons_self

theorem cleanup_total {e : Entity Cleanup} (sound : Moment.Sound ⟨k, held, some id⟩)
    (owns : k.OwnsStacks) (found : k.entities.get? id = some e) :
    ∃ s₁, e.runCleanup Cleanup.run k.sched = .ok s₁ := by
  by_cases task : ∃ pid, e.owner = .task pid
  · obtain ⟨pid, owner⟩ := task
    obtain ⟨cleanup, t, slot, -, -⟩ := sound.linked.owner found owner
    obtain ⟨s₁, freed⟩ := Scheduler.freeTask_total owns slot
    refine ⟨s₁, EntityTree.runCleanup_eq_ok.2
      ⟨fun tag has => ?_, fun bare => (by cases cleanup.symm.trans bare)⟩⟩
    cases cleanup.symm.trans has
    rw [owner]
    exact freed
  · refine ⟨k.sched, EntityTree.runCleanup_eq_ok.2 ⟨fun tag has => ?_, fun _ => rfl⟩⟩
    cases tag with
    | nothing => rfl
    | releaseTask =>
      cases owner : e.owner with
      | task pid => exact absurd ⟨pid, owner⟩ task
      | root | device | event => rfl

theorem releaseUp_total {fuel : Nat} (sound : Moment.Sound ⟨k, held, some id⟩)
    (owns : k.OwnsStacks) (enough : k.entities.live ≤ fuel) :
    ∃ out, EntityTree.releaseUp Cleanup.run fuel k.entities id k.sched = .ok out := by
  obtain ⟨e, found⟩ := live_of_falling sound
  have counted : 0 < k.entities.live := sound.tree.live_pos found
  induction fuel generalizing k id e with
  | zero => omega
  | succ fuel ih =>
    have positive := sound.tree.positive found
    by_cases last : e.count.value = 1
    · have below := not_root_of_last sound found last
      obtain ⟨s₁, cleaned⟩ := cleanup_total sound owns found
      have round := EntityTree.releaseRound_eq_ok.2 (.falls found last below counted cleaned)
      have fall := moves_round held round
      refine Checked.bind_total ⟨_, round⟩ fun out eq => ?_
      cases round.symm.trans eq
      cases parent : e.parent with
      | none => exact ⟨_, rfl⟩
      | some p =>
        rw [parent] at fall
        have sound₁ := fall.sound sound
        obtain ⟨e₁, found₁⟩ := live_of_falling sound₁
        have live : (k.entities.remove id).live = k.entities.live - 1 := rfl
        exact ih sound₁ (fall.ownsStacks owns) (by simp only [live]; omega) e₁ found₁
          (sound₁.tree.live_pos found₁)
    · exact ⟨_, EntityTree.releaseUp_of_others found (by omega)⟩

/-- Dropping a reference in hand goes through. -/
theorem release_total (sound : Moment.Sound ⟨k, held, none⟩) (owns : k.OwnsStacks)
    (mine : held.Perm (id :: rest)) : ∃ k', k.release id = .ok k' := by
  have sound := sound.drop mine
  obtain ⟨out, released⟩ := releaseUp_total sound owns (Nat.le_refl _)
  exact Checked.bind_total (Checked.bind_total ⟨out, released⟩ fun _ _ => ⟨_, rfl⟩)
    fun _ _ => ⟨_, rfl⟩

/-- A step of a wait hands out the oldest record of the kind. -/
theorem waitChild_done (options : WaitOptions) {filter : ChildFilter} {child : Pid} {status : Int}
    (sound : Moment.Sound ⟨k, held, none⟩) (owns : k.OwnsStacks)
    (records : k.Records k.current filter child status) :
    ∃ k', k.waitChild filter options = .ok (.ok (.done (child, status)), k') := by
  obtain ⟨t, entity, slot, alive, first⟩ := records
  have current := Scheduler.task_eq_ok.2 slot
  cases reaped : t.reap? filter with
  | none =>
    have refused := Task.reap?_eq_none.1 reaped _ (List.mem_of_find?_eq_some first)
    have accepted := List.find?_some first
    cases refused.symm.trans accepted
  | some taken =>
    obtain ⟨record, t'⟩ := taken
    obtain ⟨unreaped, rfl, oldest, -, split⟩ := Task.reap?_eq_some reaped
    cases first.symm.trans oldest
    have reap : Move (.reaps k.current) ⟨k, held, .none⟩
        ⟨k.setTask k.current { t with unreaped },
          [⟨child, status, entity⟩].map ExitRecord.entity ++ held, .none⟩ := .reap slot split
    obtain ⟨k₁, released⟩ := release_total (reap.sound sound) (reap.ownsStacks owns) (.refl _)
    have install : k.sched.modify k.current (fun _ => { t with unreaped }) =
        .ok (k.sched.setTask k.current { t with unreaped }) :=
      Scheduler.modify_eq_ok.2 ⟨t, slot, rfl⟩
    refine ⟨k₁.note (.reaped k.current child status), Checked.bind_eq_ok.2 ⟨t, current, ?_⟩⟩
    rw [Task.reap_of_reap? reaped]
    exact Checked.bind_eq_ok.2 ⟨_, install, Checked.bind_eq_ok.2 ⟨k₁, released, rfl⟩⟩

end Kernel

end Rtos

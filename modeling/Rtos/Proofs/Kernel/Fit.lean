import Rtos.Proofs.Kernel.Accounting
import Rtos.Proofs.Kernel.Stacks

/-!
# What lets operations come to an end

Every operation of the kernel comes to an end as long as the moments that it passes through are fit
(`Moment.Fit`): they are sound, references are single, stacks are with their tasks, and every number
of a task that stands somewhere is one of the table.  Moves keep moments fit.
-/

namespace Rtos

variable {π : Type} [Port π] [ReliablePort π]

/-- What lets operations come to an end. -/
structure Moment.Fit (m : Moment π) : Prop where
  /-- The moment is sound. -/
  sound : m.Sound
  /-- References are single. -/
  single : m.Single
  /-- The stacks are with their tasks. -/
  owns : m.kernel.OwnsStacks
  /-- The pool of stacks lies within the address space. -/
  placed : ReliablePort.Placed m.kernel.sched.port
  /-- The current task has a slot. -/
  current : m.kernel.current < maxTasks
  /-- Every task that a listener wakes has a slot. -/
  seated : ∀ kind, ∀ sub ∈ m.kernel.bus.registry.lists.get kind, sub.extra < maxTasks
  /-- Every parent has a slot. -/
  parents : ∀ {pid t}, m.kernel.sched.task? pid = some t → t.parent < maxTasks

/-! ## Moves -/

omit [Port π] [ReliablePort π] in
/-- A parent has a slot behind a step, if a task that creates another has one. -/
theorem SlotStep.parent_lt {label : Label} {pid : Pid} {t t' : Task} (step : SlotStep pid label t t')
    (before : t.parent < maxTasks) (spawner : ∀ {child parent}, label = .spawns child parent →
      parent < maxTasks) : t'.parent < maxTasks := by
  cases step with
  | change change => cases change <;> exact before
  | wake wakes =>
    rename_i payload
    cases payload <;> exact before
  | freed => exact Nat.zero_lt_succ _
  | spawned => exact spawner rfl
  | same | promote | awaitChild | awaitDevice | wakeDirect | reap | record | die => exact before

namespace Move

variable {label : Label} {m m' : Moment π}

omit [ReliablePort π] in
theorem spawner_lt {pid parent : Pid} (move : Move (.spawns pid parent) m m') :
    parent < maxTasks := by
  cases move with
  | change found change => cases change
  | spawn found free busy spawner => exact Scheduler.lt_of_task? spawner

/-- Moves leave the pool of stacks in its place. -/
theorem placed (move : Move label m m') (h : ReliablePort.Placed m.kernel.sched.port) :
    ReliablePort.Placed m'.kernel.sched.port := by
  cases move with
  | hardware change =>
    cases change with
    | switch => exact ReliablePort.placed_switch _ _ _ _ h
    | lend take back => exact ReliablePort.placed_return back (ReliablePort.placed_take take h)
  | @destroyTask k held id e pid t port found last below owner cleanup slot stack bare =>
    change ReliablePort.Placed port
    cases has : t.stack with
    | none => rw [bare has]; exact h
    | some s => exact ReliablePort.placed_return (stack s has) h
  | spawn found free busy spawner above live lasting unused take layOut =>
    exact ReliablePort.placed_layOut layOut (ReliablePort.placed_take take h)
  | _ => exact h

omit [ReliablePort π] in
theorem current_lt (move : Move label m m') (h : m.kernel.current < maxTasks) :
    m'.kernel.current < maxTasks := by
  cases move with
  | promote found => exact Scheduler.lt_of_task? found
  | _ => exact h

omit [ReliablePort π] in
theorem seated (move : Move label m m')
    (h : ∀ kind, ∀ sub ∈ m.kernel.bus.registry.lists.get kind, sub.extra < maxTasks) :
    ∀ kind, ∀ sub ∈ m'.kernel.bus.registry.lists.get kind, sub.extra < maxTasks := by
  have joins {lists : ByKind (List (Subscription KernelListener))} (kind : EventKind)
      {list : List (Subscription KernelListener)}
      (h : ∀ kind, ∀ sub ∈ lists.get kind, sub.extra < maxTasks)
      (new : ∀ sub ∈ list, sub.extra < maxTasks) :
      ∀ other, ∀ sub ∈ (lists.set kind list).get other, sub.extra < maxTasks := by
    intro other
    by_cases eq : kind = other
    · subst eq
      rw [ByKind.get_set_self]
      exact new
    · rw [ByKind.get_set_of_ne _ _ eq]
      exact h other
  cases move with
  | @awaitChild k held falling pid t filter id found =>
    refine joins .task h fun sub mem => ?_
    rcases List.mem_append.1 mem with old | new
    · exact h .task sub old
    · cases List.mem_singleton.1 new
      exact Scheduler.lt_of_task? found
  | @awaitDevice k held falling pid t wait id found =>
    refine joins .device h fun sub mem => ?_
    rcases List.mem_append.1 mem with old | new
    · exact h .device sub old
    · cases List.mem_singleton.1 new
      exact Scheduler.lt_of_task? found
  | @wake k held falling payload pre sub post t listed found wakes =>
    refine joins payload.kind h fun other mem => h payload.kind other ?_
    rw [listed, List.mem_append, List.mem_cons]
    exact (List.mem_append.1 mem).imp_right .inr
  | @wakeDirect k held falling pid t child found =>
    refine joins .task h fun sub mem => h .task sub ?_
    cases listener : t.exitListener with
    | none =>
      rw [listener] at mem
      exact mem
    | some id =>
      rw [listener] at mem
      exact List.mem_of_mem_eraseP mem
  | _ => exact h

/-- Every move but an outsider's keeps a moment fit. -/
theorem fit (move : Move label m m') (h : m.Fit) (inside : label ≠ .shares) : m'.Fit where
  sound := move.sound h.sound
  single := h.single.move h.sound move inside
  owns := move.ownsStacks h.owns
  placed := move.placed h.placed
  current := move.current_lt h.current
  seated := move.seated h.seated
  parents slot' := by
    obtain ⟨t, slot, step⟩ := move.slotStep_back h.sound slot'
    refine step.parent_lt (h.parents slot) ?_
    rintro child parent rfl
    exact move.spawner_lt

end Move

theorem Moves.fit {P : Label → Prop} {m m' : Moment π} (moves : Moves P m m') (h : m.Fit)
    (inside : ¬P .shares) : m'.Fit :=
  moves.keeps h fun allowed move h => move.fit h fun eq => inside (eq ▸ allowed)

omit [ReliablePort π] in
theorem Kernel.seated_boot {port : π} {k : Kernel π} (h : boot port = .ok (.ok k)) :
    ∀ kind, ∀ sub ∈ k.bus.registry.lists.get kind, sub.extra < maxTasks := by
  obtain ⟨stack, stackPointer, -, laid, e, id, -, -, -, -, -, rfl⟩ := boot_eq_ok h
  intro kind sub mem
  cases kind <;> cases mem

theorem Kernel.fit_boot {port : π} {k : Kernel π} (placed : ReliablePort.Placed port)
    (h : boot port = .ok (.ok k)) : Moment.Fit ⟨k, [], none⟩ where
  sound := sound_boot h
  single := single_boot h
  owns := ownsStacks_boot h
  placed := by
    obtain ⟨stack, stackPointer, taken, laid, e, id, take, layOut, -, -, -, rfl⟩ := boot_eq_ok h
    exact ReliablePort.placed_layOut layOut (ReliablePort.placed_take take placed)
  current := by
    obtain ⟨t, slot, -⟩ := settled_boot h
    exact Scheduler.lt_of_task? slot
  seated := seated_boot h
  parents {pid t} slot := by
    by_cases idle : pid = idlePid
    · obtain ⟨stack, stackPointer, -, laid, e, id, -, -, -, -, -, rfl⟩ := boot_eq_ok h
      subst idle
      cases slot
      exact Nat.zero_lt_succ _
    · rw [empty_of_boot h idle slot]
      exact Nat.zero_lt_succ _

end Rtos

import Rtos.Proofs.Kernel.Supplies
import Rtos.Proofs.Kernel.TaskTable
import Rtos.Proofs.System.Faultless

/-!
# Stacks and the tasks that have them

On the host port, the stacks in use are those of the tasks in taken slots, each task has one, and no
two have the same (`HostPort.Owned`).  The memory of a task comes back when its slot is freed, and
not before; it comes back once, since a stack that came back is in nobody's slot.  Whether the port
grants stacks may change at any time (`System.Supply`).
-/

namespace Rtos

/-! ## The pool -/

/-- Two regions have no address in common. -/
def Stack.Disjoint (a b : Stack) : Prop :=
  a.base + a.size ≤ b.base ∨ b.base + b.size ≤ a.base

namespace HostPort

variable {p : HostPort} {slot other : Fin maxTasks}

/-- The stacks of different slots are disjoint. -/
theorem disjoint_stackAt (ne : slot ≠ other) : (stackAt slot).Disjoint (stackAt other) := by
  have ne : slot.val ≠ other.val := fun eq => ne (Fin.ext eq)
  simp only [Stack.Disjoint, stackAt, stackSize]
  omega

theorem stackAt_injective : Function.Injective fun slot : Fin maxTasks => stackAt slot := by
  intro slot other same
  by_contra ne
  have disjoint := disjoint_stackAt ne
  rw [show stackAt slot = stackAt other from same] at disjoint
  simp only [Stack.Disjoint, stackAt, stackSize] at disjoint
  omega

theorem mem_lent {stack : Stack} : stack ∈ LawfulPort.lent p ↔
    ∃ slot : Fin maxTasks, p.used.get slot = true ∧ stack = stackAt slot := by
  change stack ∈ (slotsUsed p.used).map _ ↔ _
  simp only [List.mem_map, slotsUsed.mem, eq_comm (a := stack)]

theorem nodup_lent (p : HostPort) : (LawfulPort.lent p).Nodup :=
  (slotsUsed.nodup p.used).map stackAt_injective

theorem length_lent (p : HostPort) : (LawfulPort.lent p).length = p.stacksUsed := by
  have table : p.used.toList = (List.finRange maxTasks).map p.used.get := by
    apply List.ext_getElem
    · simp
    · intro i lt lt'
      rw [List.getElem_map, List.getElem_finRange]
      rfl
  change ((slotsUsed p.used).map _).length = p.used.count true
  rw [List.length_map, slotsUsed, ← List.countP_eq_length_filter, ← Vector.count_toList, table,
    List.count, List.countP_map]
  congr 1
  funext slot
  simp

/-- A port that refuses a stack was told to, or all its stacks are in use. -/
theorem of_takeStack_eq_none (h : Port.takeStack p = none) :
    p.refuseStacks = true ∨ p.stacksUsed = maxTasks := by
  change allocate p = none at h
  unfold allocate at h
  split at h
  case isTrue refuses => exact .inl refuses
  case isFalse =>
    have none : firstUnused p.used = none := Option.map_eq_none_iff.1 h
    refine .inr (Vector.count_eq_size.2 fun used mem => ?_)
    simpa using (Vector.findFinIdx?_eq_none_iff.1 none used mem)

end HostPort

/-! ## One stack for each task -/

namespace Scheduler

variable {π : Type} {s : Scheduler π} {pid other : Pid} {t u : Task} {stack : Stack}

theorem mem_taskStacks : stack ∈ s.taskStacks ↔
    ∃ pid t, s.task? pid = some t ∧ t.stack = some stack := by
  simp only [taskStacks, List.mem_flatMap, mem_tasks, Option.mem_toList]
  exact ⟨fun ⟨t, ⟨pid, slot⟩, own⟩ => ⟨pid, t, slot, own⟩,
    fun ⟨pid, t, slot, own⟩ => ⟨t, ⟨pid, slot⟩, own⟩⟩

theorem eq_of_stack (nodup : s.taskStacks.Nodup) (slot : s.task? pid = some t)
    (own : t.stack = some stack) (slot' : s.task? other = some u) (own' : u.stack = some stack) :
    pid = other := by
  by_contra ne
  -- with the slot of the one emptied, the stack is still there for the other
  have exchange := count_stacks_setTask slot .empty stack
  have mine : t.stack.toList.count stack = 1 := by rw [own]; exact List.count_singleton_self
  have none : Task.empty.stack.toList.count stack = 0 := rfl
  have left : stack ∈ (s.setTask pid .empty).taskStacks :=
    mem_taskStacks.2 ⟨other, u, (task?_setTask_of_ne s _ (Ne.symm ne)).trans slot', own'⟩
  have once := List.nodup_iff_count_le_one.1 nodup stack
  have there := List.count_pos_iff.2 left
  omega

/-- If every taken slot has a stack and no free one has, there are as many stacks as taken slots. -/
theorem length_taskStacks (taken : ∀ pid t, s.task? pid = some t → t.active = true →
      ∃ stack, t.stack = some stack)
    (bare : ∀ pid t, s.task? pid = some t → t.active = false → t.stack = none) :
    s.taskStacks.length = s.tasks.toList.countP (·.active) := by
  have one : s.taskStacks.length + s.tasks.toList.countP (!·.active) = s.tasks.toList.length := by
    refine Table.length_flatMap_add_countP fun t mem => ?_
    obtain ⟨pid, slot⟩ := mem_tasks.1 mem
    cases active : t.active with
    | true =>
      obtain ⟨stack, own⟩ := taken pid t slot active
      simp [own]
    | false => simp [bare pid t slot active]
  have all := List.length_eq_countP_add_countP (l := s.tasks.toList) (·.active)
  simp only [Bool.not_eq_true, Bool.decide_eq_false] at all
  omega

end Scheduler

/-! ## Runs on a port that may refuse -/

/-- What may happen to a system on the host port. -/
inductive Supply
  /-- From now on the port refuses stacks, or grants them. -/
  | refuse (refuse : Bool)
  /-- A call is made. -/
  | call (call : Call)

namespace System

variable {s s' : System HostPort} {call : Call} {reply : Reply} {act : Supply}
  {acts : List Supply} {pid other : Pid} {t t' u : Task} {a b : Stack} {slot : Fin maxTasks}

/-- The system on a port that refuses stacks, or grants them. -/
def refuseStacks (s : System HostPort) (refuse : Bool) : System HostPort :=
  { s with kernel := s.kernel.setPort { s.kernel.sched.port with refuseStacks := refuse } }

/-- Lets something happen to a system. -/
def supply (s : System HostPort) : Supply → Checked (System HostPort)
  | .refuse refuse => .ok (s.refuseStacks refuse)
  | .call call => do return (← s.step call).2

/-- Who has which stack. -/
structure Owned (s : System HostPort) : Prop where
  /-- A stack is in use exactly if a task in a taken slot has it. -/
  used : ∀ slot : Fin maxTasks, s.kernel.sched.port.used.get slot = true ↔
    ∃ pid t, s.kernel.sched.task? pid = some t ∧ t.active = true ∧
      t.stack = some (HostPort.stackAt slot)
  /-- Every task in a taken slot has one. -/
  held : ∀ {pid t}, s.kernel.sched.task? pid = some t → t.active = true →
    ∃ slot : Fin maxTasks, t.stack = some (HostPort.stackAt slot)
  /-- A free slot has none. -/
  bare : ∀ {pid t}, s.kernel.sched.task? pid = some t → t.active = false → t.stack = none
  /-- The stacks of different tasks are disjoint. -/
  disjoint : ∀ {pid other t u a b}, pid ≠ other → s.kernel.sched.task? pid = some t →
    s.kernel.sched.task? other = some u → t.stack = some a → u.stack = some b → a.Disjoint b
  /-- As many stacks are in use as slots are taken. -/
  counted : s.kernel.sched.port.stacksUsed = s.kernel.sched.tasks.toList.countP (·.active)
  /-- No call gives back a stack that came back before. -/
  once : ∀ call slot, s.step call ≠ .error (.doubleFree slot)
  /-- Behind a call, who is still in its slot has its stack. -/
  kept : ∀ {call reply s' pid t t'}, s.step call = .ok (reply, s') →
    s.kernel.sched.task? pid = some t → t.active = true → s'.kernel.sched.task? pid = some t' →
    t'.active = true → t'.stack = t.stack
  /-- Behind a call, a stack that was in use and is so no more is one of a task whose slot was freed. -/
  freed : ∀ {call reply s' pid t} {slot : Fin maxTasks}, s.step call = .ok (reply, s') →
    s'.kernel.sched.port.used.get slot = false → s.kernel.sched.task? pid = some t →
    t.stack = some (HostPort.stackAt slot) →
    ∃ t', s'.kernel.sched.task? pid = some t' ∧ t'.active = false
  /-- As long as a slot is free, a stack is refused only if the port was told to. -/
  refused : s.kernel.sched.freeSlot?.isSome = true → Port.takeStack s.kernel.sched.port = none →
    s.kernel.sched.port.refuseStacks = true
  /-- Memory for a new task is refused only if the port was told to, or for want of an entity. -/
  granted : ∀ {entry s'}, s.step (.spawn entry) = .ok (.refused .outOfMemory, s') →
    s.kernel.sched.port.refuseStacks = true ∨ s.kernel.entities.freeSlot? = none

/-- What holds of the stacks in every state. -/
structure Stocked (s : System HostPort) : Prop where
  /-- The kernel is fit. -/
  fit : Moment.Fit ⟨s.kernel, [], none⟩
  /-- The current task runs. -/
  settled : s.kernel.Settled
  /-- Slots are regular. -/
  regular : s.kernel.Regular
  /-- The stacks that are lent are those of the tasks. -/
  lends : s.kernel.Lends []

theorem stocked_boot {refuse : Bool} {k : Kernel HostPort} {mutexes : MutexId → Mutex}
    (booted : Kernel.boot (HostPort.new refuse) = .ok (.ok k)) : Stocked ⟨k, mutexes⟩ where
  fit := Kernel.fit_boot trivial booted
  settled := Kernel.settled_boot booted
  regular := Kernel.regular_boot booted
  lends := Kernel.lends_boot booted

namespace Stocked

theorem refuseStacks (h : s.Stocked) (refuse : Bool) : (s.refuseStacks refuse).Stocked where
  fit := by
    obtain ⟨sound, single, owns, placed, current, seated, parents⟩ := h.fit
    exact ⟨sound.of_eq rfl rfl rfl rfl rfl, ⟨single.1, single.2⟩, owns, trivial, current, seated,
      parents⟩
  settled := h.settled
  regular := h.regular
  lends := ⟨h.lends.bare, h.lends.exact⟩

theorem step (h : s.Stocked) (step : s.step call = .ok (reply, s')) : s'.Stocked := by
  have operates := operates_step h.fit.sound h.settled step
  have moves := operates.moves h.fit.sound
  exact ⟨fit_step h.fit h.settled step, operates.settled h.fit.sound,
    moves.regular h.fit.sound h.regular, moves.lends h.fit.sound h.lends⟩

/-- Whatever happens, no stack is lost. -/
theorem supply (h : s.Stocked) (happens : s.supply act = .ok s') : s'.Stocked := by
  cases act with
  | refuse refuse => cases happens; exact h.refuseStacks refuse
  | call call =>
    obtain ⟨⟨reply, s₁⟩, step, eq⟩ := Checked.bind_eq_ok.1 happens
    cases eq
    exact h.step step

theorem supplies (h : s.Stocked) (happen : acts.foldlM System.supply s = .ok s') :
    s'.Stocked := by
  induction acts generalizing s with
  | nil => cases happen; exact h
  | cons act acts ih =>
    rw [List.foldlM_cons] at happen
    obtain ⟨s₁, first, rest⟩ := Checked.bind_eq_ok.1 happen
    exact ih (h.supply first) rest

/-! ## Who has which stack -/

/-- A task has a stack exactly if it is lent. -/
theorem lent_iff (h : s.Stocked) {stack : Stack} :
    stack ∈ LawfulPort.lent s.kernel.sched.port ↔
      ∃ pid t, s.kernel.sched.task? pid = some t ∧ t.stack = some stack := by
  rw [h.lends.exact.mem_iff, List.append_nil, Scheduler.mem_taskStacks]

theorem active (h : s.Stocked) (found : s.kernel.sched.task? pid = some t) (own : t.stack = some a) :
    t.active = true := by
  by_contra free
  cases own.symm.trans (h.lends.bare pid t found (Bool.eq_false_iff.2 free))

theorem slot_of_stack (h : s.Stocked) (found : s.kernel.sched.task? pid = some t) (own : t.stack = some a) :
    ∃ slot : Fin maxTasks, s.kernel.sched.port.used.get slot = true ∧ a = HostPort.stackAt slot :=
  HostPort.mem_lent.1 (h.lent_iff.2 ⟨pid, t, found, own⟩)

/-- A stack is in use exactly if a task in a taken slot has it. -/
theorem used_iff (h : s.Stocked) : s.kernel.sched.port.used.get slot = true ↔
    ∃ pid t, s.kernel.sched.task? pid = some t ∧ t.active = true ∧
      t.stack = some (HostPort.stackAt slot) := by
  constructor
  · intro used
    obtain ⟨pid, t, found, own⟩ := h.lent_iff.1 (HostPort.mem_lent.2 ⟨slot, used, rfl⟩)
    exact ⟨pid, t, found, h.active found own, own⟩
  · rintro ⟨pid, t, found, -, own⟩
    obtain ⟨other, used, same⟩ := h.slot_of_stack found own
    cases HostPort.stackAt_injective same
    exact used

theorem disjoint (h : s.Stocked) (ne : pid ≠ other) (found : s.kernel.sched.task? pid = some t)
    (found' : s.kernel.sched.task? other = some u) (own : t.stack = some a)
    (own' : u.stack = some b) : a.Disjoint b := by
  obtain ⟨slot, -, rfl⟩ := h.slot_of_stack found own
  obtain ⟨slot', -, rfl⟩ := h.slot_of_stack found' own'
  have nodup := h.lends.exact.nodup (HostPort.nodup_lent _)
  rw [List.append_nil] at nodup
  refine HostPort.disjoint_stackAt ?_
  rintro rfl
  exact ne (Scheduler.eq_of_stack nodup found own found' own')

theorem stacksUsed_eq (h : s.Stocked) : s.kernel.sched.port.stacksUsed =
    s.kernel.sched.tasks.toList.countP (·.active) := by
  rw [← HostPort.length_lent, h.lends.exact.length_eq, List.append_nil]
  exact Scheduler.length_taskStacks (fun pid t found => (h.regular pid t found).stack) h.lends.bare

/-- Who stays in its slot keeps its stack. -/
theorem stack_eq (h : s.Stocked) (step : s.step call = .ok (reply, s'))
    (found : s.kernel.sched.task? pid = some t) (active : t.active = true)
    (found' : s'.kernel.sched.task? pid = some t') (active' : t'.active = true) :
    t'.stack = t.stack := by
  rcases remains_or_born h.fit.sound h.settled step found' active' with ⟨u, slot, remains⟩ |
    ⟨-, u, -, -, -, -, -, -, slot, free, -⟩
  · cases found.symm.trans slot
    exact remains.stack
  · cases found.symm.trans slot
    cases active.symm.trans free

/-- As long as a slot is free, a stack is refused only if the port was told to. -/
theorem refused (h : s.Stocked) (room : s.kernel.sched.freeSlot?.isSome = true)
    (none : Port.takeStack s.kernel.sched.port = none) :
    s.kernel.sched.port.refuseStacks = true := by
  rcases HostPort.of_takeStack_eq_none none with refuses | all
  · exact refuses
  · rw [h.stacksUsed_eq] at all
    obtain ⟨pid, free⟩ := Option.isSome_iff_exists.1 room
    obtain ⟨-, t, found, free⟩ := Kernel.freeSlot?_eq_some free
    have every := List.countP_eq_length.1 (all.trans (Vector.length_toList ..).symm)
    cases free.symm.trans (every t (Scheduler.mem_tasks.2 ⟨pid, found⟩))

/-- A state in which no stack is lost is one in which every stack has its task. -/
theorem owned (h : s.Stocked) : s.Owned where
  used _ := h.used_iff
  held found active := by
    obtain ⟨stack, own⟩ := (h.regular _ _ found).stack active
    obtain ⟨slot, -, rfl⟩ := h.slot_of_stack found own
    exact ⟨slot, own⟩
  bare found := h.lends.bare _ _ found
  disjoint := h.disjoint
  counted := h.stacksUsed_eq
  once call slot fault := by
    rcases fault_of_step h.fit h.settled fault with eq | eq | eq | ⟨found, eq⟩ <;> cases eq
  kept := h.stack_eq
  freed {_ _ s' pid t slot} step unused found own := by
    have active := h.active found own
    obtain ⟨t', found'⟩ := s'.kernel.sched.exists_task? (Scheduler.lt_of_task? found)
    refine ⟨t', found', Bool.eq_false_iff.2 fun active' => ?_⟩
    have same := h.stack_eq step found active found' active'
    cases unused.symm.trans ((h.step step).used_iff.2 ⟨pid, t', found', active', same.trans own⟩)
  refused := h.refused
  granted {entry _} step := by
    obtain ⟨result, spawn, reply, -⟩ := request_eq_ok (f := (·.spawn entry)) step
    have refused : result = .error .outOfMemory := by
      cases result with
      | ok => cases reply
      | error e => cases reply; rfl
    obtain ⟨room, none | full⟩ :=
      (Kernel.spawn_outOfMemory_iff h.fit.sound h.settled spawn).1 refused
    · exact .inl (h.refused room none)
    · exact .inr full

end Stocked

/-- Whatever calls are made on a kernel that was just built on the host port, and whenever the port
refuses stacks, every stack has its task. -/
theorem owned_of_supplies {refuse : Bool} {k : Kernel HostPort} {mutexes : MutexId → Mutex}
    (booted : Kernel.boot (HostPort.new refuse) = .ok (.ok k))
    (happen : acts.foldlM System.supply ⟨k, mutexes⟩ = .ok s) : s.Owned :=
  ((stocked_boot booted).supplies happen).owned

/-- A run in which a task exits while its child lives, a stack is refused, and both slots are freed by
one reap. -/
theorem owned_of_supplies_host : ∃ k s, Kernel.boot (HostPort.new false) = .ok (.ok k) ∧
    ([.call (.spawn (.program 0)), .call .schedule, .call (.spawn (.program 1)), .call .schedule,
      .call (.spawn (.program 2)), .call (.exit 7), .call (.exit 8), .refuse true,
      .call (.spawn (.program 3)), .refuse false, .call (.waitChild .any .empty)] :
        List Supply).foldlM supply ⟨k, fun _ => .free⟩ = .ok s ∧
    s.kernel.sched.port.stacksUsed = 2 ∧ s.Owned := by
  have runs : (((Kernel.boot (HostPort.new false)).toOption.bind Except.toOption).any fun k =>
        (([.call (.spawn (.program 0)), .call .schedule, .call (.spawn (.program 1)),
          .call .schedule, .call (.spawn (.program 2)), .call (.exit 7), .call (.exit 8),
          .refuse true, .call (.spawn (.program 3)), .refuse false,
          .call (.waitChild .any .empty)] : List Supply).foldlM supply
            ⟨k, fun _ => .free⟩).toOption.any fun s => s.kernel.sched.port.stacksUsed = 2) =
      true := by decide +kernel
  obtain ⟨k, booted, runs⟩ := Kernel.exists_of_boot runs
  obtain ⟨s, run, used⟩ := Checked.exists_of_any runs
  exact ⟨k, s, booted, run, of_decide_eq_true used, owned_of_supplies booted run⟩

end System

end Rtos

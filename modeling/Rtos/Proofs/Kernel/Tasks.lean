import Rtos.Proofs.Kernel.Operations
import Rtos.Proofs.Task.Reaping

/-!
# Operations on tasks

Spawning a task takes a free slot.  An exit goes through stages: the records of the task's own dead
children are released, its death is recorded with its parent, who is told, its atomic sections are
closed, and a pass runs.  A wait for a child reaps a record or parks the current task.
-/

namespace Rtos

variable {π : Type} [Port π]

/-- A task that exited. -/
def Task.exited (t : Task) (status : Int) : Task :=
  { t with state := .dead, exitStatus := status }

/-- The labels of what tells a parent of an exit: an event is queued, or the parent is woken. -/
def Label.Tells (pid parent : Pid) (status : Int) (label : Label) : Prop :=
  label = .quiet ∨ label = .posts (.task pid parent status) ∨ label = .wakes parent pid

theorem Label.tells_posts {pid parent : Pid} {status : Int} (label : Label)
    (posts : label = .quiet ∨ label = .posts (.task pid parent status)) :
    label.Tells pid parent status :=
  posts.imp_right .inl

namespace Kernel

variable {k k' : Kernel π} {held rest : List EntityId} {pid parent : Pid} {entry : EntryPoint}
  {status : Int} {entity : EntityId} {t : Task}

/-- What going to sleep does. -/
inductive SleepStep (k : Kernel π) (millis : UInt32) : Except Error Unit → Kernel π → Prop
  /-- An atomic section refuses it. -/
  | refused (inside : 0 < k.sched.sectionDepth) :
      SleepStep k millis (.error .atomicContext) (k.note (.refusedInSection k.current .sleep))
  /-- The time is noted, and the current task is parked. -/
  | parks {s₁ s₂ : Scheduler π} {k' : Kernel π} (outside : k.sched.sectionDepth = 0)
      (stamps : k.sched.modify k.current (fun t =>
        { t with sleepLength := ticksOfMillis millis, stamp := k.sched.tick }) = .ok s₁)
      (parks : s₁.parkCurrent .sleeping = .ok s₂)
      (pass : ({ k with sched := s₂ } : Kernel π).schedule = .ok k') :
      SleepStep k millis (.ok ()) k'

theorem SleepStep.of_eq_ok {millis : UInt32} {result : Except Error Unit}
    (h : k.sleep millis = .ok (result, k')) : k.SleepStep millis result k' := by
  unfold sleep at h
  split at h
  case isTrue inside => cases h; exact .refused inside
  case isFalse outside =>
    obtain ⟨s₁, stamps, next⟩ := Checked.bind_eq_ok.1 h
    obtain ⟨s₂, parks, next⟩ := Checked.bind_eq_ok.1 next
    obtain ⟨k₁, pass, eq⟩ := Checked.bind_eq_ok.1 next
    cases eq
    exact .parks (Nat.eq_zero_of_not_pos outside) stamps parks pass

theorem operates_sleep {millis : UInt32} {result : Except Error Unit}
    (sound : Moment.Sound ⟨k, held, none⟩) (settled : k.Settled)
    (h : k.sleep millis = .ok (result, k')) :
    Operates (fun label => label = .quiet ∨ label = .parks k.current .sleeping) held held k k' := by
  cases SleepStep.of_eq_ok h with
  | refused =>
    exact .mono (fun _ => .inl) (.still (moves_note k held none _) steady_quiet sound settled)
  | parks outside stamps parks pass =>
    obtain ⟨t, slot, rfl⟩ := Scheduler.park_eq_ok stamps parks
    obtain ⟨t', slot', running⟩ := settled
    cases slot.symm.trans slot'
    have park : Move _ ⟨k, held, .none⟩ _ := .change slot
      (.sleep running (ticksOfMillis millis) k.sched.tick)
    exact ⟨_, .single (.inr rfl) park, .pass (.inr outside) pass⟩

omit [Port π] in
/-- The free slot that is found is free, and it is not the idle task's. -/
theorem freeSlot?_eq_some {s : Scheduler π} (h : s.freeSlot? = some pid) :
    pid ≠ idlePid ∧ ∃ t, s.task? pid = some t ∧ t.active = false := by
  constructor
  · rintro rfl
    exact absurd (List.mem_of_find?_eq_some h) (by decide)
  · have free := List.find?_some h
    obtain ⟨t, slot, free⟩ := (Option.any_eq_true _ _).1 free
    exact ⟨t, slot, by simpa using free⟩

/-- What creating a task does. -/
inductive SpawnStep (k : Kernel π) (entry : EntryPoint) : Except Error Pid → Kernel π → Prop
  /-- No slot is free. -/
  | noSlot (full : k.sched.freeSlot? = none) : SpawnStep k entry (.error .noFreeSlot) k
  /-- No stack is left. -/
  | noStack {pid : Pid} {t : Task} (free : k.sched.freeSlot? = some pid)
      (slot : k.sched.task? k.current = some t) (bare : Port.takeStack k.sched.port = none) :
      SpawnStep k entry (.error .outOfMemory) k
  /-- There is no entity for it, and the stack is given back. -/
  | noEntity {pid : Pid} {t : Task} {stack : Stack} {port port' : π} {e : Error}
      {k₁ : Kernel π} (free : k.sched.freeSlot? = some pid)
      (slot : k.sched.task? k.current = some t)
      (take : Port.takeStack k.sched.port = some (stack, port))
      (create : ({ k with sched := { k.sched with port } } : Kernel π).createEntity t.entity
        (.task pid) .releaseTask = .ok (.error e, k₁))
      (back : Port.returnStack stack k₁.sched.port = .ok port') :
      SpawnStep k entry (.error e) { k₁ with sched := { k₁.sched with port := port' } }
  /-- The frame of the task is laid out on its stack, and it takes the slot. -/
  | spawns {pid : Pid} {t : Task} {stack : Stack} {port : π} {entity : EntityId}
      {k₁ : Kernel π} {stackPointer : Nat} {port' : π} {s : Scheduler π}
      (free : k.sched.freeSlot? = some pid) (slot : k.sched.task? k.current = some t)
      (take : Port.takeStack k.sched.port = some (stack, port))
      (create : ({ k with sched := { k.sched with port } } : Kernel π).createEntity t.entity
        (.task pid) .releaseTask = .ok (.ok entity, k₁))
      (layOut : Port.layOutStack stack entry k₁.sched.port = .ok (stackPointer, port'))
      (install : ({ k₁.sched with port := port' } : Scheduler π).modify pid
        (fun _ => .spawned pid k.current entity stack stackPointer) = .ok s) :
      SpawnStep k entry (.ok pid) (({ k₁ with sched := s } : Kernel π).note (.spawned pid k.current))

theorem SpawnStep.of_eq_ok {result : Except Error Pid} (h : k.spawn entry = .ok (result, k')) :
    k.SpawnStep entry result k' := by
  unfold spawn at h
  split at h
  case h_2 full => cases h; exact .noSlot (Option.eq_none_iff_forall_ne_some.2 full)
  case h_1 pid free =>
  obtain ⟨t, slot, next⟩ := Checked.bind_eq_ok.1 h
  have slot := Scheduler.task_eq_ok.1 slot
  dsimp only at next
  split at next
  case h_2 refused =>
    cases next
    exact .noStack free slot (Option.eq_none_iff_forall_ne_some.2 fun out => refused out.1 out.2)
  case h_1 stack port take =>
  obtain ⟨⟨created, k₁⟩, create, next⟩ := Checked.bind_eq_ok.1 next
  cases created with
  | error e =>
    obtain ⟨port', back, eq⟩ := Checked.bind_eq_ok.1 next
    cases eq
    exact .noEntity free slot take create back
  | ok entity =>
    obtain ⟨⟨stackPointer, port'⟩, layOut, next⟩ := Checked.bind_eq_ok.1 next
    obtain ⟨s, install, eq⟩ := Checked.bind_eq_ok.1 next
    cases eq
    exact .spawns free slot take create layOut install

/-- Creating a task is one move, which takes a free slot, or nothing is created. -/
theorem spawn_eq_ok {result : Except Error Pid} (sound : Moment.Sound ⟨k, held, none⟩)
    (settled : k.Settled) (h : k.spawn entry = .ok (result, k')) :
    ((∃ e, result = .error e) ∧ Moves (· = .quiet) ⟨k, held, none⟩ ⟨k', held, none⟩) ∨
      ∃ pid u entity stack stackPointer, result = .ok pid ∧ pid ≠ idlePid ∧
        k.sched.task? pid = some u ∧ u.active = false ∧
        Moves (fun label => label = .quiet ∨ label = .spawns pid k.current) ⟨k, held, none⟩
          ⟨k', held, none⟩ ∧
        k'.sched.task? pid = some (.spawned pid k.current entity stack stackPointer) := by
  obtain ⟨t, above, slot, running, owns, owned⟩ := settled.entity sound
  cases SpawnStep.of_eq_ok h with
  | noSlot => exact .inl ⟨⟨_, rfl⟩, .refl _⟩
  | noStack => exact .inl ⟨⟨_, rfl⟩, .refl _⟩
  | noEntity _ _ take create back =>
    obtain ⟨inTree, -, eq⟩ := Checked.bind_eq_ok.1 create
    cases inTree with
    | error =>
      cases eq
      exact .inl ⟨⟨_, rfl⟩, .single rfl (.hardware (.lend take back))⟩
    | ok => cases eq
  | @spawns pid _ stack _ entity _ stackPointer _ _ free slot' take create layOut install =>
    obtain ⟨busy, u, freeSlot, free⟩ := freeSlot?_eq_some free
    cases slot.symm.trans slot'
    obtain ⟨inTree, grow, eq⟩ := Checked.bind_eq_ok.1 create
    cases inTree with
    | error => cases eq
    | ok inTree =>
    obtain ⟨id, entities⟩ := inTree
    cases eq
    obtain ⟨-, -, rfl⟩ := Scheduler.modify_eq_ok.1 install
    obtain ⟨p, e, tag, is, cleanup, live, unused, rfl⟩ := EntityTree.create_eq_ok grow
    cases owns.symm.trans is
    cases cleanup
    have lasting := lasting_of_owner? owned nofun _ e rfl live
    exact .inr ⟨pid, u, _, stack, stackPointer, rfl, busy, freeSlot, free,
      .trans (.single (.inr rfl)
          (.spawn freeSlot free busy slot owns live lasting unused take layOut))
        (.mono (fun _ => .inl) (moves_note _ _ none _)),
      Scheduler.task?_setTask_self freeSlot _⟩

theorem operates_spawn {result : Except Error Pid} (sound : Moment.Sound ⟨k, held, none⟩)
    (settled : k.Settled) (h : k.spawn entry = .ok (result, k')) :
    Operates (fun label => label = .quiet ∨ ∃ pid, result = .ok pid ∧
      label = .spawns pid k.current) held held k k' := by
  refine .still ?_ (by rintro _ (rfl | ⟨pid, -, rfl⟩) <;> rfl) sound settled
  rcases spawn_eq_ok sound settled h with ⟨-, quiet⟩ |
    ⟨pid, u, entity, stack, stackPointer, rfl, -, -, -, moves, -⟩
  · exact quiet.mono fun _ => .inl
  · exact moves.mono fun _ label => label.imp_right fun spawns => ⟨pid, rfl, spawns⟩

/-- Announcing an exit queues an event; the answer tells whether it is queued. -/
theorem moves_dispatchExit (held : List EntityId) {queued : Bool}
    (lasting : ∀ p e, some entity = some p → k.entities.get? p = some e → e.owner ≠ .event)
    (h : k.dispatchExit pid parent status entity = .ok (queued, k')) :
    Moves (fun label => label = .quiet ∨ label = .posts (.task pid parent status)) ⟨k, held, none⟩
        ⟨k', held, none⟩ ∧
      (queued = true →
        ∃ event ∈ k'.bus.queues.events, event.payload = .task pid parent status) := by
  obtain ⟨⟨created, k₁⟩, create, next⟩ := Checked.bind_eq_ok.1 h
  rcases moves_createEntity lasting create with ⟨e, rfl, rfl⟩ | ⟨id, rfl, owner, -, -, create⟩
  · cases next; exact ⟨.mono (fun _ => .inl) (moves_note _ held none _), nofun⟩
  · obtain ⟨⟨dispatched, k₂⟩, dispatch, next⟩ := Checked.bind_eq_ok.1 next
    obtain ⟨-, -, ⟨queued, perm, post⟩ | ⟨rfl, -, post⟩⟩ := moves_dispatch owner dispatch
    · cases dispatched with
      | refused handed => exact absurd rfl (queued handed)
      | queued | overflowed =>
        cases next
        exact ⟨.trans (.mono (fun _ => .inl) create) (post (.refl _)),
          fun _ => ⟨_, perm.symm.subset List.mem_cons_self, rfl⟩⟩
    · obtain ⟨k₃, release, eq⟩ := Checked.bind_eq_ok.1 next
      cases eq
      exact ⟨.mono (fun _ => .inl) (create.trans (post.trans (moves_release release (.refl _)))),
        nofun⟩

/-- Telling a parent that waits queues an event or wakes the parent. Afterwards the event of the exit is
queued, or the parent does not wait for the child. -/
theorem moves_tellParent {p : Task} (sound : Moment.Sound ⟨k, held, none⟩)
    (slot : k.sched.task? parent = some p) (alive : p.isAlive = true) (busy : parent ≠ idlePid)
    (lasting : ∀ p e, some entity = some p → k.entities.get? p = some e → e.owner ≠ .event)
    (h : k.tellParent pid parent status entity = .ok k') :
    Moves (Label.Tells pid parent status) ⟨k, held, none⟩ ⟨k', held, none⟩ ∧
      ((∃ event ∈ k'.bus.queues.events, event.payload = .task pid parent status) ∨
        ∃ p', k'.sched.task? parent = some p' ∧
          ¬(p'.state = .awaitingChild ∧ p'.childFilter.accepts pid = true)) := by
  obtain ⟨⟨queued, k₁⟩, dispatch, next⟩ := Checked.bind_eq_ok.1 h
  obtain ⟨moves, isQueued⟩ := moves_dispatchExit held lasting dispatch
  have slot := moves.slot_calm calm_posts sound slot alive
  obtain ⟨p', slot', next⟩ := Checked.bind_eq_ok.1 next
  cases slot.symm.trans (Scheduler.task_eq_ok.1 slot')
  split at next
  case isFalse told =>
    cases next
    refine ⟨moves.mono Label.tells_posts, ?_⟩
    cases queued with
    | true => exact .inl (isQueued rfl)
    | false =>
      refine .inr ⟨p, slot, ?_⟩
      rintro ⟨parked, accepts⟩
      simp [parked, accepts] at told
  case isTrue waits =>
    obtain ⟨s₁, woken, eq⟩ := Checked.bind_eq_ok.1 next
    cases eq
    obtain ⟨p', slot', rfl⟩ := Scheduler.modify_eq_ok.1 woken
    cases slot.symm.trans slot'
    simp only [Bool.and_eq_true, Bool.not_eq_true', decide_eq_true_eq] at waits
    refine ⟨(moves.mono Label.tells_posts).tail (.inr (.inr rfl)) ?_,
      .inr ⟨_, Scheduler.task?_setTask_self slot _, ?_⟩⟩
    · have move : Move _ ⟨k₁, held, .none⟩ _ := .wakeDirect slot waits.1.2 waits.2 busy
      cases listener : p.exitListener <;> rw [listener] at move <;> exact move
    · rintro ⟨parked, -⟩
      cases parked

omit [Port π] in
theorem lasting_of_task (sound : Moment.Sound ⟨k, held, none⟩) (slot : k.sched.task? pid = some t)
    (live : t.state ≠ .dead) (owns : t.entity = some entity) :
    ∀ p e, some entity = some p → k.entities.get? p = some e → e.owner ≠ .event := by
  obtain ⟨id, has, owned⟩ := sound.linked.task slot (sound.tasks.active slot live)
  cases owns.symm.trans has
  exact lasting_of_owner? owned nofun

/-- What becomes of the task `t` in slot `pid` when it exits: its death is recorded with its parent,
who is told, or nobody keeps a record. -/
inductive Passes (k : Kernel π) (pid : Pid) (t : Task) (status : Int) (entity : EntityId)
    (k' : Kernel π) : Prop
  /-- The parent is alive. -/
  | told {p : Task} {unreaped : Fifo maxTasks ExitRecord} (parent : k.sched.task? t.parent = some p)
      (other : t.parent ≠ pid) (alive : p.isAlive = true) (busy : t.parent ≠ idlePid)
      (put : p.unreaped.push? ⟨pid, status, entity⟩ = some unreaped)
      (tell : (((k.setTask pid (t.exited status)).setTask t.parent { p with unreaped }).note
        (.exited pid status)).tellParent pid t.parent status entity = .ok k')
  /-- There is no parent that keeps records. -/
  | forgotten (orphan : t.parent = idlePid ∨ t.parent = pid ∨
        ∃ p, k.sched.task? t.parent = some p ∧ p.isAlive = false)
      (release : ((k.setTask pid (t.exited status)).note (.exited pid status)).release entity =
        .ok k')

omit [Port π] in
/-- A parent that is found alive behind a death is another task, and was so before. -/
theorem parent_of_survives {p : Task} (slot : k.sched.task? pid = some t)
    (found : (k.sched.setTask pid (t.exited status)).task? t.parent = some p)
    (survives : (decide (t.parent ≠ idlePid) && p.isAlive) = true) :
    t.parent ≠ idlePid ∧ t.parent ≠ pid ∧ p.isAlive = true ∧
      k.sched.task? t.parent = some p := by
  simp only [ne_eq, Bool.and_eq_true, decide_eq_true_eq] at survives
  have other : t.parent ≠ pid := by
    intro eq
    rw [eq] at found
    cases (Scheduler.task?_setTask_self slot (t.exited status)).symm.trans found
    simp [Task.exited, Task.isAlive] at survives
  exact ⟨survives.1, other, survives.2,
    (Scheduler.task?_setTask_of_ne k.sched (t.exited status) other).symm.trans found⟩

omit [Port π] in
/-- If no parent survives a death, then the parent is the idle task, the task itself, or dead. -/
theorem orphan_of_not_survives {p : Task}
    (found : (k.sched.setTask pid (t.exited status)).task? t.parent = some p)
    (orphan : ¬(decide (t.parent ≠ idlePid) && p.isAlive) = true) :
    t.parent = idlePid ∨ t.parent = pid ∨
      ∃ p, k.sched.task? t.parent = some p ∧ p.isAlive = false := by
  by_cases idle : t.parent = idlePid
  · exact .inl idle
  · by_cases self : t.parent = pid
    · exact .inr (.inl self)
    · simp only [ne_eq, Bool.and_eq_true, decide_eq_true_eq, not_and, Bool.not_eq_true] at orphan
      exact .inr (.inr ⟨p,
        (Scheduler.task?_setTask_of_ne k.sched (t.exited status) self).symm.trans found,
        orphan idle⟩)

/-- What an exit does. -/
inductive ExitStep (k : Kernel π) (status : Int) : Except Error Unit → Kernel π → Prop
  /-- The idle task cannot exit. -/
  | idle (idle : k.current = idlePid) : ExitStep k status (.error .invalidArgument) k
  /-- A task without an entity cannot exit. -/
  | bare {t : Task} (slot : k.sched.task? k.current = some t) (bare : t.entity = none) :
      ExitStep k status (.error .noSuchTask) k
  /-- The task's own records are reaped, and its death is recorded with its parent, which is told. -/
  | recorded {t t₁ p : Task} {entity : EntityId} {unreaped : Fifo maxTasks ExitRecord}
      {k₁ k₂ k' : Kernel π} (busy : k.current ≠ idlePid)
      (slot : k.sched.task? k.current = some t) (owns : t.entity = some entity)
      (reaped : (k.setTask k.current { t with unreaped := .empty }).releaseAll
        (t.unreaped.items.map ExitRecord.entity) = .ok k₁)
      (slot₁ : k₁.sched.task? k.current = some t₁)
      (parent : (k₁.sched.setTask k.current (t₁.exited status)).task? t₁.parent = some p)
      (survives : (decide (t₁.parent ≠ idlePid) && p.isAlive) = true)
      (put : p.unreaped.push? ⟨k.current, status, entity⟩ = some unreaped)
      (tell : (((k₁.setTask k.current (t₁.exited status)).setTask t₁.parent
        { p with unreaped }).note (.exited k.current status)).tellParent k.current t₁.parent status
          entity = .ok k₂)
      (pass : (k₂.closeSections k.current).schedule = .ok k') : ExitStep k status (.ok ()) k'
  /-- The task's own records are reaped, and as no parent is left to reap the task, it is reaped at
  once. -/
  | forgotten {t t₁ p : Task} {entity : EntityId} {k₁ k₂ k' : Kernel π}
      (busy : k.current ≠ idlePid) (slot : k.sched.task? k.current = some t)
      (owns : t.entity = some entity)
      (reaped : (k.setTask k.current { t with unreaped := .empty }).releaseAll
        (t.unreaped.items.map ExitRecord.entity) = .ok k₁)
      (slot₁ : k₁.sched.task? k.current = some t₁)
      (parent : (k₁.sched.setTask k.current (t₁.exited status)).task? t₁.parent = some p)
      (orphan : ¬(decide (t₁.parent ≠ idlePid) && p.isAlive) = true)
      (release : ((k₁.setTask k.current (t₁.exited status)).note
        (.exited k.current status)).release entity = .ok k₂)
      (pass : (k₂.closeSections k.current).schedule = .ok k') : ExitStep k status (.ok ()) k'

theorem ExitStep.of_eq_ok {result : Except Error Unit} (h : k.exit status = .ok (result, k')) :
    k.ExitStep status result k' := by
  unfold exit at h
  dsimp only at h
  split at h
  case isTrue idle => cases h; exact .idle idle
  case isFalse busy =>
  obtain ⟨t, slot, next⟩ := Checked.bind_eq_ok.1 h
  have slot := Scheduler.task_eq_ok.1 slot
  split at next
  case h_2 bare => cases next; exact .bare slot (Option.eq_none_iff_forall_ne_some.2 bare)
  case h_1 entity owns =>
  obtain ⟨s₁, clear, next⟩ := Checked.bind_eq_ok.1 next
  obtain ⟨-, -, rfl⟩ := Scheduler.modify_eq_ok.1 clear
  obtain ⟨k₁, reaped, next⟩ := Checked.bind_eq_ok.1 next
  obtain ⟨t₁, slot₁, next⟩ := Checked.bind_eq_ok.1 next
  have slot₁ := Scheduler.task_eq_ok.1 slot₁
  obtain ⟨s₂, dies, next⟩ := Checked.bind_eq_ok.1 next
  obtain ⟨t', slot', rfl⟩ := Scheduler.modify_eq_ok.1 dies
  cases slot₁.symm.trans slot'
  obtain ⟨p, found, next⟩ := Checked.bind_eq_ok.1 next
  have parent := Scheduler.task_eq_ok.1 found
  split at next
  case isTrue survives =>
    obtain ⟨p', found', next⟩ := Checked.bind_eq_ok.1 next
    cases parent.symm.trans (Scheduler.task_eq_ok.1 found')
    obtain ⟨recorded, record, next⟩ := Checked.bind_eq_ok.1 next
    obtain ⟨s₃, install, next⟩ := Checked.bind_eq_ok.1 next
    obtain ⟨-, -, rfl⟩ := Scheduler.modify_eq_ok.1 install
    obtain ⟨k₂, tell, next⟩ := Checked.bind_eq_ok.1 next
    obtain ⟨k₃, pass, eq⟩ := Checked.bind_eq_ok.1 next
    cases eq
    unfold Task.addUnreaped at record
    split at record
    case h_2 => cases record
    case h_1 unreaped put =>
      cases record
      exact .recorded busy slot owns reaped slot₁ parent survives put tell pass
  case isFalse orphan =>
    obtain ⟨k₂, release, next⟩ := Checked.bind_eq_ok.1 next
    obtain ⟨k₃, pass, eq⟩ := Checked.bind_eq_ok.1 next
    cases eq
    exact .forgotten busy slot owns reaped slot₁ parent orphan release pass

/-- The stages of an exit: the task's own dead children are released, it passes away, its atomic
sections are closed, and a pass runs. -/
theorem exit_eq_ok {result : Except Error Unit} (sound : Moment.Sound ⟨k, held, none⟩)
    (settled : k.Settled) (h : k.exit status = .ok (result, k')) :
    (k.current = idlePid ∧ result = .error .invalidArgument ∧ k' = k) ∨
      ∃ u t entity k₁ k₂, result = .ok () ∧ k.sched.task? k.current = some u ∧
        t.parent = u.parent ∧ k.current ≠ idlePid ∧ t.state = .running ∧
        t.entity = some entity ∧ t.unreaped.items = [] ∧
        Moves (fun label => label = .quiet ∨ label = .reaps k.current) ⟨k, held, none⟩
          ⟨k₁, held, none⟩ ∧
        k₁.sched.task? k.current = some t ∧ Passes k₁ k.current t status entity k₂ ∧
        (k₂.closeSections k.current).schedule = .ok k' := by
  obtain ⟨t, id, slot, running, has, -⟩ := settled.entity sound
  have reaps {k₁ : Kernel π} (reaped : (k.setTask k.current { t with unreaped := .empty }).releaseAll
      (t.unreaped.items.map ExitRecord.entity) = .ok k₁) :
      Moves (fun label => label = .quiet ∨ label = .reaps k.current) ⟨k, held, none⟩
          ⟨k₁, held, none⟩ ∧
        k₁.sched.task? k.current = some { t with unreaped := .empty } := by
    have reap : Move (.reaps k.current) ⟨k, held, .none⟩
        ⟨k.setTask k.current { t with unreaped := .empty },
          t.unreaped.items.map ExitRecord.entity ++ held, .none⟩ := .reap slot (by simp)
    have cleared := Scheduler.task?_setTask_self slot { t with unreaped := .empty }
    have alive : Task.isAlive { t with unreaped := .empty } = true :=
      (reap.sound sound).tasks.alive cleared (by rw [running]; nofun)
    have released := moves_releaseAll held reaped
    exact ⟨.trans (.single (.inr rfl) reap) (.mono (fun _ => .inl) released),
      released.slot_quiet (reap.sound sound) cleared alive⟩
  cases ExitStep.of_eq_ok h with
  | idle idle => exact .inl ⟨idle, rfl, rfl⟩
  | bare slot' bare =>
    cases slot.symm.trans slot'
    cases has.symm.trans bare
  | @recorded _ _ _ entity _ k₁ k₂ _ busy slot' owns reaped slot₁' parent survives put tell pass =>
    cases slot.symm.trans slot'
    obtain ⟨moves, slot₁⟩ := reaps reaped
    cases slot₁.symm.trans slot₁'
    obtain ⟨notIdle, other, alive, parent⟩ := parent_of_survives slot₁ parent survives
    exact .inr ⟨t, { t with unreaped := .empty }, entity, k₁, k₂, rfl, slot, rfl, busy, running,
      owns, rfl, moves, slot₁,
      .told parent other alive notIdle put tell, pass⟩
  | @forgotten _ _ _ entity k₁ k₂ _ busy slot' owns reaped slot₁' parent orphan release pass =>
    cases slot.symm.trans slot'
    obtain ⟨moves, slot₁⟩ := reaps reaped
    cases slot₁.symm.trans slot₁'
    exact .inr ⟨t, { t with unreaped := .empty }, entity, k₁, k₂, rfl, slot, rfl, busy, running,
      owns, rfl, moves, slot₁,
      .forgotten (orphan_of_not_survives parent orphan) release, pass⟩

theorem moves_told {p : Task} {unreaped : Fifo maxTasks ExitRecord}
    (sound : Moment.Sound ⟨k, held, none⟩) (slot : k.sched.task? pid = some t)
    (running : t.state = .running) (busy : pid ≠ idlePid) (owns : t.entity = some entity)
    (cleared : t.unreaped.items = []) (parent : k.sched.task? t.parent = some p)
    (other : t.parent ≠ pid) (alive : p.isAlive = true) (notIdle : t.parent ≠ idlePid)
    (put : p.unreaped.push? ⟨pid, status, entity⟩ = some unreaped)
    (tell : (((k.setTask pid (t.exited status)).setTask t.parent { p with unreaped }).note
      (.exited pid status)).tellParent pid t.parent status entity = .ok k') :
    Move (.exits pid t.parent) ⟨k, held, none⟩
        ⟨(k.setTask pid (t.exited status)).setTask t.parent { p with unreaped }, held, none⟩ ∧
      Moves (Label.Tells pid t.parent status)
        ⟨(k.setTask pid (t.exited status)).setTask t.parent { p with unreaped }, held, none⟩
        ⟨k', held, none⟩ ∧
      ((∃ event ∈ k'.bus.queues.events, event.payload = .task pid t.parent status) ∨
        ∃ p', k'.sched.task? t.parent = some p' ∧
          ¬(p'.state = .awaitingChild ∧ p'.childFilter.accepts pid = true)) := by
  have exits : Move _ ⟨k, held, .none⟩ _ :=
    .exitRecorded slot running busy owns cleared parent other alive notIdle put
  have noted := moves_note ((k.setTask pid (t.exited status)).setTask t.parent { p with unreaped })
    held none (.exited pid status)
  have kept := (Scheduler.task?_setTask_of_ne k.sched (t.exited status) other).trans parent
  have lasting := lasting_of_task sound slot (by rw [running]; nofun) owns
  have told := moves_tellParent (noted.sound (exits.sound sound))
    (Scheduler.task?_setTask_self kept { p with unreaped }) alive notIdle lasting tell
  exact ⟨exits, .trans (.mono (fun _ => .inl) noted) told.1, told.2⟩

/-- Passing away is a sequence of moves. If the parent is alive, it either does not wait for the
task afterwards, or the event of the exit is queued. -/
theorem moves_passes (sound : Moment.Sound ⟨k, held, none⟩) (slot : k.sched.task? pid = some t)
    (running : t.state = .running) (busy : pid ≠ idlePid) (owns : t.entity = some entity)
    (cleared : t.unreaped.items = []) (h : Passes k pid t status entity k') :
    Moves (fun label => label = .exits pid t.parent ∨ label.Tells pid t.parent status)
        ⟨k, held, none⟩ ⟨k', held, none⟩ ∧
      (t.parent ≠ idlePid → t.parent ≠ pid → ∀ p, k.sched.task? t.parent = some p →
        p.isAlive = true →
        (∃ event ∈ k'.bus.queues.events, event.payload = .task pid t.parent status) ∨
          ∃ p', k'.sched.task? t.parent = some p' ∧
            ¬(p'.state = .awaitingChild ∧ p'.childFilter.accepts pid = true)) := by
  cases h with
  | told parent other alive notIdle put tell =>
    obtain ⟨exits, moves, told⟩ :=
      moves_told sound slot running busy owns cleared parent other alive notIdle put tell
    exact ⟨.trans (.single (.inl rfl) exits) (.mono (fun _ => .inr) moves), fun _ _ _ _ _ => told⟩
  | forgotten orphan release =>
    have exits : Move (.exits pid t.parent) ⟨k, held, .none⟩
        ⟨k.setTask pid (t.exited status), entity :: held, .none⟩ :=
      .exitForgotten slot running busy owns cleared orphan
    constructor
    · refine .trans (.single (.inl rfl) exits) (.mono (fun _ quiet => .inr (.inl quiet)) ?_)
      exact .trans (moves_note _ _ none (.exited pid status)) (moves_release release (.refl _))
    · rintro notIdle other p found alive
      rcases orphan with idle | self | ⟨p', found', dead⟩
      · exact absurd idle notIdle
      · exact absurd self other
      · cases found.symm.trans found'
        cases alive.symm.trans dead

theorem moves_closeSections (k : Kernel π) (pid : Pid) (held : List EntityId) :
    Moves (· = .quiet) ⟨k, held, none⟩ ⟨k.closeSections pid, held, none⟩ ∧
      (k.closeSections pid).sched.sectionDepth = 0 := by
  unfold closeSections
  split
  case isTrue =>
    exact ⟨.single rfl (.book { k.books with
      sectionDepth := 0, journal := .exitedInSection pid :: k.sched.journal } (Nat.le_refl _)), rfl⟩
  case isFalse closed => exact ⟨.refl _, Nat.eq_zero_of_not_pos closed⟩

/-- An exit is refused, or the current task exits and its parent may be woken. Behind it nothing is
left on the bus. -/
theorem operates_exit {result : Except Error Unit} (sound : Moment.Sound ⟨k, held, none⟩)
    (settled : k.Settled) (exiting : k.sched.task? k.current = some t)
    (h : k.exit status = .ok (result, k')) :
    (k.current = idlePid ∧ result = .error .invalidArgument ∧ k' = k) ∨
      (k.current ≠ idlePid ∧ result = .ok () ∧ k'.bus.queues.events = [] ∧
        Operates (fun label => label = .reaps k.current ∨ label = .exits k.current t.parent ∨
          label.Tells k.current t.parent status) held held k k') := by
  rcases exit_eq_ok sound settled h with refused |
    ⟨u, t', entity, k₁, k₂, rfl, slot', parent, busy, running, owns, cleared, reap, slot, passes,
      pass⟩
  · exact .inl refused
  · cases exiting.symm.trans slot'
    rw [← parent]
    have passed := (moves_passes (reap.sound sound) slot running busy owns cleared passes).1
    obtain ⟨close, outside⟩ := moves_closeSections k₂ k.current held
    have sound₁ := close.sound (passed.sound (reap.sound sound))
    refine .inr ⟨busy, rfl, events_schedule sound₁ pass outside, _, .trans (reap.mono ?_)
      (.trans (passed.mono fun _ => .inr) (close.mono fun _ quiet => .inr (.inr (.inl quiet)))),
      .pass (.inr outside) pass⟩
    rintro label (quiet | reaps)
    · exact .inr (.inr (.inl quiet))
    · exact .inl reaps

theorem moves_awaitChild {filter : ChildFilter} {issued : Counter}
    (slot : k.sched.task? k.current = some t) (running : t.state = .running)
    (unrecorded : ∀ r ∈ t.unreaped.items, filter.accepts r.pid = false)
    (child : (k.sched.liveChildren k.current).any filter.accepts = true)
    (later : issued.value = k.bus.registry.issued.value + 1) :
    Moves (fun label => label = .quiet ∨ label = .parks k.current .awaitingChild) ⟨k, held, none⟩
      ⟨((k.setTask k.current { t with
          childFilter := filter, exitListener := some ⟨issued.value⟩
          state := .awaitingChild }).setListeners .task
        (k.bus.registry.lists.task ++ [⟨⟨issued.value⟩, .childExit, k.current⟩])).setBooks
        { k.books with issued }, held, none⟩ :=
  .single (.inr rfl) (.awaitChild slot running unrecorded child later)

/-- What a step of a wait for a child does. -/
inductive WaitChildStep (k : Kernel π) (filter : ChildFilter) (options : WaitOptions) :
    Except Error (Progress (Pid × Int)) → Kernel π → Prop
  /-- The oldest record of the kind is reaped. -/
  | reaps {t t' : Task} {child : ExitRecord} {k₁ : Kernel π}
      (slot : k.sched.task? k.current = some t) (reaped : t.reap? filter = some (child, t'))
      (release : (k.setTask k.current t').release child.entity = .ok k₁) :
      WaitChildStep k filter options (.ok (.done (child.pid, child.status)))
        (k₁.note (.reaped k.current child.pid child.status))
  /-- There is no record of the kind, and no live child. -/
  | childless {t : Task} (slot : k.sched.task? k.current = some t) (none : t.reap? filter = none)
      (childless : (k.sched.liveChildren k.current).any filter.accepts = false) :
      WaitChildStep k filter options (.error .noChild) k
  /-- There is no record, and the caller does not want to wait. -/
  | hasty {t : Task} (slot : k.sched.task? k.current = some t) (none : t.reap? filter = none)
      (child : (k.sched.liveChildren k.current).any filter.accepts = true)
      (hasty : options.contains WaitOptions.noHang = true) :
      WaitChildStep k filter options (.error .wouldBlock) k
  /-- There is no record, and an atomic section refuses to wait. -/
  | refused {t : Task} (slot : k.sched.task? k.current = some t) (none : t.reap? filter = none)
      (child : (k.sched.liveChildren k.current).any filter.accepts = true)
      (inside : 0 < k.sched.sectionDepth) :
      WaitChildStep k filter options (.error .atomicContext)
        (k.note (.refusedInSection k.current .childWait))
  /-- A listener is registered, and the current task is parked behind it. -/
  | parks {t : Task} {id : ListenerId} {bus : EventBus KernelListener} {s₁ s₂ : Scheduler π}
      {k' : Kernel π} (slot : k.sched.task? k.current = some t) (none : t.reap? filter = none)
      (child : (k.sched.liveChildren k.current).any filter.accepts = true)
      (outside : k.sched.sectionDepth = 0)
      (subscribe : k.bus.subscribe .task .childExit k.current = .ok (.ok id, bus))
      (waits : k.sched.modify k.current (fun t =>
        { t with childFilter := filter, exitListener := some id }) = .ok s₁)
      (parks : s₁.parkCurrent .awaitingChild = .ok s₂)
      (pass : ({ k with bus, sched := s₂ } : Kernel π).schedule = .ok k') :
      WaitChildStep k filter options (.ok .parked) k'
  /-- None can be registered, and the current task polls. -/
  | polls {t : Task} {e : Error} {bus : EventBus KernelListener} {k' : Kernel π}
      (slot : k.sched.task? k.current = some t) (none : t.reap? filter = none)
      (outside : k.sched.sectionDepth = 0)
      (subscribe : k.bus.subscribe .task .childExit k.current = .ok (.error e, bus))
      (pass : (({ k with bus } : Kernel π).note (.pollingForChildren k.current)).schedule =
        .ok k') : WaitChildStep k filter options (.ok .polling) k'

theorem WaitChildStep.of_eq_ok {filter : ChildFilter} {options : WaitOptions}
    {result : Except Error (Progress (Pid × Int))}
    (h : k.waitChild filter options = .ok (result, k')) :
    k.WaitChildStep filter options result k' := by
  obtain ⟨t, slot, next⟩ := Checked.bind_eq_ok.1 h
  have slot := Scheduler.task_eq_ok.1 slot
  cases reaped : t.reap? filter with
  | some taken =>
    obtain ⟨child, t'⟩ := taken
    rw [Task.reap_of_reap? reaped] at next
    obtain ⟨s₁, install, next⟩ := Checked.bind_eq_ok.1 next
    obtain ⟨-, -, rfl⟩ := Scheduler.modify_eq_ok.1 install
    obtain ⟨k₁, release, eq⟩ := Checked.bind_eq_ok.1 next
    cases eq
    exact .reaps slot reaped release
  | none =>
  have none := reaped
  rw [Task.reap_of_refused (Task.reap?_eq_none.1 none)] at next
  obtain ⟨s₁, install, next⟩ := Checked.bind_eq_ok.1 next
  obtain ⟨-, -, turned⟩ := Scheduler.modify_eq_ok.1 install
  cases turned.trans (Scheduler.setTask_self slot)
  dsimp only at next
  split at next
  case isTrue childless => cases next; exact .childless slot none (by simpa using childless)
  case isFalse child =>
  have child : (k.sched.liveChildren k.current).any filter.accepts = true := by simpa using child
  split at next
  case isTrue hasty => cases next; exact .hasty slot none child hasty
  case isFalse =>
  split at next
  case isTrue inside => cases next; exact .refused slot none child inside
  case isFalse outside =>
  have outside : k.sched.sectionDepth = 0 := Nat.eq_zero_of_not_pos outside
  obtain ⟨⟨listed, bus⟩, subscribe, next⟩ := Checked.bind_eq_ok.1 next
  cases listed with
  | ok id =>
    obtain ⟨s₁, waits, next⟩ := Checked.bind_eq_ok.1 next
    obtain ⟨s₂, parks, next⟩ := Checked.bind_eq_ok.1 next
    obtain ⟨k₁, pass, eq⟩ := Checked.bind_eq_ok.1 next
    cases eq
    exact .parks slot none child outside subscribe waits parks pass
  | error e =>
    obtain ⟨k₁, pass, eq⟩ := Checked.bind_eq_ok.1 next
    cases eq
    exact .polls slot none outside subscribe pass

/-- What becomes of a step of a wait for a child by the task `t`: a record is reaped, or there is none
of the kind and the wait is refused or polls, or the task parks behind a listener and a pass runs. -/
inductive ChildWait (held : List EntityId) (k : Kernel π) (t : Task) (filter : ChildFilter) :
    Except Error (Progress (Pid × Int)) → Kernel π → Prop
  /-- The oldest record of the kind is reaped. -/
  | reaps {child : ExitRecord} {unreaped : Fifo maxTasks ExitRecord} {k' : Kernel π}
      (found : t.unreaped.items.find? (fun r => filter.accepts r.pid) = some child)
      (rest : unreaped.items = t.unreaped.items.eraseP fun r => filter.accepts r.pid)
      (moves : Moves (fun label => label = .quiet ∨ label = .reaps k.current) ⟨k, held, none⟩
        ⟨k', held, none⟩)
      (left : k'.sched.task? k.current = some { t with unreaped }) :
      ChildWait held k t filter (.ok (.done (child.pid, child.status))) k'
  /-- The task goes on. -/
  | goesOn {result : Except Error (Progress (Pid × Int))} {k' : Kernel π}
      (unrecorded : ∀ r ∈ t.unreaped.items, filter.accepts r.pid = false)
      (unfinished : result = .ok .polling ∨ ∃ e, result = .error e)
      (operates : Operates (· = .quiet) held held k k') : ChildWait held k t filter result k'
  /-- The task parks. -/
  | parks {id : ListenerId} {k₁ k' : Kernel π}
      (unrecorded : ∀ r ∈ t.unreaped.items, filter.accepts r.pid = false)
      (moves : Moves (fun label => label = .quiet ∨ label = .parks k.current .awaitingChild)
        ⟨k, held, none⟩ ⟨k₁, held, none⟩)
      (parked : k₁.sched.task? k.current = some { t with
        childFilter := filter, exitListener := some id, state := .awaitingChild })
      (outside : k₁.sched.sectionDepth = 0) (pass : k₁.schedule = .ok k') :
      ChildWait held k t filter (.ok .parked) k'

theorem waitChild_eq_ok {filter : ChildFilter} {options : WaitOptions}
    {result : Except Error (Progress (Pid × Int))} (sound : Moment.Sound ⟨k, held, none⟩)
    (settled : k.Settled) (slot : k.sched.task? k.current = some t)
    (h : k.waitChild filter options = .ok (result, k')) : ChildWait held k t filter result k' := by
  have running : t.state = .running := by
    obtain ⟨t', slot', running⟩ := settled
    cases slot.symm.trans slot'
    exact running
  have quiet {k₁ : Kernel π} (moves : Moves (· = .quiet) ⟨k, held, none⟩ ⟨k₁, held, none⟩) :
      Operates (· = .quiet) held held k k₁ := .still moves steady_quiet sound settled
  cases WaitChildStep.of_eq_ok h with
  | @reaps _ _ child k₁ slot' reaped release =>
    cases slot.symm.trans slot'
    obtain ⟨unreaped, rfl, found, rest, split⟩ := Task.reap?_eq_some reaped
    have reap : Move (.reaps k.current) ⟨k, held, .none⟩
        ⟨k.setTask k.current { t with unreaped }, [child].map ExitRecord.entity ++ held, .none⟩ :=
      .reap slot split
    have released : Moves (· = .quiet) _
        ⟨k₁.note (.reaped k.current child.pid child.status), held, none⟩ :=
      .trans (moves_release release (.refl _)) (moves_note _ _ none _)
    have reduced := Scheduler.task?_setTask_self slot { t with unreaped }
    have alive : Task.isAlive { t with unreaped } = true :=
      (reap.sound sound).tasks.alive reduced (by rw [running]; nofun)
    exact .reaps found rest
      (.trans (.single (.inr rfl) reap) (.mono (fun _ => .inl) released))
      (released.slot_quiet (reap.sound sound) reduced alive)
  | childless slot' none =>
    cases slot.symm.trans slot'
    exact .goesOn (Task.reap?_eq_none.1 none) (.inr ⟨_, rfl⟩) (quiet (.refl _))
  | hasty slot' none =>
    cases slot.symm.trans slot'
    exact .goesOn (Task.reap?_eq_none.1 none) (.inr ⟨_, rfl⟩) (quiet (.refl _))
  | refused slot' none =>
    cases slot.symm.trans slot'
    exact .goesOn (Task.reap?_eq_none.1 none) (.inr ⟨_, rfl⟩) (quiet (moves_note k held _ _))
  | parks slot' none child outside subscribe waits parks pass =>
    cases slot.symm.trans slot'
    have unrecorded := Task.reap?_eq_none.1 none
    obtain ⟨issued, later, ⟨listed, -, rfl⟩ | ⟨⟨_, listed⟩, -⟩⟩ := EventBus.subscribe_eq_ok subscribe
    · cases listed
      obtain ⟨t', slot', rfl⟩ := Scheduler.park_eq_ok waits parks
      cases slot.symm.trans slot'
      exact .parks unrecorded (moves_awaitChild slot running unrecorded child later)
        (Scheduler.task?_setTask_self slot _) outside pass
    · cases listed
  | polls slot' none _ subscribe pass =>
    cases slot.symm.trans slot'
    obtain ⟨issued, later, ⟨listed, -⟩ | ⟨-, rfl⟩⟩ := EventBus.subscribe_eq_ok subscribe
    · cases listed
    have poll : Move .quiet ⟨k, held, .none⟩ _ := .book { k.books with
      issued, journal := .pollingForChildren k.current :: k.sched.journal }
      (by simp only [later]; omega)
    exact .goesOn (Task.reap?_eq_none.1 none) (.inl rfl) ⟨_, .single rfl poll, .pass (.inl settled) pass⟩

/-- A step of a wait for a child reaps a record, is refused, polls, or parks the current task. -/
theorem operates_waitChild {filter : ChildFilter} {options : WaitOptions}
    {result : Except Error (Progress (Pid × Int))} (sound : Moment.Sound ⟨k, held, none⟩)
    (settled : k.Settled) (h : k.waitChild filter options = .ok (result, k')) :
    Operates (fun label => label = .quiet ∨ label = .reaps k.current ∨
      label = .parks k.current .awaitingChild) held held k k' := by
  obtain ⟨t, slot, running⟩ := settled
  have settled : k.Settled := ⟨t, slot, running⟩
  cases waitChild_eq_ok sound settled slot h with
  | reaps found rest moves =>
    refine .mono (fun _ label => label.imp_right .inl) (.still moves ?_ sound settled)
    rintro label (rfl | rfl) <;> rfl
  | goesOn unrecorded unfinished operates => exact operates.mono fun _ => .inl
  | parks unrecorded moves parked outside pass =>
    exact ⟨_, moves.mono fun _ label => label.imp_right .inr, .pass (.inr outside) pass⟩

end Kernel

end Rtos

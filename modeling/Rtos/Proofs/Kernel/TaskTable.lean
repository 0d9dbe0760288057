import Rtos.Proofs.Kernel.DeviceWaits
import Rtos.Proofs.Kernel.Locks
import Rtos.Proofs.Kernel.Waiting
import Rtos.Proofs.Port.Lawful

/-!
# The state of the task table

What a task is doing is told by its state, by the fields of its slot and by the lists of listeners,
and they agree.  Some of it a slot says of itself (`Task.Regular`), and every move keeps that.  That
the current task alone is running, and that a free slot is blank (`Scheduler.Tidy`), every move
keeps but those of a switch, in the middle of which no task is running; a switch as a whole restores
it.
-/

namespace Rtos

variable {π : Type}

/-! ## What a slot says of itself -/

/-- What every slot says of itself, whatever its task is doing. -/
structure Task.Regular (t : Task) (pid : Pid) : Prop where
  /-- A taken slot has a stack. -/
  stack : t.active = true → ∃ stack, t.stack = some stack
  /-- A task knows which device it waits for exactly while it waits for one. -/
  wait : pid ≠ idlePid → (t.state = .awaitingDevice ↔ t.deviceWait.isSome = true)
  /-- Nobody records a death with the idle task. -/
  idle : pid = idlePid → t.unreaped.items = []

theorem Task.regular_empty (pid : Pid) : Task.empty.Regular pid :=
  ⟨nofun, fun _ => ⟨nofun, nofun⟩, fun _ => rfl⟩

namespace Task.Regular

variable {t t' : Task} {pid : Pid}

theorem stay (h : t.Regular pid) (before : t.state ≠ .awaitingDevice)
    (behind : t'.state ≠ .awaitingDevice) (active : t'.active = t.active)
    (stack : t'.stack = t.stack) (wait : t'.deviceWait = t.deviceWait)
    (unreaped : t'.unreaped = t.unreaped) : t'.Regular pid where
  stack taken := by
    rw [stack]
    exact h.stack (active ▸ taken)
  wait busy := by
    rw [wait, ← h.wait busy]
    exact ⟨fun parked => absurd parked behind, fun parked => absurd parked before⟩
  idle idle := unreaped ▸ h.idle idle

end Task.Regular

/-- A step keeps a slot regular. -/
theorem SlotStep.regular {label : Label} {pid : Pid} {t t' : Task} (step : SlotStep pid label t t')
    (h : t.Regular pid) : t'.Regular pid := by
  cases step with
  | same => exact h
  | change change =>
    cases change with
    | save => exact ⟨h.stack, h.wait, h.idle⟩
    | demote running | sleep running | awaitMutex running =>
      exact h.stay (by rw [running]; nofun) nofun rfl rfl rfl rfl
    | grant parked => exact h.stay (by rw [parked]; nofun) nofun rfl rfl rfl rfl
  | promote alive runnable =>
    refine ⟨h.stack, fun busy => ⟨nofun, fun waits => ?_⟩, h.idle⟩
    have parked := (h.wait busy).2 waits
    rcases runnable with idle | ready | running | sleeping
    · exact absurd idle busy
    · cases parked.symm.trans ready
    · cases parked.symm.trans running
    · cases parked.symm.trans sleeping
  | awaitChild running => exact h.stay (by rw [running]; nofun) nofun rfl rfl rfl rfl
  | awaitDevice => exact ⟨h.stack, fun _ => ⟨fun _ => rfl, fun _ => rfl⟩, h.idle⟩
  | @wake t payload wakes =>
    cases payload with
    | task => exact h.stay (by rw [wakes.2.1]; nofun) nofun rfl rfl rfl rfl
    | device => exact ⟨h.stack, fun _ => ⟨nofun, nofun⟩, h.idle⟩
    | file => exact h
  | wakeDirect parked => exact h.stay (by rw [parked]; nofun) nofun rfl rfl rfl rfl
  | freed => exact Task.regular_empty pid
  | reap split =>
    refine ⟨h.stack, h.wait, fun idle => ?_⟩
    rw [h.idle idle] at split
    exact (List.append_eq_nil_iff.1 split.nil_eq.symm).2
  | record alive busy put => exact ⟨h.stack, h.wait, fun idle => absurd idle busy⟩
  | die running busy cleared =>
    exact h.stay (by rw [running]; nofun) nofun rfl rfl rfl rfl
  | spawned free busy =>
    exact ⟨fun _ => ⟨_, rfl⟩, fun _ => ⟨nofun, nofun⟩, fun idle => absurd idle busy⟩

/-- Every slot is regular. -/
def Kernel.Regular (k : Kernel π) : Prop :=
  ∀ pid t, k.sched.task? pid = some t → t.Regular pid

theorem Moves.regular [Port π] {P : Label → Prop} {m m' : Moment π} (moves : Moves P m m')
    (sound : m.Sound) (h : m.kernel.Regular) : m'.kernel.Regular := by
  refine (moves.keeps (I := fun m => m.Sound ∧ m.kernel.Regular) ⟨sound, h⟩
    fun _ move ⟨sound, h⟩ => ⟨move.sound sound, ?_⟩).2
  intro pid t' slot'
  obtain ⟨t, slot, step⟩ := move.slotStep_back sound slot'
  exact step.regular (h pid t slot)

theorem Kernel.regular_boot [Port π] {port : π} {k : Kernel π} (h : boot port = .ok (.ok k)) :
    k.Regular := by
  intro pid t slot
  by_cases idle : pid = idlePid
  · subst idle
    obtain ⟨stack, stackPointer, -, laid, e, id, -, -, -, -, -, rfl⟩ := boot_eq_ok h
    cases slot
    exact ⟨fun _ => ⟨stack, rfl⟩, fun busy => absurd rfl busy, fun _ => rfl⟩
  · cases empty_of_boot h idle slot
    exact Task.regular_empty pid

/-! ## Listeners for reports -/

/-- Every task but the idle one is listed for reports once while it waits for a device, and else not
at all. -/
def Kernel.Watched (k : Kernel π) : Prop :=
  ∀ pid t, pid ≠ idlePid → k.sched.task? pid = some t →
    k.bus.registry.lists.device.countP (·.extra = pid) = if t.state = .awaitingDevice then 1 else 0

/-- Unless it begins to wait for a device, or is told of an event, a task waits for a device as
before. -/
theorem SlotStep.awaitsDevice_iff {label : Label} {pid : Pid} {t t' : Task}
    (step : SlotStep pid label t t') (free : t.active = false → t.state = .dead)
    (busy : pid ≠ idlePid) (parks : label ≠ .parks pid .awaitingDevice)
    (delivers : label ≠ .delivers) : t'.state = .awaitingDevice ↔ t.state = .awaitingDevice := by
  constructor
  · intro parked
    exact ((step.parked_back parked (.inl rfl)).resolve_left parks).state.symm.trans parked
  · intro parked
    have active : t.active = true := by
      by_contra inactive
      cases parked.symm.trans (free (Bool.eq_false_iff.2 inactive))
    have same := step.sameWait (.inl parked) active busy (fun _ _ => delivers)
      (fun waits => by cases parked.symm.trans waits) (fun waits => by cases parked.symm.trans waits)
    exact same.state.trans parked

/-- Moves that leave the listeners for reports alone keep tasks watched. -/
theorem Move.watched_of_same [Port π] {label : Label} {m m' : Moment π} (move : Move label m m')
    (sound : m.Sound) (h : m.kernel.Watched)
    (lists : m'.kernel.bus.registry.lists.device = m.kernel.bus.registry.lists.device)
    (slots : ∀ {pid t t'}, pid ≠ idlePid → m.kernel.sched.task? pid = some t →
      SlotStep pid label t t' → m'.kernel.sched.task? pid = some t' →
      (t'.state = .awaitingDevice ↔ t.state = .awaitingDevice)) : m'.kernel.Watched := by
  intro pid t' busy slot'
  obtain ⟨t, slot, step⟩ := move.slotStep_back sound slot'
  rw [lists, h pid t busy slot]
  simp only [slots busy slot step slot']

theorem Move.watched [Port π] {label : Label} {m m' : Moment π} (move : Move label m m')
    (sound : m.Sound) (h : m.kernel.Watched) : m'.kernel.Watched := by
  have ordinary (parks : ∀ pid, label ≠ .parks pid .awaitingDevice) (delivers : label ≠ .delivers)
      (lists : m'.kernel.bus.registry.lists.device = m.kernel.bus.registry.lists.device) :
      m'.kernel.Watched :=
    move.watched_of_same sound h lists fun busy slot step _ =>
      step.awaitsDevice_iff (fun free => (sound.tasks.free slot free).1) busy (parks _) delivers
  cases move with
  | change found change =>
    refine ordinary (fun pid eq => ?_) (fun eq => ?_) rfl
    · subst eq; cases change
    · subst eq; cases change
  | @awaitDevice k held falling pid t wait id found running =>
    intro p u busy slot
    have slot : (k.sched.setTask pid _).task? p = some u := slot
    change (k.bus.registry.lists.device ++
      [(⟨id, .deviceReady, pid⟩ : Subscription KernelListener)]).countP _ = _
    rw [List.countP_append, List.countP_singleton]
    rcases Scheduler.of_task?_setTask found slot with ⟨rfl, rfl⟩ | ⟨other, slot⟩
    · simp [h p t busy found, running]
    · simp [h p u busy slot, Ne.symm other]
  | @wake k held falling payload pre sub post t listed found wakes =>
    have move : Move .delivers ⟨k, held, falling⟩ _ := .wake listed found wakes
    cases payload with
    | file => exact wakes.elim
    | task child parent status =>
      refine move.watched_of_same sound h rfl fun busy slot step slot' => ?_
      rcases Scheduler.of_task?_setTask found slot' with ⟨rfl, rfl⟩ | ⟨-, slot'⟩
      · cases found.symm.trans slot
        constructor
        · intro parked
          cases parked
        · intro parked
          cases parked.symm.trans wakes.2.1
      · cases slot.symm.trans slot'
        exact Iff.rfl
    | device number flags =>
      intro p u busy slot
      have listed : k.bus.registry.lists.device = pre ++ sub :: post := listed
      have slot : (k.sched.setTask sub.extra _).task? p = some u := slot
      change (pre ++ post).countP _ = _
      have count {q : Pid} {v : Task} (busy : q ≠ idlePid) (slot : k.sched.task? q = some v) :=
        h q v busy slot
      rw [listed] at count
      rcases Scheduler.of_task?_setTask found slot with ⟨rfl, rfl⟩ | ⟨other, slot⟩
      · have count := count busy found
        rw [List.countP_append, List.countP_cons_of_pos (by simp), wakes.1] at count
        rw [List.countP_append]
        simp only [Task.woken, if_true] at count ⊢
        simpa using (by omega :
          List.countP (·.extra = sub.extra) pre + List.countP (·.extra = sub.extra) post = 0)
      · have count := count busy slot
        rwa [List.countP_append, List.countP_cons_of_neg (by simpa using Ne.symm other),
          ← List.countP_append] at count
  | @wakeDirect k held falling pid t child found parked accepts busy =>
    have move : Move (.wakes pid child) ⟨k, held, falling⟩ _ :=
      .wakeDirect found parked accepts busy
    exact move.watched_of_same sound h rfl fun busy slot step _ =>
      step.awaitsDevice_iff (fun free => (sound.tasks.free slot free).1) busy
        (fun eq => by cases eq) fun eq => by cases eq
  | fetch taken | shift oldest put => exact h
  | _ => exact ordinary (fun _ eq => by cases eq) (fun eq => by cases eq) rfl

theorem Moves.watched [Port π] {P : Label → Prop} {m m' : Moment π} (moves : Moves P m m')
    (sound : m.Sound) (h : m.kernel.Watched) : m'.kernel.Watched :=
  (moves.keeps (I := fun m => m.Sound ∧ m.kernel.Watched) ⟨sound, h⟩
    fun _ move ⟨sound, h⟩ => ⟨move.sound sound, move.watched sound h⟩).2

theorem Kernel.watched_boot [Port π] {port : π} {k : Kernel π} (h : boot port = .ok (.ok k)) :
    k.Watched := by
  intro pid t busy slot
  rw [if_neg (not_awaitingDevice_of_boot h slot)]
  obtain ⟨stack, stackPointer, -, laid, e, id, -, -, -, -, -, rfl⟩ := boot_eq_ok h
  rfl

/-! ## The running task, and free slots -/

/-- Nothing runs but the current task, and free slots are blank. -/
structure Scheduler.Tidy (s : Scheduler π) : Prop where
  /-- A task that runs is the current one. -/
  sole : ∀ {pid t}, s.task? pid = some t → t.state = .running → pid = s.current
  /-- A free slot is blank. -/
  blank : ∀ {pid t}, s.task? pid = some t → t.active = false → t = .empty

namespace SlotStep

variable {label : Label} {pid : Pid} {t t' : Task}

/-- Nothing begins to run but by a switch. -/
theorem running_back (step : SlotStep pid label t t') (other : label ≠ .switches)
    (running : t'.state = .running) : t.state = .running := by
  cases step with
  | same | reap | record => exact running
  | change change =>
    cases change with
    | demote | save => exact absurd rfl other
    | sleep | awaitMutex | grant => cases running
  | promote => exact absurd rfl other
  | wake wakes => cases wakes.state_woken.symm.trans running
  | awaitChild | awaitDevice | wakeDirect | freed | die | spawned => cases running

theorem blank (step : SlotStep pid label t t') (other : label ≠ .switches)
    (h : t.active = false → t = .empty) (free : t'.active = false) : t' = .empty := by
  cases step with
  | same => exact h free
  | freed => rfl
  | change change =>
    cases change with
    | demote | save => exact absurd rfl other
    | sleep running | awaitMutex running | grant running => cases h free; cases running
  | promote => exact absurd rfl other
  | awaitChild running | awaitDevice running | die running => cases h free; cases running
  | @wake t payload wakes =>
    cases payload with
    | file => exact wakes.elim
    | task => cases h free; cases wakes.2.1
    | device => cases h free; cases wakes.1
  | wakeDirect parked => cases h free; cases parked
  | @reap t taken unreaped split =>
    cases h free
    have none : unreaped.items = [] := (List.append_eq_nil_iff.1 split.nil_eq.symm).2
    obtain ⟨items, fits⟩ := unreaped
    cases none
    rfl
  | record alive => cases h free; cases alive
  | spawned => cases free

end SlotStep

/-- Moves other than those of a switch keep a table tidy. -/
theorem Moves.tidy [Port π] {P : Label → Prop} {m m' : Moment π} (moves : Moves P m m')
    (other : ∀ label, P label → label ≠ .switches) (sound : m.Sound) (h : m.kernel.sched.Tidy) :
    m'.kernel.sched.Tidy := by
  refine (moves.keeps (I := fun m => m.Sound ∧ m.kernel.sched.Tidy) ⟨sound, h⟩
    fun {label m m'} allowed move ⟨sound, h⟩ => ⟨move.sound sound, ?_⟩).2
  have other := other label allowed
  have current : m'.kernel.sched.current = m.kernel.sched.current := move.current other
  constructor
  · intro pid t' slot' running
    obtain ⟨t, slot, step⟩ := move.slotStep_back sound slot'
    exact (h.sole slot (step.running_back other running)).trans current.symm
  · intro pid t' slot' free
    obtain ⟨t, slot, step⟩ := move.slotStep_back sound slot'
    exact step.blank other (h.blank slot) free

namespace Scheduler

variable {s r s₁ : Scheduler π} {pid previous next : Pid}

theorem Tidy.of_eq (h : s.Tidy) (tasks : r.tasks = s.tasks) (current : r.current = s.current) :
    r.Tidy := by
  have same : r.task? = s.task? := by
    funext p
    simp only [task?, tasks]
  exact ⟨same ▸ current ▸ h.sole, same ▸ h.blank⟩

/-- A switch restores a tidy table: the running task is made ready and another one is put on the
processor. -/
theorem Tidy.switch (h : s.Tidy) (demoted : s.demote s.current = .ok s₁)
    (promoted : s₁.promote pid = .ok r)
    (taken : ∀ {t}, r.task? pid = some t → t.active = true) : r.Tidy := by
  obtain ⟨t, found, rfl⟩ := promote_eq_ok promoted
  have slot {p u} (h : (s₁.setTask pid { t with state := .running, stamp := s₁.tick }).task? p =
      some u) := of_task?_setTask found h
  -- behind the demotion nothing runs, and free slots are blank
  have still {p u} (slot : s₁.task? p = some u) :
      u.state ≠ .running ∧ (u.active = false → u = .empty) := by
    obtain ⟨v, current, ⟨running, rfl⟩ | ⟨waits, rfl⟩⟩ := demote_eq_ok demoted
    · rcases of_task?_setTask current slot with ⟨rfl, rfl⟩ | ⟨other, slot⟩
      · refine ⟨nofun, fun free => ?_⟩
        cases h.blank current free
        cases running
      · exact ⟨fun running => other (h.sole slot running), h.blank slot⟩
    · refine ⟨fun running => ?_, h.blank slot⟩
      cases h.sole slot running
      cases current.symm.trans slot
      exact waits running
  constructor
  · intro p u found' running
    rcases slot found' with ⟨rfl, -⟩ | ⟨-, found'⟩
    · rfl
    · exact absurd running (still found').1
  · intro p u found' free
    rcases slot found' with ⟨rfl, rfl⟩ | ⟨-, found''⟩
    · cases (taken found').symm.trans free
    · exact (still found'').2 free

/-- A port that puts off what it saves leaves the slots alone. -/
theorem tasks_switchTask [Port π] [DeferringPort π] (h : s.switchTask previous next = .ok r) :
    r.tasks = s.tasks ∧ r.current = s.current := by
  unfold switchTask at h
  split at h
  case isTrue => cases h; exact ⟨rfl, rfl⟩
  case isFalse =>
    obtain ⟨resumed, -, h⟩ := Checked.bind_eq_ok.1 h
    obtain ⟨saved, found, h⟩ := Checked.bind_eq_ok.1 h
    obtain ⟨t, found', rfl⟩ := modify_eq_ok.1 h
    have found := task_eq_ok.1 found
    cases found.symm.trans found'
    refine ⟨?_, rfl⟩
    change (s.setTask previous { saved with stackPointer := (Port.switchTask previous
      saved.stackPointer next resumed.stackPointer s.port).1 }).tasks = _
    rw [DeferringPort.keeps]
    exact congrArg tasks (setTask_self found)

end Scheduler

namespace Kernel

variable [Port π] [DeferringPort π] {k k' : Kernel π} {held held' : List EntityId}
  {P : Label → Prop}

/-- A pass leaves the table tidy. -/
theorem tidy_schedule (sound : Moment.Sound ⟨k, held, none⟩) (tidy : k.sched.Tidy)
    (h : k.schedule = .ok k') : k'.sched.Tidy := by
  cases PassStep.of_eq_ok h with
  | inside => exact tidy.of_eq rfl rfl
  | @outside k₁ previous next s s' _ delivered chosen switched =>
    have deliver := (moves_deliverEvents sound delivered).1
    have tidy₁ : k₁.sched.Tidy := deliver.tidy (by rintro label (rfl | rfl) <;> nofun) sound tidy
    obtain ⟨choose, -, t, slot, running⟩ := moves_choose (deliver.sound sound) chosen
    have tidy₂ : s.Tidy := by
      obtain ⟨s₁, demoted, next'⟩ := Checked.bind_eq_ok.1 chosen
      obtain ⟨s₂, promoted, eq⟩ := Checked.bind_eq_ok.1 next'
      cases eq
      refine (tidy₁.switch demoted promoted fun {u} slot' => ?_).of_eq rfl rfl
      cases slot.symm.trans slot'
      exact (choose.sound (deliver.sound sound)).tasks.active slot (by rw [running]; nofun)
    obtain ⟨tasks, current⟩ := Scheduler.tasks_switchTask switched
    exact tidy₂.of_eq tasks current

/-- An operation leaves the table tidy if it hands the processor to nobody past the scheduler. -/
theorem Operates.tidy (h : Operates P held held' k k') (other : ∀ label, P label → label ≠ .switches)
    (sound : Moment.Sound ⟨k, held, .none⟩) (tidy : k.sched.Tidy) : k'.sched.Tidy := by
  obtain ⟨k₁, body, ⟨-, rfl⟩ | ⟨-, pass⟩⟩ := h
  · exact body.tidy other sound tidy
  · exact tidy_schedule (body.sound sound) (body.tidy other sound tidy) pass

/-- An unlock leaves the table tidy, although it hands the processor to the oldest waiter. -/
theorem tidy_unlock {m m' : Mutex} (sound : Moment.Sound ⟨k, held, none⟩) (settled : k.Settled)
    (tidy : k.sched.Tidy) (h : k.unlock m = .ok (m', k')) : k'.sched.Tidy := by
  have unlocked := (operates_unlock sound settled h).2
  cases UnlockStep.of_eq_ok h with
  | frees => exact tidy
  | @hands waiter _ t s _ oldest slot active parked handOff =>
    -- the waiter, which gets the processor, is in a taken slot
    have taken {t : Task} (slot : s.task? waiter = some t) : t.active = true := by
      obtain ⟨empty, -⟩ | ⟨first, leaves, -, grants, u, slot', resumed⟩ := unlocked
      · cases oldest.symm.trans empty
      · cases oldest.symm.trans leaves
        cases slot.symm.trans slot'
        exact (grants.sound sound).tasks.active slot (by rw [resumed]; split <;> nofun)
    obtain ⟨s₁, granted, h⟩ := Checked.bind_eq_ok.1 handOff
    obtain ⟨t', slot', rfl⟩ := Scheduler.modify_eq_ok.1 granted
    cases slot.symm.trans slot'
    have tidy₁ : (k.sched.setTask waiter { t with state := .ready }).Tidy := by
      have grant : Moves (· = .grants waiter) ⟨k, held, none⟩
          ⟨k.setTask waiter { t with state := .ready }, held, none⟩ :=
        .single rfl (.change slot (.grant parked))
      exact grant.tidy (by rintro label rfl; nofun) sound tidy
    split at h
    case isTrue => cases h; exact tidy₁.of_eq rfl rfl
    case isFalse =>
      obtain ⟨s₂, demoted, h⟩ := Checked.bind_eq_ok.1 h
      obtain ⟨s₃, promoted, switched⟩ := Checked.bind_eq_ok.1 h
      obtain ⟨tasks, current⟩ := Scheduler.tasks_switchTask switched
      refine (tidy₁.switch demoted promoted fun {u} slot => taken ?_).of_eq tasks current
      simp only [Scheduler.task?, tasks]
      exact slot

omit [DeferringPort π] in
theorem tidy_boot {port : π} (h : boot port = .ok (.ok k)) : k.sched.Tidy := by
  have others {pid t} (slot : k.sched.task? pid = some t) (other : pid ≠ idlePid) : t = .empty :=
    empty_of_boot h other slot
  obtain ⟨stack, stackPointer, -, laid, e, id, -, -, -, -, -, rfl⟩ := boot_eq_ok h
  constructor
  · intro pid t slot running
    by_contra other
    cases others slot other
    cases running
  · intro pid t slot free
    by_cases idle : pid = idlePid
    · subst idle
      cases slot
      cases free
    · exact others slot idle

end Kernel

end Rtos

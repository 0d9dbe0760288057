import Rtos.Proofs.Kernel.Delivery
import Rtos.Kernel.Mutex

/-!
# Switches and passes as moves

A pass delivers what is queued, chooses a task and switches to it; a hand-off switches to a given
task.  Behind either, the current task is the running one: the kernel is `Settled`.
-/

namespace Rtos

variable {π : Type} [Port π]

namespace Label

/-- Whether moves with the label leave the running task running. -/
def steady : Label → Bool
  | .switches | .parks _ _ | .exits _ _ => false
  | _ => true

end Label

/-- The current task is running. -/
def Kernel.Settled (k : Kernel π) : Prop :=
  ∃ t, k.sched.task? k.current = some t ∧ t.state = .running

/-! ## Settled kernels -/

namespace Kernel.Settled

variable {k : Kernel π} {held : List EntityId} {falling : Option EntityId}

omit [Port π] in
theorem alive (settled : k.Settled) (sound : Moment.Sound ⟨k, held, falling⟩) :
    ∃ t, k.sched.task? k.current = some t ∧ t.state = .running ∧ t.isAlive = true := by
  obtain ⟨t, slot, running⟩ := settled
  exact ⟨t, slot, running, sound.tasks.alive slot (by rw [running]; nofun)⟩

omit [Port π] in
theorem entity (settled : k.Settled) (sound : Moment.Sound ⟨k, held, falling⟩) :
    ∃ t id, k.sched.task? k.current = some t ∧ t.state = .running ∧ t.entity = some id ∧
      k.entities.owner? id = some (.task k.current) := by
  obtain ⟨t, slot, running, alive⟩ := settled.alive sound
  obtain ⟨id, owns, owned⟩ := sound.linked.task slot (Task.active_of_alive alive)
  exact ⟨t, id, slot, running, owns, owned⟩

end Kernel.Settled

/-- Only a switch changes the current task. -/
theorem Move.current {label : Label} {m m' : Moment π} (move : Move label m m')
    (other : label ≠ .switches) : m'.kernel.current = m.kernel.current := by
  cases move with
  | promote => exact absurd rfl other
  | _ => rfl

theorem SlotStep.running {label : Label} {pid : Pid} {t t' : Task} (step : SlotStep pid label t t')
    (steady : label.steady = true) (alive : t.isAlive = true) (running : t.state = .running) :
    t'.state = .running := by
  cases step with
  | same | reap => exact running
  | change change =>
    cases change with
    | grant parked => rw [running] at parked; cases parked
    | demote | save | sleep | awaitMutex => cases steady
  | wake wakes =>
    rcases wakes.parked with parked | parked <;> rw [running] at parked <;> cases parked
  | wakeDirect parked => rw [running] at parked; cases parked
  | freed dead => rw [running] at dead; cases dead
  | spawned free => simp [Task.isAlive, free] at alive
  | promote | awaitChild | awaitDevice | record | die => cases steady

/-- Steady moves keep a kernel settled. -/
theorem Moves.settled {P : Label → Prop} {m m' : Moment π} (moves : Moves P m m')
    (steady : ∀ label, P label → label.steady = true) (sound : m.Sound)
    (settled : m.kernel.Settled) : m'.kernel.Settled := by
  refine (moves.keeps (I := fun m => m.Sound ∧ m.kernel.Settled) ⟨sound, settled⟩
    fun {label _ _} allowed move ⟨sound, settled⟩ => ⟨move.sound sound, ?_⟩).2
  have steady := steady label allowed
  obtain ⟨t, slot, running, alive⟩ := settled.alive sound
  obtain ⟨t', slot', step⟩ := move.slotStep sound slot
  refine ⟨t', ?_, step.running steady alive running⟩
  rw [move.current (by rintro rfl; cases steady)]
  exact slot'

/-! ## Switching -/

namespace Scheduler

omit [Port π]

variable {s r : Scheduler π} {pid : Pid} {t : Task}

theorem demote_eq_ok (h : s.demote pid = .ok r) :
    ∃ t, s.task? pid = some t ∧
      ((t.state = .running ∧ r = s.setTask pid { t with state := .ready }) ∨
        (t.state ≠ .running ∧ r = s)) := by
  obtain ⟨t, found, rfl⟩ := modify_eq_ok.1 h
  refine ⟨t, found, ?_⟩
  by_cases running : t.state = .running
  · exact .inl ⟨running, by rw [if_pos running]; rfl⟩
  · exact .inr ⟨running, by rw [if_neg running]; exact setTask_self found⟩

theorem promote_eq_ok (h : s.promote pid = .ok r) :
    ∃ t, s.task? pid = some t ∧
      r = { s.setTask pid { t with state := .running, stamp := s.tick } with current := pid } := by
  obtain ⟨s₁, modified, eq⟩ := Checked.bind_eq_ok.1 h
  cases eq
  obtain ⟨t, found, rfl⟩ := modify_eq_ok.1 modified
  exact ⟨t, found, rfl⟩

theorem park_eq_ok {f : Task → Task} {state : TaskState} {s₁ s₂ : Scheduler π}
    (changed : s.modify s.current f = .ok s₁) (parked : s₁.parkCurrent state = .ok s₂) :
    ∃ t, s.task? s.current = some t ∧ s₂ = s.setTask s.current { f t with state } := by
  obtain ⟨t, found, rfl⟩ := modify_eq_ok.1 changed
  obtain ⟨t', found', rfl⟩ := modify_eq_ok.1 parked
  cases (task?_setTask_self found (f t)).symm.trans found'
  exact ⟨t, found, setTask_setTask s s.current (f t) _⟩

/-- A task that the scheduler may pick is alive, and not parked. -/
theorem runnable (now : UInt64) (h : t.isRunnable now = true) :
    t.isAlive = true ∧ (t.state = .ready ∨ t.state = .running ∨ t.state = .sleeping) := by
  simp only [Task.isRunnable, Bool.and_eq_true] at h
  obtain ⟨active, h⟩ := h
  cases state : t.state <;> simp_all [Task.isAlive]

/-- The pick of a pass can run, or it is the idle task. -/
theorem pick (s : Scheduler π) (order : List Pid) (now : UInt64)
    (found : s.task? ((order.find? fun pid =>
      (s.task? pid).any (·.isRunnable now)).getD idlePid) = some t) :
    (order.find? fun pid => (s.task? pid).any (·.isRunnable now)).getD idlePid = idlePid ∨
      t.isRunnable now = true := by
  cases picked : order.find? fun pid => (s.task? pid).any (·.isRunnable now) with
  | none => exact .inl rfl
  | some pid =>
    rw [picked, Option.getD_some] at found
    have runs := List.find?_some picked
    rw [found] at runs
    exact .inr runs

end Scheduler

namespace Kernel

variable {k k' : Kernel π} {held : List EntityId} {pid previous next : Pid} {s : Scheduler π}

/-- Asking for a switch is a sequence of moves, which leaves the next task's slot alone. -/
theorem moves_switchTask (held : List EntityId) (h : k.sched.switchTask previous next = .ok s) :
    Moves (fun label => label = .quiet ∨ label = .switches) ⟨k, held, none⟩
        ⟨{ k with sched := s }, held, none⟩ ∧
      s.current = k.current ∧ s.task? next = k.sched.task? next := by
  unfold Scheduler.switchTask at h
  split at h
  case isTrue => cases h; exact ⟨.refl _, rfl, rfl⟩
  case isFalse ne =>
    obtain ⟨resumed, -, h⟩ := Checked.bind_eq_ok.1 h
    obtain ⟨saved, -, h⟩ := Checked.bind_eq_ok.1 h
    obtain ⟨t, found, rfl⟩ := Scheduler.modify_eq_ok.1 h
    refine ⟨?_, rfl, Scheduler.task?_setTask_of_ne _ _ (Ne.symm ne)⟩
    refine .trans (.single (.inl rfl)
      (.hardware (.switch previous saved.stackPointer next resumed.stackPointer))) ?_
    exact .single (.inr rfl) (.change found (.save _))

theorem moves_demote (held : List EntityId) (h : k.sched.demote pid = .ok s) :
    Moves (· = .switches) ⟨k, held, none⟩ ⟨{ k with sched := s }, held, none⟩ := by
  obtain ⟨t, found, ⟨running, rfl⟩ | ⟨-, rfl⟩⟩ := Scheduler.demote_eq_ok h
  · exact .single rfl (.change found (.demote running))
  · exact .refl _

/-- Choosing a task is a sequence of moves, behind which it is on the processor. -/
theorem moves_choose (sound : Moment.Sound ⟨k, held, none⟩)
    (h : k.sched.choose = .ok ((previous, next), s)) :
    Moves (fun label => label = .quiet ∨ label = .switches) ⟨k, held, none⟩
        ⟨{ k with sched := s }, held, none⟩ ∧
      s.current = next ∧ ∃ t, s.task? next = some t ∧ t.state = .running := by
  obtain ⟨s₁, demoted, h⟩ := Checked.bind_eq_ok.1 h
  obtain ⟨s₂, promoted, eq⟩ := Checked.bind_eq_ok.1 h
  cases eq
  have demote : Moves (fun label => label = .quiet ∨ label = .switches) ⟨k, held, none⟩
      ⟨{ k with sched := s₁ }, held, none⟩ := .mono (fun _ => .inr) (moves_demote held demoted)
  obtain ⟨t, found, rfl⟩ := Scheduler.promote_eq_ok promoted
  have sound₁ := demote.sound sound
  have pick := Scheduler.pick s₁ _ _ found
  have alive : t.isAlive = true := by
    rcases pick with idle | runs
    · obtain ⟨u, slot, alive⟩ := sound₁.tasks.idle
      rw [idle] at found
      cases found.symm.trans slot
      exact alive
    · exact (Scheduler.runnable _ runs).1
  have runnable := pick.imp_right fun runs => (Scheduler.runnable _ runs).2
  refine ⟨demote.trans (.trans (.single (.inr rfl) (.promote found alive runnable))
    (.mono (fun _ => .inl) (moves_note _ held none _))), rfl, ?_⟩
  exact ⟨_, Scheduler.task?_setTask_self found _, rfl⟩

/-! ## Passes -/

/-- What a pass does. -/
inductive PassStep (k : Kernel π) : Kernel π → Prop
  /-- Inside an atomic section the pass is only asked for. -/
  | inside (opened : 0 < k.sched.sectionDepth) :
      PassStep k { k with sched := { k.sched with passPending := true } }
  /-- Outside, what is queued is delivered, and then the next task is chosen and switched to. -/
  | outside {k₁ : Kernel π} {previous next : Pid} {s s' : Scheduler π}
      (closed : k.sched.sectionDepth = 0) (delivered : k.deliverEvents = .ok k₁)
      (chosen : k₁.sched.choose = .ok ((previous, next), s))
      (switched : ({ s with passPending := false } : Scheduler π).switchTask previous next = .ok s') :
      PassStep k { k₁ with sched := s' }

theorem PassStep.of_eq_ok (h : k.schedule = .ok k') : k.PassStep k' := by
  unfold schedule at h
  split at h
  case isTrue opened => cases h; exact .inside opened
  case isFalse outside =>
    obtain ⟨k₁, delivered, h⟩ := Checked.bind_eq_ok.1 h
    obtain ⟨⟨⟨previous, next⟩, s⟩, chosen, h⟩ := Checked.bind_eq_ok.1 h
    obtain ⟨s', switched, eq⟩ := Checked.bind_eq_ok.1 h
    cases eq
    exact .outside (Nat.eq_zero_of_not_pos outside) delivered chosen switched

/-- A pass inside an atomic section is only asked for; outside, everything that is queued is
delivered and then a task is switched to. -/
theorem schedule_eq_ok (h : k.schedule = .ok k') :
    (0 < k.sched.sectionDepth ∧
        k' = k.setBooks { k.books with passPending := true }) ∨
      (k.sched.sectionDepth = 0 ∧ ∃ k₁, k.deliverEvents = .ok k₁ ∧
        k'.bus = k₁.bus ∧
        (∀ {held}, Moment.Sound ⟨k₁, held, none⟩ →
          Moves (fun label => label = .quiet ∨ label = .switches) ⟨k₁, held, none⟩
            ⟨k', held, none⟩) ∧
        ((∃ held, Moment.Sound ⟨k₁, held, none⟩) → k'.Settled)) := by
  cases PassStep.of_eq_ok h with
  | inside opened => exact .inl ⟨opened, rfl⟩
  | @outside k₁ previous next s s' closed delivered chosen switched =>
    have switch (held : List EntityId) := moves_switchTask held
      (k := { k₁ with sched := { s with passPending := false } }) switched
    refine .inr ⟨closed, k₁, delivered, rfl, fun sound => ?_, ?_⟩
    · refine (moves_choose sound chosen).1.trans (.trans (.single (.inl rfl) ?_) (switch _).1)
      exact .book { ({ k₁ with sched := s } : Kernel π).books with passPending := false }
        (Nat.le_refl _)
    · rintro ⟨held, sound⟩
      obtain ⟨-, current, t, slot, running⟩ := moves_choose sound chosen
      obtain ⟨-, current', slot'⟩ := switch held
      refine ⟨t, ?_, running⟩
      change s'.task? s'.current = _
      rw [current']
      change s'.task? s.current = _
      rw [current, slot']
      exact slot

theorem moves_schedule (sound : Moment.Sound ⟨k, held, none⟩) (h : k.schedule = .ok k') :
    Moves Label.InSchedule ⟨k, held, none⟩ ⟨k', held, none⟩ := by
  rcases schedule_eq_ok h with ⟨-, rfl⟩ | ⟨-, k₁, delivered, -, switch, -⟩
  · exact .single (.inl (.inl rfl)) (.book _ (Nat.le_refl _))
  · have deliver := (moves_deliverEvents sound delivered).1
    refine .trans (.mono (fun _ => .inl) deliver) (.mono ?_ (switch (deliver.sound sound)))
    rintro label (quiet | switches)
    · exact .inl (.inl quiet)
    · exact .inr switches

/-- A pass outside atomic sections leaves nothing on the bus. -/
theorem events_schedule (sound : Moment.Sound ⟨k, held, none⟩) (h : k.schedule = .ok k')
    (outside : k.sched.sectionDepth = 0) : k'.bus.queues.events = [] := by
  rcases schedule_eq_ok h with ⟨inside, -⟩ | ⟨-, k₁, delivered, bus, -, -⟩
  · omega
  · rw [bus]
    exact (moves_deliverEvents sound delivered).2

/-- Who is parked behind a pass outside atomic sections was parked before, for the same, and listens
for none of the queued events that would wake it. -/
theorem waits_back_of_schedule {pid : Pid} {t' : Task} {state : TaskState}
    (sound : Moment.Sound ⟨k, held, none⟩) (outside : k.sched.sectionDepth = 0)
    (h : k.schedule = .ok k') (slot' : k'.sched.task? pid = some t') (waits : t'.state = state)
    (parked : state.Parked) :
    ∃ t, k.sched.task? pid = some t ∧ t.state = state ∧ t.SameWait t' ∧
      ∀ event ∈ k.bus.queues.events, event.payload.Wakes pid t →
        ∀ sub ∈ k.bus.registry.lists.get event.kind, sub.extra ≠ pid := by
  rcases schedule_eq_ok h with ⟨inside, -⟩ | ⟨-, k₁, delivered, -, switch, -⟩
  · omega
  · have deliver := (moves_deliverEvents sound delivered).1
    obtain ⟨t₁, slot₁, waits₁, same₁⟩ := (switch (deliver.sound sound)).waits_back
      (deliver.sound sound) slot' waits parked nofun
    obtain ⟨t, slot, before, same⟩ := deliver.waits_back sound slot₁ waits₁ parked nofun
    refine ⟨t, slot, before, same.trans same₁, fun event queued wakes sub mem extra => ?_⟩
    obtain ⟨u, slot, ready⟩ := ready_of_queued sound delivered slot queued wakes ⟨sub, mem, extra⟩
    cases slot₁.symm.trans slot
    exact parked.not_ready (waits₁.symm.trans ready)

/-- A pass leaves the kernel settled: outside atomic sections always, and inside if it was. -/
theorem settled_schedule (sound : Moment.Sound ⟨k, held, none⟩) (h : k.schedule = .ok k')
    (start : k.Settled ∨ k.sched.sectionDepth = 0) : k'.Settled := by
  rcases schedule_eq_ok h with ⟨inside, rfl⟩ | ⟨-, k₁, delivered, -, -, settled⟩
  · rcases start with start | outside
    · exact start
    · omega
  · exact settled ⟨held, (moves_deliverEvents sound delivered).1.sound sound⟩

/-- Handing the processor to a task parked for a mutex is a sequence of moves, which leave the
kernel settled: the task is made ready, and outside atomic sections it runs at once. -/
theorem moves_handOff {t : Task} (sound : Moment.Sound ⟨k, held, none⟩) (settled : k.Settled)
    (h : k.sched.handOff pid = .ok s) (slot : k.sched.task? pid = some t)
    (parked : t.state = .awaitingMutex) :
    Moves (fun label => label = .quiet ∨ label = .switches ∨ label = .grants pid)
        ⟨k, held, none⟩ ⟨{ k with sched := s }, held, none⟩ ∧
      ({ k with sched := s } : Kernel π).Settled ∧
      ∃ t', s.task? pid = some t' ∧
        t'.state = if 0 < k.sched.sectionDepth then .ready else .running := by
  obtain ⟨s₁, granted, h⟩ := Checked.bind_eq_ok.1 h
  obtain ⟨t', slot', rfl⟩ := Scheduler.modify_eq_ok.1 granted
  cases slot.symm.trans slot'
  have grant : Moves (fun label => label = .quiet ∨ label = .switches ∨ label = .grants pid)
      ⟨k, held, none⟩ ⟨k.setTask pid { t with state := .ready }, held, none⟩ :=
    .single (.inr (.inr rfl)) (.change slot (.grant parked))
  have slot₁ := Scheduler.task?_setTask_self slot { t with state := .ready }
  split at h
  case isTrue inside =>
    cases h
    refine ⟨grant.trans (.single (.inl rfl) (.book { k.books with
      passPending := true, journal := _ :: k.sched.journal } (Nat.le_refl _))), ?_,
      _, slot₁, (if_pos inside).symm⟩
    obtain ⟨u, current, running⟩ := settled
    have other : k.current ≠ pid := by
      rintro rfl
      cases slot.symm.trans current
      cases parked.symm.trans running
    exact ⟨u, (Scheduler.task?_setTask_of_ne k.sched _ other).trans current, running⟩
  case isFalse outside =>
    obtain ⟨s₂, demoted, h⟩ := Checked.bind_eq_ok.1 h
    obtain ⟨s₃, promoted, switched⟩ := Checked.bind_eq_ok.1 h
    have demote := moves_demote held (k := k.setTask pid { t with state := .ready }) demoted
    have slot₂ : s₂.task? pid = some { t with state := .ready } := by
      obtain ⟨u, found, ⟨running, rfl⟩ | ⟨-, rfl⟩⟩ := Scheduler.demote_eq_ok demoted
      · refine (Scheduler.task?_setTask_of_ne _ _ ?_).trans slot₁
        rintro rfl
        cases slot₁.symm.trans found
        cases running
      · exact slot₁
    obtain ⟨u, found, rfl⟩ := Scheduler.promote_eq_ok promoted
    cases slot₂.symm.trans found
    have alive := (demote.sound (grant.sound sound)).tasks.alive slot₂ nofun
    have switch := moves_switchTask held (k := { k with sched := _ }) switched
    constructor
    · refine grant.trans (.trans (.mono (fun _ eq => .inr (.inl eq)) demote) ?_)
      refine .trans (.single (.inr (.inl rfl)) (.promote found alive (.inr (.inl rfl)))) ?_
      refine .trans
        (.mono (fun _ eq => .inl eq) (moves_note _ held none (.handedOff k.current pid))) ?_
      exact .mono (fun _ eq => eq.imp_right .inl) switch.1
    · have slot₃ : s.task? pid = some { t with state := .running, stamp := s₂.tick } :=
        switch.2.2.trans (Scheduler.task?_setTask_self slot₂ _)
      refine ⟨⟨{ t with state := .running, stamp := s₂.tick }, ?_, rfl⟩, _, slot₃,
        (if_neg outside).symm⟩
      change s.task? s.current = _
      rw [switch.2.1]
      exact slot₃

end Kernel

/-! ## Switches that do not fail -/

namespace Scheduler

variable {s : Scheduler π} {pid previous next : Pid}

omit [Port π] in
theorem exists_task? (s : Scheduler π) (lt : pid < maxTasks) : ∃ t, s.task? pid = some t :=
  ⟨_, Vector.getElem?_eq_getElem lt⟩

omit [Port π] in
theorem modify_total (s : Scheduler π) (lt : pid < maxTasks) (f : Task → Task) :
    ∃ r, s.modify pid f = .ok r := by
  obtain ⟨t, slot⟩ := s.exists_task? lt
  exact ⟨_, modify_eq_ok.2 ⟨t, slot, rfl⟩⟩

omit [Port π] in
theorem task_total (s : Scheduler π) (lt : pid < maxTasks) : ∃ t, s.task pid = .ok t := by
  obtain ⟨t, slot⟩ := s.exists_task? lt
  exact ⟨t, task_eq_ok.2 slot⟩

theorem switchTask_total (s : Scheduler π) (source : previous < maxTasks)
    (target : next < maxTasks) : ∃ r, s.switchTask previous next = .ok r := by
  unfold switchTask
  split
  case isTrue => exact ⟨s, rfl⟩
  case isFalse =>
    refine Checked.bind_total (s.task_total target) fun resumed _ => ?_
    refine Checked.bind_total (s.task_total source) fun saved _ => ?_
    exact modify_total _ source _

theorem handOff_total (s : Scheduler π) (source : s.current < maxTasks) (target : pid < maxTasks) :
    ∃ r, s.handOff pid = .ok r := by
  refine Checked.bind_total (s.modify_total target _) fun s₁ _ => ?_
  split
  case isTrue => exact ⟨_, rfl⟩
  case isFalse =>
    refine Checked.bind_total (s₁.modify_total source _) fun s₂ _ => ?_
    refine Checked.bind_total (Checked.bind_total (s₂.modify_total target _) fun s₃ _ => ⟨_, rfl⟩)
      fun s₄ _ => ?_
    exact switchTask_total _ source target

end Scheduler

end Rtos

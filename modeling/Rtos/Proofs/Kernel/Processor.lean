import Rtos.Proofs.Kernel.Bodies
import Rtos.Proofs.Kernel.TaskTable

/-!
# Who has the processor

A pass or a hand-off asks the port for a switch exactly if another task becomes current, and then for
the switch from the one to the other (`Scheduler.Hands`).  Stack pointers are left alone, since the port
saves them later.  Inside an atomic section both only ask for a pass.
-/

namespace Rtos

variable {π : Type} [Port π]

/-! ## Passes and hand-offs -/

/-- The switch that gets the processor from one task to another, if they differ. -/
def switchPath (source target : Pid) : List (Pid × Pid) :=
  if source = target then [] else [(source, target)]

@[simp] theorem switchPath_self (pid : Pid) : switchPath pid pid = [] :=
  if_pos rfl

namespace Scheduler

/-- The port was asked for the switch to the task that is current now, if it is another, and stack
pointers are what they were; only those in `new` may be tasks that were not there. -/
structure Hands (new : Pid → Prop) (s r : Scheduler π) : Prop where
  /-- One switch was asked for if another task is current, and else none. -/
  hardware : Port.Serves (switchPath s.current r.current) s.port r.port
  /-- Who was there has the stack pointer that it had, on a port that puts off what it saves. -/
  pointers : DeferringPort π → ∀ {pid t'}, r.task? pid = some t' → t'.active = true →
    new pid ∨ ∃ t, s.task? pid = some t ∧ t.active = true ∧ t'.stackPointer = t.stackPointer

variable {new : Pid → Prop} {s r u : Scheduler π} {pid previous next : Pid}

theorem Stays.hands (h : Stays new s r) : Hands new s r where
  hardware := by rw [h.current, switchPath_self]; exact h.hardware
  pointers _ := h.pointers

theorem Stays.trans_hands (first : Stays new s r) (rest : Hands (fun _ => False) r u) :
    Hands new s u where
  hardware := by
    have later := rest.hardware
    rw [first.current] at later
    exact first.hardware.trans later
  pointers defers _ _ slot active := by
    rcases rest.pointers defers slot active with none | ⟨t, slot, active, same⟩
    · exact none.elim
    · exact (first.pointers slot active).imp_right fun ⟨t₀, slot₀, active₀, same₀⟩ =>
        ⟨t₀, slot₀, active₀, same.trans same₀⟩

theorem Hands.of_depth {depth : Nat} (h : Hands (fun _ => False) { s with sectionDepth := depth } r) :
    Hands new s r :=
  (Stays.refl s).trans_hands ⟨h.hardware, h.pointers⟩

/-- Asking for a switch changes the port, and the table if the port does not put off what it saves. -/
theorem switchTask_eq_ok (h : s.switchTask previous next = .ok r) :
    ∃ port tasks, r = { s with port, tasks } ∧ Port.Serves (switchPath previous next) s.port port ∧
      (DeferringPort π → tasks = s.tasks) := by
  have kept (defers : DeferringPort π) := (tasks_switchTask h).1
  unfold switchTask at h
  split at h
  case isTrue same =>
    cases h
    rw [same, switchPath_self]
    exact ⟨s.port, s.tasks, rfl, .refl _, fun _ => rfl⟩
  case isFalse ne =>
    obtain ⟨resumed, -, h⟩ := Checked.bind_eq_ok.1 h
    obtain ⟨saved, -, h⟩ := Checked.bind_eq_ok.1 h
    obtain ⟨t, -, rfl⟩ := modify_eq_ok.1 h
    rw [switchPath, if_neg ne]
    exact ⟨_, _, rfl, .single .., kept⟩

omit [Port π] in
/-- Putting another task on the processor changes the table, and leaves stack pointers alone. -/
theorem handed_eq_ok (demoted : s.demote previous = .ok r) (promoted : r.promote next = .ok u) :
    ∃ tasks, u = { s with tasks, current := next } ∧ ∀ {pid t'}, u.task? pid = some t' →
      t'.active = true →
        ∃ t, s.task? pid = some t ∧ t.active = true ∧ t'.stackPointer = t.stackPointer := by
  obtain ⟨v, found, demotion⟩ := demote_eq_ok demoted
  obtain ⟨w, found', rfl⟩ := promote_eq_ok promoted
  refine ⟨(r.setTask next { w with state := .running, stamp := r.tick }).tasks, ?_,
    fun {pid t'} slot active => ?_⟩
  · rcases demotion with ⟨-, rfl⟩ | ⟨-, rfl⟩ <;> rfl
  have ready : ∃ t, r.task? pid = some t ∧ t.active = true ∧ t'.stackPointer = t.stackPointer := by
    rcases of_task?_setTask found' slot with ⟨rfl, rfl⟩ | ⟨-, slot⟩
    · exact ⟨w, found', active, rfl⟩
    · exact ⟨t', slot, active, rfl⟩
  obtain ⟨t, slot, active, same⟩ := ready
  rcases demotion with ⟨-, rfl⟩ | ⟨-, rfl⟩
  · rcases of_task?_setTask found slot with ⟨rfl, rfl⟩ | ⟨-, slot⟩
    · exact ⟨v, found, active, same⟩
    · exact ⟨t, slot, active, same⟩
  · exact ⟨t, slot, active, same⟩

/-- Putting another task on the processor and asking for the switch to it hands it over, with one line in
the log. -/
theorem hands_of_switch {notice : Notice} {pending : Bool} (demoted : s.demote s.current = .ok r)
    (promoted : r.promote next = .ok u) {s' : Scheduler π}
    (switched : ({ u.note notice with passPending := pending } : Scheduler π).switchTask s.current
      next = .ok s') :
    Hands (fun _ => False) s s' ∧ s'.sectionDepth = s.sectionDepth ∧ s'.passPending = pending ∧
      s'.tick = s.tick ∧ s'.journal = notice :: s.journal := by
  obtain ⟨tasks, rfl, kept⟩ := handed_eq_ok demoted promoted
  obtain ⟨port, tasks', rfl, serves, deferred⟩ := switchTask_eq_ok switched
  refine ⟨⟨serves, fun defers {pid t'} slot active => .inr (kept ?_ active)⟩, rfl, rfl, rfl, rfl⟩
  have same : tasks' = tasks := deferred defers
  subst same
  exact slot

/-- A hand-off inside an atomic section makes the task ready and asks for a pass; outside, it hands the
processor over without a pass. -/
theorem handOff_eq_ok (h : s.handOff pid = .ok r) :
    ∃ t, s.task? pid = some t ∧
      ((0 < s.sectionDepth ∧ ∃ notice, notice.isPass = false ∧
          r = { (s.setTask pid { t with state := .ready }).note notice with passPending := true }) ∨
        (s.sectionDepth = 0 ∧ Hands (fun _ => False) s r ∧ r.sectionDepth = 0 ∧
          r.passPending = s.passPending ∧ r.tick = s.tick ∧ r.passes = s.passes)) := by
  obtain ⟨s₁, ready, h⟩ := Checked.bind_eq_ok.1 h
  obtain ⟨t, found, rfl⟩ := modify_eq_ok.1 ready
  refine ⟨t, found, ?_⟩
  split at h
  case isTrue inside =>
    cases h
    exact .inl ⟨inside, _, rfl, rfl⟩
  case isFalse outside =>
    obtain ⟨s₂, demoted, h⟩ := Checked.bind_eq_ok.1 h
    obtain ⟨s₃, promoted, switched⟩ := Checked.bind_eq_ok.1 h
    have granted : Stays (fun _ => False) s (s.setTask pid { t with state := .ready }) :=
      .setTask found fun active => ⟨active, rfl⟩
    obtain ⟨tasks, rfl, -⟩ := handed_eq_ok demoted promoted
    obtain ⟨hands, depth, pending, tick, journal⟩ := hands_of_switch demoted promoted switched
    have closed : s.sectionDepth = 0 := Nat.eq_zero_of_not_pos outside
    have none : r.passes = s.passes := by
      rw [passes, journal]
      exact List.countP_cons_of_neg nofun
    exact .inr ⟨closed, granted.trans_hands hands, depth.trans closed, pending, tick, none⟩

end Scheduler

/-! ## Deliveries -/

/-- Whatever a listener does, the processor stays with its task. -/
theorem Core.stays_onEvent {c c' : Core π} {payload : Payload} {extra : Nat}
    {listener : KernelListener} {action : ListenerAction} {new : Pid → Prop}
    (h : c.onEvent payload extra listener = .ok (action, c')) : c.sched.Stays new c'.sched := by
  cases listener with
  | childExit =>
    cases payload with
    | device | file => cases h; exact .refl _
    | task child parent status =>
      obtain ⟨t, -, h⟩ := Checked.bind_eq_ok.1 h
      split at h
      case isTrue => cases h; exact .refl _
      case isFalse =>
        obtain ⟨s, woken, eq⟩ := Checked.bind_eq_ok.1 h
        cases eq
        exact (Scheduler.Stays.modify woken fun _ => ⟨rfl, rfl⟩).trans (.note _ rfl)
  | deviceReady =>
    cases payload with
    | task | file => cases h; exact .refl _
    | device device flags =>
      obtain ⟨t, -, h⟩ := Checked.bind_eq_ok.1 h
      split at h
      case h_2 => cases h; exact .refl _
      case h_1 =>
        split at h
        case isTrue => cases h; exact .refl _
        case isFalse =>
          obtain ⟨s, woken, eq⟩ := Checked.bind_eq_ok.1 h
          cases eq
          exact (Scheduler.Stays.modify woken fun _ => ⟨rfl, rfl⟩).trans (.note _ rfl)
  | observer => cases h; exact .refl _
  | waker =>
    obtain ⟨s, woken, eq⟩ := Checked.bind_eq_ok.1 h
    cases eq
    exact .modify woken fun _ => ⟨rfl, rfl⟩

theorem Core.stays_tell {c c' : Core π} {event : Event} {new : Pid → Prop}
    {list list' : List (Subscription KernelListener)} {queues queues' : Queues}
    (h : EventBus.tell Core.callbacks event list queues c = .ok (list', queues', c')) :
    c.sched.Stays new c'.sched := by
  induction list generalizing c queues list' with
  | nil => cases h; exact .refl _
  | cons sub list ih =>
    obtain ⟨⟨⟨action, c₁⟩, queues₁⟩, told, h⟩ := Checked.bind_eq_ok.1 h
    obtain ⟨_, answered, eq⟩ := Checked.bind_eq_ok.1 told
    cases eq
    have first : c.sched.Stays new c₁.sched := stays_onEvent answered
    dsimp only at h
    split at h
    case isTrue => cases h; exact first
    case isFalse =>
      obtain ⟨⟨list₁, queues₂, c₂⟩, others, eq⟩ := Checked.bind_eq_ok.1 h
      cases eq
      exact first.trans (ih others)

namespace Kernel

variable {k k' : Kernel π} {new : Pid → Prop} {pid : Pid}

theorem stays_deliverEvents (h : k.deliverEvents = .ok k') : k.sched.Stays new k'.sched := by
  obtain ⟨⟨bus, c⟩, delivered, eq⟩ := Checked.bind_eq_ok.1 h
  cases eq
  refine EventBus.deliverAll_keeps (P := fun _ c => k.sched.Stays new c.sched) ?_ delivered (.refl _)
  exact
    { delivered := fun stays _ told => by
        obtain ⟨list, c₁, told, released, -⟩ := EventBus.deliver_eq_ok callbacks_quiet told
        have release : (⟨c₁, k.bus, k.devices⟩ : Kernel π).release _ = .ok _ :=
          Checked.bind_eq_ok.2 ⟨_, Reaction.done.inj released, rfl⟩
        exact stays.trans ((Core.stays_tell told).trans (Inert.release release).stays)
      refilled := fun stays _ _ => stays }

/-! ## Passes -/

/-- A kernel that was asked for a pass inside an atomic section. -/
def askPass (k : Kernel π) : Kernel π :=
  { k with sched := { k.sched with passPending := true } }

/-- One pass was run. -/
structure Passed (k k' : Kernel π) : Prop where
  /-- The processor was handed to the task that the pass chose. -/
  hands : k.sched.Hands (fun _ => False) k'.sched
  /-- There was one pass. -/
  passes : k'.sched.passes = k.sched.passes + 1
  /-- No section is open. -/
  depth : k'.sched.sectionDepth = 0
  /-- No pass is pending. -/
  pending : k'.sched.passPending = false
  /-- All that was queued is delivered. -/
  drained : k'.bus.queues.events = []

theorem schedule_passes (h : k.schedule = .ok k') :
    (0 < k.sched.sectionDepth ∧ k' = k.askPass) ∨ (k.sched.sectionDepth = 0 ∧ k.Passed k') := by
  cases PassStep.of_eq_ok h with
  | inside opened => exact .inl ⟨opened, rfl⟩
  | @outside k₁ previous next s s' closed delivered chosen switched =>
    obtain ⟨s₁, demoted, chosen⟩ := Checked.bind_eq_ok.1 chosen
    obtain ⟨s₂, promoted, eq⟩ := Checked.bind_eq_ok.1 chosen
    cases eq
    have stays : k.sched.Stays (fun _ => False) k₁.sched := stays_deliverEvents delivered
    have drained : k₁.bus.queues.events = [] := by
      obtain ⟨⟨bus, c⟩, drained, eq⟩ := Checked.bind_eq_ok.1 delivered
      cases eq
      exact EventBus.events_deliverAll callbacks_quiet drained
    obtain ⟨hands, depth, pending, -, journal⟩ :=
      Scheduler.hands_of_switch demoted promoted switched
    have counted : s'.passes = k₁.sched.passes + 1 := by
      rw [Scheduler.passes, journal]
      exact List.countP_cons_of_pos rfl
    exact .inr ⟨closed, stays.trans_hands hands, counted.trans (congrArg _ stays.passes),
      depth.trans (stays.depth.trans closed), pending, drained⟩

theorem tick_schedule (h : k.schedule = .ok k') : k'.sched.tick = k.sched.tick := by
  cases PassStep.of_eq_ok h with
  | inside => rfl
  | @outside k₁ previous next s s' _ delivered chosen switched =>
    obtain ⟨s₁, demoted, chosen⟩ := Checked.bind_eq_ok.1 chosen
    obtain ⟨s₂, promoted, eq⟩ := Checked.bind_eq_ok.1 chosen
    cases eq
    have stays : k.sched.Stays (fun _ => False) k₁.sched := stays_deliverEvents delivered
    obtain ⟨-, -, -, tick, -⟩ := Scheduler.hands_of_switch demoted promoted switched
    exact tick.trans stays.tick

end Kernel

end Rtos

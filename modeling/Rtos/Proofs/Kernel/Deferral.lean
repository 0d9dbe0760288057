import Rtos.Proofs.Kernel.Devices
import Rtos.Proofs.Kernel.Locks
import Rtos.Proofs.Kernel.Processor

/-!
# Passes that are put off

An operation runs a pass or a hand-off at its end, or none (`Kernel.Proceeds`).  Inside an atomic section
nothing of either happens but that a pass is asked for, whatever the operation; those that would park
the caller are refused there.  Only an exit ends sections in another way than by leaving them.
-/

namespace Rtos.Kernel

variable {π : Type} [Port π] {k k' : Kernel π} {new : Pid → Prop} {pid : Pid}

/-! ## Operations -/

/-- What an operation does with the processor; `asks` tells whether it asks for it inside an atomic
section. -/
inductive Proceeds (new : Pid → Prop) : Bool → Kernel π → Kernel π → Prop
  /-- It leaves the processor alone. -/
  | still {k k' : Kernel π} (h : k.Inert new k') : Proceeds new false k k'
  /-- It runs a pass at its end. -/
  | pass {k k₁ k' : Kernel π} (h : k.Inert new k₁) (pass : k₁.schedule = .ok k') :
      Proceeds new true k k'
  /-- It is refused inside atomic sections, and else runs a pass at its end. -/
  | parks {asks : Bool} {k k₁ k' : Kernel π} (closed : ¬0 < k.sched.sectionDepth)
      (stays : k.sched.Stays new k₁.sched) (pass : k₁.schedule = .ok k') : Proceeds new asks k k'
  /-- It would hand the processor over, but inside an atomic section it only asks for a pass. -/
  | deferred {k k₁ : Kernel π} (opened : 0 < k.sched.sectionDepth) (h : k.Inert new k₁) :
      Proceeds new true k k₁.askPass
  /-- It hands the processor over without a pass. -/
  | handsOff {asks : Bool} {k k' : Kernel π} (closed : k.sched.sectionDepth = 0)
      (hands : k.sched.Hands new k'.sched) (depth : k'.sched.sectionDepth = 0)
      (pending : k'.sched.passPending = k.sched.passPending)
      (tick : k'.sched.tick = k.sched.tick) (passes : k'.sched.passes = k.sched.passes) :
      Proceeds new asks k k'

namespace Proceeds

variable {asks : Bool} {k₁ : Kernel π}

/-- Inside an atomic section a pass is at most asked for. -/
theorem inside (h : Proceeds new asks k k') (opened : 0 < k.sched.sectionDepth) :
    ∃ k₁, k.Inert new k₁ ∧ k' = if asks then k₁.askPass else k₁ := by
  cases h with
  | still inert => exact ⟨k', inert, rfl⟩
  | pass inert pass =>
    refine ⟨_, inert, ?_⟩
    rcases schedule_passes pass with ⟨-, rfl⟩ | ⟨closed, -⟩
    · rfl
    · have depth := inert.stays.depth
      omega
  | parks closed => exact absurd opened closed
  | deferred _ inert => exact ⟨_, inert, rfl⟩
  | handsOff closed => omega

/-- A pass outside of atomic sections hands the processor over, whatever was done before it, and
leaves none pending. -/
theorem outside_of_pass (closed : k.sched.sectionDepth = 0) (stays : k.sched.Stays new k₁.sched)
    (pass : k₁.schedule = .ok k') : k.sched.Hands new k'.sched ∧ k'.sched.sectionDepth = 0 ∧
      (k.sched.passPending = false → k'.sched.passPending = false) := by
  have depth : k₁.sched.sectionDepth = 0 := stays.depth.trans closed
  rcases schedule_passes pass with ⟨opened, -⟩ | ⟨-, passed⟩
  · omega
  · exact ⟨stays.trans_hands passed.hands, passed.depth, fun _ => passed.pending⟩

theorem outside (h : Proceeds new asks k k') (closed : k.sched.sectionDepth = 0) :
    k.sched.Hands new k'.sched ∧ k'.sched.sectionDepth = 0 ∧
      (k.sched.passPending = false → k'.sched.passPending = false) := by
  cases h with
  | still inert =>
    exact ⟨inert.stays.hands, inert.stays.depth.trans closed,
      fun none => inert.stays.pending.trans none⟩
  | pass inert pass => exact outside_of_pass closed inert.stays pass
  | parks _ stays pass => exact outside_of_pass closed stays pass
  | deferred opened => omega
  | handsOff _ hands depth pending => exact ⟨hands, depth, fun none => pending.trans none⟩

/-- However an operation goes on, the processor is handed over once at most. -/
theorem hands (h : Proceeds new asks k k') : k.sched.Hands new k'.sched := by
  rcases Nat.eq_zero_or_pos k.sched.sectionDepth with closed | opened
  · exact (h.outside closed).1
  · obtain ⟨k₁, inert, rfl⟩ := h.inside opened
    cases asks with
    | false => exact inert.stays.hands
    | true => exact ⟨inert.stays.hands.hardware, inert.stays.hands.pointers⟩

/-- If a section is open, a pass is pending behind it that was pending or asked for; else none is. -/
theorem passPending (h : Proceeds new asks k k')
    (quiet : k.sched.sectionDepth = 0 → k.sched.passPending = false) :
    k'.sched.passPending =
      (decide (0 < k'.sched.sectionDepth) && (k.sched.passPending || asks)) := by
  rcases Nat.eq_zero_or_pos k.sched.sectionDepth with closed | opened
  · obtain ⟨-, depth, pending⟩ := h.outside closed
    rw [depth, pending (quiet closed)]
    rfl
  · obtain ⟨k₁, inert, rfl⟩ := h.inside opened
    have depth : 0 < k₁.sched.sectionDepth := inert.stays.depth.symm ▸ opened
    cases asks with
    | false => simp [inert.stays.pending, depth]
    | true => simp [askPass, depth]

theorem tick (h : Proceeds new asks k k') : k'.sched.tick = k.sched.tick := by
  cases h with
  | still inert => exact inert.stays.tick
  | pass inert pass => exact (tick_schedule pass).trans inert.stays.tick
  | parks _ stays pass => exact (tick_schedule pass).trans stays.tick
  | deferred _ inert => exact inert.stays.tick
  | handsOff _ _ _ _ tick => exact tick

end Proceeds

/-- Creating a task leaves the processor alone. The frame of a new task is laid out on its stack. -/
theorem inert_spawn {entry : EntryPoint} {result : Except Error Pid}
    (h : k.spawn entry = .ok (result, k')) :
    k.Inert (fun pid => result = .ok pid) k' ∧ ∀ pid, result = .ok pid →
      ∃ t stack, ∃ port port' : π, k'.sched.task? pid = some t ∧ t.stack = some stack ∧
        Port.layOutStack stack entry port = .ok (t.stackPointer, port') := by
  have first {stack : Stack} {port : π} {parent : Option EntityId} {owner : Owner}
      {cleanup : Cleanup} {created : Except Error EntityId} {k₁ : Kernel π} {new : Pid → Prop}
      (take : Port.takeStack k.sched.port = some (stack, port))
      (create : ({ k with sched := { k.sched with port } } : Kernel π).createEntity parent owner
        cleanup = .ok (created, k₁)) : k.Inert new k₁ :=
    (Inert.setPort (.take (.refl _) take)).trans (.createEntity create)
  cases SpawnStep.of_eq_ok h with
  | noSlot => exact ⟨.refl _, nofun⟩
  | noStack => exact ⟨.refl _, nofun⟩
  | noEntity _ _ take create back =>
    exact ⟨(first take create).trans (.setPort (.giveBack (.refl _) back)), nofun⟩
  | @spawns _ _ stack _ _ k₁ _ port _ _ _ take create layOut install =>
    obtain ⟨u, found, rfl⟩ := Scheduler.modify_eq_ok.1 install
    constructor
    · have first {new : Pid → Prop} : k.Inert new k₁ := first take create
      have laid {new : Pid → Prop} : k₁.Inert new { k₁ with sched := { k₁.sched with port } } :=
        .setPort (.layOut (.refl _) layOut)
      refine first.trans (laid.trans (.trans (.setTask_new found rfl ?_) (.note _ rfl)))
      rintro (sleeps | parked | parked | parked) <;> cases ‹_›
    · rintro _ ⟨⟩
      exact ⟨_, stack, _, _, Scheduler.task?_setTask_self found _, rfl, layOut⟩

theorem proceeds_waitChild {filter : ChildFilter} {options : WaitOptions}
    {result : Except Error (Progress (Pid × Int))}
    (h : k.waitChild filter options = .ok (result, k')) : Proceeds new false k k' := by
  cases WaitChildStep.of_eq_ok h with
  | @reaps t _ _ _ slot reaped release =>
    obtain ⟨unreaped, rfl, -⟩ := Task.reap?_eq_some reaped
    have reduced : k.Inert new (k.setTask k.current { t with unreaped }) :=
      .setTask slot (fun active => ⟨active, rfl⟩) fun _ => rfl
    exact .still (reduced.trans (.trans (.release release) (.note _ rfl)))
  | childless => exact .still (.refl _)
  | hasty => exact .still (.refl _)
  | refused => exact .still (.note _ rfl)
  | parks _ _ _ outside _ waits parks pass =>
    exact .parks (Nat.not_lt_of_le (Nat.le_of_eq outside))
      (.park waits parks fun _ => ⟨rfl, rfl⟩) pass
  | polls _ _ outside _ pass =>
    exact .parks (Nat.not_lt_of_le (Nat.le_of_eq outside)) (.note _ rfl) pass

theorem proceeds_sleep {millis : UInt32} {result : Except Error Unit}
    (h : k.sleep millis = .ok (result, k')) : Proceeds new false k k' := by
  cases SleepStep.of_eq_ok h with
  | refused => exact .still (.note _ rfl)
  | parks outside stamps parks pass =>
    exact .parks (Nat.not_lt_of_le (Nat.le_of_eq outside))
      (.park stamps parks fun _ => ⟨rfl, rfl⟩) pass

omit [Port π] in
/-- The kernel at another time. -/
def setClock (k : Kernel π) (tick : UInt64) : Kernel π :=
  { k with sched := { k.sched with tick } }

theorem proceeds_tick (h : k.tick = .ok k') :
    Proceeds new true (k.setClock (k.sched.tick + 1)) k' :=
  .pass (.refl _) h

theorem proceeds_lock {m m' : Mutex} {result : Except Error LockProgress}
    (h : k.lock m = .ok (result, m', k')) : Proceeds new false k k' := by
  cases LockStep.of_eq_ok h with
  | acquires => exact .still (.refl _)
  | refused => exact .still (.note _ rfl)
  | spins => exact .still (.note _ rfl)
  | @parks _ s _ _ outside _ parks pass =>
    have stays : k.sched.Stays new s :=
      .modify (f := fun t => { t with state := .awaitingMutex }) parks fun _ => ⟨rfl, rfl⟩
    exact .parks (Nat.not_lt_of_le (Nat.le_of_eq outside)) stays pass

/-- An unlock hands the processor to a waiter, if there is one. -/
theorem proceeds_unlock {m m' : Mutex} (h : k.unlock m = .ok (m', k')) :
    Proceeds new (!m.waiters.items.isEmpty) k k' := by
  cases UnlockStep.of_eq_ok h with
  | frees _ empty =>
    rw [empty]
    exact .still (.refl _)
  | @hands waiter _ _ _ _ oldest _ _ _ handOff =>
    rw [oldest]
    obtain ⟨t, found, ⟨opened, notice, other, rfl⟩ | ⟨closed, hands, depth, pending, tick,
        passes⟩⟩ := Scheduler.handOff_eq_ok handOff
    · have granted : k.Inert new (k.setTask waiter { t with state := .ready }) :=
        .setTask found (fun active => ⟨active, rfl⟩)
          (by rintro (sleeps | parked | parked | parked) <;> cases ‹_›)
      exact .deferred opened (granted.trans (.note _ other))
    · exact .handsOff closed ((Scheduler.Stays.refl _).trans_hands hands) depth pending tick
          passes

theorem inert_registerDevice {result : Except Error DeviceId}
    (h : k.registerDevice = .ok (result, k')) : k.Inert new k' := by
  unfold registerDevice at h
  split at h
  case h_2 => cases h; exact .refl _
  case h_1 =>
    obtain ⟨⟨created, k₁⟩, create, h⟩ := Checked.bind_eq_ok.1 h
    have first : k.Inert new k₁ := .createEntity create
    cases created with
    | error e => cases h; exact first
    | ok id =>
      cases h
      have registered {devices} : k.Inert new { k₁ with devices } :=
        first.trans (.of_eq rfl rfl rfl)
      exact registered.trans (.note _ rfl)

theorem inert_unregisterDevice {device : DeviceId} {result : Except Error Unit}
    (h : k.unregisterDevice device = .ok (result, k')) : k.Inert new k' := by
  unfold unregisterDevice at h
  split at h
  case h_2 => cases h; exact .refl _
  case h_1 =>
    obtain ⟨k₁, release, eq⟩ := Checked.bind_eq_ok.1 h
    cases eq
    have unregistered {devices} : k.Inert new { k with devices } := .of_eq rfl rfl rfl
    exact unregistered.trans (.release release)

theorem inert_reportDevice {device : DeviceId} {flags : DeviceFlags} {result : Except Error Unit}
    (h : k.reportDevice device flags = .ok (result, k')) : k.Inert new k' := by
  unfold reportDevice at h
  split at h
  case h_1 => exact .announce h
  case h_2 => cases h; exact .refl _

/-- A signal runs a pass, unless it is refused. -/
theorem proceeds_signalDevice {device : DeviceId} {flags : DeviceFlags} {result : Except Error Unit}
    (h : k.signalDevice device flags = .ok (result, k')) :
    Proceeds new result.toBool k k' := by
  rcases signalDevice_eq_ok h with ⟨e, rfl, refused⟩ | ⟨k₁, rfl, reported, pass⟩
  · exact .still (inert_reportDevice refused)
  · exact .pass (inert_reportDevice reported) pass

theorem inert_reportFile {handle : Nat} {flags : DeviceFlags} {result : Except Error Unit}
    (h : k.reportFile handle flags = .ok (result, k')) : k.Inert new k' := by
  obtain ⟨t, -, h⟩ := Checked.bind_eq_ok.1 h
  split at h
  case h_1 => exact .announce h
  case h_2 => cases h; exact .refl _

theorem proceeds_waitDevice {device : DeviceId} {direction : DeviceFlags}
    {result : Except Error (Progress Unit)}
    (h : k.waitDevice device direction = .ok (result, k')) : Proceeds new false k k' := by
  cases WaitDeviceStep.of_eq_ok h with
  | unknown => exact .still (.refl _)
  | refused => exact .still (.note _ rfl)
  | parks _ outside _ waits parks pass =>
    exact .parks (Nat.not_lt_of_le (Nat.le_of_eq outside))
      (.park waits parks fun _ => ⟨rfl, rfl⟩) pass
  | polls outside _ pass =>
    exact .parks (Nat.not_lt_of_le (Nat.le_of_eq outside)) (.note _ rfl) pass

/-! ## Exits and sections -/

/-- Telling a parent of an exit leaves the processor with its task. -/
theorem stays_tellParent {parent : Pid} {status : Int} {child : EntityId}
    (h : k.tellParent pid parent status child = .ok k') : k.sched.Stays new k'.sched := by
  obtain ⟨⟨queued, k₁⟩, dispatch, h⟩ := Checked.bind_eq_ok.1 h
  have first : k.Inert new k₁ := by
    obtain ⟨⟨created, k₂⟩, create, dispatch⟩ := Checked.bind_eq_ok.1 dispatch
    have made : k.Inert new k₂ := .createEntity create
    cases created with
    | error e => cases dispatch; exact made.trans (.note _ rfl)
    | ok entity =>
      obtain ⟨⟨dispatched, k₃⟩, put, dispatch⟩ := Checked.bind_eq_ok.1 dispatch
      have sent := made.trans (.dispatch put)
      cases dispatched with
      | refused =>
        obtain ⟨k₄, release, eq⟩ := Checked.bind_eq_ok.1 dispatch
        cases eq
        exact sent.trans (.release release)
      | queued | overflowed => cases dispatch; exact sent
  obtain ⟨waiter, -, h⟩ := Checked.bind_eq_ok.1 h
  split at h
  case isTrue =>
    obtain ⟨s, woken, eq⟩ := Checked.bind_eq_ok.1 h
    cases eq
    exact first.stays.trans (.modify woken fun _ => ⟨rfl, rfl⟩)
  case isFalse => cases h; exact first.stays

/-- An exit is refused, or the processor stays with the task until its sections are closed and a pass
is run. -/
theorem exit_stays {status : Int} {result : Except Error Unit}
    (h : k.exit status = .ok (result, k')) :
    k' = k ∨ ∃ k₁ : Kernel π, k.sched.Stays (fun _ => False) k₁.sched ∧
      (k₁.closeSections k.current).schedule = .ok k' := by
  have dies {t t₁ : Task} {k₁ : Kernel π} (slot : k.sched.task? k.current = some t)
      (reaped : (k.setTask k.current { t with unreaped := .empty }).releaseAll
        (t.unreaped.items.map ExitRecord.entity) = .ok k₁)
      (slot₁ : k₁.sched.task? k.current = some t₁) :
      k.sched.Stays (fun _ => False) (k₁.sched.setTask k.current (t₁.exited status)) := by
    have cleared : k.sched.Stays (fun _ => False)
        (k.sched.setTask k.current { t with unreaped := .empty }) :=
      .setTask slot fun active => ⟨active, rfl⟩
    have dead : k₁.sched.Stays (fun _ => False) (k₁.sched.setTask k.current (t₁.exited status)) :=
      .setTask slot₁ fun active => ⟨active, rfl⟩
    exact cleared.trans ((Inert.releaseAll reaped).stays.trans dead)
  cases ExitStep.of_eq_ok h with
  | idle => exact .inl rfl
  | bare => exact .inl rfl
  | @recorded t t₁ p _ unreaped k₁ _ _ _ slot _ reaped slot₁ parent _ _ tell pass =>
    have told : (k₁.sched.setTask k.current (t₁.exited status)).Stays (fun _ => False)
        ((k₁.sched.setTask k.current (t₁.exited status)).setTask t₁.parent { p with unreaped }) :=
      .setTask parent fun active => ⟨active, rfl⟩
    exact .inr ⟨_, (dies slot reaped slot₁).trans
      (.trans told (.trans (.note _ rfl) (stays_tellParent tell))), pass⟩
  | forgotten _ slot _ reaped slot₁ _ _ release pass =>
    refine .inr ⟨_, (dies slot reaped slot₁).trans ?_, pass⟩
    exact .trans (.note _ rfl) (Inert.release release).stays

/-- A pass after the sections were closed hands the processor over once at most, and leaves none open
and no pass pending. -/
theorem passed_closeSections (h : (k.closeSections pid).schedule = .ok k') :
    k.sched.Hands (fun _ => False) k'.sched ∧ k'.sched.sectionDepth = 0 ∧
      k'.sched.passPending = false := by
  have closed : ∃ journal,
      (k.closeSections pid).sched = { k.sched with sectionDepth := 0, journal } := by
    unfold closeSections
    split
    case isTrue => exact ⟨_, rfl⟩
    case isFalse closed => exact ⟨_, by rw [← Nat.eq_zero_of_not_pos closed]⟩
  obtain ⟨journal, closed⟩ := closed
  rcases schedule_passes h with ⟨opened, -⟩ | ⟨-, passed⟩
  · rw [closed] at opened
    exact absurd opened (Nat.lt_irrefl 0)
  · have hands := passed.hands
    rw [closed] at hands
    exact ⟨⟨hands.hardware, hands.pointers⟩, passed.depth, passed.pending⟩

theorem hands_exit {status : Int} {result : Except Error Unit}
    (h : k.exit status = .ok (result, k')) : k.sched.Hands new k'.sched := by
  rcases exit_stays h with rfl | ⟨k₁, stays, pass⟩
  · exact (Scheduler.Stays.refl _).hands
  · exact (stays.mono nofun).trans_hands (passed_closeSections pass).1

/-- An exit that is not refused leaves no section open and no pass pending. -/
theorem sections_exit {status : Int} {result : Except Error Unit}
    (h : k.exit status = .ok (result, k')) :
    k' = k ∨ (k'.sched.sectionDepth = 0 ∧ k'.sched.passPending = false) := by
  rcases exit_stays h with rfl | ⟨k₁, -, pass⟩
  · exact .inl rfl
  · exact .inr (passed_closeSections pass).2

omit [Port π] in
/-- The kernel with so many sections open. -/
def setDepth (k : Kernel π) (sectionDepth : Nat) : Kernel π :=
  { k with sched := { k.sched with sectionDepth } }

omit [Port π] in
theorem enterSection_eq_ok (h : k.enterSection = .ok k') :
    k' = k.setDepth (k.sched.sectionDepth + 1) := by
  obtain ⟨depth, sum, eq⟩ := Checked.bind_eq_ok.1 h
  cases eq
  obtain ⟨-, rfl⟩ := Word.add_eq_ok.1 sum
  rfl

/-- Leaving a section closes one; if it was the last, a pass that was asked for is run. -/
theorem leaveSection_eq_ok (h : k.leaveSection = .ok k') :
    0 < k.sched.sectionDepth ∧
      ((k.sched.sectionDepth = 1 ∧ k.sched.passPending = true ∧ (k.setDepth 0).Passed k') ∨
        (¬(k.sched.sectionDepth = 1 ∧ k.sched.passPending = true) ∧
          k' = k.setDepth (k.sched.sectionDepth - 1))) := by
  cases LeaveStep.of_eq_ok h with
  | passes last pending pass =>
    refine ⟨last ▸ Nat.one_pos, .inl ⟨last, pending, ?_⟩⟩
    rw [last] at pass
    rcases schedule_passes pass with ⟨opened, -⟩ | ⟨-, passed⟩
    · exact absurd opened (Nat.lt_irrefl 0)
    · exact passed
  | closes opened calm => exact ⟨opened, .inr ⟨calm, rfl⟩⟩

theorem hands_leaveSection (h : k.leaveSection = .ok k') : k.sched.Hands new k'.sched := by
  obtain ⟨-, ⟨-, -, passed⟩ | ⟨-, rfl⟩⟩ := leaveSection_eq_ok h
  · exact passed.hands.of_depth
  · exact .of_depth (Scheduler.Stays.refl _).hands

end Rtos.Kernel

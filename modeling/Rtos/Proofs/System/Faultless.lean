import Rtos.Proofs.Kernel.Endings
import Rtos.Proofs.System.WaitQueues

/-!
# Runs without faults

A fault is a broken promise.  Callers promise three things (`System.Permits`): they leave only
atomic sections that are open, they unlock only mutexes that are locked, and the idle task, which
nothing can park, does not ask for a held mutex.  As long as they do, nothing in a run is a fault, but
that one of three counters is asked to leave the words: of the names given to listeners, of the events
refused, and of the atomic sections open (`System.Exhausts`).
-/

namespace Rtos.System

variable {π : Type} [Port π] {s s' : System π} {call : Call} {calls : List Call} {reply : Reply}

/-! ## Permitted calls -/

omit [Port π] in
/-- What callers promise. -/
def Permits (s : System π) : Call → Prop
  | .leaveSection => 0 < s.kernel.sched.sectionDepth
  | .unlock id => (s.mutexes id).locked = true
  | .lock id => s.kernel.current = idlePid → (s.mutexes id).locked = false
  | _ => True

omit [Port π] in
/-- A call may find the counter that it steps at the last word: another section would be open, another
name given to a listener, or another event refused, since there is no place for it. -/
def Exhausts (s : System π) : Call → Prop
  | .enterSection => Word.limit ≤ s.kernel.sched.sectionDepth + 1
  | .waitChild _ _ | .waitDevice _ _ => Word.limit ≤ s.kernel.bus.registry.issued.value + 1
  | .exit _ => s.kernel.bus.queues.Exhausted .task
  | .reportDevice _ _ | .signalDevice _ _ => s.kernel.bus.queues.Exhausted .device
  | .reportFile _ _ => s.kernel.bus.queues.Exhausted .file
  | _ => False

/-- Every call of a run is permitted when it is made. -/
def PermitsAll (s : System π) : List Call → Prop
  | [] => True
  | call :: calls =>
    s.Permits call ∧ ∀ reply s', s.step call = .ok (reply, s') → s'.PermitsAll calls

/-- Some call of a run finds its counter at the last word. -/
def ExhaustsAny (s : System π) : List Call → Prop
  | [] => False
  | call :: calls =>
    s.Exhausts call ∨ ∃ reply s', s.step call = .ok (reply, s') ∧ s'.ExhaustsAny calls

instance (s : System π) : DecidablePred s.Permits := fun call =>
  match call with
  | .leaveSection => inferInstanceAs (Decidable (0 < s.kernel.sched.sectionDepth))
  | .unlock id => inferInstanceAs (Decidable ((s.mutexes id).locked = true))
  | .lock id =>
    inferInstanceAs (Decidable (s.kernel.current = idlePid → (s.mutexes id).locked = false))
  | .spawn _ | .exit _ | .waitChild _ _ | .sleep _ | .tick | .schedule | .yield | .enterSection
  | .tryLock _ | .registerDevice | .unregisterDevice _ | .reportDevice _ _ | .signalDevice _ _
  | .reportFile _ _ | .waitDevice _ _ => .isTrue trivial

/-- Whether a run is permitted can be found out by making it. -/
instance decidablePermitsAll (s : System π) : DecidablePred s.PermitsAll
  | [] => .isTrue trivial
  | call :: calls =>
    match step : s.step call with
    | .error _ => decidable_of_iff (s.Permits call)
        ⟨fun permits => ⟨permits, fun _ _ ends => by cases step.symm.trans ends⟩, And.left⟩
    | .ok (reply, s') =>
      have := s'.decidablePermitsAll calls
      decidable_of_iff (s.Permits call ∧ s'.PermitsAll calls)
        ⟨fun ⟨permits, rest⟩ => ⟨permits, fun _ _ ends => by cases step.symm.trans ends; exact rest⟩,
          fun ⟨permits, rest⟩ => ⟨permits, rest reply s' step⟩⟩

/-! ## What keeps calls from faults -/

variable [ReliablePort π]

theorem fit_step (fit : Moment.Fit ⟨s.kernel, [], none⟩) (settled : s.kernel.Settled)
    (step : s.step call = .ok (reply, s')) : Moment.Fit ⟨s'.kernel, [], none⟩ := by
  have operates := operates_step fit.sound settled step
  refine (operates.moves fit.sound).fit fit ?_
  rintro (body | (quiet | delivers) | switches)
  · exact Call.labels_inside body rfl
  · cases quiet
  · cases delivers
  · cases switches

/-- The states in which permitted calls come to an end. -/
structure Sturdy (s : System π) : Prop where
  /-- The kernel is fit. -/
  fit : Moment.Fit ⟨s.kernel, [], none⟩
  /-- Who waits for a mutex is parked. -/
  queued : s.Queued
  /-- The idle task waits for none. -/
  busy : ∀ id, idlePid ∉ (s.mutexes id).waiters.items

theorem sturdy_boot {port : π} {k : Kernel π} (placed : ReliablePort.Placed port)
    (booted : Kernel.boot port = .ok (.ok k)) : Sturdy ⟨k, fun _ => .free⟩ where
  fit := Kernel.fit_boot placed booted
  queued := queued_boot booted
  busy _ := List.not_mem_nil

omit [Port π] [ReliablePort π] in
theorem request_endsOr {α : Type} {f : Kernel π → Checked (Except Error α × Kernel π)}
    {of : α → Reply} {full : Prop} (h : (f s.kernel).EndsOr full) : (s.request f of).EndsOr full :=
  h.bind_total fun _ _ => ⟨_, rfl⟩

omit [Port π] [ReliablePort π] in
theorem perform_endsOr {f : Kernel π → Checked (Kernel π)} {full : Prop}
    (h : (f s.kernel).EndsOr full) : (s.perform f).EndsOr full :=
  h.bind_total fun _ _ => ⟨_, rfl⟩

omit [Port π] [ReliablePort π] in
/-- What the kernel checks when a call is made: a section is open that is left, and a mutex is locked
that is unlocked, at the head of whose queue a task is parked. -/
def Ready (s : System π) : Call → Prop
  | .leaveSection => 0 < s.kernel.sched.sectionDepth
  | .unlock id => (s.mutexes id).locked = true ∧ ∀ waiter rest,
      (s.mutexes id).waiters.items = waiter :: rest → s.kernel.AwaitsMutex waiter
  | _ => True

/-- A call that passes the checks comes to an end, unless a counter is full. -/
theorem step_endsOr_of_ready (fit : Moment.Fit ⟨s.kernel, [], none⟩) (settled : s.kernel.Settled)
    (ready : s.Ready call) : (s.step call).EndsOr (s.Exhausts call) := by
  unfold step
  cases call with
  | spawn entry => exact request_endsOr (.of_total (Kernel.spawn_total fit entry))
  | exit status => exact request_endsOr (Kernel.exit_endsOr fit settled status)
  | waitChild filter options =>
    exact request_endsOr (Kernel.waitChild_endsOr fit settled filter options)
  | sleep millis => exact request_endsOr (.of_total (Kernel.sleep_total fit settled millis))
  | tick => exact perform_endsOr (.of_total (Kernel.tick_total fit))
  | schedule => exact perform_endsOr (.of_total (Kernel.schedule_total fit))
  | yield => exact perform_endsOr (.of_total (Kernel.schedule_total fit))
  | enterSection => exact perform_endsOr (Kernel.enterSection_endsOr s.kernel)
  | leaveSection => exact perform_endsOr (.of_total (Kernel.leaveSection_total fit ready))
  | lock id =>
    exact .of_total (Checked.bind_total (Kernel.lock_total fit settled _) fun _ _ => ⟨_, rfl⟩)
  | tryLock id => exact .of_total ⟨_, rfl⟩
  | unlock id =>
    exact .of_total
      (Checked.bind_total (Kernel.unlock_total fit ready.1 ready.2) fun _ _ => ⟨_, rfl⟩)
  | registerDevice => exact request_endsOr (.of_total (Kernel.registerDevice_total fit.single))
  | unregisterDevice device =>
    exact request_endsOr (.of_total (Kernel.unregisterDevice_total fit device))
  | reportDevice device flags => exact request_endsOr (Kernel.reportDevice_endsOr fit device flags)
  | signalDevice device flags => exact request_endsOr (Kernel.signalDevice_endsOr fit device flags)
  | reportFile handle flags =>
    exact request_endsOr (Kernel.reportFile_endsOr fit settled handle flags)
  | waitDevice device direction =>
    exact request_endsOr (Kernel.waitDevice_endsOr fit settled device direction)

/-- Whatever call is made, it faults only because a counter is full, or by one of the checks. -/
theorem fault_of_step {fault : Fault} (fit : Moment.Fit ⟨s.kernel, [], none⟩)
    (settled : s.kernel.Settled) (h : s.step call = .error fault) :
    fault = .addOverflow ∨ fault = .unbalancedEnable ∨ fault = .unlockUnlocked ∨
      ∃ found, fault = .waiterNotParked found := by
  by_cases ready : s.Ready call
  · rcases step_endsOr_of_ready fit settled ready with ⟨out, ends⟩ | ⟨overflows, -⟩
    · cases h.symm.trans ends
    · cases h.symm.trans overflows
      exact .inl rfl
  · cases call with
    | leaveSection =>
      have outside : s.kernel.sched.sectionDepth = 0 := Nat.eq_zero_of_not_pos ready
      have unbalanced : s.kernel.leaveSection = .error .unbalancedEnable := if_pos outside
      change s.perform Kernel.leaveSection = _ at h
      rw [perform, unbalanced] at h
      cases h
      exact .inr (.inl rfl)
    | unlock id =>
      change (s.kernel.unlock (s.mutexes id) >>= _) = _ at h
      cases unlock : s.kernel.unlock (s.mutexes id) with
      | ok out => rw [unlock] at h; cases h
      | error other =>
        rw [unlock] at h
        cases h
        exact .inr (.inr (Kernel.fault_of_unlock fit unlock))
    | _ => exact absurd trivial ready

namespace Sturdy

/-- A permitted call comes to an end, unless a counter is full. -/
theorem step_endsOr (h : s.Sturdy) (permits : s.Permits call) :
    (s.step call).EndsOr (s.Exhausts call) := by
  refine step_endsOr_of_ready h.fit h.queued.settled ?_
  cases call with
  | leaveSection => exact permits
  | unlock id =>
    refine ⟨permits, fun waiter rest waiters => ?_⟩
    have first : waiter ∈ (s.mutexes id).waiters.items := waiters ▸ List.mem_cons_self
    refine h.queued.parked ?_ first
    rintro rfl
    exact h.busy id first
  | _ => trivial

theorem step (h : s.Sturdy) (permits : s.Permits call) (step : s.step call = .ok (reply, s')) :
    s'.Sturdy where
  fit := fit_step h.fit h.queued.settled step
  queued := h.queued.step step
  busy id mem := by
    have mutex := mutex_step h.fit.sound h.queued.settled step id
    rcases mutex.mem_waiters mem with old | ⟨parks, idle⟩
    · exact h.busy id old
    · obtain eq | ⟨-, rfl, -⟩ | ⟨eq, -⟩ := Observation.event?_eq_some parks
      · cases eq
      · rw [parks] at mutex
        cases (permits idle.symm).symm.trans mutex.locked_of_parks
      · cases eq

theorem run_endsOr (h : s.Sturdy) (permits : s.PermitsAll calls) :
    (s.run calls).EndsOr (s.ExhaustsAny calls) := by
  induction calls generalizing s with
  | nil => exact .of_total ⟨_, rfl⟩
  | cons call calls ih =>
    obtain ⟨permitted, rest⟩ := permits
    refine ((h.step_endsOr permitted).mono .inl).bind fun ⟨reply, s₁⟩ ends => ?_
    have later := ih (h.step permitted ends) (rest reply s₁ ends)
    exact (later.mono fun full => .inr ⟨reply, s₁, ends, full⟩).bind_total fun _ _ => ⟨_, rfl⟩

end Sturdy

/-- Building a kernel comes to an end, its timer can be started, and every run whose calls are
permitted comes to an end, unless a counter is full on the way. -/
theorem endsOr_of_permitsAll {port : π} (placed : ReliablePort.Placed port) :
    (∃ built, Kernel.boot port = .ok built) ∧ ∀ k, Kernel.boot port = .ok (.ok k) →
      (∃ k', k.startTimer = .ok k') ∧ ∀ calls, PermitsAll ⟨k, fun _ => .free⟩ calls →
        (run ⟨k, fun _ => .free⟩ calls).EndsOr (ExhaustsAny ⟨k, fun _ => .free⟩ calls) :=
  ⟨Kernel.boot_total placed, fun k booted => ⟨k.startTimer_total, fun _ permits =>
    (sturdy_boot placed booted).run_endsOr permits⟩⟩

/-- A run in which a mutex is handed over inside an atomic section, and the task that gets it exits
with the section open. -/
theorem endsOr_of_permitsAll_host : ∃ k calls, Kernel.boot (HostPort.new false) = .ok (.ok k) ∧
    calls = [.spawn (.program 0), .spawn (.program 1), .schedule, .lock 0, .schedule, .lock 0,
      .enterSection, .unlock 0, .leaveSection, .enterSection, .exit 7] ∧
    PermitsAll ⟨k, fun _ => .free⟩ calls ∧
    (run ⟨k, fun _ => .free⟩ calls).EndsOr (ExhaustsAny ⟨k, fun _ => .free⟩ calls) := by
  have permitted : (((Kernel.boot (HostPort.new false)).toOption.bind Except.toOption).any fun k =>
        PermitsAll ⟨k, fun _ => .free⟩ [.spawn (.program 0), .spawn (.program 1), .schedule, .lock 0,
          .schedule, .lock 0, .enterSection, .unlock 0, .leaveSection, .enterSection, .exit 7]) =
      true := by decide +kernel
  obtain ⟨k, booted, permits⟩ := Kernel.exists_of_boot permitted
  have permits := of_decide_eq_true permits
  exact ⟨k, _, booted, rfl, permits, ((endsOr_of_permitsAll trivial).2 k booted).2 _ permits⟩

end Rtos.System

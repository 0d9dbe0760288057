import Rtos.Proofs.Kernel.Deferral
import Rtos.Proofs.System.Faultless

/-!
# Atomic sections

While an atomic section is open, no call but an exit takes the processor from its task: there is no pass,
no switch is asked for, nothing is delivered, and nobody begins to wait
(`System.Atomic.inside`).  That a pass or a hand-off was asked for is remembered, and one pass makes up
for all of them when the section is left (`System.Atomic.leave`).  An exit closes the sections of the
task that ends.
-/

namespace Rtos

variable {π : Type} [Port π]

/-! ## What calls do with the processor -/

namespace Call

/-- A call that neither ends the caller nor enters or leaves a section. -/
def keepsSections : Call → Bool
  | .exit _ | .enterSection | .leaveSection => false
  | _ => true

/-- What time it is once a call is made: a tick advances the clock, and nothing else does. -/
def clock : Call → UInt64 → UInt64
  | .tick, now => now + 1
  | _, now => now

/-- A call created a task, judging by its answer. -/
def Bears (call : Call) (reply : Reply) (child : Pid) : Prop :=
  (∃ entry, call = .spawn entry) ∧ reply = .number child

end Call

namespace System

variable {s s' : System π} {call : Call} {calls : List Call} {reply : Reply} {asked asked' : Bool}

omit [Port π] in
/-- Whether a call asks for a pass or a hand-off. -/
def asks (s : System π) : Call → Reply → Bool
  | .tick, _ | .schedule, _ | .yield, _ => true
  | .signalDevice _ _, reply => reply = .done
  | .unlock id, _ => !(s.mutexes id).waiters.items.isEmpty
  | _, _ => false

omit [Port π] in
/-- The kernel as a call finds it: at a tick the clock has advanced. -/
def onset (s : System π) (call : Call) : Kernel π :=
  s.kernel.setClock (call.clock s.kernel.sched.tick)

/-- A call that has nothing to do with sections goes on as its operation does. -/
theorem proceeds_step (h : s.step call = .ok (reply, s')) (keeps : call.keepsSections = true) :
    (s.onset call).Proceeds (call.Bears reply) (s.asks call reply) s'.kernel := by
  unfold step at h
  cases call with
  | exit | enterSection | leaveSection => cases keeps
  | spawn entry =>
    obtain ⟨result, spawn, rfl, -⟩ := request_eq_ok h
    exact .still ((Kernel.inert_spawn spawn).1.mono fun pid born => ⟨⟨entry, rfl⟩, by rw [born]; rfl⟩)
  | waitChild filter options =>
    obtain ⟨result, h, -⟩ := request_eq_ok h
    exact Kernel.proceeds_waitChild h
  | sleep millis =>
    obtain ⟨result, h, -⟩ := request_eq_ok h
    exact Kernel.proceeds_sleep h
  | tick => exact Kernel.proceeds_tick (perform_eq_ok h).1
  | schedule => exact .pass (.refl _) (perform_eq_ok h).1
  | yield => exact .pass (.refl _) (perform_eq_ok h).1
  | lock id =>
    obtain ⟨⟨result, mutex, kernel⟩, lock, eq⟩ := Checked.bind_eq_ok.1 h
    cases eq
    exact Kernel.proceeds_lock lock
  | tryLock id => cases h; exact .still (.refl _)
  | unlock id =>
    obtain ⟨⟨mutex, kernel⟩, unlock, eq⟩ := Checked.bind_eq_ok.1 h
    cases eq
    exact Kernel.proceeds_unlock unlock
  | registerDevice =>
    obtain ⟨result, h, -⟩ := request_eq_ok h
    exact .still (Kernel.inert_registerDevice h)
  | unregisterDevice device =>
    obtain ⟨result, h, -⟩ := request_eq_ok h
    exact .still (Kernel.inert_unregisterDevice h)
  | reportDevice device flags =>
    obtain ⟨result, h, -⟩ := request_eq_ok h
    exact .still (Kernel.inert_reportDevice h)
  | signalDevice device flags =>
    obtain ⟨result, signal, rfl, -⟩ := request_eq_ok h
    have proceeds {new : Pid → Prop} : s.kernel.Proceeds new result.toBool s'.kernel :=
      Kernel.proceeds_signalDevice signal
    cases result with
    | error => exact proceeds
    | ok => exact proceeds
  | reportFile handle flags =>
    obtain ⟨result, h, -⟩ := request_eq_ok h
    exact .still (Kernel.inert_reportFile h)
  | waitDevice device direction =>
    obtain ⟨result, h, -⟩ := request_eq_ok h
    exact Kernel.proceeds_waitDevice h

/-- Every call hands the processor over once at most. -/
theorem hands_step (h : s.step call = .ok (reply, s')) :
    s.kernel.sched.Hands (call.Bears reply) s'.kernel.sched := by
  by_cases keeps : call.keepsSections = true
  · exact ⟨(proceeds_step h keeps).hands.hardware, (proceeds_step h keeps).hands.pointers⟩
  · unfold step at h
    cases call with
    | exit status =>
      obtain ⟨result, h, -⟩ := request_eq_ok h
      exact Kernel.hands_exit h
    | enterSection =>
      rw [Kernel.enterSection_eq_ok (perform_eq_ok h).1]
      exact .of_depth (Scheduler.Stays.refl _).hands
    | leaveSection => exact Kernel.hands_leaveSection (perform_eq_ok h).1
    | _ => exact absurd rfl keeps

/-! ## What is asked for in a section -/

/-- Carries out calls, and keeps whether a pass or a hand-off was asked for in the section that is
open. -/
def trail (s : System π) (asked : Bool) : List Call → Checked (Bool × System π)
  | [] => return (asked, s)
  | call :: calls => do
    let (reply, s') ← s.step call
    s'.trail (0 < s'.kernel.sched.sectionDepth && (asked || s.asks call reply)) calls

theorem run_of_trail (h : s.trail asked calls = .ok (asked', s')) :
    ∃ replies, s.run calls = .ok (replies, s') := by
  induction calls generalizing s asked with
  | nil => cases h; exact ⟨[], rfl⟩
  | cons call calls ih =>
    obtain ⟨⟨reply, s₁⟩, step, rest⟩ := Checked.bind_eq_ok.1 h
    obtain ⟨replies, run⟩ := ih rest
    exact ⟨_, Checked.bind_eq_ok.2 ⟨_, step, Checked.bind_eq_ok.2 ⟨_, run, rfl⟩⟩⟩

/-- The calls are made in one atomic section: none is an exit, and the section stays open. -/
def Encloses (s : System π) : List Call → Prop
  | [] => 0 < s.kernel.sched.sectionDepth
  | call :: calls => 0 < s.kernel.sched.sectionDepth ∧ (∀ status, call ≠ .exit status) ∧
      ∀ reply s', s.step call = .ok (reply, s') → s'.Encloses calls

/-- Whether calls are made in one section can be found out by making them. -/
instance decidableEncloses (s : System π) : DecidablePred s.Encloses
  | [] => inferInstanceAs (Decidable (0 < s.kernel.sched.sectionDepth))
  | call :: calls =>
    have lives : Decidable (∀ status, call ≠ .exit status) :=
      match call with
      | .exit status => .isFalse fun lives => lives status rfl
      | .spawn _ | .waitChild _ _ | .sleep _ | .tick | .schedule | .yield | .enterSection
      | .leaveSection | .lock _ | .tryLock _ | .unlock _ | .registerDevice | .unregisterDevice _
      | .reportDevice _ _ | .signalDevice _ _ | .reportFile _ _ | .waitDevice _ _ => .isTrue nofun
    match step : s.step call with
    | .error _ => decidable_of_iff (0 < s.kernel.sched.sectionDepth ∧ ∀ status, call ≠ .exit status)
        ⟨fun ⟨opened, lives⟩ => ⟨opened, lives, fun _ _ ends => by cases step.symm.trans ends⟩,
          fun ⟨opened, lives, _⟩ => ⟨opened, lives⟩⟩
    | .ok (reply, s') =>
      have := s'.decidableEncloses calls
      decidable_of_iff (0 < s.kernel.sched.sectionDepth ∧ (∀ status, call ≠ .exit status) ∧
          s'.Encloses calls)
        ⟨fun ⟨opened, lives, rest⟩ =>
            ⟨opened, lives, fun _ _ ends => by cases step.symm.trans ends; exact rest⟩,
          fun ⟨opened, lives, rest⟩ => ⟨opened, lives, rest reply s' step⟩⟩

/-- A pass is pending exactly if one was asked for in the section that is open. -/
structure Deferring (s : System π) (asked : Bool) : Prop extends Healthy s where
  /-- A pass is pending if one was asked for. -/
  pending : s.kernel.sched.passPending = asked
  /-- Outside sections none was. -/
  closed : s.kernel.sched.sectionDepth = 0 → asked = false

/-- What the calls of a section leave alone. -/
structure Uninterrupted (s s' : System π) : Prop where
  /-- The same task is current. -/
  current : s'.kernel.current = s.kernel.current
  /-- The port was asked for no switch. -/
  hardware : Port.Serves [] s.kernel.sched.port s'.kernel.sched.port
  /-- There was no pass. -/
  passes : s'.kernel.sched.passes = s.kernel.sched.passes
  /-- Nothing was delivered, and nobody began to wait. -/
  withholds : s.kernel.Withholds s'.kernel

namespace Uninterrupted

variable {s₁ : System π}

@[refl] theorem refl (s : System π) : Uninterrupted s s :=
  ⟨rfl, .refl _, rfl, .refl _⟩

theorem trans (first : Uninterrupted s s₁) (rest : Uninterrupted s₁ s') : Uninterrupted s s' :=
  ⟨rest.current.trans first.current, first.hardware.trans rest.hardware,
    rest.passes.trans first.passes, first.withholds.trans rest.withholds⟩

/-- A section that is entered or left within another one changes nothing else. -/
theorem of_depth {depth : Nat}
    (h : s'.kernel = s.kernel.setDepth depth) : Uninterrupted s s' := by
  constructor
  case current => rw [h]; rfl
  case hardware => rw [h]; exact .refl _
  case passes => rw [h]; rfl
  case withholds => rw [h]; exact .of_eq rfl rfl rfl

end Uninterrupted

/-- A call in a section that stays open leaves the processor alone. -/
theorem uninterrupted_step (opened : 0 < s.kernel.sched.sectionDepth)
    (lives : ∀ status, call ≠ .exit status) (h : s.step call = .ok (reply, s'))
    (stays : 0 < s'.kernel.sched.sectionDepth) : Uninterrupted s s' := by
  by_cases keeps : call.keepsSections = true
  · obtain ⟨k₁, inert, eq⟩ := (proceeds_step h keeps).inside opened
    obtain ⟨pending, eq⟩ : ∃ passPending, s'.kernel =
        { k₁ with sched := { k₁.sched with passPending } } := by
      rw [eq]
      split <;> exact ⟨_, rfl⟩
    constructor
    case current => rw [eq]; exact inert.stays.current
    case hardware => rw [eq]; exact inert.stays.hardware
    case passes => rw [eq]; exact inert.stays.passes
    case withholds =>
      rw [eq]
      exact (Kernel.Withholds.of_eq rfl rfl rfl : s.kernel.Withholds (s.onset call)).trans
        (inert.withholds.trans (.of_eq rfl rfl rfl))
  · unfold step at h
    cases call with
    | exit status => exact absurd rfl (lives status)
    | enterSection => exact .of_depth (Kernel.enterSection_eq_ok (perform_eq_ok h).1)
    | leaveSection =>
      obtain ⟨-, ⟨-, -, passed⟩ | ⟨-, eq⟩⟩ := Kernel.leaveSection_eq_ok (perform_eq_ok h).1
      · rw [passed.depth] at stays
        exact absurd stays (Nat.lt_irrefl 0)
      · exact .of_depth eq
    | _ => exact absurd rfl keeps

namespace Deferring

theorem boot {port : π} {k : Kernel π} (booted : Kernel.boot port = .ok (.ok k))
    (mutexes : MutexId → Mutex) : Deferring ⟨k, mutexes⟩ false := by
  have pending : k.sched.passPending = false := by
    obtain ⟨stack, stackPointer, -, laid, e, id, -, -, -, -, -, rfl⟩ := Kernel.boot_eq_ok booted
    rfl
  exact ⟨healthy_boot booted mutexes, pending, fun _ => rfl⟩

theorem step (h : s.Deferring asked) (step : s.step call = .ok (reply, s')) :
    s'.Deferring (0 < s'.kernel.sched.sectionDepth && (asked || s.asks call reply)) := by
  suffices accounts : s'.kernel.sched.passPending =
      (decide (0 < s'.kernel.sched.sectionDepth) && (asked || s.asks call reply)) by
    refine ⟨h.toHealthy.step step, accounts, fun closed => ?_⟩
    rw [closed]
    rfl
  by_cases keeps : call.keepsSections = true
  · have pending := (proceeds_step step keeps).passPending fun closed =>
      h.pending.trans (h.closed closed)
    rw [← h.pending]
    exact pending
  · have kept {depth : Nat} (eq : s'.kernel = s.kernel.setDepth depth)
        (closed : depth = 0 → asked = false) : s'.kernel.sched.passPending =
          (decide (0 < s'.kernel.sched.sectionDepth) && (asked || false)) := by
      rw [eq]
      rcases Nat.eq_zero_or_pos depth with none | some
      · simp [Kernel.setDepth, none, h.pending, closed none]
      · simp [Kernel.setDepth, some, h.pending]
    unfold System.step at step
    cases call with
    | exit status =>
      obtain ⟨result, exit, -⟩ := request_eq_ok step
      rcases Kernel.sections_exit exit with same | ⟨depth, pending⟩
      · exact kept same h.closed
      · rw [depth, pending]
        rfl
    | enterSection =>
      exact kept (Kernel.enterSection_eq_ok (perform_eq_ok step).1) (fun none => by cases none)
    | leaveSection =>
      obtain ⟨opened, ⟨-, -, passed⟩ | ⟨others, eq⟩⟩ :=
        Kernel.leaveSection_eq_ok (perform_eq_ok step).1
      · rw [passed.depth, passed.pending]
        rfl
      · refine kept eq fun none => ?_
        have last : s.kernel.sched.sectionDepth = 1 := by omega
        rw [← h.pending]
        exact Bool.eq_false_iff.2 fun pending => others ⟨last, pending⟩
    | _ => exact absurd rfl keeps

theorem trail (h : s.Deferring asked) (run : s.trail asked calls = .ok (asked', s')) :
    s'.Deferring asked' := by
  induction calls generalizing s asked with
  | nil => cases run; exact h
  | cons call calls ih =>
    obtain ⟨⟨reply, s₁⟩, step, rest⟩ := Checked.bind_eq_ok.1 run
    exact ih (h.step step) rest

/-- Calls in a section that stays open leave the processor alone. -/
theorem uninterrupted (h : s.Deferring asked) (encloses : s.Encloses calls)
    (run : s.trail asked calls = .ok (asked', s')) : Uninterrupted s s' := by
  induction calls generalizing s asked with
  | nil => cases run; exact .refl _
  | cons call calls ih =>
    obtain ⟨⟨reply, s₁⟩, step, rest⟩ := Checked.bind_eq_ok.1 run
    obtain ⟨opened, lives, encloses⟩ := encloses
    have encloses := encloses reply s₁ step
    have stays : 0 < s₁.kernel.sched.sectionDepth := by
      cases calls with
      | nil => exact encloses
      | cons => exact encloses.1
    exact (uninterrupted_step opened lives step stays).trans (ih (h.step step) encloses rest)

/-- Leaving the outermost section runs a pass if one was asked for, and else does nothing more. -/
theorem leave (h : s.Deferring asked) (last : s.kernel.sched.sectionDepth = 1)
    (step : s.step .leaveSection = .ok (reply, s')) :
    if asked then (s.kernel.setDepth 0).Passed s'.kernel
    else s' = { s with kernel := s.kernel.setDepth 0 } := by
  obtain ⟨left, -, mutexes⟩ := perform_eq_ok (f := Kernel.leaveSection) step
  rcases (Kernel.leaveSection_eq_ok left).2 with ⟨-, pending, passed⟩ | ⟨others, eq⟩
  · rw [if_pos (h.pending.symm.trans pending)]
    exact passed
  · rw [if_neg fun asks => others ⟨last, h.pending.trans asks⟩]
    rw [last] at eq
    cases s'
    cases eq
    cases mutexes
    rfl

end Deferring

/-! ## Sections are atomic -/

/-- Atomic sections are atomic, and one pass makes up for what was asked for in them. -/
structure Atomic (s : System π) (asked : Bool) : Prop where
  /-- Outside sections no pass is pending. -/
  quiet : s.kernel.sched.sectionDepth = 0 → s.kernel.sched.passPending = false
  /-- Calls in a section that stays open leave the processor to its task, which is running. -/
  inside : ∀ {calls asked' s'}, s.Encloses calls → s.trail asked calls = .ok (asked', s') →
    Uninterrupted s s' ∧ s'.kernel.Settled
  /-- When it is left in the end, one pass is run if anything was asked for in it, and else none. -/
  leave : ∀ {calls asked' s' reply s''}, s.Encloses calls →
    s.trail asked calls = .ok (asked', s') → s'.kernel.sched.sectionDepth = 1 →
    s'.step .leaveSection = .ok (reply, s'') →
      if asked' then (s'.kernel.setDepth 0).Passed s''.kernel
      else s'' = { s' with kernel := s'.kernel.setDepth 0 }

/-- Whatever calls are made on a kernel that was just built, with any mutexes, sections are atomic.  On a
reliable port an open section can be left. -/
theorem atomic_of_trail {port : π} {k : Kernel π} {mutexes : MutexId → Mutex}
    (booted : Kernel.boot port = .ok (.ok k))
    (run : System.trail ⟨k, mutexes⟩ false calls = .ok (asked, s)) :
    s.Atomic asked ∧ ∀ [ReliablePort π], ReliablePort.Placed port →
      0 < s.kernel.sched.sectionDepth → ∃ s', s.step .leaveSection = .ok (.done, s') := by
  have deferring := (Deferring.boot booted mutexes).trail run
  constructor
  · exact
      { quiet := fun closed => deferring.pending.trans (deferring.closed closed)
        inside := fun encloses inside =>
          ⟨deferring.uninterrupted encloses inside, (deferring.trail inside).settled⟩
        leave := fun _ inside last left => (deferring.trail inside).leave last left }
  · intro reliable placed opened
    obtain ⟨replies, run⟩ := run_of_trail run
    have fit : Moment.Fit ⟨s.kernel, [], none⟩ ∧ s.kernel.Settled :=
      run_keeps (I := fun s => Moment.Fit ⟨s.kernel, [], none⟩ ∧ s.kernel.Settled)
        (fun ⟨fit, settled⟩ step => ⟨fit_step fit settled step,
          (operates_step fit.sound settled step).settled fit.sound⟩)
        ⟨Kernel.fit_boot placed booted, Kernel.settled_boot booted⟩ run
    obtain ⟨k', left⟩ := Kernel.leaveSection_total fit.1 opened
    exact ⟨_, Checked.bind_eq_ok.2 ⟨_, left, rfl⟩⟩

/-- A section in which the clock ticks, a device reports, a mutex is handed on and a sleep is refused:
one pass makes up for all of it. -/
theorem atomic_of_trail_host : ∃ k s s' s'', Kernel.boot (HostPort.new false) = .ok (.ok k) ∧
    System.trail ⟨k, fun _ => .free⟩ false [.spawn (.program 0), .spawn (.program 1), .schedule,
      .lock 0, .schedule, .lock 0, .registerDevice, .enterSection] = .ok (false, s) ∧
    s.trail false [.enterSection, .tick, .signalDevice 0 DeviceFlags.rx, .unlock 0, .sleep 50,
      .leaveSection] = .ok (true, s') ∧
    s'.step .leaveSection = .ok (.done, s'') ∧ Uninterrupted s s' ∧
    (s'.kernel.setDepth 0).Passed s''.kernel := by
  have runs : (((Kernel.boot (HostPort.new false)).toOption.bind Except.toOption).any fun k =>
        (System.trail ⟨k, fun _ => .free⟩ false [.spawn (.program 0), .spawn (.program 1), .schedule,
          .lock 0, .schedule, .lock 0, .registerDevice, .enterSection]).toOption.any fun before =>
            !before.1 && decide (before.2.Encloses [.enterSection, .tick,
              .signalDevice 0 DeviceFlags.rx, .unlock 0, .sleep 50, .leaveSection]) &&
            (before.2.trail false [.enterSection, .tick, .signalDevice 0 DeviceFlags.rx, .unlock 0,
              .sleep 50, .leaveSection]).toOption.any fun inside =>
                inside.1 && decide (inside.2.kernel.sched.sectionDepth = 1) &&
                (inside.2.step .leaveSection).toOption.any fun left => left.1 = .done) = true := by
    decide +kernel
  obtain ⟨k, booted, runs⟩ := Kernel.exists_of_boot runs
  obtain ⟨⟨asked, s⟩, before, runs⟩ := Checked.exists_of_any runs
  simp only [Bool.and_eq_true, Bool.not_eq_true', decide_eq_true_eq] at runs
  obtain ⟨⟨rfl, encloses⟩, runs⟩ := runs
  obtain ⟨⟨asked, s'⟩, inside, runs⟩ := Checked.exists_of_any runs
  simp only [Bool.and_eq_true, decide_eq_true_eq] at runs
  obtain ⟨⟨rfl, last⟩, runs⟩ := runs
  obtain ⟨⟨reply, s''⟩, left, answer⟩ := Checked.exists_of_any runs
  cases of_decide_eq_true answer
  have atomic := (atomic_of_trail booted before).1
  exact ⟨k, s, s', s'', booted, before, inside, left, (atomic.inside encloses inside).1,
    atomic.leave encloses inside last left⟩

end System

end Rtos

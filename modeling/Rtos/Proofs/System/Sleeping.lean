import Rtos.Proofs.System.Rounds
import Rtos.Proofs.System.Scene

/-!
# Sleep

A task that goes to sleep writes down the time and for how long.  While it sleeps nothing touches
either (`Scheduler.Sleeps`), and only a pass that finds it rested puts it back on the processor
(`Kernel.Rests`).  The clock moves with ticks alone (`Scene.clock_step`), so the time that a pass reads
off it tells how many ticks there were, though the clock may have wrapped.

What counts is the difference of two readings.  It is the number of ticks up to the range of the clock:
never more, so nobody is resumed too early, and the same as long as the clock went round less than once.
-/

namespace Rtos

/-! ## Sleepers -/

/-- A task sleeps, since some time and for so many ticks. -/
structure Task.Asleep (since length : UInt64) (t : Task) : Prop where
  /-- The slot is taken. -/
  active : t.active = true
  /-- The task sleeps. -/
  state : t.state = .sleeping
  /-- It went to sleep at this time. -/
  stamp : t.stamp = since
  /-- It sleeps for so long. -/
  length : t.sleepLength = length

variable {since length : UInt64} {pid : Pid}

/-- A sleeper can run once it has slept for long enough. -/
theorem Task.Asleep.canRun_iff {t : Task} {now : UInt64} (h : t.Asleep since length) :
    t.CanRun now ↔ length ≤ now - since := by
  obtain ⟨active, state, rfl, rfl⟩ := h
  constructor
  · rintro ⟨-, ready | running | ⟨-, rested⟩⟩
    · cases state.symm.trans ready
    · cases state.symm.trans running
    · exact rested
  · intro rested
    exact ⟨active, .inr (.inr ⟨state, rested⟩)⟩

/-- A step that puts nobody on the processor lets a sleeper sleep on. -/
theorem SlotStep.asleep {label : Label} {t t' : Task} (step : SlotStep pid label t t')
    (asleep : t.Asleep since length) (other : label ≠ .switches) : t'.Asleep since length := by
  obtain ⟨active, state, stamp, sleepLength⟩ := asleep
  cases step with
  | same | reap | record => exact ⟨active, state, stamp, sleepLength⟩
  | change change =>
    cases change with
    | demote | save => exact absurd rfl other
    | sleep running | awaitMutex running => cases state.symm.trans running
    | grant parked => cases state.symm.trans parked
  | promote => exact absurd rfl other
  | awaitChild running | awaitDevice running | die running => cases state.symm.trans running
  | wake wakes => rcases wakes.parked with parked | parked <;> cases state.symm.trans parked
  | wakeDirect parked => cases state.symm.trans parked
  | freed dead => cases state.symm.trans dead
  | spawned free => cases active.symm.trans free

variable {π : Type}

namespace Scheduler

variable {s r u : Scheduler π} {p : Pid} {t t' : Task}

/-- The task in a slot sleeps, since some time and for so many ticks. -/
def Sleeps (s : Scheduler π) (pid : Pid) (since length : UInt64) : Prop :=
  ∃ t, s.task? pid = some t ∧ t.Asleep since length

/-- A pass that finds a sleeper can choose it once it has slept for long enough. -/
theorem Sleeps.canRun_iff (h : s.Sleeps pid since length) :
    s.CanRun pid ↔ length ≤ s.tick - since := by
  obtain ⟨t, slot, asleep⟩ := h
  rw [← asleep.canRun_iff]
  constructor
  · rintro ⟨t', slot', runs⟩
    cases slot.symm.trans slot'
    exact runs
  · intro runs
    exact ⟨t, slot, runs⟩

theorem sleeps_setTask (found : s.task? p = some t)
    (same : p = pid → (t'.Asleep since length ↔ t.Asleep since length)) :
    (s.setTask p t').Sleeps pid since length ↔ s.Sleeps pid since length := by
  unfold Sleeps
  rw [task?_setTask found]
  split
  case isTrue eq =>
    subst eq
    rw [found]
    simp only [Option.some.injEq, exists_eq_left', same rfl]
  case isFalse => exact Iff.rfl

/-- Making the running task ready wakes nobody. -/
theorem sleeps_demote (h : s.demote p = .ok r) :
    r.Sleeps pid since length ↔ s.Sleeps pid since length := by
  obtain ⟨t, found, ⟨running, rfl⟩ | ⟨-, rfl⟩⟩ := demote_eq_ok h
  · refine sleeps_setTask found fun _ => iff_of_false (fun asleep => nomatch asleep.state) ?_
    intro asleep
    cases running.symm.trans asleep.state
  · exact Iff.rfl

theorem sleeps_promote (h : s.promote p = .ok r) (other : p ≠ pid) :
    r.Sleeps pid since length ↔ s.Sleeps pid since length := by
  obtain ⟨t, found, rfl⟩ := promote_eq_ok h
  exact sleeps_setTask found fun same => absurd same other

variable [Port π]

theorem sleeps_switchTask {previous next : Pid} (h : s.switchTask previous next = .ok r) :
    r.Sleeps pid since length ↔ s.Sleeps pid since length := by
  unfold switchTask at h
  split at h
  case isTrue => cases h; exact Iff.rfl
  case isFalse =>
    obtain ⟨resumed, -, h⟩ := Checked.bind_eq_ok.1 h
    obtain ⟨saved, -, h⟩ := Checked.bind_eq_ok.1 h
    obtain ⟨t, found, rfl⟩ := modify_eq_ok.1 h
    exact sleeps_setTask (s := { s with port := _ }) found fun _ =>
      ⟨fun ⟨active, state, stamp, length⟩ => ⟨active, state, stamp, length⟩,
        fun ⟨active, state, stamp, length⟩ => ⟨active, state, stamp, length⟩⟩

/-- A hand-off to another task, which gets the processor or gets ready, wakes no sleeper. -/
theorem sleeps_handOff (h : s.handOff p = .ok r) (other : p ≠ pid) :
    (r.Sleeps pid since length ↔ s.Sleeps pid since length) ∧
      (r.current = p ∨ r.current = s.current) := by
  obtain ⟨s₁, ready, h⟩ := Checked.bind_eq_ok.1 h
  obtain ⟨t, found, rfl⟩ := modify_eq_ok.1 ready
  have granted : (s.setTask p { t with state := .ready }).Sleeps pid since length ↔
      s.Sleeps pid since length := sleeps_setTask found fun same => absurd same other
  split at h
  case isTrue => cases h; exact ⟨granted, .inr rfl⟩
  case isFalse =>
    obtain ⟨s₂, demoted, h⟩ := Checked.bind_eq_ok.1 h
    obtain ⟨s₃, promoted, switched⟩ := Checked.bind_eq_ok.1 h
    constructor
    · exact (sleeps_switchTask switched).trans ((sleeps_promote promoted other).trans
        ((sleeps_demote demoted).trans granted))
    · obtain ⟨v, -, rfl⟩ := promote_eq_ok promoted
      obtain ⟨port, tasks, rfl, -, -⟩ := switchTask_eq_ok switched
      exact .inl rfl

end Scheduler

/-! ## Who is resumed has slept -/

/-- A task sleeps on, or it has the processor and has slept for long enough. -/
structure Kernel.Rests (k : Kernel π) (pid : Pid) (since length : UInt64) : Prop where
  /-- Without the processor it sleeps on. -/
  asleep : k.current ≠ pid → k.sched.Sleeps pid since length
  /-- With it, it has slept for long enough. -/
  rested : k.current = pid → length ≤ k.sched.tick - since

variable [Port π]

namespace Kernel

variable {k k' : Kernel π} {held held' : List EntityId} {P : Label → Prop} {found : Scheduler π}

/-- Moves that put nobody on the processor leave it with its task. -/
theorem current_of_moves {m m' : Moment π} (moves : Moves P m m') (still : ¬P .switches) :
    m'.kernel.current = m.kernel.current := by
  refine moves.keeps (I := fun m' => m'.kernel.current = m.kernel.current) rfl ?_
  intro label m₁ m₂ allowed move same
  exact (move.current (by rintro rfl; exact still allowed)).trans same

/-- Moves that put nobody on the processor let sleepers sleep on. -/
theorem sleeps_of_moves {m m' : Moment π} (moves : Moves P m m') (sound : m.Sound)
    (still : ¬P .switches) (sleeps : m.kernel.sched.Sleeps pid since length) :
    m'.kernel.sched.Sleeps pid since length := by
  refine (moves.keeps (I := fun m => m.Sound ∧ m.kernel.sched.Sleeps pid since length)
    ⟨sound, sleeps⟩ ?_).2
  rintro label m₁ m₂ allowed move ⟨sound, t, slot, asleep⟩
  obtain ⟨t', slot', step⟩ := move.slotStep sound slot
  exact ⟨move.sound sound, t', slot', step.asleep asleep (by rintro rfl; exact still allowed)⟩

/-- One pass, taken apart: whoever is not chosen sleeps behind it as the pass has found it, and the
clock shows what it showed then. -/
theorem sleeps_of_pass (h : k.schedule = .ok k') (closed : k.sched.sectionDepth = 0) (pid : Pid)
    (since length : UInt64) :
    ∃ k₁, k.deliverEvents = .ok k₁ ∧ k₁.sched.First k₁.current k'.current ∧
      k'.sched.tick = k₁.sched.tick ∧ (k'.current ≠ pid →
        (k'.sched.Sleeps pid since length ↔ k₁.sched.Sleeps pid since length)) := by
  cases PassStep.of_eq_ok h with
  | inside opened => omega
  | @outside k₁ previous next s s' _ delivered chosen switched =>
    obtain ⟨-, now, first⟩ := Scheduler.first_of_choose chosen
    obtain ⟨s₁, demoted, chosen⟩ := Checked.bind_eq_ok.1 chosen
    obtain ⟨s₂, promoted, eq⟩ := Checked.bind_eq_ok.1 chosen
    cases eq
    obtain ⟨-, -, -, tick, -⟩ := Scheduler.hands_of_switch demoted promoted switched
    have current : s'.current = s₂.current := by
      obtain ⟨port, tasks, rfl, -, -⟩ := Scheduler.switchTask_eq_ok switched
      rfl
    have chosen : s'.current = _ := current.trans now
    refine ⟨k₁, delivered, ?_, tick, fun other => ?_⟩
    · change k₁.sched.First k₁.current s'.current
      rw [chosen]
      exact first
    · have other : _ ≠ pid := fun same => other (chosen.trans same)
      exact (Scheduler.sleeps_switchTask switched).trans
        ((Scheduler.sleeps_promote promoted other).trans (Scheduler.sleeps_demote demoted))

/-- A pass outside of atomic sections lets sleepers rest, the current task among them. -/
theorem rests_of_pass (sound : Moment.Sound ⟨k, held, none⟩) (busy : pid ≠ idlePid)
    (sleeps : k.sched.Sleeps pid since length) (closed : k.sched.sectionDepth = 0)
    (h : k.schedule = .ok k') : k'.Rests pid since length := by
  obtain ⟨k₁, delivered, first, tick, same⟩ := sleeps_of_pass h closed pid since length
  have sleeps : k₁.sched.Sleeps pid since length :=
    sleeps_of_moves (moves_deliverEvents sound delivered).1 sound (by rintro (⟨⟨⟩⟩ | ⟨⟨⟩⟩)) sleeps
  refine ⟨fun other => (same other).2 sleeps, ?_⟩
  rintro rfl
  rw [tick]
  exact sleeps.canRun_iff.1 (first.able busy)

theorem rests_of_schedule (sound : Moment.Sound ⟨k, held, none⟩) (busy : pid ≠ idlePid)
    (sleeps : k.sched.Sleeps pid since length) (away : k.current ≠ pid)
    (h : k.schedule = .ok k') : k'.Rests pid since length := by
  rcases schedule_passes h with ⟨-, rfl⟩ | ⟨closed, -⟩
  · exact ⟨fun _ => sleeps, fun same => absurd same away⟩
  · exact rests_of_pass sound busy sleeps closed h

/-- Every operation that puts nobody on the processor but by a pass lets sleepers rest. -/
theorem Operates.rests (h : Operates P held held' k k') (still : ¬P .switches)
    (sound : Moment.Sound ⟨k, held, .none⟩) (busy : pid ≠ idlePid)
    (sleeps : k.sched.Sleeps pid since length) (away : k.current ≠ pid) :
    k'.Rests pid since length := by
  obtain ⟨k₁, body, closes⟩ := h
  have sleeps := sleeps_of_moves body sound still sleeps
  have away : k₁.current ≠ pid := fun same =>
    away ((current_of_moves body still).symm.trans same)
  rcases closes with ⟨-, rfl⟩ | ⟨-, pass⟩
  · exact ⟨fun _ => sleeps, fun same => absurd same away⟩
  · exact rests_of_schedule (body.sound sound) busy sleeps away pass

/-- An unlock hands the processor to a task that waits for the mutex, and so to no sleeper. -/
theorem rests_unlock {m m' : Mutex} (sleeps : k.sched.Sleeps pid since length)
    (away : k.current ≠ pid) (h : k.unlock m = .ok (m', k')) : k'.Rests pid since length := by
  cases UnlockStep.of_eq_ok h with
  | frees => exact ⟨fun _ => sleeps, fun same => absurd same away⟩
  | @hands waiter _ _ _ _ _ slot _ waits handOff =>
    -- nobody is parked on a mutex and asleep at once
    have other : waiter ≠ pid := by
      rintro rfl
      obtain ⟨t', slot', asleep⟩ := sleeps
      cases slot.symm.trans slot'
      cases waits.symm.trans asleep.state
    obtain ⟨same, current⟩ := Scheduler.sleeps_handOff handOff other
    refine ⟨fun _ => same.2 sleeps, fun back => ?_⟩
    rcases current with granted | stays
    · exact absurd (granted.symm.trans back) other
    · exact absurd (stays.symm.trans back) away

theorem rests_sleep {millis : UInt32} (sound : Moment.Sound ⟨k, held, none⟩) (settled : k.Settled)
    (busy : k.current ≠ idlePid) (h : k.sleep millis = .ok (.ok (), k')) :
    k'.sched.tick = k.sched.tick ∧ k'.Rests k.current k.sched.tick (ticksOfMillis millis) := by
  obtain ⟨u, slot, running, alive⟩ := settled.alive sound
  cases SleepStep.of_eq_ok h with
  | parks outside stamps parks pass =>
    obtain ⟨t, found, rfl⟩ := Scheduler.park_eq_ok stamps parks
    cases slot.symm.trans found
    have park : Move _ ⟨k, held, none⟩ _ := .change found
      (.sleep running (ticksOfMillis millis) k.sched.tick)
    have active : u.active = true := Task.active_of_alive alive
    have tick := tick_schedule pass
    refine ⟨tick, rests_of_pass (park.sound sound) busy ?_ outside pass⟩
    exact ⟨_, Scheduler.task?_setTask_self found _, active, rfl, rfl, rfl⟩

/-- A pass whose outcome lets a task rest finds it able to run exactly if it has slept for long
enough. -/
theorem RunsPass.canRun_iff (h : k.RunsPass found k') (busy : pid ≠ idlePid)
    (rests : k'.Rests pid since length) :
    found.CanRun pid ↔ length ≤ k'.sched.tick - since := by
  obtain ⟨k₀, k₁, -, -, closed, delivered, rfl, pass⟩ := h
  obtain ⟨k₂, delivered', first, tick, same⟩ := sleeps_of_pass pass closed pid since length
  cases delivered.symm.trans delivered'
  by_cases back : k'.current = pid
  · rw [back] at first
    exact iff_of_true (first.able busy) (rests.rested back)
  · rw [tick]
    exact ((same back).1 (rests.asleep back)).canRun_iff

end Kernel

/-! ## The clock -/

omit [Port π] in
theorem Kernel.tick_closeSections (k : Kernel π) (p : Pid) :
    (k.closeSections p).sched.tick = k.sched.tick := by
  unfold closeSections
  split <;> rfl

theorem Kernel.tick_leaveSection {k k' : Kernel π} (h : k.leaveSection = .ok k') :
    k'.sched.tick = k.sched.tick := by
  cases LeaveStep.of_eq_ok h with
  | passes _ _ pass =>
    have tick := tick_schedule pass
    exact tick
  | closes => rfl

/-- A tick advances the clock, and no other call moves it. -/
theorem System.clock_step {s s' : System π} {call : Call} {reply : Reply}
    (h : s.step call = .ok (reply, s')) :
    s'.kernel.sched.tick = call.clock s.kernel.sched.tick := by
  by_cases keeps : call.keepsSections = true
  · exact (proceeds_step h keeps).tick
  · unfold step at h
    cases call with
    | exit status =>
      obtain ⟨result, h, -⟩ := request_eq_ok h
      rcases Kernel.exit_stays h with same | ⟨k₁, stays, pass⟩
      · rw [same]
        rfl
      · rw [Kernel.tick_schedule pass, Kernel.tick_closeSections, stays.tick]
        rfl
    | enterSection =>
      rw [Kernel.enterSection_eq_ok (perform_eq_ok h).1]
      rfl
    | leaveSection => exact Kernel.tick_leaveSection (perform_eq_ok h).1
    | _ => exact absurd rfl keeps

/-- How many ticks a deed makes. -/
def Deed.ticks : Deed → Nat
  | .call .tick => 1
  | _ => 0

namespace Scene

variable {s s' s₁ : Scene π} {deed : Deed} {reply : Reply} {n : Nat}

theorem inert_outside (h : s.step deed = .ok (reply, s')) (outside : ∀ call, deed ≠ .call call) :
    s.kernel.Inert (fun _ => False) s'.kernel := by
  cases deed with
  | call call => exact absurd rfl (outside call)
  | create parent =>
    obtain ⟨⟨result, k⟩, created, next⟩ := Checked.bind_eq_ok.1 h
    cases result <;> cases next <;> exact .createEntity created
  | retain id =>
    obtain ⟨entities, -, eq⟩ := Checked.bind_eq_ok.1 h
    cases eq
    exact .of_eq rfl rfl rfl
  | letGo id =>
    unfold step at h
    dsimp only at h
    split at h
    case isTrue =>
      obtain ⟨k, released, eq⟩ := Checked.bind_eq_ok.1 h
      cases eq
      exact .release released
    case isFalse => cases h; exact .refl _
  | post event =>
    unfold step at h
    dsimp only at h
    split at h
    case isTrue =>
      obtain ⟨⟨result, k⟩, dispatched, next⟩ := Checked.bind_eq_ok.1 h
      cases result <;> cases next <;> exact .dispatch dispatched
    case isFalse => cases h; exact .refl _

/-- A deed moves the clock by its ticks. -/
theorem clock_step (h : s.step deed = .ok (reply, s')) :
    s'.kernel.sched.tick = s.kernel.sched.tick + .ofNat deed.ticks := by
  by_cases inside : ∃ call, deed = .call call
  · obtain ⟨call, rfl⟩ := inside
    obtain ⟨⟨_, system⟩, step, eq⟩ := Checked.bind_eq_ok.1 h
    cases eq
    rw [System.clock_step step]
    cases call <;> first | rfl | exact (UInt64.add_zero _).symm
  · have outside : ∀ call, deed ≠ .call call := fun call eq => inside ⟨call, eq⟩
    have none : deed.ticks = 0 := by
      cases deed with
      | call call => exact absurd rfl (outside call)
      | create | retain | letGo | post => rfl
    rw [(inert_outside h outside).stays.tick, none]
    exact (UInt64.add_zero _).symm

/-! ## From falling asleep until being resumed -/

/-- What is done until task `pid` is current again, and how many ticks are made meanwhile. -/
inductive Meanwhile (pid : Pid) (start : Scene π) : Nat → Scene π → Prop
  /-- Nothing was done yet. -/
  | refl : Meanwhile pid start 0 start
  /-- Another deed. The task may be current behind it. -/
  | deed {n : Nat} {s s' : Scene π} {deed : Deed} {reply : Reply} (before : Meanwhile pid start n s)
      (away : s.kernel.current ≠ pid) (step : s.step deed = .ok (reply, s')) :
      Meanwhile pid start (n + deed.ticks) s'

/-- Task `pid` went to sleep so many ticks ago. -/
structure Slumbers (s : Scene π) (pid : Pid) (since length : UInt64) (n : Nat) : Prop where
  /-- The kernel is sound. -/
  sound : Moment.Sound ⟨s.kernel, s.held, none⟩
  /-- The current task runs. -/
  settled : s.kernel.Settled
  /-- The clock tells how many ticks there were. -/
  clock : s.kernel.sched.tick = since + .ofNat n
  /-- The task sleeps on, or it has slept for long enough. -/
  rests : s.kernel.Rests pid since length

omit [Port π] in
theorem Slumbers.elapsed (h : s.Slumbers pid since length n) :
    s.kernel.sched.tick - since = .ofNat n := by
  rw [h.clock, UInt64.add_comm, UInt64.add_sub_cancel]

/-- Whatever somebody else does, a sleeper sleeps on until it has slept for long enough. -/
theorem rests_step (sound : Moment.Sound ⟨s.kernel, s.held, none⟩) (settled : s.kernel.Settled)
    (busy : pid ≠ idlePid) (rests : s.kernel.Rests pid since length) (away : s.kernel.current ≠ pid)
    (h : s.step deed = .ok (reply, s')) : s'.kernel.Rests pid since length := by
  have sleeps := rests.asleep away
  by_cases inside : ∃ call, deed = .call call
  · obtain ⟨call, rfl⟩ := inside
    obtain ⟨⟨_, system⟩, step, eq⟩ := Checked.bind_eq_ok.1 h
    cases eq
    -- an unlock alone may put a task on the processor without a pass
    by_cases unlocks : ∃ id, call = .unlock id
    · obtain ⟨id, rfl⟩ := unlocks
      obtain ⟨⟨mutex, kernel⟩, unlock, eq⟩ := Checked.bind_eq_ok.1 step
      cases eq
      exact Kernel.rests_unlock sleeps away unlock
    · exact (System.operates_step sound settled step).rests
        (fun switches => unlocks (Call.switches_of_labels switches)) sound busy sleeps away
  · have moves := moves_outside h fun call eq => inside ⟨call, eq⟩
    have still : ¬(Label.Calm .switches ∨ Label.switches = .shares) := by
      rintro ((⟨⟨⟩⟩ | ⟨payload, ⟨⟩⟩) | ⟨⟨⟩⟩)
    have current := Kernel.current_of_moves moves still
    exact ⟨fun _ => Kernel.sleeps_of_moves moves sound still sleeps,
      fun back => absurd (current.symm.trans back) away⟩

theorem Slumbers.step (h : s.Slumbers pid since length n) (busy : pid ≠ idlePid)
    (away : s.kernel.current ≠ pid) (step : s.step deed = .ok (reply, s')) :
    s'.Slumbers pid since length (n + deed.ticks) := by
  obtain ⟨moves, settled⟩ := moves_step h.sound h.settled step
  refine ⟨moves.sound h.sound, settled, ?_, rests_step h.sound h.settled busy h.rests away step⟩
  rw [Scene.clock_step step, h.clock, UInt64.ofNat_add, UInt64.add_assoc]

theorem Slumbers.meanwhile (h : s₁.Slumbers pid since length 0) (busy : pid ≠ idlePid)
    (passed : Meanwhile pid s₁ n s) : s.Slumbers pid since length n := by
  induction passed with
  | refl => exact h
  | deed before away step ih => exact ih.step busy away step

/-- The sleep of the current task of `s`, which `s₁` is the beginning of, lasts until its deadline. -/
structure SleepsOut (s s₁ : Scene π) (length : UInt64) : Prop where
  /-- Until the task is current again, its slot says that it sleeps, since when and for how long. -/
  asleep : ∀ {n s'}, Meanwhile s.kernel.current s₁ n s' → s'.kernel.current ≠ s.kernel.current →
    s'.kernel.sched.Sleeps s.kernel.current s.kernel.sched.tick length
  /-- It is not current again before it has slept for long enough. -/
  early : ∀ {n s'}, Meanwhile s.kernel.current s₁ n s' → s'.kernel.current = s.kernel.current →
    length.toNat ≤ n
  /-- The pass that begins the sleep finds the task able to run if it asked for no time at all. -/
  first : ∀ {found}, s.kernel.RunsPass found s₁.kernel →
    (found.CanRun s.kernel.current ↔ length.toNat = 0)
  /-- Where a deed runs a pass before the task is current again, the pass finds it able to run
  exactly if it has slept for long enough. -/
  passes : ∀ {n s' deed reply s''}, Meanwhile s.kernel.current s₁ n s' →
    s'.kernel.current ≠ s.kernel.current → s'.step deed = .ok (reply, s'') →
    (s''.kernel.sched.passes = s'.kernel.sched.passes ∨
        ∃ found, s'.kernel.RunsPass found s''.kernel) ∧
      ∀ {found}, s'.kernel.RunsPass found s''.kernel → n + deed.ticks < 2 ^ 64 →
        (found.CanRun s.kernel.current ↔ length.toNat ≤ n + deed.ticks)

theorem passes_or_runsPass (h : s.step deed = .ok (reply, s')) :
    s'.kernel.sched.passes = s.kernel.sched.passes ∨
      ∃ found, s.kernel.RunsPass found s'.kernel := by
  by_cases inside : ∃ call, deed = .call call
  · obtain ⟨call, rfl⟩ := inside
    obtain ⟨⟨_, system⟩, step, eq⟩ := Checked.bind_eq_ok.1 h
    cases eq
    by_cases none : system.kernel.sched.passes = s.kernel.sched.passes
    · exact .inl none
    · exact (System.continues_or_runsPass_step step fun same => absurd same none).imp (·.passes) id
  · exact .inl (inert_outside h fun call eq => inside ⟨call, eq⟩).stays.passes

theorem slumbers_of_sleep {millis : UInt32} (sound : Moment.Sound ⟨s.kernel, s.held, none⟩)
    (settled : s.kernel.Settled) (busy : s.kernel.current ≠ idlePid)
    (slept : s.step (.call (.sleep millis)) = .ok (.done, s₁)) :
    s₁.Slumbers s.kernel.current s.kernel.sched.tick (ticksOfMillis millis) 0 := by
  obtain ⟨moves, settled₁⟩ := moves_step sound settled slept
  obtain ⟨⟨_, system⟩, step, eq⟩ := Checked.bind_eq_ok.1 slept
  cases eq
  obtain ⟨result, sleep, reply, -⟩ := System.request_eq_ok (f := (·.sleep millis)) step
  cases result with
  | error => cases reply
  | ok =>
    obtain ⟨tick, rests⟩ := Kernel.rests_sleep sound settled busy sleep
    refine ⟨moves.sound sound, settled₁, ?_, rests⟩
    rw [tick]
    exact (UInt64.add_zero _).symm

/-- Whatever is done in a scene whose clock starts anywhere: a task other than the idle one that goes
to sleep sleeps until its deadline. -/
theorem Run.sleepsOut {port : π} {k : Kernel π} {now : UInt64} {mutexes : MutexId → Mutex}
    {millis : UInt32} (booted : Kernel.boot port = .ok (.ok k))
    (run : Run (fun _ _ => True) ⟨⟨k.setClock now, mutexes⟩, []⟩ s)
    (busy : s.kernel.current ≠ idlePid)
    (slept : s.step (.call (.sleep millis)) = .ok (.done, s₁)) :
    s.SleepsOut s₁ (ticksOfMillis millis) := by
  have sound : Moment.Sound ⟨k.setClock now, [], none⟩ :=
    (Kernel.sound_boot booted).setBooks { k.books with tick := now }
  obtain ⟨moves, settled⟩ := run.moves sound (Kernel.settled_boot booted :)
  have start := slumbers_of_sleep (moves.sound sound) settled busy slept
  constructor
  · intro n s' passed away
    exact (start.meanwhile busy passed).rests.asleep away
  · intro n s' passed back
    have slumbers := start.meanwhile busy passed
    have rested := slumbers.rests.rested back
    rw [slumbers.elapsed, UInt64.le_iff_toNat_le, UInt64.toNat_ofNat'] at rested
    -- a clock that went all the way round shows fewer ticks than there were
    exact rested.trans (Nat.mod_le n _)
  · intro found pass
    rw [pass.canRun_iff busy start.rests, start.elapsed, UInt64.le_ofNat_iff (by decide)]
    exact Nat.le_zero
  · intro n s' deed reply s'' passed away step
    have slumbers := (start.meanwhile busy passed).step busy away step
    refine ⟨passes_or_runsPass step, fun {found} pass lt => ?_⟩
    rw [pass.canRun_iff busy slumbers.rests, slumbers.elapsed, UInt64.le_ofNat_iff lt]

/-- A task goes to sleep for two ticks at the last reading of the clock, and the clock wraps behind it:
the first tick leaves it asleep, and the second finds it able to run. -/
theorem sleepsOut_wrapping_host : ∃ k s s₁ s₂ s₃ found,
    Kernel.boot (HostPort.new false) = .ok (.ok k) ∧
    Run (fun _ _ => True) ⟨⟨k.setClock (0 - 1), fun _ => .free⟩, []⟩ s ∧
    s.step (.call (.sleep 2)) = .ok (.done, s₁) ∧ s₁.step (.call .tick) = .ok (.done, s₂) ∧
    s₂.step (.call .tick) = .ok (.done, s₃) ∧ s₃.kernel.uptime = 1 ∧
    s₂.kernel.sched.Sleeps 1 (0 - 1) 2 ∧ s₂.kernel.RunsPass found s₃.kernel ∧
    found.CanRun 1 := by
  have runs : (((Kernel.boot (HostPort.new false)).toOption.bind Except.toOption).any fun k =>
        (play ⟨⟨k.setClock (0 - 1), fun _ => .free⟩, []⟩ [.call (.spawn (.program 0)),
            .call (.spawn (.program 1)), .call .schedule]).toOption.any fun s =>
          (s.step (.call (.sleep 2))).toOption.any fun slept =>
            (slept.2.step (.call .tick)).toOption.any fun once =>
              (once.2.step (.call .tick)).toOption.any fun twice =>
                s.kernel.current = 1 ∧ s.kernel.uptime = 0 - 1 ∧ slept.1 = .done ∧
                  slept.2.kernel.current = 2 ∧ once.1 = .done ∧ once.2.kernel.current = 2 ∧
                  twice.1 = .done ∧ twice.2.kernel.uptime = 1 ∧
                  twice.2.kernel.sched.passes ≠ once.2.kernel.sched.passes) = true := by
    decide +kernel
  obtain ⟨k, booted, runs⟩ := Kernel.exists_of_boot runs
  obtain ⟨s, played, runs⟩ := Checked.exists_of_any runs
  obtain ⟨⟨reply, s₁⟩, slept, runs⟩ := Checked.exists_of_any runs
  obtain ⟨⟨reply₂, s₂⟩, once, runs⟩ := Checked.exists_of_any runs
  obtain ⟨⟨reply₃, s₃⟩, twice, runs⟩ := Checked.exists_of_any runs
  obtain ⟨current, start, rfl, current₁, rfl, current₂, rfl, wrapped, pass⟩ := of_decide_eq_true runs
  have run := Run.of_play (.refl _) played
  have sleeps := run.sleepsOut booted (by rw [current]; decide) slept
  have away₁ : s₁.kernel.current ≠ s.kernel.current := by rw [current₁, current]; decide
  have away₂ : s₂.kernel.current ≠ s.kernel.current := by rw [current₂, current]; decide
  have first : Meanwhile s.kernel.current s₁ 1 s₂ := .deed .refl away₁ once
  obtain ⟨passed, finds⟩ := sleeps.passes first away₂ twice
  obtain ⟨found, ran⟩ := passed.resolve_left pass
  have able := (finds ran (by decide)).2 (by decide)
  have asleep := sleeps.asleep first away₂
  rw [current] at able asleep
  exact ⟨k, s, s₁, s₂, s₃, found, booted, run, slept, once, twice, wrapped, start ▸ asleep, ran, able⟩

end Scene

end Rtos

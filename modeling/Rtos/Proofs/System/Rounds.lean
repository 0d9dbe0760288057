import Rtos.Proofs.Scheduler.RoundRobin
import Rtos.Proofs.System.Sections

/-!
# Taking turns

A run is cut at its passes into rounds, and each round tells which tasks the pass found able to run
and which one it chose (`System.Rounds`).  As long as the current task changes in passes alone, every
round starts where the last one ended.  So a task that can run at each pass gets nearer with each
pass that chooses another, and whoever was chosen before it is not chosen again
(`System.TakesTurns`).

A hand-off of a mutex outside of atomic sections goes past this order, and starts the walk of the
next pass somewhere else; runs with such a hand-off are left out.
-/

namespace Rtos

variable {π : Type} [Port π]

/-! ## Passes of a call -/

namespace Kernel

variable {k k' k₀ k₁ : Kernel π} {found : Scheduler π} {new : Pid → Prop} {asks : Bool} {pid : Pid}

/-- One pass leads from `k` to `k'`, and it finds the tasks as they are in `found`: all that is
queued is delivered. What is done before the pass is left open, but that the current task stays and
there is no other pass. -/
def RunsPass (k : Kernel π) (found : Scheduler π) (k' : Kernel π) : Prop :=
  ∃ k₀ k₁ : Kernel π, k₀.current = k.current ∧ k₀.sched.passes = k.sched.passes ∧
    k₀.sched.sectionDepth = 0 ∧ k₀.deliverEvents = .ok k₁ ∧ k₁.sched = found ∧
    k₀.schedule = .ok k'

/-- From `k` to `k'` there was no pass, and the current task stays. -/
structure Continues (k k' : Kernel π) : Prop where
  /-- The current task stays. -/
  current : k'.current = k.current
  /-- There was no pass. -/
  passes : k'.sched.passes = k.sched.passes

theorem RunsPass.of_schedule (current : k₀.current = k.current)
    (passes : k₀.sched.passes = k.sched.passes) (closed : k₀.sched.sectionDepth = 0)
    (pass : k₀.schedule = .ok k') : ∃ found, k.RunsPass found k' := by
  cases PassStep.of_eq_ok pass with
  | inside opened => omega
  | @outside k₁ _ _ _ _ _ delivered =>
    exact ⟨k₁.sched, k₀, k₁, current, passes, closed, delivered, rfl, pass⟩

/-- A pass is asked for inside an atomic section, and run outside. -/
theorem continues_or_runsPass (current : k₀.current = k.current)
    (passes : k₀.sched.passes = k.sched.passes) (pass : k₀.schedule = .ok k') :
    k.Continues k' ∨ ∃ found, k.RunsPass found k' := by
  rcases schedule_passes pass with ⟨-, rfl⟩ | ⟨closed, -⟩
  · exact .inl ⟨current, passes⟩
  · exact .inr (RunsPass.of_schedule current passes closed pass)

theorem RunsPass.first (h : k.RunsPass found k') :
    k.current < maxTasks ∧ found.First k.current k'.current := by
  obtain ⟨k₀, k₁, current, -, closed, delivered, rfl, pass⟩ := h
  cases PassStep.of_eq_ok pass with
  | inside opened => omega
  | @outside k₂ previous next s s' _ delivered' chosen switched =>
    cases delivered.symm.trans delivered'
    have stays : k₀.sched.Stays (fun _ => False) k₁.sched := stays_deliverEvents delivered
    have start : k₁.sched.current = k.current := stays.current.trans current
    obtain ⟨lt, now, first⟩ := Scheduler.first_of_choose chosen
    obtain ⟨port, tasks, rfl, -, -⟩ := Scheduler.switchTask_eq_ok switched
    rw [start] at lt first
    refine ⟨lt, ?_⟩
    change k₁.sched.First k.current s.current
    rw [now]
    exact first

theorem RunsPass.passes (h : k.RunsPass found k') : k'.sched.passes = k.sched.passes + 1 := by
  obtain ⟨k₀, k₁, -, passes, closed, -, -, pass⟩ := h
  rcases schedule_passes pass with ⟨opened, -⟩ | ⟨-, passed⟩
  · omega
  · rw [passed.passes, passes]

/-- An operation runs one pass or none, and without one it keeps the current task, unless it hands
the processor over. -/
theorem Proceeds.continues_or_runsPass (h : Proceeds new asks k k')
    (kept : k'.sched.passes = k.sched.passes → k'.current = k.current) :
    k.Continues k' ∨ ∃ found, k.RunsPass found k' := by
  cases h with
  | still inert => exact .inl ⟨inert.stays.current, inert.stays.passes⟩
  | pass inert pass =>
    exact Kernel.continues_or_runsPass inert.stays.current inert.stays.passes pass
  | parks _ stays pass => exact Kernel.continues_or_runsPass stays.current stays.passes pass
  | deferred _ inert => exact .inl ⟨inert.stays.current, inert.stays.passes⟩
  | handsOff _ _ _ _ _ passes => exact .inl ⟨kept passes, passes⟩

omit [Port π] in
theorem continues_closeSections (k : Kernel π) (pid : Pid) : k.Continues (k.closeSections pid) := by
  unfold closeSections
  split
  case isTrue => exact ⟨rfl, List.countP_cons_of_neg nofun⟩
  case isFalse => exact ⟨rfl, rfl⟩

theorem continues_or_runsPass_exit {status : Int} {result : Except Error Unit}
    (h : k.exit status = .ok (result, k')) : k.Continues k' ∨ ∃ found, k.RunsPass found k' := by
  rcases exit_stays h with rfl | ⟨k₁, stays, pass⟩
  · exact .inl ⟨rfl, rfl⟩
  · have closed := continues_closeSections k₁ k.current
    exact continues_or_runsPass (closed.current.trans stays.current)
      (closed.passes.trans stays.passes) pass

/-- Leaving a section runs a pass if one is pending and no other section is open. -/
theorem continues_or_runsPass_leaveSection (h : k.leaveSection = .ok k') :
    k.Continues k' ∨ ∃ found, k.RunsPass found k' := by
  cases LeaveStep.of_eq_ok h with
  | passes _ _ pass =>
    refine continues_or_runsPass ?_ ?_ pass
    · rfl
    · rfl
  | closes => exact .inl ⟨rfl, rfl⟩

end Kernel

/-! ## Rounds of a run -/

/-- A pass of a run: the tasks as it found them, and the one that it chose. -/
structure Round (π : Type) where
  /-- The tasks. -/
  found : Scheduler π
  /-- The task that was chosen. -/
  next : Pid

omit [Port π] in
/-- The pass chose another task, though this one could run. -/
structure Round.PassesOver (pid : Pid) (round : Round π) : Prop where
  able : round.found.CanRun pid
  other : round.next ≠ pid

namespace System

variable {s s' : System π} {call : Call} {calls : List Call} {reply : Reply} {replies : List Reply}
  {rounds passed rest : List (Round π)} {previous pid : Pid}

/-- A run with one round for each of its passes. Between the passes the current task stays. -/
inductive Rounds : System π → List Call → List (Round π) → System π → Prop
  /-- Nothing is called. -/
  | nil (s : System π) : Rounds s [] [] s
  /-- A call without a pass. -/
  | still {s s₁ s' : System π} {call calls reply rounds} (step : s.step call = .ok (reply, s₁))
      (continues : s.kernel.Continues s₁.kernel) (rest : Rounds s₁ calls rounds s') :
      Rounds s (call :: calls) rounds s'
  /-- A call with a pass. -/
  | pass {s s₁ s' : System π} {call calls reply found rounds}
      (step : s.step call = .ok (reply, s₁)) (pass : s.kernel.RunsPass found s₁.kernel)
      (rest : Rounds s₁ calls rounds s') :
      Rounds s (call :: calls) (⟨found, s₁.kernel.current⟩ :: rounds) s'

/-- While the calls are made, the current task changes in passes alone. -/
def PassesOnly (s : System π) : List Call → Prop
  | [] => True
  | call :: calls =>
    match s.step call with
    | .ok (_, s') => (s'.kernel.sched.passes = s.kernel.sched.passes →
        s'.kernel.current = s.kernel.current) ∧ s'.PassesOnly calls
    | .error _ => True

instance decidablePassesOnly : (s : System π) → (calls : List Call) →
    Decidable (s.PassesOnly calls)
  | _, [] => .isTrue trivial
  | s, call :: calls =>
    match step : s.step call with
    | .ok (_, s') =>
      have := decidablePassesOnly s' calls
      decidable_of_iff ((s'.kernel.sched.passes = s.kernel.sched.passes →
        s'.kernel.current = s.kernel.current) ∧ s'.PassesOnly calls)
        (by simp only [PassesOnly, step])
    | .error _ => .isTrue (by simp only [PassesOnly, step])

/-- A call runs one pass or none, and without one it keeps the current task, unless it hands the
processor over. -/
theorem continues_or_runsPass_step (h : s.step call = .ok (reply, s'))
    (kept : s'.kernel.sched.passes = s.kernel.sched.passes →
      s'.kernel.current = s.kernel.current) :
    s.kernel.Continues s'.kernel ∨ ∃ found, s.kernel.RunsPass found s'.kernel := by
  by_cases keeps : call.keepsSections = true
  · rcases (proceeds_step h keeps).continues_or_runsPass kept with continues | pass
    · exact .inl ⟨continues.current, continues.passes⟩
    · exact .inr pass
  · unfold step at h
    cases call with
    | exit status =>
      obtain ⟨result, h, -⟩ := request_eq_ok h
      exact Kernel.continues_or_runsPass_exit h
    | enterSection =>
      rw [Kernel.enterSection_eq_ok (perform_eq_ok h).1]
      exact .inl ⟨rfl, rfl⟩
    | leaveSection => exact Kernel.continues_or_runsPass_leaveSection (perform_eq_ok h).1
    | _ => exact absurd rfl keeps

/-- A run in which the current task changes in passes alone can be cut into rounds. -/
theorem exists_rounds (run : s.run calls = .ok (replies, s')) (only : s.PassesOnly calls) :
    ∃ rounds, Rounds s calls rounds s' := by
  induction calls generalizing s replies with
  | nil =>
    cases run
    exact ⟨[], .nil _⟩
  | cons call calls ih =>
    obtain ⟨⟨reply, s₁⟩, step, next⟩ := Checked.bind_eq_ok.1 run
    obtain ⟨⟨replies, s₂⟩, others, eq⟩ := Checked.bind_eq_ok.1 next
    cases eq
    unfold PassesOnly at only
    rw [step] at only
    obtain ⟨kept, only⟩ := only
    obtain ⟨rounds, rest⟩ := ih others only
    rcases continues_or_runsPass_step step kept with continues | ⟨found, pass⟩
    · exact ⟨rounds, .still step continues rest⟩
    · exact ⟨_, .pass step pass rest⟩

theorem Rounds.passes (h : Rounds s calls rounds s') :
    s'.kernel.sched.passes = s.kernel.sched.passes + rounds.length := by
  induction h with
  | nil => rfl
  | still step continues rest ih => rw [ih, continues.passes]
  | pass step pass rest ih =>
    rw [ih, pass.passes, List.length_cons]
    omega

/-! ## Whoever is passed over gets nearer -/

omit [Port π] in
/-- Each round starts at the task where the last one ended, and chooses in turn. -/
def Linked (previous : Pid) : List (Round π) → Prop
  | [] => True
  | round :: rounds => previous < maxTasks ∧ round.found.First previous round.next ∧
      Linked round.next rounds

theorem Rounds.linked (h : Rounds s calls rounds s') : Linked s.kernel.current rounds := by
  induction h with
  | nil => trivial
  | still step continues rest ih =>
    rw [continues.current] at ih
    exact ih
  | pass step pass rest ih => exact ⟨pass.first.1, pass.first.2, ih⟩

omit [Port π] in
theorem Linked.of_append (h : Linked previous (passed ++ rest)) : Linked previous passed := by
  induction passed generalizing previous with
  | nil => trivial
  | cons round passed ih => exact ⟨h.1, h.2.1, ih h.2.2⟩

omit [Port π] in
/-- Whoever is chosen instead of a task that can run is not the idle task, and the task is nearer to
it than to the one before. -/
theorem nearer_of_first {found : Scheduler π} {next : Pid} (start : previous < maxTasks)
    (busy : pid ≠ idlePid) (first : found.First previous next) (able : found.CanRun pid)
    (other : next ≠ pid) : next ≠ idlePid ∧ next < maxTasks ∧
      Scheduler.distance next pid < Scheduler.distance previous pid := by
  have awake : next ≠ idlePid := fun idle => first.idle.1 idle pid busy able
  have seat : next < maxTasks := (first.able awake).lt
  refine ⟨awake, seat, Scheduler.distance_lt_of_lt start seat able.lt ?_⟩
  apply Nat.lt_of_le_of_ne (first.nearest awake pid busy able)
  intro same
  apply other
  rw [← Scheduler.walk_distance start seat, same, Scheduler.walk_distance start able.lt]

omit [Port π] in
/-- While a task is passed over, its distance from the current task falls.  The tasks chosen meanwhile
are in other slots, each at most once. -/
theorem Linked.falling (h : Linked previous passed) (busy : pid ≠ idlePid)
    (skips : ∀ round ∈ passed, round.PassesOver pid) :
    (passed.map (·.next)).Pairwise
        (fun p q => Scheduler.distance q pid < Scheduler.distance p pid) ∧
      ∀ p ∈ passed.map (·.next), p ≠ idlePid ∧ p < maxTasks ∧
        Scheduler.distance p pid < Scheduler.distance previous pid := by
  induction passed generalizing previous with
  | nil => exact ⟨.nil, nofun⟩
  | cons round passed ih =>
    obtain ⟨start, first, linked⟩ := h
    obtain ⟨able, other⟩ := skips round List.mem_cons_self
    obtain ⟨awake, seat, nearer⟩ := nearer_of_first start busy first able other
    obtain ⟨falls, below⟩ := ih linked fun later mem => skips later (List.mem_cons_of_mem _ mem)
    rw [List.map_cons]
    constructor
    · exact List.pairwise_cons.2 ⟨fun p mem => (below p mem).2.2, falls⟩
    · intro p mem
      rcases List.mem_cons.1 mem with rfl | mem
      · exact ⟨awake, seat, nearer⟩
      · obtain ⟨awake, seat, further⟩ := below p mem
        exact ⟨awake, seat, further.trans nearer⟩

omit [Port π] in
/-- A task that can run is passed over less often than there are other slots. -/
theorem Linked.length_lt (h : Linked previous passed) (busy : pid ≠ idlePid)
    (skips : ∀ round ∈ passed, round.PassesOver pid) :
    passed.length < maxTasks - 1 ∧ (passed.map (·.next)).Nodup ∧
      idlePid ∉ passed.map (·.next) := by
  obtain ⟨falls, below⟩ := h.falling busy skips
  have nodup : (passed.map (·.next)).Nodup := by
    refine falls.imp ?_
    rintro p q nearer rfl
    exact Nat.lt_irrefl _ nearer
  have absent : pid ∉ passed.map (·.next) := by
    intro mem
    obtain ⟨round, mem, same⟩ := List.mem_map.1 mem
    exact (skips round mem).other same
  refine ⟨?_, nodup, fun mem => (below idlePid mem).1 rfl⟩
  cases passed with
  | nil => exact Nat.zero_lt_succ _
  | cons round passed =>
    have seated : ∀ p ∈ pid :: (round :: passed).map (·.next), p ≠ idlePid ∧ p < maxTasks := by
      intro p mem
      rcases List.mem_cons.1 mem with rfl | mem
      · exact ⟨busy, (skips round List.mem_cons_self).able.lt⟩
      · exact ⟨(below p mem).1, (below p mem).2.1⟩
    have few := length_lt_maxTasks (List.nodup_cons.2 ⟨absent, nodup⟩) seated
    rw [List.length_cons, List.length_map] at few
    exact Nat.lt_sub_of_add_lt few

/-! ## Turns -/

/-- In a run with one round for each pass, tasks take turns. -/
structure TakesTurns (s : System π) (calls : List Call) (s' : System π) : Prop where
  /-- The run can be cut into rounds. -/
  cut : ∃ rounds, Rounds s calls rounds s'
  /-- There is one for each pass. -/
  counted : ∀ {rounds}, Rounds s calls rounds s' →
    s'.kernel.sched.passes = s.kernel.sched.passes + rounds.length
  /-- A task that can run at each pass is chosen within as many passes as there are slots for tasks
  other than the idle one. -/
  served : ∀ {rounds}, Rounds s calls rounds s' → maxTasks - 1 ≤ rounds.length →
    ∀ pid, pid ≠ idlePid → (∀ round ∈ rounds, round.found.CanRun pid) →
      ∃ round ∈ rounds.take (maxTasks - 1), round.next = pid
  /-- As long as it is passed over, no other task is chosen twice, and the idle task is not
  chosen. -/
  bypassed : ∀ {passed rest}, Rounds s calls (passed ++ rest) s' → ∀ pid, pid ≠ idlePid →
    (∀ round ∈ passed, round.PassesOver pid) →
      passed.length < maxTasks - 1 ∧ (passed.map (·.next)).Nodup ∧ idlePid ∉ passed.map (·.next)

/-- A run in which the current task changes in passes alone takes turns. -/
theorem takesTurns (run : s.run calls = .ok (replies, s')) (only : s.PassesOnly calls) :
    s.TakesTurns calls s' where
  cut := exists_rounds run only
  counted rounds := rounds.passes
  bypassed rounds _ busy skips := rounds.linked.of_append.length_lt busy skips
  served {rounds} run enough pid busy able := by
    by_contra missed
    have skips : ∀ round ∈ rounds.take (maxTasks - 1), round.PassesOver pid := by
      intro round mem
      exact ⟨able round (List.mem_of_mem_take mem), fun same => missed ⟨round, mem, same⟩⟩
    have linked := run.linked
    rw [← List.take_append_drop (maxTasks - 1) rounds] at linked
    have few := linked.of_append.length_lt busy skips
    rw [List.length_take] at few
    omega

/-- The choice of a pass goes in turn, whatever the table holds; so a run in which the current task
changes in passes alone takes turns. -/
theorem roundRobin {table : Scheduler π} (current : table.current < maxTasks)
    (run : s.run calls = .ok (replies, s')) (only : s.PassesOnly calls) :
    table.ChoosesInTurn ∧ s.TakesTurns calls s' :=
  ⟨Scheduler.choosesInTurn current, takesTurns run only⟩

/-- A run with as many tasks as there can be, in which the last of them is chosen in the last pass
in which it has to be. -/
theorem roundRobin_host : ∃ k replies s', Kernel.boot (HostPort.new false) = .ok (.ok k) ∧
    System.run ⟨k, fun _ => .free⟩ (List.replicate (maxTasks - 1) (.spawn (.program 0)) ++
      List.replicate (maxTasks - 1) .schedule) = .ok (replies, s') ∧
    (k.current = idlePid ∧ s'.kernel.current = maxTasks - 1 ∧
      s'.kernel.sched.passes = maxTasks - 1) ∧
    k.sched.ChoosesInTurn ∧
    System.TakesTurns ⟨k, fun _ => .free⟩ (List.replicate (maxTasks - 1) (.spawn (.program 0)) ++
      List.replicate (maxTasks - 1) .schedule) s' := by
  have runs : (((Kernel.boot (HostPort.new false)).toOption.bind Except.toOption).any fun k =>
        (System.run ⟨k, fun _ => .free⟩ (List.replicate (maxTasks - 1) (.spawn (.program 0)) ++
          List.replicate (maxTasks - 1) .schedule)).toOption.any fun out =>
            PassesOnly ⟨k, fun _ => .free⟩ (List.replicate (maxTasks - 1) (.spawn (.program 0)) ++
              List.replicate (maxTasks - 1) .schedule) ∧
            k.current = idlePid ∧ out.2.kernel.current = maxTasks - 1 ∧
              out.2.kernel.sched.passes = maxTasks - 1) = true := by
    decide +kernel
  obtain ⟨k, booted, runs⟩ := Kernel.exists_of_boot runs
  obtain ⟨⟨replies, s'⟩, run, seen⟩ := Checked.exists_of_any runs
  obtain ⟨only, idle, chosen⟩ := of_decide_eq_true seen
  have current : k.sched.current < maxTasks := by
    rw [show k.sched.current = idlePid from idle]
    decide
  obtain ⟨choice, turns⟩ := roundRobin current run only
  exact ⟨k, replies, s', booted, run, ⟨idle, chosen⟩, choice, turns⟩

end System

end Rtos

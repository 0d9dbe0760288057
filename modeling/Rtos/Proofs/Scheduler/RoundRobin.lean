import Rtos.Proofs.Kernel.Passes

/-!
# Round-robin

A pass walks upwards round the task table, starting behind the current task, and takes the first
task that can run; the current task comes last, and the idle task only if there is no other
(`Scheduler.choosesInTurn`).  How far a task is on that walk is its distance.

What makes the walk fair is that a task that is passed over gets nearer: whoever was chosen before it
starts the next walk, and stands between the old start and the task (`Scheduler.distance_lt_of_lt`).
So a task that can run is not passed over by the same task twice, however the others change
meanwhile.
-/

namespace Rtos

/-! ## Who can run -/

/-- The scheduler may put the task on the processor at tick `now`. -/
structure Task.CanRun (now : UInt64) (t : Task) : Prop where
  /-- The slot is taken. -/
  active : t.active = true
  /-- The task is not blocked, and has slept for long enough. -/
  awake : t.state = .ready ∨ t.state = .running ∨
    t.state = .sleeping ∧ t.sleepLength ≤ now - t.stamp

theorem Task.isRunnable_iff {now : UInt64} {t : Task} : t.isRunnable now = true ↔ t.CanRun now := by
  unfold isRunnable
  constructor
  · intro runs
    obtain ⟨active, awake⟩ := Bool.and_eq_true_iff.1 runs
    refine ⟨active, ?_⟩
    cases state : t.state <;> simp_all
  · rintro ⟨active, ready | running | ⟨sleeping, rested⟩⟩
    · simp [active, ready]
    · simp [active, running]
    · simp [active, sleeping, rested]

namespace Scheduler

variable {π : Type} {s r s' : Scheduler π} {previous next source target pid : Pid}

/-- A task of the table can run at the present tick. -/
def CanRun (s : Scheduler π) (pid : Pid) : Prop :=
  ∃ t, s.task? pid = some t ∧ t.CanRun s.tick

theorem CanRun.lt (h : s.CanRun pid) : pid < maxTasks := by
  obtain ⟨t, slot, -⟩ := h
  exact lt_of_task? slot

theorem canRun_iff : (s.task? pid).any (·.isRunnable s.tick) = true ↔ s.CanRun pid := by
  rw [Option.any_eq_true]
  constructor
  · rintro ⟨t, slot, runs⟩
    exact ⟨t, slot, Task.isRunnable_iff.1 runs⟩
  · rintro ⟨t, slot, runs⟩
    exact ⟨t, slot, Task.isRunnable_iff.2 runs⟩

theorem canRun_demote (h : s.demote previous = .ok r) : r.CanRun pid ↔ s.CanRun pid := by
  obtain ⟨t, found, ⟨running, rfl⟩ | ⟨-, rfl⟩⟩ := demote_eq_ok h
  · unfold CanRun
    rw [task?_setTask found]
    split
    case isTrue eq =>
      subst eq
      constructor
      · rintro ⟨u, slot, active, -⟩
        cases slot
        exact ⟨t, found, active, .inr (.inl running)⟩
      · rintro ⟨u, slot, active, -⟩
        cases found.symm.trans slot
        exact ⟨_, rfl, active, .inl rfl⟩
    case isFalse => rfl
  · rfl

/-! ## The walk round the table -/

/-- How many slots a walk upwards round the table passes from behind `source` until `target`. The
way round to `source` itself is the longest. -/
def distance (source target : Nat) : Nat :=
  (target + maxTasks - source - 1) % maxTasks

/-- The walk comes to each slot at its distance. -/
theorem distance_walk {source i : Nat} (start : source < maxTasks) (lt : i < maxTasks) :
    distance source ((source + 1 + i) % maxTasks) = i := by
  unfold distance maxTasks at *
  omega

theorem walk_distance {source target : Nat} (start : source < maxTasks) (lt : target < maxTasks) :
    (source + 1 + distance source target) % maxTasks = target := by
  unfold distance maxTasks at *
  omega

theorem distance_lt (source target : Nat) : distance source target < maxTasks :=
  Nat.mod_lt _ (by decide)

/-- Whoever is passed over is nearer to the one that was chosen instead. -/
theorem distance_lt_of_lt {source next target : Nat} (start : source < maxTasks)
    (next_lt : next < maxTasks) (target_lt : target < maxTasks)
    (sooner : distance source next < distance source target) :
    distance next target < distance source target := by
  unfold distance maxTasks at *
  omega

example : (List.range maxTasks).map (distance 5) = [2, 3, 4, 5, 6, 7, 0, 1] := by decide

/-- A pass looks at every task but the idle one. -/
theorem mem_scanOrder (start : previous < maxTasks) :
    pid ∈ scanOrder previous ↔ pid < maxTasks ∧ pid ≠ idlePid := by
  simp only [scanOrder, List.mem_filter, List.mem_map, List.mem_range, bne_iff_ne]
  constructor
  · rintro ⟨⟨i, -, rfl⟩, busy⟩
    exact ⟨Nat.mod_lt _ (by decide), busy⟩
  · rintro ⟨lt, busy⟩
    exact ⟨⟨_, distance_lt previous pid, walk_distance start lt⟩, busy⟩

/-- A pass looks at nearer tasks first. -/
theorem pairwise_scanOrder (start : previous < maxTasks) :
    (scanOrder previous).Pairwise fun p q => distance previous p < distance previous q := by
  apply List.Pairwise.filter
  rw [List.pairwise_map]
  refine List.pairwise_lt_range.imp_of_mem ?_
  intro i j mem mem' lt
  rw [distance_walk start (List.mem_range.1 mem), distance_walk start (List.mem_range.1 mem')]
  exact lt

/-! ## The choice -/

/-- Of the tasks that can run, `next` is the first behind `previous`. -/
structure First (s : Scheduler π) (previous next : Pid) : Prop where
  /-- It is the idle task exactly if no other can run. -/
  idle : next = idlePid ↔ ∀ pid, pid ≠ idlePid → ¬s.CanRun pid
  /-- It can run itself, unless it is the idle task. -/
  able : next ≠ idlePid → s.CanRun next
  /-- The task chosen is neither free nor dead nor blocked, and does not have to sleep on, unless it is
  the idle task. -/
  never : next ≠ idlePid → ∀ t, s.task? next = some t → t.active = true ∧ t.state ≠ .dead ∧
    t.state ≠ .awaitingDevice ∧ t.state ≠ .awaitingMutex ∧ t.state ≠ .awaitingChild ∧
    (t.state = .sleeping → t.sleepLength ≤ s.tick - t.stamp)
  /-- No other that can run is nearer. -/
  nearest : next ≠ idlePid → ∀ pid, pid ≠ idlePid → s.CanRun pid →
    distance previous next ≤ distance previous pid

theorem CanRun.never (h : s.CanRun pid) {t : Task} (slot : s.task? pid = some t) :
    t.active = true ∧ t.state ≠ .dead ∧ t.state ≠ .awaitingDevice ∧ t.state ≠ .awaitingMutex ∧
      t.state ≠ .awaitingChild ∧ (t.state = .sleeping → t.sleepLength ≤ s.tick - t.stamp) := by
  obtain ⟨u, slot', active, ready | running | ⟨sleeping, rested⟩⟩ := h
  all_goals cases slot.symm.trans slot'
  · simp [active, ready]
  · simp [active, running]
  · simp [active, sleeping, rested]

/-- The search of a pass finds the first task that can run. -/
theorem first_find (s : Scheduler π) (start : previous < maxTasks) :
    s.First previous (((scanOrder previous).find? fun pid =>
      (s.task? pid).any (·.isRunnable s.tick)).getD idlePid) := by
  cases found : (scanOrder previous).find? fun pid => (s.task? pid).any (·.isRunnable s.tick) with
  | none =>
    have nobody : ∀ pid, pid ≠ idlePid → ¬s.CanRun pid := by
      intro pid busy runs
      have passed := List.find?_eq_none.1 found pid ((mem_scanOrder start).2 ⟨runs.lt, busy⟩)
      exact passed (canRun_iff.2 runs)
    have idle : ¬(none : Option Pid).getD idlePid ≠ idlePid := fun ne => ne rfl
    exact ⟨iff_of_true rfl nobody, fun ne => absurd ne idle, fun ne => absurd ne idle,
      fun ne => absurd ne idle⟩
  | some next =>
    obtain ⟨runs, nearer, farther, split, passed⟩ := List.find?_eq_some_iff_append.1 found
    have runs : s.CanRun next := canRun_iff.1 runs
    have busy : next ≠ idlePid := ((mem_scanOrder start).1 (List.mem_of_find?_eq_some found)).2
    refine ⟨iff_of_false busy fun nobody => nobody next busy runs, fun _ => runs,
      fun _ t slot => runs.never slot, ?_⟩
    -- another that can run was not passed over, so it is looked at later
    intro _ pid busy' runs'
    have looked : pid ∈ scanOrder previous := (mem_scanOrder start).2 ⟨runs'.lt, busy'⟩
    rw [split] at looked
    rcases List.mem_append.1 looked with mem | mem
    · have unable := passed pid mem
      rw [canRun_iff.2 runs'] at unable
      cases unable
    · rcases List.mem_cons.1 mem with rfl | mem
      · exact Nat.le_refl _
      · have order := pairwise_scanOrder start
        rw [split] at order
        have later := (List.pairwise_append.1 order).2.1
        exact Nat.le_of_lt (List.rel_of_pairwise_cons later mem)

/-- The choice of a pass is the first of those that can run, once the running task is made ready,
and it becomes the current task. -/
def ChoosesInTurn (s : Scheduler π) : Prop :=
  ∃ r next s', s.demote s.current = .ok r ∧ s.choose = .ok ((s.current, next), s') ∧
    s'.current = next ∧ r.First s.current next

/-- Whatever the table holds, the choice goes in turn. -/
theorem choosesInTurn (current : s.current < maxTasks) : s.ChoosesInTurn := by
  obtain ⟨r, demoted⟩ : ∃ r, s.demote s.current = .ok r := s.modify_total current _
  obtain ⟨next, found, first⟩ : ∃ next, (((scanOrder s.current).find? fun pid =>
      (r.task? pid).any (·.isRunnable r.tick)).getD idlePid) = next ∧ r.First s.current next :=
    ⟨_, rfl, first_find r current⟩
  have seat : next < maxTasks := by
    by_cases idle : next = idlePid
    · rw [idle]
      decide
    · exact (first.able idle).lt
  obtain ⟨u, promoted⟩ : ∃ u, r.promote next = .ok u :=
    Checked.bind_total (r.modify_total seat _) fun u _ => ⟨_, rfl⟩
  refine ⟨r, next, u.note (.scheduled s.current next u.tick), demoted, ?_, ?_, first⟩
  · apply Checked.bind_eq_ok.2
    refine ⟨r, demoted, ?_⟩
    dsimp only
    rw [found]
    exact Checked.bind_eq_ok.2 ⟨u, promoted, rfl⟩
  · obtain ⟨t, -, rfl⟩ := promote_eq_ok promoted
    rfl

/-- A choice that comes to an end goes in turn.  Making the running task ready first does not matter for
it. -/
theorem first_of_choose (h : s.choose = .ok ((previous, next), s')) :
    s.current < maxTasks ∧ s'.current = next ∧ s.First s.current next := by
  obtain ⟨r, demoted, -⟩ := Checked.bind_eq_ok.1 h
  obtain ⟨t, found, -⟩ := demote_eq_ok demoted
  have current := lt_of_task? found
  obtain ⟨r, next', s'', demoted, chosen, now, first⟩ := choosesInTurn current
  cases h.symm.trans chosen
  have same (pid : Pid) : r.CanRun pid ↔ s.CanRun pid := canRun_demote demoted
  refine ⟨current, now, ?_⟩
  constructor
  · simp only [first.idle, same]
  · intro busy
    exact (same next).1 (first.able busy)
  · intro busy t slot
    exact ((same next).1 (first.able busy)).never slot
  · intro busy pid busy' runs
    exact first.nearest busy pid busy' ((same pid).2 runs)

end Scheduler

end Rtos

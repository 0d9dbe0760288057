import Rtos.Proofs.System.Turns
import Rtos.Port.Host

/-!
# Reports of devices

A task that reads from an empty device, or writes to a full one, parks until the device reports.  An
interrupt moves bytes first and reports then, and its report may be refused.  A task stays parked
although it could go on exactly where that happens while no other report of the device is queued
(`Chronicle.prompt_iff`).
-/

namespace Rtos

/-- A world, and what was pursued in it so far: newest first, each time with the task that ran. -/
structure Chronicle (π : Type) where
  /-- The world. -/
  world : World π
  /-- What was pursued. -/
  past : List (Pid × Pursuit)

namespace Chronicle

variable {π : Type}

/-- The world of a kernel before anything was pursued. -/
def start (k : Kernel π) (mutexes : MutexId → Mutex) (devices : List AttachedDevice) :
    Chronicle π :=
  ⟨⟨some k, mutexes, devices⟩, []⟩

/-- The task that runs. -/
def current (c : Chronicle π) : Pid :=
  (c.world.kernel?.map Kernel.current).getD idlePid

/-- What a task pursued when it ran last. -/
def last? (c : Chronicle π) (pid : Pid) : Option Pursuit :=
  (c.past.find? (·.1 = pid)).map (·.2)

/-- A task is parked for a device in a request. -/
structure Parked (c : Chronicle π) (k : Kernel π) (pid : Pid) (t : Task) (r : Request) : Prop where
  /-- The kernel of the world. -/
  kernel : c.world.kernel? = some k
  /-- The slot of the task. -/
  slot : k.sched.task? pid = some t
  /-- It waits for a device. -/
  waits : t.state = .awaitingDevice
  /-- The task ran last for the request. -/
  request : c.last? pid = some (.request r)

/-- Whoever is parked in a transfer that would move bytes is woken by the next pass: a report of the
device is queued, in the direction of the transfer or of an error. -/
def Prompt (c : Chronicle π) : Prop :=
  ∀ k pid t r, c.Parked k pid t r → r.Possible c.world.devices →
    ∃ wait, r.wait? c.world.devices = some wait ∧ t.deviceWait = some wait ∧ k.Covers wait

variable [Port π]

/-- A pursuit strands a task: it is an interrupt that moves bytes for a transfer in which the task
is parked, its report is refused, and no other report that would wake the task is queued. -/
def Strands (c : Chronicle π) (p : Pursuit) : Prop :=
  ∃ work report k pid t r, p = .request (.interrupt work) ∧
    work.report? c.world.devices = some report ∧ c.Parked k pid t r ∧ work.Serves r ∧
    (∃ e k', k.reportDevice report.device report.direction = .ok (.error e, k')) ∧
    ¬k.Covers report

/-- Carries out a pursuit of the task that runs, or of an interrupt that comes meanwhile. -/
def step (c : Chronicle π) (p : Pursuit) : Checked (Chronicle π) := do
  let (_, world) ← c.world.pursue p
  return ⟨world, (c.current, p) :: c.past⟩

/-- Carries out pursuits, one after the other. -/
def run (c : Chronicle π) : List Pursuit → Checked (Chronicle π)
  | [] => return c
  | p :: ps => do
    let c ← c.step p
    c.run ps

/-- The states between pursuits. -/
structure Healthy (c : Chronicle π) (k : Kernel π) : Prop where
  /-- The kernel of the world. -/
  kernel : c.world.kernel? = some k
  /-- It is sound. -/
  sound : Moment.Sound ⟨k, [], none⟩
  /-- The current task runs. -/
  settled : k.Settled
  /-- Tasks that wait for devices are listed. -/
  listed : k.Listed
  /-- They wait for the devices of their requests. -/
  waits : ∀ pid t, k.sched.task? pid = some t → t.state = .awaitingDevice →
    ∃ r wait, c.last? pid = some (.request r) ∧ r.wait? c.world.devices = some wait ∧
      t.deviceWait = some wait

/-- The task in slot `pid` ran last for a transfer that would move bytes now. -/
def Ready (c : Chronicle π) (pid : Pid) : Prop :=
  ∃ r, c.last? pid = some (.request r) ∧ r.Possible c.world.devices

end Chronicle

/-! ## Steps -/

namespace Chronicle

variable {π : Type} {c c' : Chronicle π} {k k' : Kernel π} {pid : Pid} {p : Pursuit}

theorem Strands.reports [Port π] (h : c.Strands p) : p.report? c.world.devices ≠ none := by
  obtain ⟨work, report, -, -, -, -, rfl, moved, -⟩ := h
  rw [Pursuit.report?, moved]
  exact Option.some_ne_none report

theorem last?_cons (world : World π) (past : List (Pid × Pursuit)) (ran : Pid) (p : Pursuit)
    (pid : Pid) : (⟨world, (ran, p) :: past⟩ : Chronicle π).last? pid =
      if ran = pid then some p else (⟨world, past⟩ : Chronicle π).last? pid := by
  unfold last?
  rw [List.find?_cons]
  split
  case h_1 eq => rw [if_pos (by simpa using eq)]; rfl
  case h_2 ne => rw [if_neg (by simpa using ne)]

namespace Healthy

theorem not_current (h : c.Healthy k) {t : Task} (slot : k.sched.task? pid = some t)
    (parked : t.state = .awaitingDevice) : k.current ≠ pid := by
  rintro rfl
  obtain ⟨t', slot', running⟩ := h.settled
  cases slot.symm.trans slot'
  cases parked.symm.trans running

/-- A chronicle is prompt if its kernel is. -/
theorem prompt_iff_kernel (h : c.Healthy k) : c.Prompt ↔ k.Prompt c.Ready := by
  constructor
  · rintro prompt pid t slot parked ⟨r, request, possible⟩
    obtain ⟨wait, -, waiting, covers⟩ := prompt k pid t r ⟨h.kernel, slot, parked, request⟩ possible
    exact ⟨wait, waiting, covers⟩
  · rintro prompt k' pid t r ⟨kernel, slot, parked, request⟩ possible
    cases h.kernel.symm.trans kernel
    obtain ⟨wait, waiting, covers⟩ := prompt pid t slot parked ⟨r, request, possible⟩
    obtain ⟨r', wait', request', waits, waiting'⟩ := h.waits pid t slot parked
    cases request.symm.trans request'
    cases waiting.symm.trans waiting'
    exact ⟨wait, waits, waiting, covers⟩

variable [Port π]

theorem of_step (h : c.Healthy k) (step : c.step p = .ok c') :
    (∃ k', World.Turn k c.world c'.world k' p) ∧
      ∀ pid, c'.last? pid = if k.current = pid then some p else c.last? pid := by
  obtain ⟨⟨a, world⟩, pursue, eq⟩ := Checked.bind_eq_ok.1 step
  cases eq
  refine ⟨World.turn_pursue h.kernel h.sound h.settled pursue, fun pid => ?_⟩
  rw [last?_cons, current, h.kernel]
  rfl

variable {P : Label → Prop}

/-- An operation that parks no task but the current one, for what its request waits for, keeps a
chronicle healthy. -/
theorem turn (h : c.Healthy k) (operates : Kernel.Operates P [] [] k k')
    (kernel : c'.world.kernel? = some k')
    (names : ∀ r : Request, r.wait? c'.world.devices = r.wait? c.world.devices)
    (last : ∀ pid, c'.last? pid = if k.current = pid then some p else c.last? pid)
    (parks : ∀ pid, P (.parks pid .awaitingDevice) → pid = k.current)
    (fresh : ∀ t', k'.sched.task? k.current = some t' → t'.state = .awaitingDevice →
      ∃ r wait, p = .request r ∧ r.wait? c.world.devices = some wait ∧ t'.deviceWait = some wait) :
    c'.Healthy k' where
  kernel := kernel
  sound := operates.sound h.sound
  settled := operates.settled h.sound
  listed := operates.listed h.sound h.listed
  waits pid t' slot' parked := by
    by_cases ran : k.current = pid
    · subst ran
      obtain ⟨r, wait, rfl, waits, waiting⟩ := fresh t' slot' parked
      exact ⟨r, wait, by rw [last, if_pos rfl], (names r).trans waits, waiting⟩
    · obtain ⟨t, slot, before, same⟩ := operates.waits_back h.sound slot' parked (.inl rfl)
        fun allowed => ran (parks pid allowed).symm
      obtain ⟨r, wait, request, waits, waiting⟩ := h.waits pid t slot before
      exact ⟨r, wait, by rw [last, if_neg ran, request], (names r).trans waits,
        same.device.trans waiting⟩

theorem turn_prompt (h : c.Healthy k) (operates : Kernel.Operates P [] [] k k')
    (last : ∀ pid, c'.last? pid = if k.current = pid then some p else c.last? pid)
    (undelivered : ¬P .delivers) (parks : ∀ pid, P (.parks pid .awaitingDevice) → pid = k.current)
    (impossible : ∀ t' r, k'.sched.task? k.current = some t' → t'.state = .awaitingDevice →
      p = .request r → ¬r.Possible c'.world.devices)
    (fewer : ∀ r : Request, r.Possible c'.world.devices → r.Possible c.world.devices)
    (prompt : k.Prompt c.Ready) : k'.Prompt c'.Ready := by
  have kept : k'.Prompt fun pid => k.current ≠ pid ∧ c.Ready pid :=
    operates.prompt h.sound h.listed
      (fun pid t slot parked ready => prompt pid t slot parked ready.2) undelivered
      fun pid allowed ready => ready.1 (parks pid allowed).symm
  rintro pid t' slot' parked ⟨r, request, possible⟩
  rw [last] at request
  split at request
  case isTrue eq =>
    subst eq
    exact absurd possible (impossible t' r slot' parked (Option.some.inj request))
  case isFalse ran => exact kept pid t' slot' parked ⟨ran, r, request, fewer r possible⟩

/-- An ordinary operation keeps a chronicle healthy and prompt. -/
theorem ordinary (h : c.Healthy k) (operates : Kernel.Operates P [] [] k k')
    (kernel : c'.world.kernel? = some k')
    (names : ∀ r : Request, r.wait? c'.world.devices = r.wait? c.world.devices)
    (fewer : ∀ r : Request, r.Possible c'.world.devices → r.Possible c.world.devices)
    (last : ∀ pid, c'.last? pid = if k.current = pid then some p else c.last? pid)
    (ordinary : ∀ label, P label → label ≠ .delivers ∧ ∀ pid, label ≠ .parks pid .awaitingDevice) :
    c'.Healthy k' ∧ (k.Prompt c.Ready → k'.Prompt c'.Ready) := by
  have running {t' : Task} (slot' : k'.sched.task? k.current = some t') :
      t'.state ≠ .awaitingDevice := by
    intro parked
    obtain ⟨t, slot, before, -⟩ := operates.waits_back h.sound slot' parked (.inl rfl)
      fun allowed => (ordinary _ allowed).2 _ rfl
    exact h.not_current slot before rfl
  refine ⟨h.turn operates kernel names last
    (fun pid allowed => absurd rfl ((ordinary _ allowed).2 pid))
    fun t' slot' parked => absurd parked (running slot'), ?_⟩
  exact h.turn_prompt operates last (fun allowed => (ordinary _ allowed).1 rfl)
    (fun pid allowed => absurd rfl ((ordinary _ allowed).2 pid))
    (fun t' r slot' parked _ => absurd parked (running slot')) fewer

/-- A wait for a device that is not ready keeps a chronicle healthy and prompt. -/
theorem wait {r : Request} {wait : DeviceWait} {result : Except Error (Progress Unit)}
    (h : c.Healthy k) (operation : k.waitDevice wait.device wait.direction = .ok (result, k'))
    (kernel : c'.world.kernel? = some k') (same : c'.world.devices = c.world.devices)
    (impossible : ¬r.Possible c.world.devices) (waits : r.wait? c.world.devices = some wait)
    (last : ∀ pid, c'.last? pid = if k.current = pid then some (.request r) else c.last? pid) :
    c'.Healthy k' ∧ (k.Prompt c.Ready → k'.Prompt c'.Ready) := by
  have names : ∀ r : Request, r.wait? c'.world.devices = r.wait? c.world.devices :=
    fun r => by rw [same]
  have fewer : ∀ r : Request, r.Possible c'.world.devices → r.Possible c.world.devices :=
    fun r possible => same ▸ possible
  rcases Kernel.waitDevice_eq_ok h.sound h.settled operation with
    ⟨-, quiet⟩ | ⟨-, -, k₁, t, moves, slot, -, waiting, outside, pass⟩
  · exact h.ordinary quiet kernel names fewer last
      fun _ quiet => by subst quiet; exact ⟨nofun, fun _ => nofun⟩
  · have operates : Kernel.Operates
        (fun label => label = .quiet ∨ label = .parks k.current .awaitingDevice) [] [] k k' :=
      ⟨k₁, moves, .pass (.inr outside) pass⟩
    have parks pid (allowed : Label.parks pid .awaitingDevice = .quiet ∨
        Label.parks pid .awaitingDevice = .parks k.current .awaitingDevice) : pid = k.current := by
      rcases allowed with eq | eq <;> cases eq
      rfl
    refine ⟨h.turn operates kernel names last parks fun t' slot' parked => ?_,
      h.turn_prompt operates last (by rintro (eq | eq) <;> cases eq) parks ?_ fewer⟩
    · -- behind the pass, the current task still waits for what it parked for
      have sound := moves.sound h.sound
      obtain ⟨u, slot₁, -, kept⟩ := (Kernel.moves_schedule sound pass).waits_back sound slot'
        parked (.inl rfl) (by rintro ((eq | eq) | eq) <;> cases eq)
      cases slot.symm.trans slot₁
      exact ⟨r, wait, rfl, waits, kept.device.trans waiting⟩
    · intro t' r' _ _ same possible
      cases same
      exact impossible (fewer r possible)

/-- An interrupt that moves bytes and reports keeps a chronicle healthy.  It leaves the chronicle
prompt exactly if it strands nobody. -/
theorem report {work : Interrupt} {report : DeviceWait} {result : Except Error Unit}
    (h : c.Healthy k)
    (operation : k.signalDevice report.device report.direction = .ok (result, k'))
    (kernel : c'.world.kernel? = some k')
    (names : ∀ r : Request, r.wait? c'.world.devices = r.wait? c.world.devices)
    (moved : work.report? c.world.devices = some report)
    (more : ∀ r : Request, r.Possible c'.world.devices → r.Possible c.world.devices ∨ work.Serves r)
    (served : ∀ r : Request, work.Serves r → r.Possible c'.world.devices)
    (last : ∀ pid, c'.last? pid =
      if k.current = pid then some (.request (.interrupt work)) else c.last? pid) :
    c'.Healthy k' ∧ (k.Prompt c.Ready → ¬c.Strands (.request (.interrupt work)) →
        k'.Prompt c'.Ready) ∧
      (c.Strands (.request (.interrupt work)) → ¬c'.Prompt) := by
  have operates := Kernel.operates_signalDevice h.sound h.settled operation
  have calm {pid : Pid} : ¬(Label.parks pid .awaitingDevice = .quiet ∨
      Label.parks pid .awaitingDevice = .posts (.device report.device report.direction)) := nofun
  have healthy : c'.Healthy k' := by
    refine h.turn operates kernel names last (fun pid eq => absurd eq calm)
      fun t' slot' parked => ?_
    obtain ⟨t, slot, before, -⟩ := operates.waits_back h.sound slot' parked (.inl rfl) calm
    exact absurd rfl (h.not_current slot before)
  refine ⟨healthy, ?_⟩
  -- what a task is parked for was possible before, or it waits for the report
  have due {k₁ : Kernel π} (moves : Moves (fun label => label = .quiet ∨
        label = .posts (.device report.device report.direction)) ⟨k, [], none⟩ ⟨k₁, [], none⟩)
      {pid : Pid} {t' : Task} (slot' : k₁.sched.task? pid = some t')
      (parked : t'.state = .awaitingDevice)
      (ready : c'.Ready pid) : ∃ t r, c.Parked k pid t r ∧ t.deviceWait = t'.deviceWait ∧
        (r.Possible c.world.devices ∨ (work.Serves r ∧ t.deviceWait = some report)) := by
    obtain ⟨t, slot, before, same⟩ := moves.waits_back h.sound slot' parked (.inl rfl) calm
    obtain ⟨r, request, possible⟩ := ready
    rw [last, if_neg (h.not_current slot before)] at request
    refine ⟨t, r, ⟨h.kernel, slot, before, request⟩, same.device.symm,
      (more r possible).imp_right fun serves => ?_⟩
    obtain ⟨r', wait, request', waits, waiting⟩ := h.waits pid t slot before
    cases request.symm.trans request'
    exact ⟨serves, waiting.trans (waits.symm.trans (Interrupt.wait?_of_serves moved serves))⟩
  rcases Kernel.signalDevice_eq_ok operation with ⟨e, rfl, refused⟩ | ⟨k₁, -, reported, pass⟩
  · obtain ⟨moves, ⟨done, -⟩ | ⟨-, events⟩⟩ := Kernel.moves_reportDevice h.sound refused
    · cases done
    · have same {wait : DeviceWait} : k'.Covers wait ↔ k.Covers wait := by
        unfold Kernel.Covers
        rw [events]
      constructor
      · intro prompt unstranded pid t' slot' parked ready
        obtain ⟨t, r, before, kept, possible | ⟨serves, waiting⟩⟩ := due moves slot' parked ready
        · obtain ⟨wait, waiting, covers⟩ :=
            prompt pid t before.slot before.waits ⟨r, before.request, possible⟩
          exact ⟨wait, kept ▸ waiting, same.2 covers⟩
        · refine ⟨report, kept ▸ waiting, same.2 ?_⟩
          by_contra uncovered
          exact unstranded
            ⟨work, report, k, pid, t, r, rfl, moved, before, serves, ⟨e, k', refused⟩, uncovered⟩
      · rintro ⟨work', report', k₀, pid, t, r, same, moved', ⟨kernel₀, slot, waits, request⟩,
          serves, -, uncovered⟩ prompt
        cases same
        cases h.kernel.symm.trans kernel₀
        cases moved.symm.trans moved'
        have slot' := moves.slot_calm Kernel.calm_posts h.sound slot
          (h.sound.tasks.alive slot (by rw [waits]; nofun))
        have request' : c'.last? pid = some (.request r) := by
          rw [last, if_neg (h.not_current slot waits), request]
        obtain ⟨wait, waiting, -, covers⟩ :=
          prompt k' pid t r ⟨kernel, slot', waits, request'⟩ (served r serves)
        rw [names, Interrupt.wait?_of_serves moved serves] at waiting
        cases waiting
        exact uncovered (same.1 covers)
  · obtain ⟨moves, ⟨-, entity, perm⟩ | ⟨⟨e, refused⟩, -⟩⟩ :=
      Kernel.moves_reportDevice h.sound reported
    · constructor
      · intro prompt _
        have prompt₁ : k₁.Prompt c'.Ready := by
          intro pid t' slot' parked ready
          obtain ⟨t, r, before, kept, possible | ⟨serves, waiting⟩⟩ := due moves slot' parked ready
          · obtain ⟨wait, waiting, covers⟩ :=
              prompt pid t before.slot before.waits ⟨r, before.request, possible⟩
            exact ⟨wait, kept ▸ waiting, covers.mono fun _ mem => perm.symm.subset (.tail _ mem)⟩
          · exact ⟨report, kept ▸ waiting, _, perm.symm.subset List.mem_cons_self, report.direction,
              rfl, Interrupt.intersects_report moved⟩
        exact prompt₁.schedule (moves.sound h.sound) (moves.listed h.sound h.listed) pass
      · rintro ⟨work', report', k₀, pid, t, r, same, moved', ⟨kernel₀, -, -, -⟩, -,
          ⟨e, k₂, refused⟩, -⟩
        cases same
        cases h.kernel.symm.trans kernel₀
        cases moved.symm.trans moved'
        cases reported.symm.trans refused
    · cases refused

/-- A step keeps a chronicle healthy, and prompt exactly if it strands nobody. -/
theorem step (h : c.Healthy k) (step : c.step p = .ok c') :
    ∃ k', c'.Healthy k' ∧ (c.Prompt → ¬c.Strands p → c'.Prompt) ∧ (c.Strands p → ¬c'.Prompt) := by
  obtain ⟨⟨k', turn⟩, last⟩ := h.of_step step
  refine ⟨k', ?_⟩
  rw [h.prompt_iff_kernel]
  cases turn with
  | ordinary silent kernel operation names fewer =>
    obtain ⟨healthy, prompt⟩ :=
      h.ordinary operation kernel names fewer last fun _ allowed => allowed
    exact ⟨healthy, fun start _ => healthy.prompt_iff_kernel.2 (prompt start),
      fun strands => absurd silent strands.reports⟩
  | waits silent kernel same impossible waits operation =>
    obtain ⟨healthy, prompt⟩ := h.wait operation kernel same impossible waits last
    exact ⟨healthy, fun start _ => healthy.prompt_iff_kernel.2 (prompt start),
      fun strands => absurd silent strands.reports⟩
  | reports kernel names moved more served operation =>
    obtain ⟨healthy, prompt, stranded⟩ := h.report operation kernel names moved more served last
    exact ⟨healthy, fun start unstranded => healthy.prompt_iff_kernel.2 (prompt start unstranded),
      stranded⟩

theorem start {port : π} (booted : Kernel.boot port = .ok (.ok k))
    (mutexes : MutexId → Mutex) (devices : List AttachedDevice) :
    (Chronicle.start k mutexes devices).Healthy k where
  kernel := rfl
  sound := Kernel.sound_boot booted
  settled := Kernel.settled_boot booted
  listed _ _ slot parked := absurd parked (Kernel.not_awaitingDevice_of_boot booted slot)
  waits _ _ slot parked := absurd parked (Kernel.not_awaitingDevice_of_boot booted slot)

theorem prompt_start {port : π} (booted : Kernel.boot port = .ok (.ok k))
    (mutexes : MutexId → Mutex) (devices : List AttachedDevice) :
    (Chronicle.start k mutexes devices).Prompt := by
  rintro k' pid t r ⟨kernel, slot, parked, -⟩
  cases kernel
  exact absurd parked (Kernel.not_awaitingDevice_of_boot booted slot)

end Healthy

/-! ## Runs -/

variable [Port π] {ps qs : List Pursuit}

theorem Strands.step (h : c.Strands p) : ∃ c', c.step p = .ok c' := by
  obtain ⟨work, report, k, pid, t, r, rfl, moved, parked, -, ⟨e, k', refused⟩, -⟩ := h
  obtain ⟨a, w', served⟩ := World.serve_of_refused parked.kernel moved refused
  have attempted : c.world.pursue (.request (.interrupt work)) = .ok (.finished (a.map id), w') :=
    Checked.bind_eq_ok.2 ⟨_, served, rfl⟩
  exact ⟨_, Checked.bind_eq_ok.2 ⟨_, attempted, rfl⟩⟩

theorem run_concat {c₁ : Chronicle π} (first : c.run ps = .ok c₁) (last : c₁.step p = .ok c') :
    c.run (ps ++ [p]) = .ok c' := by
  induction ps generalizing c with
  | nil => cases first; exact Checked.bind_eq_ok.2 ⟨c', last, rfl⟩
  | cons q ps ih =>
    obtain ⟨c₂, step, rest⟩ := Checked.bind_eq_ok.1 first
    exact Checked.bind_eq_ok.2 ⟨c₂, step, ih rest⟩

namespace Healthy

theorem run (h : c.Healthy k) (run : c.run ps = .ok c') : ∃ k', c'.Healthy k' := by
  induction ps generalizing c k with
  | nil => cases run; exact ⟨k, h⟩
  | cons p ps ih =>
    obtain ⟨c₁, first, rest⟩ := Checked.bind_eq_ok.1 run
    obtain ⟨k₁, h, -⟩ := h.step first
    exact ih h rest

theorem prompt_run (h : c.Healthy k) (prompt : c.Prompt) (run : c.run ps = .ok c')
    (spared : ∀ before p c₁, before ++ [p] <+: ps → c.run before = .ok c₁ → ¬c₁.Strands p) :
    c'.Prompt := by
  induction ps generalizing c k with
  | nil => cases run; exact prompt
  | cons p ps ih =>
    obtain ⟨c₁, first, rest⟩ := Checked.bind_eq_ok.1 run
    obtain ⟨k₁, h, kept, -⟩ := h.step first
    refine ih h (kept prompt (spared [] p c ⟨ps, rfl⟩ rfl)) rest fun before q c₂ reached run => ?_
    exact spared (p :: before) q c₂ (List.prefix_cons_inj p |>.2 reached)
      (Checked.bind_eq_ok.2 ⟨c₁, first, run⟩)

end Healthy

/-- **Who stays parked.**  Throughout a run, whoever is parked for a device that is ready is woken
by the next pass, exactly if no report is refused that somebody parked needs. -/
theorem prompt_iff {port : π} (booted : Kernel.boot port = .ok (.ok k)) (mutexes : MutexId → Mutex)
    (devices : List AttachedDevice) (pursuits : List Pursuit) :
    (∀ before c, before <+: pursuits → (start k mutexes devices).run before = .ok c → c.Prompt) ↔
      ∀ before p c, before ++ [p] <+: pursuits → (start k mutexes devices).run before = .ok c →
        ¬c.Strands p := by
  constructor
  · intro prompt before p c reached run strands
    obtain ⟨c', last⟩ := strands.step
    obtain ⟨k₁, healthy⟩ := (Healthy.start booted mutexes devices).run run
    obtain ⟨-, -, -, stranded⟩ := healthy.step last
    exact stranded strands (prompt _ c' reached (run_concat run last))
  · intro spared before c reached run
    refine (Healthy.start booted mutexes devices).prompt_run
      (Healthy.prompt_start booted mutexes devices) run fun earlier p c₁ earlier_reached => ?_
    exact spared earlier p c₁ (earlier_reached.trans reached)

/-- A task reads from an empty device.  The next one fills the bus in an atomic section, in which a
byte comes for the first. -/
def overlooked : List Pursuit :=
  List.map .request <| [.registerDevice, .registerDevice, .spawn (.program 0), .spawn (.program 1),
    .yield, .read 0 4, .enterSection] ++ .replicate 24 (.interrupt (.signal 1 DeviceFlags.rx)) ++
      [.interrupt (.receive 0 [0x61]), .leaveSection]

/-- Behind the section, the reader is still parked, and the bus is empty. -/
theorem run_overlooked : ∃ (k : Kernel HostPort) (c : Chronicle HostPort) (k' : Kernel HostPort)
    (t : Task), Kernel.boot (HostPort.new false) = .ok (.ok k) ∧
      (start k (fun _ => .free) [⟨4, .new 0⟩]).run overlooked = .ok c ∧
      c.Parked k' 1 t (.read 0 4) ∧ (Request.read 0 4).Possible c.world.devices ∧
      k'.bus.queues.events = [] := by
  have runs : (((Kernel.boot (HostPort.new false)).toOption.bind Except.toOption).any fun k =>
        ((start k (fun _ => .free) [⟨4, .new 0⟩]).run overlooked).toOption.any fun c =>
          c.world.kernel?.any fun k' => (k'.sched.task? 1).any fun t =>
            c.world.devices[0]?.any fun d =>
              t.state = .awaitingDevice ∧ c.last? 1 = some (.request (.read 0 4)) ∧
                0 < d.device.readable ∧ k'.bus.queues.events = []) = true := by decide +kernel
  obtain ⟨k, booted, runs⟩ := Kernel.exists_of_boot runs
  obtain ⟨c, run, runs⟩ := Checked.exists_of_any runs
  obtain ⟨k', kernel, runs⟩ := (Option.any_eq_true _ _).1 runs
  obtain ⟨t, slot, runs⟩ := (Option.any_eq_true _ _).1 runs
  obtain ⟨d, device, runs⟩ := (Option.any_eq_true _ _).1 runs
  obtain ⟨parked, request, readable, empty⟩ := of_decide_eq_true runs
  exact ⟨k, c, k', t, booted, run, ⟨kernel, slot, parked, request⟩, ⟨d, device, readable⟩, empty⟩

/-- Nothing that is queued wakes the reader. -/
theorem not_prompt_overlooked : ∃ (k : Kernel HostPort) (c : Chronicle HostPort),
    Kernel.boot (HostPort.new false) = .ok (.ok k) ∧
      (start k (fun _ => .free) [⟨4, .new 0⟩]).run overlooked = .ok c ∧ ¬c.Prompt := by
  obtain ⟨k, c, k', t, booted, run, parked, possible, empty⟩ := run_overlooked
  refine ⟨k, c, booted, run, fun prompt => ?_⟩
  obtain ⟨wait, -, -, event, queued, -⟩ := prompt k' 1 t _ parked possible
  rw [empty] at queued
  cases queued

/-- Some report strands the reader. -/
theorem strands_overlooked : ∃ (k : Kernel HostPort) (before : List Pursuit) (p : Pursuit)
    (c : Chronicle HostPort), Kernel.boot (HostPort.new false) = .ok (.ok k) ∧
      before ++ [p] <+: overlooked ∧
      (start k (fun _ => .free) [⟨4, .new 0⟩]).run before = .ok c ∧ c.Strands p := by
  obtain ⟨k, c, k', t, booted, run, parked, possible, empty⟩ := run_overlooked
  by_contra spared
  have prompt := (prompt_iff booted (fun _ => .free) [⟨4, .new 0⟩] overlooked).2
    fun before p c reached run strands => spared ⟨k, before, p, c, booted, reached, run, strands⟩
  obtain ⟨wait, -, -, event, queued, -⟩ :=
    prompt _ c (List.prefix_refl _) run k' 1 t _ parked possible
  rw [empty] at queued
  cases queued

end Chronicle

end Rtos

import Rtos.Proofs.Kernel.Descent
import Rtos.Proofs.Kernel.Devices
import Rtos.Proofs.Kernel.Locks
import Rtos.Proofs.Kernel.Tasks
import Rtos.Port.Host
import Rtos.System

/-!
# Runs of systems

Every call is an operation of the kernel on behalf of the current task, and `Call.labels` tells what
its body may do to the tasks.  What the operations keep, every run keeps; so each state that a run
reaches from a kernel that was just built is sound, settled, and accounts for every reference.
-/

namespace Rtos

/-- What the body of a call may do to the tasks, for the task that runs. -/
def Call.labels (current : Pid) : Call → Label → Prop
  | .spawn _, label => label = .quiet ∨ ∃ pid, label = .spawns pid current
  | .exit status, label => ∃ parent, label = .reaps current ∨ label = .exits current parent ∨
      label.Tells current parent status
  | .waitChild _ _, label => label = .quiet ∨ label = .reaps current ∨
      label = .parks current .awaitingChild
  | .sleep _, label => label = .quiet ∨ label = .parks current .sleeping
  | .lock _, label => label = .quiet ∨ label = .parks current .awaitingMutex
  | .unlock _, label => label = .quiet ∨ label = .switches ∨ ∃ waiter, label = .grants waiter
  | .waitDevice _ _, label => label = .quiet ∨ label = .parks current .awaitingDevice
  | .reportDevice device flags, label | .signalDevice device flags, label =>
      label = .quiet ∨ label = .posts (.device device flags)
  | .reportFile handle flags, label => label = .quiet ∨ label = .posts (.file handle flags)
  | _, label => label = .quiet

namespace Call

variable {current pid child parent : Pid} {call : Call} {label : Label} {state : TaskState}
  {payload : Payload}

theorem labels_inside (h : call.labels current label) : label ≠ .shares := by
  rintro rfl
  cases call <;> simp [labels, Label.Tells] at h

theorem not_delivers : ¬call.labels current .delivers := by
  cases call <;> simp [labels, Label.Tells]

/-- Only an unlock hands the processor over. -/
theorem switches_of_labels (h : call.labels current .switches) : ∃ id, call = .unlock id := by
  cases call <;> simp [labels, Label.Tells] at h ⊢

/-- Only an unlock grants a mutex. -/
theorem grants_of_labels (h : call.labels current (.grants pid)) : ∃ id, call = .unlock id := by
  cases call <;> simp [labels, Label.Tells] at h ⊢

/-- Only the current task parks, for what the call asks for. -/
theorem parks_of_labels (h : call.labels current (.parks pid state)) : pid = current ∧
    ((∃ filter options, call = .waitChild filter options ∧ state = .awaitingChild) ∨
      (∃ millis, call = .sleep millis ∧ state = .sleeping) ∨
      (∃ id, call = .lock id ∧ state = .awaitingMutex) ∨
      ∃ device direction, call = .waitDevice device direction ∧ state = .awaitingDevice) := by
  cases call <;> simp [labels, Label.Tells] at h ⊢ <;> exact h

theorem exits_of_labels (h : call.labels current (.exits pid parent)) :
    pid = current ∧ ∃ status, call = .exit status := by
  cases call <;> simp [labels, Label.Tells] at h
  case exit status => exact ⟨h, status, rfl⟩

theorem reaps_of_labels (h : call.labels current (.reaps pid)) :
    pid = current ∧ ((∃ status, call = .exit status) ∨
      ∃ filter options, call = .waitChild filter options) := by
  cases call <;> simp [labels, Label.Tells] at h
  case exit status => exact ⟨h, .inl ⟨status, rfl⟩⟩
  case waitChild filter options => exact ⟨h, .inr ⟨filter, options, rfl⟩⟩

theorem spawns_of_labels (h : call.labels current (.spawns pid parent)) :
    parent = current ∧ ∃ entry, call = .spawn entry := by
  cases call <;> simp [labels, Label.Tells] at h
  case spawn entry => exact ⟨h, entry, rfl⟩

/-- Nobody but a task that exits wakes its parent past the parent's listener. -/
theorem wakes_of_labels (h : call.labels current (.wakes pid child)) :
    ∃ status, call = .exit status := by
  cases call <;> simp [labels, Label.Tells] at h ⊢

theorem posts_of_labels (h : call.labels current (.posts payload)) :
    (∃ status, call = .exit status) ∨
      (∃ device flags, (call = .reportDevice device flags ∨ call = .signalDevice device flags) ∧
        payload = .device device flags) ∨
      ∃ handle flags, call = .reportFile handle flags ∧ payload = .file handle flags := by
  cases call <;> simp [labels, Label.Tells] at h ⊢ <;> exact h

end Call

namespace System

variable {π : Type} [Port π] {s s' : System π} {call : Call} {reply : Reply}
  {held : List EntityId}

omit [Port π] in
/-- A call that may be refused is an operation of the kernel, and leaves the mutexes alone. -/
theorem request_eq_ok {α : Type} {f : Kernel π → Checked (Except Error α × Kernel π)}
    {of : α → Reply} (h : s.request f of = .ok (reply, s')) :
    ∃ result, f s.kernel = .ok (result, s'.kernel) ∧ reply = .of of result ∧
      s'.mutexes = s.mutexes := by
  obtain ⟨⟨result, kernel⟩, operation, eq⟩ := Checked.bind_eq_ok.1 h
  cases eq
  exact ⟨result, operation, rfl, rfl⟩

omit [Port π] in
theorem perform_eq_ok {f : Kernel π → Checked (Kernel π)} (h : s.perform f = .ok (reply, s')) :
    f s.kernel = .ok s'.kernel ∧ reply = .done ∧ s'.mutexes = s.mutexes := by
  obtain ⟨kernel, operation, eq⟩ := Checked.bind_eq_ok.1 h
  cases eq
  exact ⟨operation, rfl, rfl⟩

/-- A call is an operation with the labels of the call. -/
theorem operates_step (sound : Moment.Sound ⟨s.kernel, held, none⟩) (settled : s.kernel.Settled)
    (h : s.step call = .ok (reply, s')) :
    Kernel.Operates (call.labels s.kernel.current) held held s.kernel s'.kernel := by
  unfold step at h
  cases call with
  | spawn entry =>
    obtain ⟨result, h, -⟩ := request_eq_ok h
    exact (Kernel.operates_spawn sound settled h).mono
      fun _ label => label.imp_right fun ⟨pid, _, spawns⟩ => ⟨pid, spawns⟩
  | exit status =>
    obtain ⟨result, h, -⟩ := request_eq_ok h
    obtain ⟨t, slot, running⟩ := settled
    have settled : s.kernel.Settled := ⟨t, slot, running⟩
    rcases Kernel.operates_exit sound settled slot h with ⟨-, -, same⟩ | ⟨-, -, -, operates⟩
    · rw [same]
      exact .none settled
    · exact operates.mono fun _ label => ⟨t.parent, label⟩
  | waitChild filter options =>
    obtain ⟨result, h, -⟩ := request_eq_ok h
    exact Kernel.operates_waitChild sound settled h
  | sleep millis =>
    obtain ⟨result, h, -⟩ := request_eq_ok h
    exact Kernel.operates_sleep sound settled h
  | tick => exact Kernel.operates_tick settled (perform_eq_ok h).1
  | schedule => exact Kernel.operates_schedule settled (perform_eq_ok h).1
  | yield => exact Kernel.operates_schedule settled (perform_eq_ok h).1
  | enterSection => exact Kernel.operates_enterSection sound settled (perform_eq_ok h).1
  | leaveSection => exact Kernel.operates_leaveSection sound settled (perform_eq_ok h).1
  | lock id =>
    obtain ⟨⟨result, mutex, kernel⟩, lock, eq⟩ := Checked.bind_eq_ok.1 h
    cases eq
    rcases Kernel.operates_lock sound settled lock with ⟨-, -, -, rfl⟩ | ⟨-, -, -, quiet⟩ |
      ⟨-, -, -, -, k₁, parks, -, outside, pass⟩
    · exact .none settled
    · exact quiet.mono fun _ => .inl
    · exact ⟨k₁, parks, .pass (.inr outside) pass⟩
  | tryLock id =>
    cases h
    exact .none settled
  | unlock id =>
    obtain ⟨⟨mutex, kernel⟩, unlock, eq⟩ := Checked.bind_eq_ok.1 h
    cases eq
    obtain ⟨-, ⟨-, -, rfl⟩ | ⟨waiter, -, -, grants, -⟩⟩ :=
      Kernel.operates_unlock sound settled unlock
    · exact .none settled
    · exact grants.mono fun _ label => label.imp_right (.imp_right fun grants => ⟨waiter, grants⟩)
  | registerDevice =>
    obtain ⟨result, h, -⟩ := request_eq_ok h
    exact Kernel.operates_registerDevice sound settled h
  | unregisterDevice device =>
    obtain ⟨result, h, -⟩ := request_eq_ok h
    exact Kernel.operates_unregisterDevice sound settled h
  | reportDevice device flags =>
    obtain ⟨result, h, -⟩ := request_eq_ok h
    exact Kernel.operates_reportDevice sound settled h
  | signalDevice device flags =>
    obtain ⟨result, h, -⟩ := request_eq_ok h
    exact Kernel.operates_signalDevice sound settled h
  | reportFile handle flags =>
    obtain ⟨result, h, -⟩ := request_eq_ok h
    exact Kernel.operates_reportFile sound settled h
  | waitDevice device direction =>
    obtain ⟨result, h, -⟩ := request_eq_ok h
    exact Kernel.operates_waitDevice sound settled h

/-- Whoever is in a slot behind a call was there before, or was created by the call in a slot that was
free. -/
theorem remains_or_born {pid : Pid} {t' : Task} (sound : Moment.Sound ⟨s.kernel, held, none⟩)
    (settled : s.kernel.Settled) (h : s.step call = .ok (reply, s'))
    (slot' : s'.kernel.sched.task? pid = some t') (active : t'.active = true) :
    (∃ t, s.kernel.sched.task? pid = some t ∧ t.Remains t') ∨
      ∃ entry u entity stack stackPointer, call = .spawn entry ∧ reply = .number pid ∧
        pid ≠ idlePid ∧ s.kernel.sched.task? pid = some u ∧ u.active = false ∧
        t' = .spawned pid s.kernel.current entity stack stackPointer := by
  by_cases spawns : ∃ entry, call = .spawn entry
  · obtain ⟨entry, rfl⟩ := spawns
    obtain ⟨result, spawn, rfl, -⟩ := request_eq_ok (f := (·.spawn entry)) h
    rcases Kernel.spawn_eq_ok sound settled spawn with ⟨-, quiet⟩ |
      ⟨child, u, entity, stack, stackPointer, rfl, busy, free, vacant, moves, born⟩
    · exact .inl (quiet.remains sound (by rintro parent ⟨⟩) slot' active)
    · by_cases new : pid = child
      · subst new
        cases born.symm.trans slot'
        exact .inr ⟨entry, u, entity, stack, stackPointer, rfl, rfl, busy, free, vacant, rfl⟩
      · refine .inl (moves.remains sound ?_ slot' active)
        rintro parent (quiet | spawns)
        · cases quiet
        · exact new (Label.spawns.inj spawns).1
  · refine .inl (((operates_step sound settled h).moves sound).remains sound ?_ slot' active)
    rintro parent (body | (quiet | delivers) | switches)
    · exact spawns (Call.spawns_of_labels body).2
    · cases quiet
    · cases delivers
    · cases switches

/-! ## Reachable states -/

/-- What every call keeps, a run keeps. -/
theorem run_keeps {I : System π → Prop} {calls : List Call} {replies : List Reply}
    (kept : ∀ {s call reply s'}, I s → s.step call = .ok (reply, s') → I s') (start : I s)
    (h : s.run calls = .ok (replies, s')) : I s' := by
  induction calls generalizing s replies with
  | nil => cases h; exact start
  | cons call calls ih =>
    obtain ⟨⟨reply, s₁⟩, step, next⟩ := Checked.bind_eq_ok.1 h
    obtain ⟨⟨replies, s₂⟩, rest, eq⟩ := Checked.bind_eq_ok.1 next
    cases eq
    exact ih (kept start step) rest

/-- The states between calls. -/
structure Healthy (s : System π) : Prop where
  /-- The kernel is sound. -/
  sound : Moment.Sound ⟨s.kernel, [], none⟩
  /-- The current task runs. -/
  settled : s.kernel.Settled
  /-- References are single. -/
  single : Moment.Single ⟨s.kernel, [], none⟩

theorem healthy_boot {port : π} {k : Kernel π} (h : Kernel.boot port = .ok (.ok k))
    (mutexes : MutexId → Mutex) : Healthy ⟨k, mutexes⟩ :=
  ⟨Kernel.sound_boot h, Kernel.settled_boot h, Kernel.single_boot h⟩

/-- A call keeps a system healthy. -/
theorem Healthy.step (healthy : s.Healthy) (h : s.step call = .ok (reply, s')) : s'.Healthy := by
  have operates := operates_step healthy.sound healthy.settled h
  refine ⟨operates.sound healthy.sound, operates.settled healthy.sound,
    healthy.single.moves healthy.sound (operates.moves healthy.sound) ?_⟩
  rintro label (body | (rfl | rfl) | rfl)
  · exact Call.labels_inside body
  · nofun
  · nofun
  · nofun

theorem Healthy.run {calls : List Call} {replies : List Reply} (healthy : s.Healthy)
    (h : s.run calls = .ok (replies, s')) : s'.Healthy :=
  run_keeps Healthy.step healthy h

/-- The states between calls, in which entities stand in order. -/
structure Arranged (s : System π) : Prop where
  /-- The kernel is arranged. -/
  kernel : s.kernel.Arranged
  /-- The current task runs. -/
  settled : s.kernel.Settled

theorem arranged_boot {port : π} {k : Kernel π} (h : Kernel.boot port = .ok (.ok k))
    (mutexes : MutexId → Mutex) : Arranged ⟨k, mutexes⟩ :=
  ⟨Kernel.arranged_boot h, Kernel.settled_boot h⟩

theorem Arranged.step (arranged : s.Arranged) (h : s.step call = .ok (reply, s')) :
    s'.Arranged := by
  have operates := operates_step arranged.kernel.sound arranged.settled h
  refine ⟨arranged.kernel.operates operates ?_, operates.settled arranged.kernel.sound⟩
  intro label body
  exact Call.labels_inside body

theorem Arranged.run {calls : List Call} {replies : List Reply} (arranged : s.Arranged)
    (h : s.run calls = .ok (replies, s')) : s'.Arranged :=
  run_keeps Arranged.step arranged h

/-- Whatever calls are made on a kernel that was just built, every reference is accounted for. -/
theorem accounted_of_run {port : π} {k : Kernel π} {mutexes : MutexId → Mutex} {calls : List Call}
    {replies : List Reply} (booted : Kernel.boot port = .ok (.ok k))
    (run : System.run ⟨k, mutexes⟩ calls = .ok (replies, s')) : s'.kernel.Accounted :=
  have healthy := (healthy_boot booted mutexes).run run
  healthy.sound.accounted healthy.single

/-- A run in which a task exits, is recorded with its parent, and a device reports. -/
theorem accounted_of_run_host : ∃ k replies s, Kernel.boot (HostPort.new false) = .ok (.ok k) ∧
    System.run ⟨k, fun _ => .free⟩ [.spawn (.program 0), .schedule, .spawn (.program 1), .schedule,
      .exit 7, .registerDevice, .reportDevice 0 DeviceFlags.rx] = .ok (replies, s) ∧
    s.kernel.Accounted := by
  have runs : (((Kernel.boot (HostPort.new false)).toOption.bind Except.toOption).any fun k =>
        (System.run ⟨k, fun _ => .free⟩ [.spawn (.program 0), .schedule, .spawn (.program 1),
          .schedule, .exit 7, .registerDevice, .reportDevice 0 DeviceFlags.rx]).toOption.any
            fun _ => true) = true := by decide +kernel
  obtain ⟨k, booted, runs⟩ := Kernel.exists_of_boot runs
  obtain ⟨⟨replies, s⟩, run, -⟩ := Checked.exists_of_any runs
  exact ⟨k, replies, s, booted, run, accounted_of_run booted run⟩

end System

end Rtos

import Rtos.Proofs.Kernel.Parking
import Rtos.Proofs.Kernel.TaskTable
import Rtos.Proofs.System.WaitQueues
import Rtos.Syscall

/-!
# Waits and what ends them

A call that parks its caller tells so, and the call and its answer tell what the caller waits for
(`Call.wait?`).  The caller does not run again before a call ends the wait (`System.Ends`): an unlock
that takes it off the queue, the delivery of a report, or the exit of a child.  So a task that was
given a mutex, or told to wait for it, owns it once it runs (`System.Patient`).

The idle task is an exception.  A pass that finds nobody else to run resumes it whatever it waits for
(`idle_overtakes_host`).
-/

namespace Rtos

/-! ## Waits -/

/-- What a parked task waits for. -/
inductive Wait
  /-- A mutex. -/
  | mutex (id : MutexId)
  /-- A report of a device. -/
  | device (wait : DeviceWait)
  /-- The exit of a child. -/
  | child (filter : ChildFilter)
deriving DecidableEq, Repr

/-- The task in a slot is parked for this. -/
def Wait.Parks (t : Task) : Wait → Prop
  | .mutex _ => t.state = .awaitingMutex
  | .device wait => t.state = .awaitingDevice ∧ t.deviceWait = some wait
  | .child filter => t.state = .awaitingChild ∧ t.childFilter = filter

namespace Wait.Parks

variable {wait : Wait} {t t' : Task}

theorem parked (h : wait.Parks t) : t.state.Parked := by
  cases wait with
  | mutex => exact .inr (.inl h)
  | device => exact .inl h.1
  | child => exact .inr (.inr h.1)

theorem same (h : wait.Parks t) (same : t.SameWait t') : wait.Parks t' := by
  cases wait with
  | mutex => exact same.state.trans h
  | device => exact ⟨same.state.trans h.1, same.device.trans h.2⟩
  | child => exact ⟨same.state.trans h.1, same.filter.trans h.2⟩

end Wait.Parks

/-- What a call and its answer tell the caller to wait for. -/
def Call.wait? : Call → Reply → Option Wait
  | .lock id, .locked .parked => some (.mutex id)
  | .waitDevice device direction, .device .parked => some (.device ⟨device, direction⟩)
  | .waitChild filter _, .child .parked => some (.child filter)
  | _, _ => none

namespace System

variable {π : Type}

/-- Task `pid` is parked, and waits for this. -/
structure Waits (s : System π) (pid : Pid) (wait : Wait) : Prop where
  /-- It is parked. -/
  parked : ∃ t, s.kernel.sched.task? pid = some t ∧ wait.Parks t
  /-- Who waits for a mutex stands in its queue. -/
  queued : ∀ {id}, wait = .mutex id → pid ∈ (s.mutexes id).waiters.items

/-- A call delivers an event: it was queued, or the call itself has reported it, and then nothing is
queued any more. -/
def Delivers (s : System π) (call : Call) (reply : Reply) (s' : System π) (payload : Payload) :
    Prop :=
  s'.kernel.bus.queues.events = [] ∧
    ((∃ event ∈ s.kernel.bus.queues.events, event.payload = payload) ∨
      ∃ device flags, call = .signalDevice device flags ∧ reply = .done ∧
        payload = .device device flags)

/-- A call ends the wait of task `pid`. -/
def Ends (s : System π) (call : Call) (reply : Reply) (s' : System π) (pid : Pid) : Wait → Prop
  | .mutex id =>
    -- the unlock takes the task off the queue
    call = .unlock id ∧ (s.mutexes id).waiters.items = pid :: (s'.mutexes id).waiters.items
  | .device wait => ∃ flags : DeviceFlags,
    flags.intersects (wait.direction.union DeviceFlags.err) = true ∧
      s.Delivers call reply s' (.device wait.device flags)
  | .child filter => ∃ status t, call = .exit status ∧ reply = .done ∧
    s.kernel.sched.task? s.kernel.current = some t ∧ t.parent = pid ∧
      filter.accepts s.kernel.current = true

variable [Port π]

/-- Calls none of which ends the wait of task `pid`. -/
inductive Lasts (pid : Pid) (wait : Wait) (start : System π) : System π → Prop
  /-- Nothing was called yet. -/
  | refl : Lasts pid wait start start
  /-- Another call. -/
  | call {s s' call reply} (before : Lasts pid wait start s) (step : s.step call = .ok (reply, s'))
      (lasting : ¬s.Ends call reply s' pid wait) : Lasts pid wait start s'

end System

/-- The last word that task `pid` had about a mutex is that it owns it, or gets it before it runs
again, and nobody has unlocked the mutex since the task owned it. -/
def Observation.entitled (id : MutexId) (pid : Pid) : List Observation → Bool
  | [] => false
  | o :: log =>
    match o.event? id with
    | some (.takes p) | some (.parks p) => p = pid || entitled id pid log
    | some (.unlocks _) => entitled id pid log && (lock id log).owner ≠ some pid
    | none => entitled id pid log

/-- Nobody who waits is resumed before the wait ends. -/
structure System.Patient {π : Type} [Port π] (s : System π) (log : List Observation) : Prop where
  /-- A caller that is told to wait waits on, and does not run, until a call ends the wait; the
  telling call may do so itself. -/
  waits : ∀ {call reply s₁ s₂ wait}, s.step call = .ok (reply, s₁) →
    call.wait? reply = some wait → s.kernel.current ≠ idlePid →
    ¬s.Ends call reply s₁ s.kernel.current wait → Lasts s.kernel.current wait s₁ s₂ →
    s₂.Waits s.kernel.current wait ∧ s₂.kernel.current ≠ s.kernel.current
  /-- A call that locks a mutex for a task comes to an end when the task is told that it owns the
  mutex, or gets it before it runs again. -/
  locks : ∀ {w w' : World π} {p id answer}, w.kernel? = some s.kernel → w.mutexes = s.mutexes →
    p = .request (.lock id) ∨ p = .spin id → w.pursue p = .ok (.finished (.ok answer), w') →
    ∃ call reply s', s.step call = .ok (reply, s') ∧ w'.kernel? = some s'.kernel ∧
      w'.mutexes = s'.mutexes ∧
      Observation.entitled id s.kernel.current (⟨s.kernel.current, call, reply⟩ :: log) = true
  /-- A task that is entitled to a mutex owns it whenever it runs. -/
  owns : ∀ id, s.kernel.current ≠ idlePid →
    Observation.entitled id s.kernel.current log = true →
    (Observation.lock id log).owner = some s.kernel.current ∧ (s.mutexes id).locked = true

variable {π : Type} [Port π]

/-! ## Nothing of an exit stays queued -/

/-- No exit waits to be told of. -/
def Kernel.NoExits (k : Kernel π) : Prop :=
  ∀ event ∈ k.bus.queues.events, event.kind ≠ .task

namespace System

variable {s s' : System π} {call : Call} {reply : Reply} {pid : Pid} {wait : Wait} {id : MutexId}

/-- Wait queues and tasks are together, and no exit waits to be told of. -/
structure Resting (s : System π) : Prop extends Queued s where
  /-- The pass behind an exit tells of it. -/
  told : s.kernel.NoExits

theorem resting_boot {port : π} {k : Kernel π} (booted : Kernel.boot port = .ok (.ok k)) :
    Resting ⟨k, fun _ => .free⟩ where
  toQueued := queued_boot booted
  told event queued := by
    obtain ⟨stack, stackPointer, -, laid, e, id, -, -, -, -, -, rfl⟩ := Kernel.boot_eq_ok booted
    cases queued

namespace Resting

/-- A call leaves no exit queued. -/
theorem told_step (h : Resting s) (step : s.step call = .ok (reply, s')) :
    s'.kernel.NoExits := by
  intro event queued
  rcases ((operates_step h.sound h.settled step).moves h.sound).queued_or_posts event queued with
    old | posts | (quiet | delivers) | switches
  · exact h.told event old
  · rcases Call.posts_of_labels posts with ⟨status, rfl⟩ | ⟨device, flags, -, payload⟩ |
      ⟨handle, flags, -, payload⟩
    · obtain ⟨result, exit, -⟩ := request_eq_ok (f := (·.exit status)) step
      obtain ⟨t, slot, running⟩ := h.settled
      rcases Kernel.operates_exit h.sound h.settled slot exit with ⟨-, -, same⟩ |
        ⟨-, -, empty, -⟩
      · rw [same] at queued
        exact h.told event queued
      · rw [empty] at queued
        cases queued
    · rw [Event.kind, payload]
      intro eq
      cases eq
    · rw [Event.kind, payload]
      intro eq
      cases eq
  · cases quiet
  · cases delivers
  · cases switches

theorem step (h : Resting s) (step : s.step call = .ok (reply, s')) : Resting s' where
  toQueued := h.toQueued.step step
  told := h.told_step step

/-! ## Waiting on -/

omit [Port π] in
/-- A report that wakes a task ends its wait. -/
theorem ends_of_wakes {payload : Payload} {t : Task} (parks : wait.Parks t)
    (wakes : payload.Wakes pid t) (report : payload.kind ≠ .task)
    (delivers : s.Delivers call reply s' payload) : s.Ends call reply s' pid wait := by
  cases payload with
  | task => exact absurd rfl report
  | file => exact wakes.elim
  | device device flags =>
    obtain ⟨parked, due, waiting, rfl, covers⟩ := wakes
    cases wait with
    | mutex => cases parked.symm.trans parks
    | child => cases parked.symm.trans parks.1
    | device wait =>
      cases waiting.symm.trans parks.2
      exact ⟨flags, covers, delivers⟩

omit [Port π] in
/-- What would wake a task that waits on was not queued, if nothing is queued now. -/
theorem unqueued (h : Resting s) {payload : Payload} {t : Task} (parks : wait.Parks t)
    (lasting : ¬s.Ends call reply s' pid wait) (wakes : payload.Wakes pid t)
    (empty : s'.kernel.bus.queues.events = []) :
    ¬∃ event ∈ s.kernel.bus.queues.events, event.payload = payload := by
  rintro ⟨event, queued, rfl⟩
  exact lasting (ends_of_wakes parks wakes (h.told event queued) ⟨empty, .inl ⟨event, queued, rfl⟩⟩)

/-- A report leaves a task where it is that waits for no mutex. -/
theorem waits_reportDevice (h : Resting s) {device : DeviceId} {flags : DeviceFlags}
    {result : Except Error Unit} {k : Kernel π} {t : Task}
    (report : s.kernel.reportDevice device flags = .ok (result, k))
    (waits : s.kernel.Waits pid t) (parked : t.state.Parked) (busy : pid ≠ idlePid)
    (other : t.state ≠ .awaitingMutex) : k.Waits pid t :=
  (Kernel.moves_reportDevice h.sound report).1.waits h.sound waits parked busy (by simp)
    (fun parked => absurd parked other) (fun _ _ _ => by simp)

/-- A task that waits for a report or a child waits on behind a signal that does not end the wait. -/
theorem waits_signalDevice (h : Resting s) {device : DeviceId} {flags : DeviceFlags}
    (step : s.step (.signalDevice device flags) = .ok (reply, s')) (busy : pid ≠ idlePid)
    {t : Task} (slot : s.kernel.sched.task? pid = some t) (parks : wait.Parks t)
    (other : t.state ≠ .awaitingMutex)
    (lasting : ¬s.Ends (.signalDevice device flags) reply s' pid wait) :
    s'.kernel.Waits pid t := by
  have parked := parks.parked
  have reported {result : Except Error Unit} {k : Kernel π}
      (report : s.kernel.reportDevice device flags = .ok (result, k)) : k.Waits pid t :=
    h.waits_reportDevice report ⟨t, slot, .refl t⟩ parked busy other
  obtain ⟨result, signal, rfl, -⟩ := request_eq_ok (f := (·.signalDevice device flags)) step
  rcases Kernel.signalDevice_eq_ok signal with ⟨e, -, report⟩ | ⟨k₁, rfl, report, pass⟩
  · exact reported report
  · have moves := (Kernel.moves_reportDevice h.sound report).1
    rcases (reported report).schedule (moves.sound h.sound) parked busy pass with
      waits | ⟨empty, event, queued, wakes⟩
    · exact waits
    · rcases moves.queued_or_posts event queued with old | quiet | posts
      · exact absurd ⟨event, old, rfl⟩ (h.unqueued parks lasting wakes empty)
      · cases quiet
      · have payload := Label.posts.inj posts
        refine (lasting (ends_of_wakes parks wakes ?_ ?_)).elim
        · rw [payload]
          nofun
        · exact ⟨empty, .inr ⟨device, flags, rfl, rfl, payload⟩⟩

theorem waits_exit (h : Resting s) {status : Int} (step : s.step (.exit status) = .ok (reply, s'))
    (busy : pid ≠ idlePid) {t : Task} (slot : s.kernel.sched.task? pid = some t)
    (parks : wait.Parks t) (other : t.state ≠ .awaitingMutex)
    (lasting : ¬s.Ends (.exit status) reply s' pid wait) : s'.kernel.Waits pid t := by
  obtain ⟨result, exit, rfl, -⟩ := request_eq_ok (f := (·.exit status)) step
  obtain ⟨u, current, running⟩ := h.settled
  rcases Kernel.operates_exit h.sound h.settled current exit with ⟨-, -, same⟩ |
    ⟨-, rfl, empty, operates⟩
  · rw [same]
    exact ⟨t, slot, .refl t⟩
  · -- the exit of a child that is waited for ends the wait
    have stranger (waiting : t.state = .awaitingChild)
        (accepts : t.childFilter.accepts s.kernel.current = true) : u.parent ≠ pid := by
      intro parent
      apply lasting
      cases wait with
      | mutex => cases waiting.symm.trans parks
      | device => cases waiting.symm.trans parks.1
      | child filter => exact ⟨status, u, rfl, rfl, current, parent, parks.2 ▸ accepts⟩
    have unwoken (waiting : t.state = .awaitingChild) (child : Pid)
        (accepts : t.childFilter.accepts child = true) :
        ¬(Label.wakes pid child = .reaps s.kernel.current ∨
          Label.wakes pid child = .exits s.kernel.current u.parent ∨
          (Label.wakes pid child).Tells s.kernel.current u.parent status) := by
      rintro (reaps | exits | quiet | posts | wakes)
      · cases reaps
      · cases exits
      · cases quiet
      · cases posts
      · cases wakes
        exact stranger waiting accepts rfl
    rcases operates.waits_or_wakes h.sound ⟨t, slot, .refl t⟩ parks.parked busy
      (by simp [Label.Tells]) (fun parked => absurd parked other) unwoken with
      waits | ⟨-, payload, wakes, queued | posts⟩
    · exact waits
    · exact absurd queued (h.unqueued parks lasting wakes empty)
    · rcases posts with reaps | exits | quiet | posts | woken
      · cases reaps
      · cases exits
      · cases quiet
      · cases posts
        obtain ⟨parent, waiting, accepts⟩ := wakes
        exact absurd parent (stranger waiting accepts)
      · cases woken

theorem waits_kernel (h : Resting s) (step : s.step call = .ok (reply, s')) (busy : pid ≠ idlePid)
    {t : Task} (slot : s.kernel.sched.task? pid = some t) (parks : wait.Parks t)
    (other : t.state ≠ .awaitingMutex) (lasting : ¬s.Ends call reply s' pid wait) :
    s'.kernel.Waits pid t := by
  have waits : s.kernel.Waits pid t := ⟨t, slot, .refl t⟩
  have operates := operates_step h.sound h.settled step
  have others (silent : ∀ payload : Payload, payload.Wakes pid t →
        ¬call.labels s.kernel.current (.posts payload))
      (calm : ∀ status, call ≠ .exit status) : s'.kernel.Waits pid t := by
    have unwoken (child : Pid) : ¬call.labels s.kernel.current (.wakes pid child) := by
      intro wakes
      obtain ⟨status, exit⟩ := Call.wakes_of_labels wakes
      exact calm status exit
    rcases operates.waits_or_wakes h.sound waits parks.parked busy Call.not_delivers
      (fun parked => absurd parked other) (fun _ child _ => unwoken child) with
      waits | ⟨empty, payload, wakes, queued | posts⟩
    · exact waits
    · exact absurd queued (h.unqueued parks lasting wakes empty)
    · exact absurd posts (silent payload wakes)
  cases call with
  | exit status => exact h.waits_exit step busy slot parks other lasting
  | signalDevice device flags => exact h.waits_signalDevice step busy slot parks other lasting
  | reportDevice device flags =>
    obtain ⟨result, report, -⟩ := request_eq_ok (f := (·.reportDevice device flags)) step
    exact h.waits_reportDevice report waits parks.parked busy other
  | reportFile handle flags =>
    refine others ?_ fun _ eq => by cases eq
    rintro payload wakes (quiet | posts)
    · cases quiet
    · cases posts
      exact wakes
  | _ =>
    exact others (by rintro payload wakes; simp [Call.labels]) fun _ eq => by cases eq

/-- A task that waits waits on behind a call, unless the call ends the wait. -/
theorem waits_step (h : Resting s) (step : s.step call = .ok (reply, s')) (busy : pid ≠ idlePid)
    (waits : s.Waits pid wait) (lasting : ¬s.Ends call reply s' pid wait) : s'.Waits pid wait := by
  obtain ⟨t, slot, parks⟩ := waits.parked
  cases wait with
  | mutex id =>
    have mutex := mutex_step h.sound h.settled step id
    rcases mutex.mem_waiters_of_mem (waits.queued rfl) with mem | ⟨unlocks, head⟩
    · refine ⟨h.parked_step step busy mem, ?_⟩
      rintro _ ⟨⟩
      exact mem
    · rw [unlocks] at mutex
      obtain ⟨rest, waiters⟩ := List.head?_eq_some_iff.1 head
      refine absurd ⟨(Observation.event?_eq_unlocks.1 unlocks).2.1, ?_⟩ lasting
      rw [mutex.waiters_of_unlocks, waiters]
      rfl
  | device | child =>
    have other : t.state ≠ .awaitingMutex := by rw [parks.1]; nofun
    obtain ⟨t', slot', same⟩ := h.waits_kernel step busy slot parks other lasting
    exact ⟨⟨t', slot', parks.same same⟩, nofun⟩

/-- A task that was parked waits behind the pass, unless the pass ends the wait. -/
theorem waits_of_parks (h : Resting s) {P : Label → Prop} {k : Kernel π} {t : Task}
    (moves : Moves P ⟨s.kernel, [], none⟩ ⟨k, [], none⟩) (silent : ∀ payload, ¬P (.posts payload))
    (slot : k.sched.task? pid = some t) (parks : wait.Parks t) (busy : pid ≠ idlePid)
    (pass : k.schedule = .ok s'.kernel) (lasting : ¬s.Ends call reply s' pid wait) :
    ∃ t', s'.kernel.sched.task? pid = some t' ∧ wait.Parks t' := by
  have waits : k.Waits pid t := ⟨t, slot, .refl t⟩
  rcases waits.schedule (moves.sound h.sound) parks.parked busy pass with
    ⟨t', slot', same⟩ | ⟨empty, event, queued, wakes⟩
  · exact ⟨t', slot', parks.same same⟩
  · rcases moves.queued_or_posts event queued with old | posts
    · exact absurd (ends_of_wakes parks wakes (h.told event old) ⟨empty, .inl ⟨event, old, rfl⟩⟩)
        lasting
    · exact absurd posts (silent _)

/-- A caller that is told to wait does so, unless the call ends the wait itself. -/
theorem waits_of_told (h : Resting s) (step : s.step call = .ok (reply, s'))
    (told : call.wait? reply = some wait) (busy : s.kernel.current ≠ idlePid)
    (lasting : ¬s.Ends call reply s' s.kernel.current wait) : s'.Waits s.kernel.current wait := by
  unfold Call.wait? at told
  split at told
  case h_1 id =>
    cases told
    have mutex := mutex_step h.sound h.settled step id
    have seen : Observation.event? id ⟨s.kernel.current, .lock id, .locked .parked⟩ =
        some (.parks s.kernel.current) := if_pos rfl
    rw [seen] at mutex
    refine ⟨awaitsMutex_of_parked h.sound h.settled step busy, ?_⟩
    rintro _ ⟨⟩
    exact mutex.mem_of_parks
  case h_2 device direction =>
    cases told
    obtain ⟨result, wait, answer, -⟩ := request_eq_ok (f := (·.waitDevice device direction)) step
    rcases Kernel.waitDevice_eq_ok h.sound h.settled wait with ⟨goesOn, -⟩ |
      ⟨-, -, k₁, t, moves, slot, parked, waiting, -, pass⟩
    · cases result <;> cases answer
      exact absurd rfl goesOn
    · exact ⟨h.waits_of_parks moves (by simp) slot ⟨parked, waiting⟩ busy pass lasting, nofun⟩
  case h_3 filter options =>
    cases told
    obtain ⟨result, wait, answer, -⟩ := request_eq_ok (f := (·.waitChild filter options)) step
    obtain ⟨t, slot, running⟩ := h.settled
    cases Kernel.waitChild_eq_ok h.sound h.settled slot wait with
    | reaps => cases answer
    | goesOn unrecorded unfinished =>
      rcases unfinished with rfl | ⟨e, rfl⟩ <;> cases answer
    | parks unrecorded moves slot outside pass =>
      exact ⟨h.waits_of_parks moves (by simp) slot ⟨rfl, rfl⟩ busy pass lasting, nofun⟩
  case h_4 => cases told

omit [Port π] in
theorem not_current (h : Resting s) (waits : s.Waits pid wait) : s.kernel.current ≠ pid := by
  rintro rfl
  obtain ⟨t, slot, parks⟩ := waits.parked
  obtain ⟨t', slot', running⟩ := h.settled
  cases slot.symm.trans slot'
  exact parks.parked.not_running running

/-- A task waits on as long as no call ends the wait. -/
theorem waits_of_lasts (h : Resting s) (waits : s.Waits pid wait) (busy : pid ≠ idlePid)
    (lasts : Lasts pid wait s s') : Resting s' ∧ s'.Waits pid wait := by
  induction lasts with
  | refl => exact ⟨h, waits⟩
  | call before step lasting ih =>
    obtain ⟨h, waits⟩ := ih
    exact ⟨h.step step, h.waits_step step busy waits lasting⟩

end Resting

/-! ## Owning -/

variable {log : List Observation}

/-- Mutexes are locks, and who is entitled to one owns it or waits for it. -/
structure Granting (s : System π) (log : List Observation) : Prop extends Resting s where
  is : ∀ id, (s.mutexes id).Is (Observation.lock id log)
  entitled : ∀ {id pid}, Observation.entitled id pid log = true →
    (Observation.lock id log).owner = some pid ∨ pid ∈ (Observation.lock id log).waiting

theorem granting_boot {port : π} {k : Kernel π} (booted : Kernel.boot port = .ok (.ok k)) :
    Granting ⟨k, fun _ => .free⟩ [] where
  toResting := resting_boot booted
  is _ := ⟨rfl, rfl, fun _ => rfl⟩
  entitled := nofun

namespace Granting

/-- Who is entitled to a mutex behind a call owns it, or waits for it. -/
theorem entitled_step (h : Granting s log) (step : s.step call = .ok (reply, s'))
    (entitled : Observation.entitled id pid (⟨s.kernel.current, call, reply⟩ :: log) = true) :
    (Observation.lock id (⟨s.kernel.current, call, reply⟩ :: log)).owner = some pid ∨
      pid ∈ (Observation.lock id (⟨s.kernel.current, call, reply⟩ :: log)).waiting := by
  have mutex := mutex_step h.sound h.settled step id
  unfold Observation.entitled at entitled
  cases seen : Observation.event? id ⟨s.kernel.current, call, reply⟩ with
  | none =>
    rw [seen] at entitled
    rw [Observation.lock_cons_of_none seen]
    exact h.entitled entitled
  | some event =>
    rw [seen] at entitled mutex
    rw [Observation.lock_cons_of_some seen]
    cases event with
    | takes p =>
      obtain ⟨unowned, empty⟩ := (h.is id).unowned mutex.free_of_takes
      rcases Bool.or_eq_true _ _ ▸ entitled with new | old
      · rw [of_decide_eq_true new]
        exact .inl rfl
      · -- nobody takes a mutex that another task owns or waits for
        rcases h.entitled old with owns | waits
        · cases unowned.symm.trans owns
        · rw [empty] at waits
          cases waits
    | parks p =>
      rcases Bool.or_eq_true _ _ ▸ entitled with new | old
      · rw [of_decide_eq_true new]
        exact .inr (List.mem_append_right _ (List.mem_singleton_self _))
      · exact (h.entitled old).imp_right (List.mem_append_left _)
    | unlocks p =>
      obtain ⟨old, other⟩ := Bool.and_eq_true _ _ ▸ entitled
      have waits := (h.entitled old).resolve_left (of_decide_eq_true other)
      cases waiting : (Observation.lock id log).waiting with
      | nil =>
        rw [waiting] at waits
        cases waits
      | cons first rest =>
        rw [waiting, List.mem_cons] at waits
        simp only [FifoLock.next, waiting]
        exact waits.imp_left fun eq => by rw [eq]

theorem step (h : Granting s log) (step : s.step call = .ok (reply, s')) :
    Granting s' (⟨s.kernel.current, call, reply⟩ :: log) where
  toResting := h.toResting.step step
  is id := (mutex_step h.sound h.settled step id).is_lock (h.is id)
  entitled := h.entitled_step step

omit [Port π] in
/-- Who is entitled to a mutex and runs owns it. -/
theorem owns (h : Granting s log) (busy : s.kernel.current ≠ idlePid)
    (entitled : Observation.entitled id s.kernel.current log = true) :
    (Observation.lock id log).owner = some s.kernel.current ∧ (s.mutexes id).locked = true := by
  have owns := (h.entitled entitled).resolve_right fun waits =>
    h.current_not_mem busy ((h.is id).waiting ▸ waits)
  exact ⟨owns, by rw [(h.is id).locked, owns]; rfl⟩

end Granting

/-- A call that locks a mutex comes to an end when the mutex is taken or the caller parks for it. -/
theorem lock_of_pursue {w w' : World π} {p : Pursuit} {answer : Answer}
    (started : w.kernel? = some s.kernel) (same : w.mutexes = s.mutexes)
    (locking : p = .request (.lock id) ∨ p = .spin id)
    (finished : w.pursue p = .ok (.finished (.ok answer), w')) :
    ∃ call reply s', s.step call = .ok (reply, s') ∧ w'.kernel? = some s'.kernel ∧
      w'.mutexes = s'.mutexes ∧
      (Observation.event? id ⟨s.kernel.current, call, reply⟩ = some (.takes s.kernel.current) ∨
        Observation.event? id ⟨s.kernel.current, call, reply⟩ = some (.parks s.kernel.current)) := by
  obtain ⟨kernel, mutexes⟩ := s
  subst same
  rcases locking with rfl | rfl
  · unfold World.pursue World.attempt World.attemptLock at finished
    dsimp only at finished started
    rw [started] at finished
    obtain ⟨⟨result, m, k⟩, lock, next⟩ := Checked.bind_eq_ok.1 finished
    have step : System.step ⟨kernel, w.mutexes⟩ (.lock id) =
        .ok (.of .locked result, ({ kernel := k, mutexes := w.mutexes } : System π).setMutex id m) :=
      Checked.bind_eq_ok.2 ⟨_, lock, rfl⟩
    refine ⟨_, _, _, step, ?_⟩
    cases result with
    | error e => cases next
    | ok progress =>
      cases progress with
      | acquired => cases next; exact ⟨rfl, rfl, .inl (if_pos rfl)⟩
      | parked => cases next; exact ⟨rfl, rfl, .inr (if_pos rfl)⟩
      | spin => cases next
  · unfold World.pursue at finished
    dsimp only at finished started
    split at finished
    case h_1 m taken =>
      cases finished
      have step : System.step ⟨kernel, w.mutexes⟩ (.tryLock id) =
          .ok (.taken true, (⟨kernel, w.mutexes⟩ : System π).setMutex id m) := by
        dsimp only [System.step]
        rw [taken]
        rfl
      exact ⟨_, _, _, step, started, rfl, .inl (if_pos rfl)⟩
    case h_2 => cases finished

/-- Whatever calls are made on a kernel that was just built, no task that waits, but the idle one, is
resumed before its wait ends. -/
theorem patient_of_record {port : π} {k : Kernel π} {calls : List Call}
    (booted : Kernel.boot port = .ok (.ok k))
    (run : System.record ⟨k, fun _ => .free⟩ [] calls = .ok (log, s)) : s.Patient log := by
  have h : Granting s log := record_keeps (I := fun log s => Granting s log) Granting.step
    (granting_boot booted) run
  constructor
  case waits =>
    intro call reply s₁ s₂ wait step told busy lasting lasts
    have waits := h.waits_of_told step told busy lasting
    obtain ⟨h, waits⟩ := (h.toResting.step step).waits_of_lasts waits busy lasts
    exact ⟨waits, h.not_current waits⟩
  case locks =>
    intro w w' p id answer started same locking finished
    obtain ⟨call, reply, s', step, kernel, mutexes, took | parked⟩ :=
      lock_of_pursue started same locking finished
    · exact ⟨call, reply, s', step, kernel, mutexes, by simp [Observation.entitled, took]⟩
    · exact ⟨call, reply, s', step, kernel, mutexes, by simp [Observation.entitled, parked]⟩
  case owns =>
    intro id busy entitled
    exact h.owns busy entitled

/-- A run in which the second task waits for a mutex, and runs once the first has unlocked it. -/
theorem patient_of_record_host : ∃ k log s, Kernel.boot (HostPort.new false) = .ok (.ok k) ∧
    System.record ⟨k, fun _ => .free⟩ [] [.spawn (.program 0), .spawn (.program 1), .schedule,
      .lock 0, .schedule, .lock 0, .unlock 0] = .ok (log, s) ∧
    s.kernel.current = 2 ∧ Observation.entitled 0 2 log = true ∧ s.Patient log := by
  have runs : (((Kernel.boot (HostPort.new false)).toOption.bind Except.toOption).any fun k =>
        (System.record ⟨k, fun _ => .free⟩ [] [.spawn (.program 0), .spawn (.program 1), .schedule,
          .lock 0, .schedule, .lock 0, .unlock 0]).toOption.any fun out =>
            out.2.kernel.current = 2 ∧ Observation.entitled 0 2 out.1 = true) = true := by
    decide +kernel
  obtain ⟨k, booted, runs⟩ := Kernel.exists_of_boot runs
  obtain ⟨⟨log, s⟩, run, seen⟩ := Checked.exists_of_any runs
  obtain ⟨current, entitled⟩ := of_decide_eq_true seen
  exact ⟨k, log, s, booted, run, current, entitled, patient_of_record booted run⟩

/-- The idle task is told to wait for a mutex that another task owns, and runs on at once, since
nobody else can. -/
theorem idle_overtakes_host : ∃ k log s s', Kernel.boot (HostPort.new false) = .ok (.ok k) ∧
    System.record ⟨k, fun _ => .free⟩ [] [.spawn (.program 0), .schedule, .lock 0, .sleep 10] =
      .ok (log, s) ∧
    s.kernel.current = idlePid ∧ s.step (.lock 0) = .ok (.locked .parked, s') ∧
    ¬s.Ends (.lock 0) (.locked .parked) s' idlePid (.mutex 0) ∧
    s'.kernel.current = idlePid ∧ s'.kernel.taskState? idlePid = some .running ∧
    Observation.lock 0 (⟨idlePid, .lock 0, .locked .parked⟩ :: log) = ⟨some 1, [idlePid], []⟩ := by
  have runs : (((Kernel.boot (HostPort.new false)).toOption.bind Except.toOption).any fun k =>
        (System.record ⟨k, fun _ => .free⟩ [] [.spawn (.program 0), .schedule, .lock 0,
          .sleep 10]).toOption.any fun out => out.2.kernel.current = idlePid ∧
            (out.2.step (.lock 0)).toOption.any fun next => next.1 = .locked .parked ∧
              next.2.kernel.current = idlePid ∧
              next.2.kernel.taskState? idlePid = some .running ∧
              Observation.lock 0 (⟨idlePid, .lock 0, .locked .parked⟩ :: out.1) =
                ⟨some 1, [idlePid], []⟩) = true := by
    decide +kernel
  obtain ⟨k, booted, runs⟩ := Kernel.exists_of_boot runs
  obtain ⟨⟨log, s⟩, run, seen⟩ := Checked.exists_of_any runs
  obtain ⟨current, next⟩ := of_decide_eq_true seen
  obtain ⟨⟨reply, s'⟩, step, seen⟩ := Checked.exists_of_any next
  obtain ⟨rfl, current', running, lock⟩ := of_decide_eq_true seen
  refine ⟨k, log, s, s', booted, run, current, step, ?_, current', running, lock⟩
  rintro ⟨unlock, -⟩
  cases unlock

end System

end Rtos

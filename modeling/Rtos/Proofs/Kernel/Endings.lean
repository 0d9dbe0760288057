import Rtos.Proofs.Kernel.Devices
import Rtos.Proofs.Kernel.Locks
import Rtos.Proofs.Kernel.Totality

/-!
# Operations come to an end

Every operation on a fit kernel comes to an end, unless a counter that it steps is full.  What is
asked of the caller is that only open atomic sections are left, that only a locked mutex is unlocked,
and that its oldest waiter is parked.
-/

namespace Rtos.Kernel

variable {π : Type} [Port π] [ReliablePort π] {k k' : Kernel π} {held : List EntityId}
  {pid parent : Pid} {status : Int} {entity : EntityId} {t : Task}

omit [Port π] [ReliablePort π] in
theorem park_total {s s₁ : Scheduler π} {f : Task → Task} (state : TaskState)
    (changed : s.modify s.current f = .ok s₁) : ∃ s₂, s₁.parkCurrent state = .ok s₂ := by
  obtain ⟨t, slot, rfl⟩ := Scheduler.modify_eq_ok.1 changed
  exact Scheduler.modify_total _ (Scheduler.lt_of_task? slot) _

/-! ## Building a kernel -/

/-- Building a kernel comes to an end. -/
theorem boot_total {port : π} (placed : ReliablePort.Placed port) :
    ∃ built, boot port = .ok built := by
  unfold boot
  split
  case h_2 => exact ⟨_, rfl⟩
  case h_1 stack taken take =>
  have lent : stack ∈ LawfulPort.lent taken :=
    (LawfulPort.lent_take take).symm.subset List.mem_cons_self
  refine Checked.bind_total (ReliablePort.lays .idle (ReliablePort.placed_take take placed) lent)
    fun ⟨stackPointer, laid⟩ _ => ?_
  refine Checked.bind_total (EntityTree.create_total _ _ _ fun p e above found => ?_)
    fun created _ => ?_
  · cases above
    rw [EntityTree.get?_new, if_pos rfl] at found
    cases found
    decide
  · cases created with
    | error e => exact ⟨_, rfl⟩
    | ok created =>
      exact Checked.bind_total (Scheduler.modify_total _ (Nat.zero_lt_succ _) _) fun _ _ => ⟨_, rfl⟩

theorem startTimer_total (k : Kernel π) : ∃ k', k.startTimer = .ok k' :=
  Checked.bind_total (ReliablePort.starts k.sched.port) fun _ _ => ⟨_, rfl⟩

/-! ## Sections and the clock -/

/-- A tick comes to an end. -/
theorem tick_total (fit : Moment.Fit ⟨k, held, none⟩) : ∃ k', k.tick = .ok k' :=
  have moves : Moves (· = .quiet) ⟨k, held, none⟩ _ :=
    .single rfl (.book { k.books with tick := k.sched.tick + 1 } (Nat.le_refl _))
  schedule_total (moves.fit fit nofun)

omit [Port π] [ReliablePort π] in
/-- An atomic section can be entered, unless the counter of sections is full. -/
theorem enterSection_endsOr (k : Kernel π) :
    k.enterSection.EndsOr (Word.limit ≤ k.sched.sectionDepth + 1) :=
  (Word.add_endsOr k.sched.sectionDepth 1).bind_total fun _ _ => ⟨_, rfl⟩

/-- An open section can be left. -/
theorem leaveSection_total (fit : Moment.Fit ⟨k, held, none⟩) (inside : 0 < k.sched.sectionDepth) :
    ∃ k', k.leaveSection = .ok k' := by
  have left : Moves (· = .quiet) ⟨k, held, none⟩
      ⟨{ k with sched := { k.sched with sectionDepth := k.sched.sectionDepth - 1 } }, held, none⟩ :=
    .single rfl (.book { k.books with sectionDepth := k.sched.sectionDepth - 1 } (Nat.le_refl _))
  unfold leaveSection
  rw [if_neg (Nat.ne_of_gt inside)]
  dsimp only
  split
  case isTrue => exact schedule_total (left.fit fit nofun)
  case isFalse => exact ⟨_, rfl⟩

/-! ## Devices -/

omit [Port π] [ReliablePort π] in
theorem registerDevice_total (single : Moment.Single ⟨k, held, none⟩) :
    ∃ out, k.registerDevice = .ok out := by
  unfold registerDevice
  split
  case h_2 => exact ⟨_, rfl⟩
  case h_1 slot free =>
    refine Checked.bind_total (createEntity_total single (some .root) (.device slot) .nothing)
      fun ⟨created, k₁⟩ _ => ?_
    cases created with
    | error e => exact ⟨_, rfl⟩
    | ok entity => exact ⟨_, rfl⟩

theorem unregisterDevice_total (fit : Moment.Fit ⟨k, held, none⟩) (device : DeviceId) :
    ∃ out, k.unregisterDevice device = .ok out := by
  unfold unregisterDevice
  split
  case h_2 => exact ⟨_, rfl⟩
  case h_1 entity registered =>
    have fit₁ := (Move.unregister device registered).fit fit nofun
    exact Checked.bind_total (release_total fit₁.sound fit₁.owns (.refl _)) fun _ _ => ⟨_, rfl⟩

/-- A report comes to an end, unless its refusal cannot be counted. -/
theorem reportDevice_endsOr (fit : Moment.Fit ⟨k, held, none⟩) (device : DeviceId)
    (flags : DeviceFlags) :
    (k.reportDevice device flags).EndsOr (k.bus.queues.Exhausted .device) := by
  unfold reportDevice
  split
  case h_2 => exact .of_total ⟨_, rfl⟩
  case h_1 entity registered =>
    exact announce_endsOr fit (lasting_of_owner? (fit.sound.linked.device registered) nofun) _

theorem signalDevice_endsOr (fit : Moment.Fit ⟨k, held, none⟩) (device : DeviceId)
    (flags : DeviceFlags) :
    (k.signalDevice device flags).EndsOr (k.bus.queues.Exhausted .device) := by
  refine (reportDevice_endsOr fit device flags).bind_total fun ⟨reported, k₁⟩ report => ?_
  have fit₁ := (moves_reportDevice fit.sound report).1.fit fit (by simp)
  cases reported with
  | error e => exact ⟨_, rfl⟩
  | ok _ => exact Checked.bind_total (schedule_total fit₁) fun _ _ => ⟨_, rfl⟩

theorem reportFile_endsOr (fit : Moment.Fit ⟨k, held, none⟩) (settled : k.Settled) (handle : Nat)
    (flags : DeviceFlags) :
    (k.reportFile handle flags).EndsOr (k.bus.queues.Exhausted .file) := by
  obtain ⟨t, id, slot, -, owns, owned⟩ := settled.entity fit.sound
  refine .bind (.of_total ⟨t, Scheduler.task_eq_ok.2 slot⟩) fun t' slot' => ?_
  cases slot.symm.trans (Scheduler.task_eq_ok.1 slot')
  rw [owns]
  exact announce_endsOr fit (lasting_of_owner? owned nofun) _

/-- A step of a wait for a device comes to an end, unless the counter of names is full. -/
theorem waitDevice_endsOr (fit : Moment.Fit ⟨k, held, none⟩) (settled : k.Settled)
    (device : DeviceId) (direction : DeviceFlags) :
    (k.waitDevice device direction).EndsOr (Word.limit ≤ k.bus.registry.issued.value + 1) := by
  unfold waitDevice
  split
  case isTrue => exact .of_total ⟨_, rfl⟩
  case isFalse =>
  split
  case isTrue => exact .of_total ⟨_, rfl⟩
  case isFalse =>
  obtain ⟨t, slot, running⟩ := settled
  refine (k.bus.subscribe_endsOr .device .deviceReady k.current).bind_total
    fun ⟨listed, bus⟩ subscribe => ?_
  obtain ⟨issued, later, ⟨rfl, -, rfl⟩ | ⟨⟨e, rfl⟩, rfl⟩⟩ := EventBus.subscribe_eq_ok subscribe
  · refine Checked.bind_total (Scheduler.modify_total _ fit.current _) fun s₁ waits => ?_
    refine Checked.bind_total (park_total .awaitingDevice waits) fun s₂ parks => ?_
    obtain ⟨t', slot', rfl⟩ := Scheduler.park_eq_ok waits parks
    cases slot.symm.trans slot'
    have parked := (moves_awaitDevice ⟨device, direction⟩ slot running later).fit fit (by simp)
    exact Checked.bind_total (schedule_total parked) fun _ _ => ⟨_, rfl⟩
  · have poll : Move .quiet ⟨k, held, .none⟩ _ := .book { k.books with
      issued, journal := .pollingDevice k.current device :: k.sched.journal }
      (by simp only [later]; omega)
    exact Checked.bind_total (schedule_total (poll.fit fit nofun)) fun _ _ => ⟨_, rfl⟩

/-! ## Mutexes -/

theorem lock_total (fit : Moment.Fit ⟨k, held, none⟩) (settled : k.Settled) (m : Mutex) :
    ∃ out, k.lock m = .ok out := by
  unfold lock
  split
  case isTrue => exact ⟨_, rfl⟩
  case isFalse =>
  split
  case isTrue => exact ⟨_, rfl⟩
  case isFalse =>
  dsimp only
  split
  case h_1 => exact ⟨_, rfl⟩
  case h_2 waiters put =>
    obtain ⟨t, slot, running⟩ := settled
    refine Checked.bind_total (Scheduler.modify_total _ fit.current _) fun s₁ parks => ?_
    obtain ⟨t', slot', rfl⟩ := Scheduler.modify_eq_ok.1 parks
    cases slot.symm.trans slot'
    have park : Move (.parks k.current .awaitingMutex) ⟨k, held, .none⟩ _ :=
      .change slot (.awaitMutex running)
    exact Checked.bind_total (schedule_total (park.fit fit nofun)) fun _ _ => ⟨_, rfl⟩

/-- A locked mutex can be unlocked if its oldest waiter is parked for it. -/
theorem unlock_total {m : Mutex} (fit : Moment.Fit ⟨k, held, none⟩) (locked : m.locked = true)
    (parked : ∀ waiter rest, m.waiters.items = waiter :: rest → k.AwaitsMutex waiter) :
    ∃ out, k.unlock m = .ok out := by
  unfold unlock
  rw [locked]
  dsimp only
  split
  case isTrue absurd => cases absurd
  case isFalse =>
  split
  case h_1 => exact ⟨_, rfl⟩
  case h_2 waiter waiters popped =>
    obtain ⟨t, slot, waits⟩ := parked waiter waiters.items (Fifo.pop?_eq_some.1 popped)
    have active := fit.sound.tasks.active slot (by rw [waits]; nofun)
    rw [if_pos (taskState?_eq_some.2 ⟨t, slot, active, waits⟩)]
    exact Checked.bind_total
      (k.sched.handOff_total fit.current (Scheduler.lt_of_task? slot)) fun _ _ => ⟨_, rfl⟩

/-- An unlock faults only because of the mutex. -/
theorem fault_of_unlock {m : Mutex} {fault : Fault} (fit : Moment.Fit ⟨k, held, none⟩)
    (h : k.unlock m = .error fault) :
    fault = .unlockUnlocked ∨ ∃ found, fault = .waiterNotParked found := by
  unfold unlock at h
  split at h
  case isTrue => cases h; exact .inl rfl
  case isFalse =>
    split at h
    case h_1 => cases h
    case h_2 waiter waiters popped =>
      dsimp only at h
      split at h
      case isFalse => cases h; exact .inr ⟨_, rfl⟩
      case isTrue parked =>
        obtain ⟨t, slot, -, -⟩ := taskState?_eq_some.1 parked
        obtain ⟨s, ends⟩ := k.sched.handOff_total fit.current (Scheduler.lt_of_task? slot)
        rw [ends] at h
        cases h

/-! ## Tasks -/

theorem sleep_total (fit : Moment.Fit ⟨k, held, none⟩) (settled : k.Settled) (millis : UInt32) :
    ∃ out, k.sleep millis = .ok out := by
  unfold sleep
  split
  case isTrue => exact ⟨_, rfl⟩
  case isFalse =>
    obtain ⟨t, slot, running⟩ := settled
    refine Checked.bind_total (Scheduler.modify_total _ fit.current _) fun s₁ waits => ?_
    refine Checked.bind_total (park_total .sleeping waits) fun s₂ parks => ?_
    obtain ⟨t', slot', rfl⟩ := Scheduler.park_eq_ok waits parks
    cases slot.symm.trans slot'
    have park : Move (.parks k.current .sleeping) ⟨k, held, .none⟩ _ :=
      .change slot (.sleep running (ticksOfMillis millis) k.sched.tick)
    exact Checked.bind_total (schedule_total (park.fit fit nofun)) fun _ _ => ⟨_, rfl⟩

theorem spawn_total (fit : Moment.Fit ⟨k, held, none⟩) (entry : EntryPoint) :
    ∃ out, k.spawn entry = .ok out := by
  unfold spawn
  split
  case h_2 => exact ⟨_, rfl⟩
  case h_1 pid free =>
  obtain ⟨-, u, freeSlot, -⟩ := freeSlot?_eq_some free
  refine Checked.bind_total (k.sched.task_total fit.current) fun t _ => ?_
  dsimp only
  split
  case h_2 => exact ⟨_, rfl⟩
  case h_1 stack taken take =>
  have lent : stack ∈ LawfulPort.lent taken :=
    (LawfulPort.lent_take take).symm.subset List.mem_cons_self
  have single : Moment.Single ⟨k.setPort taken, held, none⟩ := ⟨fit.single.refs, fit.single.lasting⟩
  refine Checked.bind_total (createEntity_total single t.entity (.task pid) .releaseTask)
    fun ⟨created, k₁⟩ create => ?_
  obtain ⟨inTree, -, eq⟩ := Checked.bind_eq_ok.1 create
  cases inTree with
  | error e =>
    cases eq
    obtain ⟨port, back, -⟩ := LawfulPort.returns lent
    exact Checked.bind_total ⟨port, back⟩ fun _ _ => ⟨_, rfl⟩
  | ok inTree =>
    cases eq
    refine Checked.bind_total (ReliablePort.lays entry (ReliablePort.placed_take take fit.placed) lent)
      fun ⟨stackPointer, laid⟩ _ => ?_
    exact Checked.bind_total (Scheduler.modify_total _ (Scheduler.lt_of_task? freeSlot) _)
      fun _ _ => ⟨_, rfl⟩

/-- A step of a wait for a child comes to an end, unless the counter of names is full. -/
theorem waitChild_endsOr (fit : Moment.Fit ⟨k, held, none⟩) (settled : k.Settled)
    (filter : ChildFilter) (options : WaitOptions) :
    (k.waitChild filter options).EndsOr (Word.limit ≤ k.bus.registry.issued.value + 1) := by
  obtain ⟨t, slot, running, alive⟩ := settled.alive fit.sound
  cases reaped : t.reap? filter with
  | some taken =>
    obtain ⟨record, t'⟩ := taken
    obtain ⟨unreaped, -, oldest, -⟩ := Task.reap?_eq_some reaped
    obtain ⟨k', done⟩ := waitChild_done options fit.sound fit.owns
      ⟨t, record.entity, slot, alive, oldest⟩
    exact .of_total ⟨_, done⟩
  | none =>
    have unrecorded := Task.reap?_eq_none.1 reaped
    refine .bind (.of_total ⟨t, Scheduler.task_eq_ok.2 slot⟩) fun t' slot' => ?_
    cases slot.symm.trans (Scheduler.task_eq_ok.1 slot')
    rw [Task.reap_of_refused unrecorded]
    have turned : k.sched.modify k.current (fun _ => t) = .ok k.sched :=
      Scheduler.modify_eq_ok.2 ⟨t, slot, (Scheduler.setTask_self slot).symm⟩
    refine .bind (.of_total ⟨_, turned⟩) fun s turned' => ?_
    cases turned.symm.trans turned'
    dsimp only
    split
    case isTrue => exact .of_total ⟨_, rfl⟩
    case isFalse child =>
    split
    case isTrue => exact .of_total ⟨_, rfl⟩
    case isFalse =>
    split
    case isTrue => exact .of_total ⟨_, rfl⟩
    case isFalse =>
    refine (k.bus.subscribe_endsOr .task .childExit k.current).bind_total
      fun ⟨listed, bus⟩ subscribe => ?_
    obtain ⟨issued, later, ⟨rfl, -, rfl⟩ | ⟨⟨e, rfl⟩, rfl⟩⟩ := EventBus.subscribe_eq_ok subscribe
    · refine Checked.bind_total (Scheduler.modify_total _ fit.current _) fun s₁ waits => ?_
      refine Checked.bind_total (park_total .awaitingChild waits) fun s₂ parks => ?_
      obtain ⟨t', slot', rfl⟩ := Scheduler.park_eq_ok waits parks
      cases slot.symm.trans slot'
      have child : (k.sched.liveChildren k.current).any filter.accepts = true := by simpa using child
      have parked := (moves_awaitChild slot running unrecorded child later).fit fit (by simp)
      exact Checked.bind_total (schedule_total parked) fun _ _ => ⟨_, rfl⟩
    · have poll : Move .quiet ⟨k, held, .none⟩ _ := .book { k.books with
        issued, journal := .pollingForChildren k.current :: k.sched.journal }
        (by simp only [later]; omega)
      exact Checked.bind_total (schedule_total (poll.fit fit nofun)) fun _ _ => ⟨_, rfl⟩

/-! ## Exits -/

theorem dispatchExit_endsOr (fit : Moment.Fit ⟨k, held, none⟩)
    (lasting : ∀ p e, some entity = some p → k.entities.get? p = some e → e.owner ≠ .event) :
    (k.dispatchExit pid parent status entity).EndsOr (k.bus.queues.Exhausted .task) := by
  refine .bind (.of_total (createEntity_total fit.single (some entity) .event .nothing))
    fun ⟨created, k₁⟩ create => ?_
  rcases moves_createEntity lasting create with ⟨e, rfl, rfl⟩ | ⟨id, rfl, owner, bus, -, moves⟩
  · exact .of_total ⟨_, rfl⟩
  · have created : Moves (· = .quiet) ⟨k, held, none⟩ ⟨k₁, id :: held, none⟩ := moves
    have fit₁ := created.fit fit nofun
    rw [← bus]
    refine (k₁.dispatch_endsOr ⟨id, .task pid parent status⟩).bind_total
      fun ⟨dispatched, k₂⟩ dispatch => ?_
    cases dispatched with
    | queued | overflowed => exact ⟨_, rfl⟩
    | refused =>
      exact Checked.bind_total (release_refused_total fit₁ owner dispatch) fun _ _ => ⟨_, rfl⟩

theorem tellParent_endsOr (fit : Moment.Fit ⟨k, held, none⟩) (seated : parent < maxTasks)
    (lasting : ∀ p e, some entity = some p → k.entities.get? p = some e → e.owner ≠ .event) :
    (k.tellParent pid parent status entity).EndsOr (k.bus.queues.Exhausted .task) := by
  refine (dispatchExit_endsOr fit lasting).bind_total fun ⟨queued, k₁⟩ _ => ?_
  refine Checked.bind_total (k₁.sched.task_total seated) fun waiter _ => ?_
  dsimp only
  split
  case isTrue => exact Checked.bind_total (k₁.sched.modify_total seated _) fun _ _ => ⟨_, rfl⟩
  case isFalse => exact ⟨_, rfl⟩

omit [ReliablePort π] [Port π] in
theorem count_references_le (slot : k.sched.task? pid = some t) (id : EntityId) :
    t.references.count id ≤ k.references.count id := by
  have exchange := count_references_setTask slot .empty id
  have none : Task.empty.references.count id = 0 := rfl
  omega

omit [ReliablePort π] [Port π] in
/-- No two records of a task are of the same child. -/
theorem nodup_unreaped (sound : Moment.Sound ⟨k, [], none⟩) (single : Moment.Single ⟨k, [], none⟩)
    (slot : k.sched.task? pid = some t) : (t.unreaped.items.map (·.pid)).Nodup := by
  have entities : (t.unreaped.items.map (·.entity)).Nodup := by
    refine List.nodup_iff_count_le_one.2 fun id => ?_
    have part := (List.sublist_append_right
      (if t.state = .dead then [] else t.entity.toList) (t.unreaped.items.map (·.entity))).count_le id
    exact Nat.le_trans part
      (Nat.le_trans (count_references_le slot id) (sound.count_standing single id).2)
  -- the table knows the entity of a record from the number of the child
  have known : (t.unreaped.items.map (·.pid)).map (fun c => (k.sched.task? c).bind (·.entity)) =
      (t.unreaped.items.map (·.entity)).map some := by
    rw [List.map_map, List.map_map]
    refine List.map_congr_left fun r mem => ?_
    obtain ⟨c, child, -, -, -, owns⟩ := sound.tasks.recorded slot mem
    simp only [Function.comp_apply, child, Option.bind_some, owns]
  refine List.Nodup.of_map (fun c => (k.sched.task? c).bind (·.entity)) ?_
  rw [known]
  exact entities.map (Option.some_injective _)

omit [ReliablePort π] [Port π] in
/-- As long as a task lives, there is a place for its record. -/
theorem unreaped_room {child : Pid} {c : Task} (sound : Moment.Sound ⟨k, [], none⟩)
    (single : Moment.Single ⟨k, [], none⟩) (slot : k.sched.task? pid = some t)
    (exiting : k.sched.task? child = some c) (lives : c.state ≠ .dead) :
    t.unreaped.items.length < maxTasks := by
  have others : child ∉ t.unreaped.items.map (·.pid) := by
    intro mem
    obtain ⟨r, kept, rfl⟩ := List.mem_map.1 mem
    obtain ⟨c', exiting', -, dead, -⟩ := sound.tasks.recorded slot kept
    cases exiting.symm.trans exiting'
    exact lives dead
  have distinct : (child :: t.unreaped.items.map (·.pid)).Nodup :=
    List.nodup_cons.2 ⟨others, nodup_unreaped sound single slot⟩
  have inTable : child :: t.unreaped.items.map (·.pid) ⊆ List.range maxTasks := by
    intro p mem
    rw [List.mem_range]
    rcases List.mem_cons.1 mem with rfl | mem
    · exact Scheduler.lt_of_task? exiting
    · obtain ⟨r, kept, rfl⟩ := List.mem_map.1 mem
      obtain ⟨c', child', -⟩ := sound.tasks.recorded slot kept
      exact Scheduler.lt_of_task? child'
  have fits := (List.subperm_of_subset distinct inTable).length_le
  rw [List.length_range, List.length_cons, List.length_map] at fits
  exact fits

theorem closes_total (fit : Moment.Fit ⟨k, held, none⟩) (slot : k.sched.task? pid = some t)
    (running : t.state = .running) (busy : pid ≠ idlePid) (owns : t.entity = some entity)
    (cleared : t.unreaped.items = []) (passes : Passes k pid t status entity k') :
    ∃ out, (do return (.ok (), ← (k'.closeSections pid).schedule) :
      Checked (Except Error Unit × Kernel π)) = .ok out := by
  have passed := (moves_passes fit.sound slot running busy owns cleared passes).1.fit fit
    (by simp [Label.Tells])
  have closed := (moves_closeSections k' pid held).1.fit passed nofun
  exact Checked.bind_total (schedule_total closed) fun _ _ => ⟨_, rfl⟩

/-- A parent with a new record can be told, unless the refusal of the event cannot be counted. -/
theorem told_endsOr {p : Task} {unreaped : Fifo maxTasks ExitRecord}
    (fit : Moment.Fit ⟨k, held, none⟩) (slot : k.sched.task? pid = some t)
    (running : t.state = .running) (busy : pid ≠ idlePid) (owns : t.entity = some entity)
    (cleared : t.unreaped.items = []) (parent : k.sched.task? t.parent = some p)
    (other : t.parent ≠ pid) (alive : p.isAlive = true) (notIdle : t.parent ≠ idlePid)
    (put : p.unreaped.push? ⟨pid, status, entity⟩ = some unreaped) :
    ((((k.setTask pid (t.exited status)).setTask t.parent { p with unreaped }).note
      (.exited pid status)).tellParent pid t.parent status entity).EndsOr
        (k.bus.queues.Exhausted .task) := by
  have exits : Move _ ⟨k, held, .none⟩ _ :=
    .exitRecorded slot running busy owns cleared parent other alive notIdle put
  have noted := moves_note ((k.setTask pid (t.exited status)).setTask t.parent { p with unreaped })
    held none (.exited pid status)
  have lasting := lasting_of_task fit.sound slot (by rw [running]; nofun) owns
  exact tellParent_endsOr (noted.fit (exits.fit fit nofun) nofun) (Scheduler.lt_of_task? parent)
    lasting

/-- An exit comes to an end, unless the refusal of its event cannot be counted. -/
theorem exit_endsOr (fit : Moment.Fit ⟨k, [], none⟩) (settled : k.Settled) (status : Int) :
    (k.exit status).EndsOr (k.bus.queues.Exhausted .task) := by
  obtain ⟨t, slot, running⟩ := settled
  have seated : t.parent < maxTasks := fit.parents slot
  unfold exit
  dsimp only
  split
  case isTrue => exact .of_total ⟨_, rfl⟩
  case isFalse busy =>
  refine .bind (.of_total ⟨t, Scheduler.task_eq_ok.2 slot⟩) fun t' slot' => ?_
  cases slot.symm.trans (Scheduler.task_eq_ok.1 slot')
  split
  case h_2 => exact .of_total ⟨_, rfl⟩
  case h_1 entity owns =>
  -- the task's own dead children are released
  refine .bind (.of_total (k.sched.modify_total fit.current _)) fun s₁ clear => ?_
  obtain ⟨-, -, rfl⟩ := Scheduler.modify_eq_ok.1 clear
  have reap : Move (.reaps k.current) ⟨k, [], none⟩
      ⟨k.setTask k.current { t with unreaped := .empty },
        t.unreaped.items.map ExitRecord.entity ++ [], none⟩ := .reap slot (by simp)
  have fit₁ := reap.fit fit nofun
  have cleared := Scheduler.task?_setTask_self slot { t with unreaped := .empty }
  obtain ⟨k₁, released, bus⟩ := releaseAll_total fit₁
  refine .bind (.of_total ⟨k₁, released⟩) fun k₁' eq => ?_
  cases released.symm.trans eq
  have release := moves_releaseAll [] released
  have fit₂ := release.fit fit₁ nofun
  have slot₁ := release.slot_quiet fit₁.sound cleared
    (fit₁.sound.tasks.alive cleared (by rw [running]; nofun))
  -- it dies
  refine .bind (.of_total ⟨_, Scheduler.task_eq_ok.2 slot₁⟩) fun t' slot' => ?_
  cases slot₁.symm.trans (Scheduler.task_eq_ok.1 slot')
  refine .bind (.of_total (k₁.sched.modify_total (Scheduler.lt_of_task? slot₁) _)) fun s₂ dies => ?_
  obtain ⟨t', slot', rfl⟩ := Scheduler.modify_eq_ok.1 dies
  cases slot₁.symm.trans slot'
  refine .bind (.of_total (Scheduler.task_total _ seated)) fun p found => ?_
  have found := Scheduler.task_eq_ok.1 found
  dsimp only
  split
  case isTrue survives =>
    obtain ⟨notIdle, other, alive, parent⟩ := parent_of_survives slot₁ found survives
    refine .bind (.of_total ⟨p, Scheduler.task_eq_ok.2 found⟩) fun p' found' => ?_
    cases found.symm.trans (Scheduler.task_eq_ok.1 found')
    have room := unreaped_room fit₂.sound fit₂.single parent slot₁ (by rw [running]; nofun)
    obtain ⟨unreaped, put⟩ : ∃ unreaped,
        p.unreaped.push? ⟨k.current, status, entity⟩ = some unreaped :=
      ⟨_, dif_pos room⟩
    refine .bind (.of_total ⟨{ p with unreaped }, by rw [Task.addUnreaped, put]⟩) fun p' record => ?_
    rw [Task.addUnreaped, put] at record
    cases record
    refine .bind (.of_total (Scheduler.modify_total _ seated _)) fun s₃ install => ?_
    obtain ⟨-, -, rfl⟩ := Scheduler.modify_eq_ok.1 install
    have told := told_endsOr fit₂ slot₁ running busy owns rfl parent other alive notIdle put
    rw [bus] at told
    exact told.bind_total fun k₂ tell => closes_total fit₂ slot₁ running busy owns rfl
      (.told parent other alive notIdle put tell)
  case isFalse orphan =>
    have orphan := orphan_of_not_survives found orphan
    have exits : Move (.exits k.current t.parent) ⟨k₁, [], none⟩
        ⟨k₁.setTask k.current (Task.exited { t with unreaped := .empty } status), [entity], none⟩ :=
      .exitForgotten slot₁ running busy owns rfl orphan
    have noted := moves_note (k₁.setTask k.current (Task.exited { t with unreaped := .empty } status))
      [entity] none (.exited k.current status)
    have fit₃ := noted.fit (exits.fit fit₂ nofun) nofun
    refine .bind (.of_total (release_total fit₃.sound fit₃.owns (.refl _))) fun k₂ release => ?_
    exact .of_total (closes_total fit₂ slot₁ running busy owns rfl (.forgotten orphan release))

end Rtos.Kernel

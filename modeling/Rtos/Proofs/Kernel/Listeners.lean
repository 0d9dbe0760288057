import Rtos.Proofs.Kernel.TaskTable
import Rtos.Proofs.Kernel.Tasks

/-!
# Listeners of waiting tasks

A task that waits for an event registers a listener, and the listener is gone before the task runs
again: a listener that wakes its task leaves the list, and so does that of a parent which an exit
wakes past it.  So who is listed is parked (`Kernel.waiting_of_listed`), a new listener is that of a
task that parks (`Move.listed_back`), and listeners of tasks alone never fill a list
(`Kernel.length_listed_lt`).  Conversely whoever waits for an event is listed for it
(`Kernel.Enrolled`).

The idle task is left out of all this but the last.  A pass that finds nobody else resumes it while
its listener stays, and then nothing takes the listener off the list.
-/

namespace Rtos

variable {π : Type}

/-- What a task does while it listens for events of a kind. -/
def EventKind.waiting? : EventKind → Option TaskState
  | .task => some .awaitingChild
  | .device => some .awaitingDevice
  | .file => none

/-- Nobody listens for reports about files. -/
theorem KernelListener.not_serves_file (listener : KernelListener) :
    listener.serves .file = false := by
  cases listener <;> rfl

theorem EventBus.subscribe_of_room {κ : Type} {bus bus' : EventBus κ} {kind : EventKind}
    {listener : κ} {extra : Nat} {result : Except Error ListenerId}
    (room : (bus.registry.lists.get kind).length < maxListeners)
    (h : bus.subscribe kind listener extra = .ok (result, bus')) : ∃ id, result = .ok id := by
  obtain ⟨⟨_, registry⟩, register, eq⟩ := Checked.bind_eq_ok.1 h
  cases eq
  obtain ⟨issued, -, next⟩ := Checked.bind_eq_ok.1 register
  dsimp only at next
  rw [if_pos room] at next
  cases next
  exact ⟨_, rfl⟩

namespace Kernel

variable {k k' : Kernel π} {kind other : EventKind} {sub : Subscription KernelListener} {pid : Pid}
  {t : Task} {held : List EntityId}

/-! ## Who is listed -/

/-- A task that is listed for events of a kind, but the idle one, waits for such an event. -/
theorem waiting_of_listed (sound : Moment.Sound ⟨k, held, none⟩) (watched : k.Watched)
    (attended : k.Attended) (slot : k.sched.task? sub.extra = some t) (busy : sub.extra ≠ idlePid)
    (listed : sub ∈ k.bus.registry.lists.get kind) : kind.waiting? = some t.state := by
  cases kind with
  | file =>
    have serves := sound.listeners .file sub listed
    rw [sub.listener.not_serves_file] at serves
    cases serves
  | device =>
    have once := watched sub.extra t busy slot
    split at once
    case isTrue parked => exact congrArg some parked.symm
    case isFalse =>
      rw [List.countP_eq_zero] at once
      exact absurd (decide_eq_true rfl) (once sub listed)
  | task =>
    by_cases parked : t.state = .awaitingChild
    · exact congrArg some parked.symm
    · have unlisted := ((attended.listens busy slot).of_other parked).2
      rw [List.filter_eq_nil_iff] at unlisted
      exact absurd (decide_eq_true rfl) (unlisted sub listed)

theorem countP_listed_le (sound : Moment.Sound ⟨k, held, none⟩) (watched : k.Watched)
    (attended : k.Attended) (slot : k.sched.task? pid = some t) (busy : pid ≠ idlePid)
    (kind : EventKind) : (k.bus.registry.lists.get kind).countP (·.extra = pid) ≤ 1 := by
  cases kind with
  | file =>
    rw [List.countP_eq_zero.2 fun sub listed => ?_]
    · exact Nat.zero_le 1
    · have serves := sound.listeners .file sub listed
      rw [sub.listener.not_serves_file] at serves
      cases serves
  | device =>
    have once := watched pid t busy slot
    change k.bus.registry.lists.device.countP _ ≤ 1
    split at once <;> omega
  | task =>
    change k.bus.registry.lists.task.countP _ ≤ 1
    rw [List.countP_eq_length_filter]
    by_cases parked : t.state = .awaitingChild
    · obtain ⟨id, -, listed⟩ := (attended.listens busy slot).of_parked parked
      rw [listed]
      exact Nat.le_refl 1
    · rw [((attended.listens busy slot).of_other parked).2]
      exact Nat.zero_le 1

/-- Listeners of tasks other than the idle one do not fill a list. -/
theorem length_listed_lt (sound : Moment.Sound ⟨k, held, none⟩) (watched : k.Watched)
    (attended : k.Attended)
    (slots : ∀ sub ∈ k.bus.registry.lists.get kind, ∃ t, k.sched.task? sub.extra = some t)
    (busy : ∀ sub ∈ k.bus.registry.lists.get kind, sub.extra ≠ idlePid) :
    (k.bus.registry.lists.get kind).length < maxListeners := by
  have nodup : ((k.bus.registry.lists.get kind).map (·.extra)).Nodup := by
    refine List.nodup_iff_count_le_one.2 fun pid => ?_
    by_cases mem : pid ∈ (k.bus.registry.lists.get kind).map (·.extra)
    · obtain ⟨sub, listed, rfl⟩ := List.mem_map.1 mem
      obtain ⟨t, slot⟩ := slots sub listed
      rw [List.count_eq_countP, List.countP_map]
      exact countP_listed_le sound watched attended slot (busy sub listed) kind
    · rw [List.count_eq_zero.2 mem]
      exact Nat.zero_le 1
  have seated : ∀ pid ∈ (k.bus.registry.lists.get kind).map (·.extra),
      pid ≠ idlePid ∧ pid < maxTasks := by
    intro pid mem
    obtain ⟨sub, listed, rfl⟩ := List.mem_map.1 mem
    obtain ⟨t, slot⟩ := slots sub listed
    exact ⟨busy sub listed, Scheduler.lt_of_task? slot⟩
  have few := length_lt_maxTasks nodup seated
  rwa [List.length_map] at few

/-! ## New listeners -/

/-- Who is listed behind a change of one list was put there, or was listed before. -/
theorem of_listed_setListeners {list : List (Subscription KernelListener)}
    (listed : sub ∈ (k.setListeners other list).bus.registry.lists.get kind) :
    kind = other ∧ sub ∈ list ∨ sub ∈ k.bus.registry.lists.get kind := by
  have listed : sub ∈ (k.bus.registry.lists.set other list).get kind := listed
  by_cases same : other = kind
  · subst same
    rw [ByKind.get_set_self] at listed
    exact .inl ⟨rfl, listed⟩
  · rw [ByKind.get_set_of_ne _ _ same] at listed
    exact .inr listed

end Kernel

variable [Port π] {P : Label → Prop} {label : Label} {m m' : Moment π} {kind : EventKind}
  {sub : Subscription KernelListener}

/-- A new listener is that of a task that parks. -/
theorem Move.listed_back (move : Move label m m')
    (listed : sub ∈ m'.kernel.bus.registry.lists.get kind) :
    sub ∈ m.kernel.bus.registry.lists.get kind ∨
      ∃ state, kind.waiting? = some state ∧ label = .parks sub.extra state := by
  cases move with
  | awaitChild =>
    rcases Kernel.of_listed_setListeners listed with ⟨rfl, mem⟩ | old
    · rcases List.mem_append.1 mem with old | new
      · exact .inl old
      · rw [List.mem_singleton.1 new]
        exact .inr ⟨_, rfl, rfl⟩
    · exact .inl old
  | awaitDevice =>
    rcases Kernel.of_listed_setListeners listed with ⟨rfl, mem⟩ | old
    · rcases List.mem_append.1 mem with old | new
      · exact .inl old
      · rw [List.mem_singleton.1 new]
        exact .inr ⟨_, rfl, rfl⟩
    · exact .inl old
  | wake before =>
    rcases Kernel.of_listed_setListeners listed with ⟨rfl, mem⟩ | old
    · rw [before]
      exact .inl (((List.sublist_cons_self _ _).append_left _).mem mem)
    · exact .inl old
  | wakeDirect =>
    rcases Kernel.of_listed_setListeners listed with ⟨rfl, mem⟩ | old
    · split at mem
      case h_1 id _ => exact .inl (List.mem_of_mem_eraseP mem)
      case h_2 => exact .inl mem
    · exact .inl old
  | _ => exact .inl listed

theorem Moves.listed_back (moves : Moves P m m')
    (listed : sub ∈ m'.kernel.bus.registry.lists.get kind) :
    sub ∈ m.kernel.bus.registry.lists.get kind ∨
      ∃ state, kind.waiting? = some state ∧ P (.parks sub.extra state) := by
  refine moves.keeps (I := fun m' => sub ∈ m'.kernel.bus.registry.lists.get kind →
    sub ∈ m.kernel.bus.registry.lists.get kind ∨
      ∃ state, kind.waiting? = some state ∧ P (.parks sub.extra state)) .inl ?_ listed
  intro label m₁ m₂ allowed move ih listed
  rcases move.listed_back listed with old | ⟨state, waits, rfl⟩
  · exact ih old
  · exact .inr ⟨state, waits, allowed⟩

/-! ## Who waits is listed -/

/-- Whoever waits for an event is listed for it. -/
def Kernel.Enrolled (k : Kernel π) : Prop :=
  ∀ {pid t} {payload : Payload}, k.sched.task? pid = some t → payload.Wakes pid t →
    ∃ sub ∈ k.bus.registry.lists.get payload.kind, sub.extra = pid

omit [Port π] in
theorem Kernel.mem_setListeners {k : Kernel π} {other : EventKind}
    {list : List (Subscription KernelListener)} (listed : sub ∈ k.bus.registry.lists.get kind)
    (stays : kind = other → sub ∈ list) :
    sub ∈ (k.setListeners other list).bus.registry.lists.get kind := by
  change sub ∈ (k.bus.registry.lists.set other list).get kind
  by_cases same : other = kind
  · subst same
    rw [ByKind.get_set_self]
    exact stays rfl
  · rw [ByKind.get_set_of_ne _ _ same]
    exact listed

/-- The listener of a task that still waits behind a move stays. -/
theorem Move.listed_of_waits {pid : Pid} {t' : Task} (move : Move label m m')
    (attended : m.kernel.Attended) (slot' : m'.kernel.sched.task? pid = some t')
    (waits : t'.state ≠ .ready) (listed : sub ∈ m.kernel.bus.registry.lists.get kind)
    (extra : sub.extra = pid) : sub ∈ m'.kernel.bus.registry.lists.get kind := by
  -- the listener that goes is that of a task which is ready then
  have stays {pre post : List (Subscription KernelListener)} (gone : Subscription KernelListener)
      {s : Scheduler π} {u u' : Task} (found : s.task? gone.extra = some u)
      (slot' : (s.setTask gone.extra u').task? pid = some t') (ready : u'.state = .ready)
      (mem : sub ∈ pre ++ gone :: post) : sub ∈ pre ++ post := by
    rcases List.mem_append.1 mem with mem | mem
    · exact List.mem_append_left _ mem
    · rcases List.mem_cons.1 mem with rfl | mem
      · subst extra
        cases (Scheduler.task?_setTask_self found u').symm.trans slot'
        exact absurd ready waits
      · exact List.mem_append_right _ mem
  cases move with
  | awaitChild =>
    refine Kernel.mem_setListeners listed fun eq => List.mem_append_left _ ?_
    subst eq
    exact listed
  | awaitDevice =>
    refine Kernel.mem_setListeners listed fun eq => List.mem_append_left _ ?_
    subst eq
    exact listed
  | wake before found wakes =>
    refine Kernel.mem_setListeners listed fun eq => ?_
    subst eq
    exact stays _ found slot' wakes.state_woken (before ▸ listed)
  | @wakeDirect k held falling p u child found parked accepts busy =>
    refine Kernel.mem_setListeners listed fun eq => ?_
    subst eq
    obtain ⟨id, name, own⟩ := (attended.listens busy found).of_parked parked
    have mem : ⟨id, .childExit, p⟩ ∈ k.bus.registry.lists.task :=
      List.mem_of_mem_filter (own ▸ List.mem_singleton_self _)
    obtain ⟨pre, post, split⟩ := List.append_of_mem mem
    have listed : sub ∈ k.bus.registry.lists.task := listed
    rw [name]
    change sub ∈ k.bus.registry.lists.task.eraseP (·.id == id)
    rw [attended.eraseP_eq split]
    exact stays ⟨id, .childExit, p⟩ found slot' rfl (split ▸ listed)
  | _ => exact listed

/-- Moves keep those listed who wait. -/
theorem Move.enrolled (move : Move label m m') (sound : m.Sound) (attended : m.kernel.Attended)
    (h : m.kernel.Enrolled) : m'.kernel.Enrolled := by
  intro pid t' payload slot' wakes
  obtain ⟨t, slot, step⟩ := move.slotStep_back sound slot'
  have old (same : t.SameWait t') :
      ∃ sub ∈ m'.kernel.bus.registry.lists.get payload.kind, sub.extra = pid := by
    obtain ⟨sub, mem, extra⟩ := h slot (same.wakes_iff.1 wakes)
    refine ⟨sub, move.listed_of_waits attended slot' ?_ mem extra, extra⟩
    rcases wakes.parked with parked | parked <;> rw [parked] <;> nofun
  cases payload with
  | file => exact wakes.elim
  | task child parent status =>
    rcases step.parked_back wakes.2.1 (.inr (.inr rfl)) with rfl | same
    · cases move with
      | change found change => cases change
      | awaitChild => exact ⟨_, List.mem_append_right _ (List.mem_singleton_self _), rfl⟩
    · exact old same
  | device number flags =>
    rcases step.parked_back wakes.1 (.inl rfl) with rfl | same
    · cases move with
      | change found change => cases change
      | awaitDevice => exact ⟨_, List.mem_append_right _ (List.mem_singleton_self _), rfl⟩
    · exact old same

theorem Moves.enrolled (moves : Moves P m m') (sound : m.Sound) (attended : m.kernel.Attended)
    (h : m.kernel.Enrolled) : m'.kernel.Enrolled :=
  (moves.keeps (I := fun m => m.Sound ∧ m.kernel.Attended ∧ m.kernel.Enrolled)
    ⟨sound, attended, h⟩ fun _ move ⟨sound, attended, h⟩ =>
      ⟨move.sound sound, move.attended sound attended, move.enrolled sound attended h⟩).2.2

theorem Kernel.enrolled_boot {port : π} {k : Kernel π} (h : boot port = .ok (.ok k)) :
    k.Enrolled := by
  intro pid t payload slot wakes
  have parked : t.state.Parked := wakes.parked.elim (.inr ∘ .inr) .inl
  by_cases idle : pid = idlePid
  · subst idle
    obtain ⟨t', slot', running⟩ := settled_boot h
    obtain ⟨stack, stackPointer, -, laid, e, id, -, -, -, -, -, rfl⟩ := boot_eq_ok h
    cases slot.symm.trans slot'
    exact absurd running parked.not_running
  · cases empty_of_boot h idle slot
    exact absurd rfl parked.not_dead

namespace Kernel

variable {k k' : Kernel π} {held held' : List EntityId}

theorem Operates.listed_back (operates : Operates P held held' k k')
    (sound : Moment.Sound ⟨k, held, .none⟩)
    (listed : sub ∈ k'.bus.registry.lists.get kind) :
    sub ∈ k.bus.registry.lists.get kind ∨
      ∃ state, kind.waiting? = some state ∧ P (.parks sub.extra state) := by
  rcases (operates.moves sound).listed_back listed with old | ⟨state, waits, allowed | within⟩
  · exact .inl old
  · exact .inr ⟨state, waits, allowed⟩
  · rcases within with (quiet | delivers) | switches
    · cases quiet
    · cases delivers
    · cases switches

/-! ## Polling -/

/-- A wait for a child polls only if the list of listeners for exits is full. -/
theorem full_of_waitChild_polling {filter : ChildFilter} {options : WaitOptions}
    (h : k.waitChild filter options = .ok (.ok .polling, k')) :
    maxListeners ≤ (k.bus.registry.lists.get .task).length := by
  cases WaitChildStep.of_eq_ok h with
  | polls _ _ _ subscribe =>
    by_contra room
    obtain ⟨id, listed⟩ := EventBus.subscribe_of_room (Nat.lt_of_not_le room) subscribe
    cases listed

theorem full_of_waitDevice_polling {device : DeviceId} {direction : DeviceFlags}
    (h : k.waitDevice device direction = .ok (.ok .polling, k')) :
    maxListeners ≤ (k.bus.registry.lists.get .device).length := by
  cases WaitDeviceStep.of_eq_ok h with
  | polls _ subscribe =>
    by_contra room
    obtain ⟨id, listed⟩ := EventBus.subscribe_of_room (Nat.lt_of_not_le room) subscribe
    cases listed

end Kernel

end Rtos

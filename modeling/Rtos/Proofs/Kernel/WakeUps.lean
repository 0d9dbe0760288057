import Rtos.Proofs.Entity.Survivors
import Rtos.Proofs.Kernel.Listeners
import Rtos.Proofs.Kernel.Totality

/-!
# Whom a pass wakes

A pass takes what is queued and tells the listeners of each event.  Listeners leave the list while it
is walked, one event may wake several tasks, several events may wake one, and what is released on the
way may take the slots of dead tasks with it.  Still, what one event does is simple (`Kernel.Hears`),
and so is what those delivered so far have done together (`Kernel.Delivering`): a task is woken by the
first event that it waits for, and the others come too late for it.

Queued events may hold any entities.  What is said of a kernel in the middle of a pass is therefore
said of it with empty queues and the references of the events in hand (`Kernel.unloaded`).
-/

namespace Rtos

variable {π : Type}

/-! ## Waking once -/

/-- What wakes the same task wakes it from the same wait. -/
theorem Payload.Wakes.agree {p q : Payload} {pid : Pid} {t : Task} (h : p.Wakes pid t)
    (h' : q.Wakes pid t) : p.kind = q.kind ∧ t.woken p = t.woken q := by
  cases p with
  | file => exact h.elim
  | device =>
    cases q with
    | file => exact h'.elim
    | device => exact ⟨rfl, rfl⟩
    | task => cases h.1.symm.trans h'.2.1
  | task =>
    cases q with
    | file => exact h'.elim
    | task => exact ⟨rfl, rfl⟩
    | device => cases h.2.1.symm.trans h'.1

theorem Payload.Wakes.once {p : Payload} {pid : Pid} {t : Task} (h : p.Wakes pid t) (q : Payload) :
    ¬ q.Wakes pid (t.woken p) := by
  intro again
  rcases again.parked with parked | parked
  · cases h.state_woken.symm.trans parked
  · cases h.state_woken.symm.trans parked

theorem Payload.not_wakes_of_dead {p : Payload} {pid : Pid} {t : Task} (dead : t.state = .dead) :
    ¬ p.Wakes pid t := by
  intro wakes
  rcases wakes.parked with parked | parked
  · cases dead.symm.trans parked
  · cases dead.symm.trans parked

/-! ## Telling the listeners of an event -/

/-- What becomes of the tasks when the listeners in `list` are told of an event; those in `list'`
stay. -/
structure Core.Told (event : Event) (list : List (Subscription KernelListener)) (c : Core π)
    (list' : List (Subscription KernelListener)) (c' : Core π) : Prop where
  /-- Entities are left alone. -/
  entities : c'.entities = c.entities
  /-- Listeners stay in order. -/
  sublist : list'.Sublist list
  /-- Whom the event does not wake stays as it was, on the list too. -/
  deaf : ∀ {pid t}, c.sched.task? pid = some t → ¬ event.payload.Wakes pid t →
    c'.sched.task? pid = some t ∧ list'.filter (·.extra = pid) = list.filter (·.extra = pid)
  /-- Who is woken has left the list once. -/
  woken : ∀ {pid t}, c.sched.task? pid = some t → event.payload.Wakes pid t →
    (∃ sub ∈ list, sub.extra = pid) →
    c'.sched.task? pid = some (t.woken event.payload) ∧
      ∃ sub, list.filter (·.extra = pid) = sub :: list'.filter (·.extra = pid)

namespace Core.Told

variable {event : Event} {sub : Subscription KernelListener}
  {list list' : List (Subscription KernelListener)} {c c₁ c' : Core π}

/-- A listener that wakes its task leaves the list. -/
theorem wake {t : Task} {notice : Notice} (found : c.sched.task? sub.extra = some t)
    (wakes : event.payload.Wakes sub.extra t)
    (rest : Told event list { c with sched :=
      (c.sched.setTask sub.extra (t.woken event.payload)).note notice } list' c') :
    Told event (sub :: list) c list' c' where
  entities := rest.entities
  sublist := rest.sublist.trans (List.sublist_cons_self sub list)
  deaf {pid u} slot deaf := by
    -- the listener that leaves is that of a task that is woken, so of another one
    have other : pid ≠ sub.extra := by
      rintro rfl
      cases found.symm.trans slot
      exact deaf wakes
    rw [List.filter_cons_of_neg (by simpa using Ne.symm other)]
    exact rest.deaf ((Scheduler.task?_setTask_of_ne _ _ other).trans slot) deaf
  woken {pid u} slot wakes' listed := by
    by_cases own : pid = sub.extra
    · subst own
      cases found.symm.trans slot
      rw [List.filter_cons_of_pos (by simp)]
      obtain ⟨slot', kept⟩ :=
        rest.deaf (Scheduler.task?_setTask_self found _) (wakes.once event.payload)
      exact ⟨slot', sub, by rw [kept]⟩
    · rw [List.filter_cons_of_neg (by simpa using Ne.symm own)]
      refine rest.woken ((Scheduler.task?_setTask_of_ne _ _ own).trans slot) wakes' ?_
      obtain ⟨other, mem, extra⟩ := listed
      rcases List.mem_cons.1 mem with rfl | mem
      · exact absurd extra.symm own
      · exact ⟨other, mem, extra⟩

/-- A listener whose task does not wait for the event stays. -/
theorem keep (deaf : ∀ t, c.sched.task? sub.extra = some t → ¬ event.payload.Wakes sub.extra t)
    (rest : Told event list c list' c') : Told event (sub :: list) c (sub :: list') c' where
  entities := rest.entities
  sublist := rest.sublist.cons_cons sub
  deaf {pid u} slot deaf := by
    obtain ⟨slot', kept⟩ := rest.deaf slot deaf
    rw [List.filter_cons, List.filter_cons, kept]
    exact ⟨slot', rfl⟩
  woken {pid u} slot wakes listed := by
    have other : sub.extra ≠ pid := by
      rintro rfl
      exact deaf u slot wakes
    rw [List.filter_cons_of_neg (by simpa using other), List.filter_cons_of_neg (by simpa using other)]
    refine rest.woken slot wakes ?_
    obtain ⟨listener, mem, extra⟩ := listed
    rcases List.mem_cons.1 mem with rfl | mem
    · exact absurd extra other
    · exact ⟨listener, mem, extra⟩

/-- Telling the listeners of an event wakes whom it wakes. -/
theorem of_tell [Port π] {queues queues' : Queues}
    (own : ∀ sub ∈ list, sub.listener.serves event.kind = true)
    (h : EventBus.tell Core.callbacks event list queues c = .ok (list', queues', c')) :
    Told event list c list' c' := by
  induction list generalizing c list' with
  | nil =>
    cases h
    exact ⟨rfl, .refl _, fun slot _ => ⟨slot, rfl⟩, fun _ _ listed => by
      obtain ⟨sub, mem, -⟩ := listed
      cases mem⟩
  | cons sub list ih =>
    have serves := own sub List.mem_cons_self
    have own := fun other mem => own other (List.mem_cons_of_mem sub mem)
    obtain ⟨c₁, list₁, told, woken | kept⟩ := Kernel.tell_cons_eq_ok serves h
    · obtain ⟨t, notice, found, wakes, rfl, rfl⟩ := woken
      exact .wake found wakes (ih own told)
    · obtain ⟨rfl, deaf, rfl⟩ := kept
      exact .keep deaf (ih own told)

end Core.Told

variable [Port π]

/-! ## Releasing an event -/

/-- A quiet move leaves a slot as it is, or frees that of a dead task. -/
theorem Move.slot_or_freed {m m' : Moment π} {pid : Pid} {t : Task} (move : Move .quiet m m')
    (sound : m.Sound) (slot : m.kernel.sched.task? pid = some t) :
    m'.kernel.sched.task? pid = some t ∨
      (t.active = true ∧ t.state = .dead ∧ m'.kernel.sched.task? pid = some .empty) := by
  cases move with
  | change found change => cases change
  | @destroyTask k held id e p u port found last below owner cleanup taken =>
    obtain ⟨-, v, taken', active, owns⟩ := sound.linked.owner found owner
    cases taken.symm.trans taken'
    change (k.sched.setTask p .empty).task? pid = _ ∨
      (_ ∧ _ ∧ (k.sched.setTask p .empty).task? pid = _)
    rw [Scheduler.task?_setTask taken]
    split
    case isTrue own =>
      subst own
      cases taken.symm.trans slot
      exact .inr ⟨active, (sound.dead_of_last found last taken owns).1, rfl⟩
    case isFalse => exact .inl slot
  | _ => exact .inl slot

theorem Moves.slot_or_freed {m m' : Moment π} {pid : Pid} {t : Task}
    (moves : Moves (· = .quiet) m m') (sound : m.Sound)
    (slot : m.kernel.sched.task? pid = some t) :
    m'.kernel.sched.task? pid = some t ∨
      (t.active = true ∧ t.state = .dead ∧ m'.kernel.sched.task? pid = some .empty) := by
  refine (moves.keeps (I := fun m => m.Sound ∧ (m.kernel.sched.task? pid = some t ∨
    (t.active = true ∧ t.state = .dead ∧ m.kernel.sched.task? pid = some .empty)))
    ⟨sound, .inl slot⟩ ?_).2
  rintro label m m' rfl move ⟨sound, slot | ⟨active, dead, slot⟩⟩
  · exact ⟨move.sound sound, move.slot_or_freed sound slot⟩
  -- a slot that was freed stays free
  · refine ⟨move.sound sound, .inr ⟨active, dead, ?_⟩⟩
    rcases move.slot_or_freed sound slot with slot | ⟨taken, -⟩
    · exact slot
    · cases taken

theorem Core.prunes_release {c c' : Core π} {id : EntityId} (h : c.release id = .ok c') :
    c.entities.Prunes c'.entities := by
  obtain ⟨⟨entities, sched⟩, released, eq⟩ := Checked.bind_eq_ok.1 h
  cases eq
  exact .release released

namespace Kernel

/-! ## Delivering an event -/

omit [Port π] in
/-- The kernel with empty queues, and the references of what was queued in hand. -/
def unloaded (k : Kernel π) (rest : List EntityId) : Moment π :=
  ⟨k.setQueues .empty, k.bus.queues.events.map (·.entity) ++ rest, none⟩

/-- What becomes of a kernel that takes an event off the bus and delivers it. -/
structure Hears (event : Event) (k k' : Kernel π) : Prop where
  /-- No entity is added. -/
  prunes : k.entities.Prunes k'.entities
  /-- The registry of devices is left alone. -/
  devices : k'.devices = k.devices
  /-- Listeners stay in order. -/
  sublist : ∀ kind, (k'.bus.registry.lists.get kind).Sublist (k.bus.registry.lists.get kind)
  /-- Those for events of other kinds stay. -/
  others : ∀ {kind}, event.kind ≠ kind →
    k'.bus.registry.lists.get kind = k.bus.registry.lists.get kind
  /-- Whom the event does not wake stays as it was, but that the slot of a dead task may be freed. -/
  slot : ∀ {pid t}, k.sched.task? pid = some t → ¬ event.payload.Wakes pid t →
    k'.sched.task? pid = some t ∨
      (t.active = true ∧ t.state = .dead ∧ k'.sched.task? pid = some .empty)
  /-- The listener of a task that is not woken stays on the lists. -/
  listed : ∀ {pid t}, k.sched.task? pid = some t → ¬ event.payload.Wakes pid t → ∀ kind,
    (k'.bus.registry.lists.get kind).filter (·.extra = pid) =
      (k.bus.registry.lists.get kind).filter (·.extra = pid)
  /-- Who is woken has left the list once. -/
  woken : ∀ {pid t}, k.sched.task? pid = some t → event.payload.Wakes pid t →
    (∃ sub ∈ k.bus.registry.lists.get event.kind, sub.extra = pid) →
    k'.sched.task? pid = some (t.woken event.payload) ∧
      ∃ sub, (k.bus.registry.lists.get event.kind).filter (·.extra = pid) =
        sub :: (k'.bus.registry.lists.get event.kind).filter (·.extra = pid)

variable {k k' : Kernel π} {rest : List EntityId} {event : Event} {queues : Queues}
  {c c' : Core π} {bus bus' : EventBus KernelListener}
  {devices : Vector (Option EntityId) maxDevices}

omit [Port π] in
/-- The references of events may be put in hand, and others in their place on the bus. -/
theorem sound_unloaded {held : List EntityId} (sound : Moment.Sound ⟨k, held, none⟩)
    (owned : (queues.events.map (·.entity) ++ rest).Perm
      (k.bus.queues.events.map (·.entity) ++ held)) :
    ((k.setQueues queues).unloaded rest).Sound :=
  Moment.Sound.setQueues sound owned nofun

theorem moves_tell_unloaded {list : List (Subscription KernelListener)} {c₁ : Core π}
    {queues' : Queues} (sound : (unloaded ⟨c, bus, devices⟩ rest).Sound)
    (told : EventBus.tell Core.callbacks event (bus.registry.lists.get event.kind) queues c =
      .ok (list, queues', c₁)) :
    Moves Label.InPass (unloaded ⟨c, bus, devices⟩ rest)
      ⟨⟨c₁, ⟨.empty, { bus.registry with lists := bus.registry.lists.set event.kind list }⟩, devices⟩,
        bus.queues.events.map (·.entity) ++ rest, none⟩ := by
  have own : ∀ sub ∈ bus.registry.lists.get event.kind, sub.listener.serves event.kind = true :=
    sound.listeners event.kind
  have tell := moves_tell ⟨.empty, bus.registry⟩ devices []
    (bus.queues.events.map (·.entity) ++ rest) none own told
  rwa [List.nil_append, List.nil_append,
    setListeners_self ⟨c, ⟨.empty, bus.registry⟩, devices⟩] at tell

omit [Port π] in
theorem perm_of_takes (taken : bus.queues.Takes event queues) (rest : List EntityId) :
    (bus.queues.events.map (·.entity) ++ rest).Perm
      (event.entity :: (queues.events.map (·.entity) ++ rest)) :=
  (taken.events.map Event.entity).append_right rest

/-- A delivery is telling the listeners, and then a release. -/
theorem moves_unloaded (sound : (unloaded ⟨c, bus, devices⟩ rest).Sound)
    (taken : bus.queues.Takes event queues)
    (h : EventBus.deliver Core.callbacks { bus with queues } event c = .ok (bus', c')) :
    ∃ list c₁ m, EventBus.tell Core.callbacks event (bus.registry.lists.get event.kind) queues c =
        .ok (list, queues, c₁) ∧
      c₁.release event.entity = .ok c' ∧
      bus' = ⟨queues, { bus.registry with lists := bus.registry.lists.set event.kind list }⟩ ∧
      m.kernel.toCore = c₁ ∧
      Moves Label.InPass (unloaded ⟨c, bus, devices⟩ rest) m ∧
      Moves (· = .quiet) m (unloaded ⟨c', bus', devices⟩ rest) := by
  obtain ⟨list, c₁, told, released, rfl⟩ := EventBus.deliver_eq_ok callbacks_quiet h
  have released := Reaction.done.inj released
  exact ⟨list, c₁, _, told, released, rfl, rfl, moves_tell_unloaded sound told,
    moves_coreRelease _ devices released (perm_of_takes taken rest)⟩

/-- A delivery wakes whom the event wakes. -/
theorem hears_deliver (sound : (unloaded ⟨c, bus, devices⟩ rest).Sound)
    (taken : bus.queues.Takes event queues)
    (h : EventBus.deliver Core.callbacks { bus with queues } event c = .ok (bus', c')) :
    Hears event ⟨c, bus, devices⟩ ⟨c', bus', devices⟩ := by
  obtain ⟨list, c₁, m, tell, released, rfl, rfl, first, second⟩ := moves_unloaded sound taken h
  have told := Core.Told.of_tell (sound.listeners event.kind) tell
  have quiet {pid t} (slot : m.kernel.sched.task? pid = some t) :=
    second.slot_or_freed (first.sound sound) slot
  exact
    { prunes := told.entities ▸ Core.prunes_release released
      devices := rfl
      sublist := fun kind => by
        by_cases own : event.kind = kind
        · subst own
          rw [ByKind.get_set_self]
          exact told.sublist
        · rw [ByKind.get_set_of_ne _ _ own]
      others := fun other => ByKind.get_set_of_ne _ _ other
      slot := fun slot deaf => quiet (told.deaf slot deaf).1
      listed := fun slot deaf kind => by
        by_cases own : event.kind = kind
        · subst own
          rw [ByKind.get_set_self]
          exact (told.deaf slot deaf).2
        · rw [ByKind.get_set_of_ne _ _ own]
      woken := fun slot wakes listed => by
        obtain ⟨slot, left⟩ := told.woken slot wakes listed
        rw [ByKind.get_set_self]
        rcases quiet slot with same | ⟨-, dead, -⟩
        · exact ⟨same, left⟩
        · cases wakes.state_woken.symm.trans dead }

/-! ## In the middle of a pass -/

/-- What has become of the kernel `k` once the events in `told` were delivered. -/
structure Delivering (k : Kernel π) (rest : List EntityId) (told : List Event) (k' : Kernel π) :
    Prop where
  /-- The events that were not delivered are queued. -/
  events : (told ++ k'.bus.queues.events).Perm k.bus.queues.events
  /-- The references are counted. -/
  sound : (k'.unloaded rest).Sound
  /-- No entity was added. -/
  prunes : k.entities.Prunes k'.entities
  /-- The registry of devices was left alone. -/
  devices : k'.devices = k.devices
  /-- Listeners stayed in order. -/
  sublist : ∀ kind, (k'.bus.registry.lists.get kind).Sublist (k.bus.registry.lists.get kind)
  /-- Whom no event woke is as it was, but that the slot of a dead task may have been freed. -/
  slot : ∀ {pid t}, k.sched.task? pid = some t →
    (∀ event ∈ told, ¬ event.payload.Wakes pid t) →
    k'.sched.task? pid = some t ∨
      (t.active = true ∧ t.state = .dead ∧ k'.sched.task? pid = some .empty)
  /-- Whom no event of a kind woke is on the list of the kind as it was. -/
  listed : ∀ {pid t kind}, k.sched.task? pid = some t →
    (∀ event ∈ told, event.kind = kind → ¬ event.payload.Wakes pid t) →
    (k'.bus.registry.lists.get kind).filter (·.extra = pid) =
      (k.bus.registry.lists.get kind).filter (·.extra = pid)
  /-- Whom an event woke is ready. -/
  woken : ∀ {pid t event}, k.sched.task? pid = some t → event ∈ told →
    event.payload.Wakes pid t → k'.sched.task? pid = some (t.woken event.payload)
  /-- The listener of a task that was woken has left the list, once. -/
  left : ∀ {pid t event}, k.sched.task? pid = some t → event ∈ told →
    event.payload.Wakes pid t →
    ∃ sub, (k.bus.registry.lists.get event.kind).filter (·.extra = pid) =
      sub :: (k'.bus.registry.lists.get event.kind).filter (·.extra = pid)

namespace Delivering

variable {told : List Event} {pid : Pid} {t : Task} {k₁ : Kernel π}

omit [Port π] in
theorem start (sound : (k.unloaded rest).Sound) : k.Delivering rest [] k where
  events := .refl _
  sound := sound
  prunes := .refl _
  devices := rfl
  sublist _ := .refl _
  slot slot _ := .inl slot
  listed _ _ := rfl
  woken _ mem := nomatch mem
  left _ mem := nomatch mem

omit [Port π] in
/-- A slot in the middle of a pass: an event woke the task, or the task is there as it was, or the slot
was freed.  In the first case and in the last no further event wakes it. -/
theorem cases (h : k.Delivering rest told k₁) (slot : k.sched.task? pid = some t) :
    (∃ event ∈ told, event.payload.Wakes pid t ∧
        k₁.sched.task? pid = some (t.woken event.payload)) ∨
      ((∀ event ∈ told, ¬ event.payload.Wakes pid t) ∧ (k₁.sched.task? pid = some t ∨
        (t.active = true ∧ t.state = .dead ∧ k₁.sched.task? pid = some .empty))) := by
  by_cases waits : ∀ event ∈ told, ¬ event.payload.Wakes pid t
  · exact .inr ⟨waits, h.slot slot waits⟩
  · push Not at waits
    obtain ⟨event, mem, wakes⟩ := waits
    exact .inl ⟨event, mem, wakes, h.woken slot mem wakes⟩

omit [Port π] in
/-- Who waits, and was not woken yet, is still listed. -/
theorem enrolled (h : k.Delivering rest told k₁) (enrolled : k.Enrolled)
    (slot : k.sched.task? pid = some t) (waits : ∀ event ∈ told, ¬ event.payload.Wakes pid t)
    (wakes : event.payload.Wakes pid t) :
    ∃ sub ∈ k₁.bus.registry.lists.get event.kind, sub.extra = pid := by
  obtain ⟨sub, mem, extra⟩ := enrolled slot wakes
  have listed : sub ∈ (k.bus.registry.lists.get event.kind).filter (·.extra = pid) :=
    List.mem_filter.2 ⟨mem, decide_eq_true extra⟩
  rw [← h.listed slot fun other old _ => waits other old] at listed
  exact ⟨sub, List.mem_of_mem_filter listed, extra⟩

omit [Port π] in
/-- A task is listed as before behind an event that does not wake it, or comes too late. -/
theorem listed_of_deaf (h : k.Delivering rest told k₁) (hears : Hears event k₁ k')
    (slot : k.sched.task? pid = some t)
    (deaf : event.payload.Wakes pid t → ∃ other ∈ told, other.payload.Wakes pid t)
    (kind : EventKind) :
    (k'.bus.registry.lists.get kind).filter (·.extra = pid) =
      (k₁.bus.registry.lists.get kind).filter (·.extra = pid) := by
  rcases h.cases slot with ⟨other, mem, wakes, now⟩ | ⟨waits, now | ⟨-, -, now⟩⟩
  · exact hears.listed now (wakes.once _) kind
  · refine hears.listed now (fun wakes => ?_) kind
    obtain ⟨other, mem, first⟩ := deaf wakes
    exact waits other mem first
  · exact hears.listed now (Payload.not_wakes_of_dead rfl) kind

omit [Port π] in
theorem step (h : k.Delivering rest told k₁) (enrolled : k.Enrolled)
    (taken : k₁.bus.queues.events.Perm (event :: k'.bus.queues.events))
    (sound : (k'.unloaded rest).Sound) (hears : Hears event k₁ k') :
    k.Delivering rest (event :: told) k' where
  events := by
    have queued := taken.append_left told
    exact List.perm_middle.symm.trans (queued.symm.trans h.events)
  sound := sound
  prunes := h.prunes.trans hears.prunes
  devices := hears.devices.trans h.devices
  sublist kind := (hears.sublist kind).trans (h.sublist kind)
  slot {pid t} slot waits := by
    obtain ⟨deaf, before⟩ := List.forall_mem_cons.1 waits
    rcases h.slot slot before with now | ⟨active, dead, now⟩
    · exact hears.slot now deaf
    · refine .inr ⟨active, dead, ?_⟩
      rcases hears.slot now (Payload.not_wakes_of_dead rfl) with now | ⟨taken, -⟩
      · exact now
      · cases taken
  listed {pid t kind} slot waits := by
    obtain ⟨deaf, before⟩ := List.forall_mem_cons.1 waits
    rw [← h.listed slot before]
    by_cases own : event.kind = kind
    · exact h.listed_of_deaf hears slot (fun wakes => absurd wakes (deaf own)) kind
    · rw [hears.others own]
  woken {pid t event'} slot mem wakes := by
    -- the first event that wakes a task does it, and any other does the same or comes too late
    rcases h.cases slot with ⟨other, -, first, now⟩ | ⟨waits, now | ⟨-, dead, -⟩⟩
    · rw [(wakes.agree first).2]
      rcases hears.slot now (first.once _) with same | ⟨-, dead, -⟩
      · exact same
      · cases first.state_woken.symm.trans dead
    · obtain rfl : event' = event :=
        (List.mem_cons.1 mem).resolve_right fun old => waits _ old wakes
      exact (hears.woken now wakes (h.enrolled enrolled slot waits wakes)).1
    · exact absurd wakes (Payload.not_wakes_of_dead dead)
  left {pid t event'} slot mem wakes := by
    rcases h.cases slot with ⟨other, old, first, now⟩ | ⟨waits, now | ⟨-, dead, -⟩⟩
    · obtain ⟨sub, left⟩ := h.left slot old first
      have kind : other.kind = event'.kind := (first.agree wakes).1
      rw [h.listed_of_deaf hears slot (fun _ => ⟨other, old, first⟩), ← kind]
      exact ⟨sub, left⟩
    · obtain rfl : event' = event :=
        (List.mem_cons.1 mem).resolve_right fun old => waits _ old wakes
      rw [← h.listed slot fun other old _ => waits other old]
      exact (hears.woken now wakes (h.enrolled enrolled slot waits wakes)).2
    · exact absurd wakes (Payload.not_wakes_of_dead dead)

omit [Port π] in
theorem requeue (h : k.Delivering rest told ⟨c, bus, devices⟩)
    (same : queues.events.Perm bus.queues.events) :
    k.Delivering rest told ⟨c, { bus with queues }, devices⟩ :=
  { h with
    events := (same.append_left told).trans h.events
    sound := sound_unloaded h.sound ((same.map Event.entity).append_right rest) }

theorem deliver (h : k.Delivering rest told ⟨c, bus, devices⟩) (enrolled : k.Enrolled)
    (taken : bus.queues.Takes event queues)
    (delivered : EventBus.deliver Core.callbacks { bus with queues } event c = .ok (bus', c')) :
    k.Delivering rest (event :: told) ⟨c', bus', devices⟩ := by
  have hears := hears_deliver h.sound taken delivered
  obtain ⟨list, c₁, m, -, -, rfl, -, first, second⟩ := moves_unloaded h.sound taken delivered
  exact h.step enrolled taken.events (second.sound (first.sound h.sound)) hears

end Delivering

/-- A pass delivers all that was queued. -/
theorem delivering_deliverEvents (sound : (k.unloaded rest).Sound) (enrolled : k.Enrolled)
    (h : k.deliverEvents = .ok k') :
    (∃ told, k.Delivering rest told k') ∧ k'.bus.queues.events = [] := by
  obtain ⟨⟨bus, c⟩, delivered, eq⟩ := Checked.bind_eq_ok.1 h
  cases eq
  refine ⟨?_, EventBus.events_deliverAll callbacks_quiet delivered⟩
  refine EventBus.deliverAll_keeps (P := fun bus c =>
    ∃ told, k.Delivering rest told ⟨c, bus, k.devices⟩) ?_ delivered ⟨[], .start sound⟩
  exact
    { delivered := fun ⟨told, sofar⟩ taken deliver => ⟨_, sofar.deliver enrolled taken deliver⟩
      refilled := fun ⟨told, sofar⟩ oldest put =>
        ⟨told, sofar.requeue (Queues.events_refill oldest put)⟩ }

/-! ## Passes come to an end -/

section Totality

variable [LawfulPort π]

theorem deliver_unloaded_total (sound : (unloaded ⟨c, bus, devices⟩ rest).Sound)
    (owns : (⟨c, bus, devices⟩ : Kernel π).OwnsStacks)
    (seated : ∀ kind, ∀ sub ∈ bus.registry.lists.get kind, sub.extra < maxTasks)
    (taken : bus.queues.Takes event queues) :
    ∃ out, EventBus.deliver Core.callbacks { bus with queues } event c = .ok out := by
  refine Checked.bind_total (tell_total (sound.listeners event.kind) (seated event.kind))
    fun ⟨list, queues', c₁⟩ told => ?_
  cases EventBus.tell_queues callbacks_quiet told
  have tell := moves_tell_unloaded sound told
  obtain ⟨k', release⟩ := release_total (tell.sound sound)
    (tell.ownsStacks (m := unloaded ⟨c, bus, devices⟩ rest) owns) (perm_of_takes taken rest)
  obtain ⟨c₂, released, -⟩ := Checked.bind_eq_ok.1 release
  exact Checked.bind_total (Checked.bind_total ⟨c₂, released⟩ fun _ _ => ⟨_, rfl⟩)
    fun _ _ => ⟨_, rfl⟩

/-- A pass delivers all that is queued. -/
theorem deliverEvents_ends (sound : (k.unloaded rest).Sound) (enrolled : k.Enrolled)
    (owns : k.OwnsStacks)
    (seated : ∀ kind, ∀ sub ∈ k.bus.registry.lists.get kind, sub.extra < maxTasks) :
    ∃ k', k.deliverEvents = .ok k' := by
  have ends : EventBus.EndsPass Core.callbacks fun bus c =>
      (∃ told, k.Delivering rest told ⟨c, bus, k.devices⟩) ∧
        (⟨c, bus, k.devices⟩ : Kernel π).OwnsStacks :=
    { delivered := fun {bus c event queues bus' c'} ⟨⟨told, sofar⟩, owns⟩ taken delivered => by
        obtain ⟨list, c₁, m, -, -, rfl, -, first, second⟩ :=
          moves_unloaded sofar.sound taken delivered
        exact ⟨⟨_, sofar.deliver enrolled taken delivered⟩,
          second.ownsStacks (first.ownsStacks (m := unloaded ⟨c, bus, k.devices⟩ rest) owns)⟩
      refilled := fun ⟨⟨told, sofar⟩, owns⟩ oldest put =>
        ⟨⟨told, sofar.requeue (Queues.events_refill oldest put)⟩, owns⟩
      delivers := fun ⟨⟨told, sofar⟩, owns⟩ taken =>
        deliver_unloaded_total sofar.sound owns
          (fun kind sub mem => seated kind sub ((sofar.sublist kind).mem mem)) taken
      silent := fun _ _ delivered => EventBus.queues_deliver callbacks_quiet delivered }
  refine Checked.bind_total ?_ fun _ _ => ⟨_, rfl⟩
  exact ends.deliverAll_total ⟨⟨[], .start sound⟩, owns⟩ (Nat.le_of_eq k.bus.queues.length_events)

end Totality

end Kernel

end Rtos

import Rtos.Proofs.Kernel.Descent
import Rtos.Proofs.Kernel.Processor
import Rtos.Proofs.Kernel.WakeUps

/-!
# What a pass leaves

What a pass has done to the tasks, the entities and the listeners follows from what was queued, and
from the references that no queued event holds (`Kernel.Delivered`).  The order of the events and that
of the listeners have no part in it, so kernels that differ in nothing else agree behind their passes
(`Kernel.Delivered.agrees`).

The idle task may be listed several times, since a pass that finds nobody else resumes it while its
listener stays.  Which of its listeners leaves does depend on their order, but only by name.
-/

namespace Rtos

variable {π : Type}

namespace Payload

variable {payload : Payload} {pid : Pid} {t : Task}

theorem wakes_iff_of_device (waits : t.state = .awaitingDevice) :
    payload.Wakes pid t ↔ ∃ wait flags, t.deviceWait = some wait ∧
      payload = .device wait.device flags ∧
      flags.intersects (wait.direction.union DeviceFlags.err) = true := by
  constructor
  · intro wakes
    cases payload with
    | device number flags =>
      obtain ⟨-, wait, waiting, rfl, covers⟩ := wakes
      exact ⟨wait, flags, waiting, rfl, covers⟩
    | task => cases waits.symm.trans wakes.2.1
    | file => exact wakes.elim
  · rintro ⟨wait, flags, waiting, rfl, covers⟩
    exact ⟨waits, wait, waiting, rfl, covers⟩

theorem wakes_iff_of_child (waits : t.state = .awaitingChild) :
    payload.Wakes pid t ↔ ∃ child status, payload = .task child pid status ∧
      t.childFilter.accepts child = true := by
  constructor
  · intro wakes
    cases payload with
    | task child parent status =>
      obtain ⟨rfl, -, accepts⟩ := wakes
      exact ⟨child, status, rfl, accepts⟩
    | device => cases waits.symm.trans wakes.1
    | file => exact wakes.elim
  · rintro ⟨child, status, rfl, accepts⟩
    exact ⟨rfl, waits, accepts⟩

end Payload

theorem Scheduler.references_congr {s r : Scheduler π}
    (h : ∀ pid t, s.task? pid = some t →
      ∃ t', r.task? pid = some t' ∧ t'.references = t.references) : r.references = s.references := by
  have same : r.tasks.toList.map Task.references = s.tasks.toList.map Task.references := by
    refine List.ext_getElem (by simp) fun pid _ lt => ?_
    have lt : pid < maxTasks := by simpa using lt
    obtain ⟨t, slot⟩ := s.exists_task? lt
    obtain ⟨t', slot', references⟩ := h pid t slot
    obtain ⟨_, rfl⟩ := Vector.getElem?_eq_some_iff.1 slot
    obtain ⟨_, rfl⟩ := Vector.getElem?_eq_some_iff.1 slot'
    simpa using references
  rw [Scheduler.references, Scheduler.references, List.flatMap, List.flatMap, same]

namespace Kernel

variable {k k' r r' : Kernel π} {rest : List EntityId} {told : List Event} {id : EntityId}
  {kind : EventKind} {pid : Pid} {t : Task}

/-! ## The references that are left -/

/-- An entity is kept by a reference that no queued event holds: one on itself, or on an entity that
stands under it. -/
def Anchored (k : Kernel π) (rest : List EntityId) (id : EntityId) : Prop :=
  ∃ x ∈ (k.setQueues .empty).references ++ rest, k.entities.Within x id

/-- The references of a sound kernel account for what is live. -/
theorem tallied (sound : Moment.Sound ⟨k, rest, none⟩) (ranked : k.entities.Ranked) :
    k.entities.Tallied (k.references ++ rest) where
  counted id := by
    have balance := sound.balance id
    rwa [Option.toList_none, List.append_nil] at balance
  positive := sound.tree.positive
  ranked := ranked
  census := sound.tree.census

/-- A pass leaves the references that no queued event holds. -/
theorem Delivering.references_eq (h : k.Delivering rest told k') (sound : (k.unloaded rest).Sound)
    (drained : k'.bus.queues.events = []) : k'.references = (k.setQueues .empty).references := by
  have table : k'.sched.references = k.sched.references := by
    refine Scheduler.references_congr fun pid t slot => ?_
    rcases h.cases slot with ⟨event, -, wakes, now⟩ | ⟨-, now | ⟨-, dead, now⟩⟩
    · exact ⟨_, now, wakes.keeps.references⟩
    · exact ⟨t, now, rfl⟩
    · refine ⟨.empty, now, ?_⟩
      rw [Task.references_of_dead dead (sound.tasks.cleared slot dead)]
      rfl
  have registry : k'.deviceReferences = k.deviceReferences := by
    rw [deviceReferences, deviceReferences, h.devices]
  rw [references, references, table, registry, drained]
  rfl

/-! ## What follows from what was queued -/

/-- What a pass over the kernel `k` leaves, while others have the references in `rest` in hand. -/
structure Delivered [Port π] (k : Kernel π) (rest : List EntityId) (k' : Kernel π) : Prop where
  /-- Nothing is queued any more. -/
  drained : k'.bus.queues.events = []
  /-- The references are counted. -/
  sound : Moment.Sound ⟨k', rest, none⟩
  /-- A task that waits for a device is made ready exactly if the device reports, in a direction that
  the task waits for, or an error. -/
  device : ∀ {pid t}, k.sched.task? pid = some t → t.state = .awaitingDevice →
    ((∃ t', k'.sched.task? pid = some t' ∧ t'.state = .ready) ↔
      ∃ event ∈ k.bus.queues.events, ∃ wait flags, t.deviceWait = some wait ∧
        event.payload = .device wait.device flags ∧
        flags.intersects (wait.direction.union DeviceFlags.err) = true)
  /-- A parent that waits for a child is made ready exactly if the exit of a child that it accepts is
  reported to it. -/
  child : ∀ {pid t}, k.sched.task? pid = some t → t.state = .awaitingChild →
    ((∃ t', k'.sched.task? pid = some t' ∧ t'.state = .ready) ↔
      ∃ event ∈ k.bus.queues.events, ∃ child status, event.payload = .task child pid status ∧
        t.childFilter.accepts child = true)
  /-- Nothing else about a woken task changes, but that it forgets what it waited for. -/
  woken : ∀ {pid t event}, k.sched.task? pid = some t → event ∈ k.bus.queues.events →
    event.payload.Wakes pid t → k'.sched.task? pid = some (t.woken event.payload)
  /-- One of its listeners is gone. -/
  left : ∀ {pid t event}, k.sched.task? pid = some t → event ∈ k.bus.queues.events →
    event.payload.Wakes pid t →
    ∃ sub, (k.bus.registry.lists.get event.kind).filter (·.extra = pid) =
      sub :: (k'.bus.registry.lists.get event.kind).filter (·.extra = pid)
  /-- The slot of a dead task that nothing but queued events kept is freed. -/
  freed : ∀ {pid t id}, k.sched.task? pid = some t → t.state = .dead → t.entity = some id →
    ¬ k.Anchored rest id → k'.sched.task? pid = some .empty
  /-- All other slots are as they were. -/
  kept : ∀ {pid t}, k.sched.task? pid = some t →
    (∀ event ∈ k.bus.queues.events, ¬ event.payload.Wakes pid t) →
    (t.state = .dead → ∀ id, t.entity = some id → k.Anchored rest id) →
    k'.sched.task? pid = some t
  /-- Listeners whose tasks are not woken by an event of the kind stay. -/
  listed : ∀ {pid t kind}, k.sched.task? pid = some t →
    (∀ event ∈ k.bus.queues.events, event.kind = kind → ¬ event.payload.Wakes pid t) →
    (k'.bus.registry.lists.get kind).filter (·.extra = pid) =
      (k.bus.registry.lists.get kind).filter (·.extra = pid)
  /-- Listeners that stay are in the old order. -/
  sublist : ∀ kind, (k'.bus.registry.lists.get kind).Sublist (k.bus.registry.lists.get kind)
  /-- The entities that are left are those that something else keeps. -/
  survivors : ∀ id, k'.entities.isLive id = true ↔ k.Anchored rest id
  /-- The entities are as they were, but for the references that went. -/
  prunes : k.entities.Prunes k'.entities
  /-- The registry of devices was left alone. -/
  devices : k'.devices = k.devices
  /-- Clock, sections and the choice of the current task were left alone. -/
  stays : k.sched.Stays (fun _ => False) k'.sched

theorem sound_of_drained (sound : (k.unloaded rest).Sound) (drained : k.bus.queues.events = []) :
    Moment.Sound ⟨k, rest, none⟩ := by
  have sound : Moment.Sound ⟨k.setQueues .empty,
    k.bus.queues.events.map (·.entity) ++ rest, none⟩ := sound
  rw [drained] at sound
  exact sound.of_eq rfl rfl rfl drained rfl

namespace Delivering

/-- The entities that a pass leaves are those that something else keeps. -/
theorem survivors (h : k.Delivering rest told k') (sound : (k.unloaded rest).Sound)
    (drained : k'.bus.queues.events = []) (ranked : k.entities.Ranked) (id : EntityId) :
    k'.entities.isLive id = true ↔ k.Anchored rest id := by
  have tallied := tallied (sound_of_drained h.sound drained) (h.prunes.ranked ranked)
  rw [h.prunes.isLive_iff tallied, h.references_eq sound drained]
  exact Iff.rfl

/-- A task that exited stays in its slot if its entity stays. -/
theorem kept_of_dead (h : k.Delivering rest told k') (sound : (k.unloaded rest).Sound)
    (slot : k.sched.task? pid = some t) (dead : t.state = .dead)
    (lasts : ∀ id, t.entity = some id → k'.entities.isLive id = true) :
    k'.sched.task? pid = some t := by
  rcases h.slot slot fun _ _ => Payload.not_wakes_of_dead dead with same | ⟨active, -, freed⟩
  · exact same
  · -- an entity that lasts stands for a task in a taken slot
    obtain ⟨id, owns, owned⟩ := sound.linked.task slot active
    obtain ⟨o, stays⟩ := EntityTree.isLive_iff.1 (lasts id owns)
    cases owned.symm.trans (h.prunes.owner? stays)
    obtain ⟨e, found, owner⟩ := EntityTree.owner?_eq_some.1 stays
    obtain ⟨-, u, slot', active', -⟩ := h.sound.linked.owner found owner
    cases freed.symm.trans slot'
    cases active'

theorem freed_of_dead (h : k.Delivering rest told k') (sound : (k.unloaded rest).Sound)
    (slot : k.sched.task? pid = some t) (dead : t.state = .dead) (owns : t.entity = some id)
    (goes : k'.entities.isLive id ≠ true) : k'.sched.task? pid = some .empty := by
  rcases h.slot slot fun _ _ => Payload.not_wakes_of_dead dead with same | ⟨-, -, freed⟩
  · refine absurd ?_ goes
    have active : t.active = true := by
      by_contra free
      cases owns.symm.trans (sound.tasks.free slot (Bool.eq_false_iff.2 free)).2
    obtain ⟨x, owns', owned⟩ := h.sound.linked.task same active
    cases owns.symm.trans owns'
    exact EntityTree.isLive_iff.2 ⟨_, owned⟩
  · exact freed

/-- Behind a pass a task is ready that waited for an event, exactly if such an event was queued. -/
theorem ready_iff (h : k.Delivering rest told k') (slot : k.sched.task? pid = some t)
    (parked : t.state.Parked) :
    (∃ t', k'.sched.task? pid = some t' ∧ t'.state = .ready) ↔
      ∃ event ∈ told, event.payload.Wakes pid t := by
  constructor
  · rintro ⟨t', slot', ready⟩
    rcases h.cases slot with ⟨event, mem, wakes, -⟩ | ⟨-, now | ⟨-, dead, -⟩⟩
    · exact ⟨event, mem, wakes⟩
    · cases now.symm.trans slot'
      exact absurd ready parked.not_ready
    · exact absurd dead parked.not_dead
  · rintro ⟨event, mem, wakes⟩
    exact ⟨_, h.woken slot mem wakes, wakes.state_woken⟩

/-- A pass is described by what was queued. -/
theorem delivered [Port π] (h : k.Delivering rest told k') (sound : (k.unloaded rest).Sound)
    (drained : k'.bus.queues.events = []) (ranked : k.entities.Ranked)
    (stays : k.sched.Stays (fun _ => False) k'.sched) : k.Delivered rest k' := by
  have queued {event : Event} : event ∈ told ↔ event ∈ k.bus.queues.events := by
    have all := h.events
    rw [drained, List.append_nil] at all
    exact all.mem_iff
  have survivors := h.survivors sound drained ranked
  exact
    { drained := drained
      sound := sound_of_drained h.sound drained
      device := fun {pid t} slot waits => by
        rw [h.ready_iff slot (.inl waits)]
        simp only [queued, Payload.wakes_iff_of_device waits]
      child := fun {pid t} slot waits => by
        rw [h.ready_iff slot (.inr (.inr waits))]
        simp only [queued, Payload.wakes_iff_of_child waits]
      woken := fun slot mem wakes => h.woken slot (queued.2 mem) wakes
      left := fun slot mem wakes => h.left slot (queued.2 mem) wakes
      freed := fun {pid t id} slot dead owns loose =>
        h.freed_of_dead sound slot dead owns (loose ∘ (survivors id).1)
      kept := fun {pid t} slot waits anchored => by
        by_cases dead : t.state = .dead
        · exact h.kept_of_dead sound slot dead fun id owns => (survivors id).2 (anchored dead id owns)
        · rcases h.slot slot fun event mem => waits event (queued.1 mem) with same | ⟨-, gone, -⟩
          · exact same
          · exact absurd gone dead
      listed := fun slot waits => h.listed slot fun event mem => waits event (queued.1 mem)
      sublist := h.sublist
      survivors := survivors
      prunes := h.prunes
      devices := h.devices
      stays := stays }

end Delivering

/-! ## Kernels that a pass may find -/

/-- What a pass relies on, while others have the references in `rest` in hand. -/
structure Poised (k : Kernel π) (rest : List EntityId) : Prop where
  /-- The references are counted, whatever queued events hold. -/
  sound : (k.unloaded rest).Sound
  /-- Whoever waits for an event is listed for it. -/
  enrolled : k.Enrolled
  /-- Nobody is listed for a kind twice, but the idle task. -/
  once : ∀ {pid t} kind, k.sched.task? pid = some t → pid ≠ idlePid →
    (k.bus.registry.lists.get kind).countP (·.extra = pid) ≤ 1
  /-- Every task that is listed has a slot. -/
  seated : ∀ kind, ∀ sub ∈ k.bus.registry.lists.get kind, sub.extra < maxTasks
  /-- No entity stands under itself. -/
  ranked : k.entities.Ranked

/-- Two kernels differ at most in the order of what is queued and of the listeners. -/
structure Reordered (k r : Kernel π) : Prop where
  /-- The schedulers are the same. -/
  sched : r.sched = k.sched
  /-- The entities are the same. -/
  entities : r.entities = k.entities
  /-- The devices are the same. -/
  devices : r.devices = k.devices
  /-- The same events are queued. -/
  events : r.bus.queues.events.Perm k.bus.queues.events
  /-- The same listeners are registered. -/
  lists : ∀ kind, (r.bus.registry.lists.get kind).Perm (k.bus.registry.lists.get kind)

/-- Two kernels agree on all that passes change, but for the log, the state of the hardware and the
order of the listeners. -/
structure Agrees (k r : Kernel π) : Prop where
  /-- The tasks are the same. -/
  tasks : r.sched.tasks = k.sched.tasks
  /-- The current task is the same. -/
  current : r.sched.current = k.sched.current
  /-- The clock shows the same. -/
  tick : r.sched.tick = k.sched.tick
  /-- The entities are the same, with their counts. -/
  entities : r.entities = k.entities
  /-- The devices are the same. -/
  devices : r.devices = k.devices
  /-- The listeners of every task but the idle one are the same, but for their order. -/
  listeners : ∀ kind pid, pid ≠ idlePid →
    (r.bus.registry.lists.get kind).filter (·.extra = pid) =
      (k.bus.registry.lists.get kind).filter (·.extra = pid)
  /-- The idle task has as many. -/
  idle : ∀ kind, (r.bus.registry.lists.get kind).countP (·.extra = idlePid) =
    (k.bus.registry.lists.get kind).countP (·.extra = idlePid)

namespace Reordered

/-- The order of what is queued does not matter to the references that no queued event holds. -/
theorem references_eq (same : k.Reordered r) :
    (r.setQueues .empty).references = (k.setQueues .empty).references := by
  change _ :: (r.sched.references ++ r.devices.toList.flatMap Option.toList ++ _) = _
  rw [same.sched, same.devices]
  rfl

theorem anchored_iff (same : k.Reordered r) : r.Anchored rest id ↔ k.Anchored rest id := by
  rw [Anchored, Anchored, same.references_eq, same.entities]

theorem sound (same : k.Reordered r) (h : (k.unloaded rest).Sound) : (r.unloaded rest).Sound where
  tree := (congrArg EntityTree.Proper same.entities).mpr h.tree
  tasks := h.tasks.of_eq (congrArg Scheduler.tasks same.sched)
  linked := h.linked.of_eq (congrArg Scheduler.tasks same.sched) same.entities same.devices rfl
  listeners kind sub mem := h.listeners kind sub ((same.lists kind).mem_iff.1 mem)
  balance id := by
    have balance : k.entities.refs id = ((k.setQueues .empty).references ++
        (k.bus.queues.events.map Event.entity ++ rest) ++ []).count id +
          k.entities.parents.count id := h.balance id
    change r.entities.refs id = ((r.setQueues .empty).references ++
      (r.bus.queues.events.map Event.entity ++ rest) ++ []).count id + r.entities.parents.count id
    simp only [List.count_append, (same.events.map Event.entity).count_eq, same.references_eq,
      same.entities] at balance ⊢
    exact balance

end Reordered

/-- Every kernel that operations pass through is poised, whatever is queued in it. -/
theorem poised_of_moves [Port π] {P : Label → Prop} {port : π} {k₀ : Kernel π}
    {held : List EntityId} {queues : Queues} (booted : boot port = .ok (.ok k₀))
    (moves : Moves P ⟨k₀, [], none⟩ ⟨k, held, none⟩)
    (owned : (queues.events.map (·.entity) ++ rest).Perm
      (k.bus.queues.events.map (·.entity) ++ held)) : (k.setQueues queues).Poised rest := by
  have start := sound_boot booted
  have sound := moves.sound start
  have attended := moves.attended start (attended_boot booted)
  have watched := moves.watched start (watched_boot booted)
  exact
    { sound := sound_unloaded sound owned
      enrolled := moves.enrolled start (attended_boot booted) (enrolled_boot booted)
      once := fun kind slot busy => countP_listed_le sound watched attended slot busy kind
      seated := moves.keeps (seated_boot booted) fun _ move seated => move.seated seated
      ranked := (moves.grounded start (grounded_boot booted)).ranked }

namespace Poised

theorem delivered [Port π] (h : k.Poised rest) (delivered : k.deliverEvents = .ok k') :
    k.Delivered rest k' := by
  obtain ⟨⟨told, delivering⟩, drained⟩ := delivering_deliverEvents h.sound h.enrolled delivered
  exact delivering.delivered h.sound drained h.ranked (stays_deliverEvents delivered)

theorem ends [Port π] [LawfulPort π] (h : k.Poised rest) (owns : k.OwnsStacks) :
    ∃ k', k.deliverEvents = .ok k' ∧ k.Delivered rest k' := by
  obtain ⟨k', delivered⟩ := deliverEvents_ends h.sound h.enrolled owns h.seated
  exact ⟨k', delivered, h.delivered delivered⟩

theorem reordered (h : k.Poised rest) (same : k.Reordered r) : r.Poised rest where
  sound := same.sound h.sound
  enrolled {pid t payload} slot wakes := by
    rw [same.sched] at slot
    obtain ⟨sub, mem, extra⟩ := h.enrolled slot wakes
    exact ⟨sub, (same.lists _).mem_iff.2 mem, extra⟩
  once kind slot busy := by
    rw [same.sched] at slot
    rw [(same.lists kind).countP_eq]
    exact h.once kind slot busy
  seated kind sub mem := h.seated kind sub ((same.lists kind).mem_iff.1 mem)
  ranked := same.entities ▸ h.ranked

end Poised

/-- What a pass does behind its deliveries: the next task is chosen and switched to. -/
def switchOn [Port π] (k : Kernel π) : Checked (Kernel π) := do
  let ((previous, next), sched) ← k.sched.choose
  let sched ← { sched with passPending := false }.switchTask previous next
  return { k with sched }

/-- Outside atomic sections a pass delivers what is queued, and then switches. -/
theorem schedule_outside [Port π] (outside : k.sched.sectionDepth = 0)
    (delivered : k.deliverEvents = .ok k') : k.schedule = k'.switchOn := by
  unfold schedule
  rw [if_neg (by omega), delivered]
  rfl

/-! ## Order does not matter -/

/-- There is only one way to order a list of one thing. -/
theorem eq_of_perm_of_short {α : Type} {l l' : List α} (perm : l.Perm l') (short : l'.length ≤ 1) :
    l = l' := by
  match l', short with
  | [], _ => exact perm.eq_nil
  | [a], _ => exact List.perm_singleton.1 perm

namespace Delivered

variable [Port π]

/-- A slot behind a pass does not depend on the order. -/
theorem task?_eq (same : k.Reordered r) (h : k.Delivered rest k') (h' : r.Delivered rest r')
    (slot : k.sched.task? pid = some t) : r'.sched.task? pid = k'.sched.task? pid := by
  have slot' : r.sched.task? pid = some t := same.sched ▸ slot
  -- the task is woken, or its slot is freed, or it stays as it was, and neither depends on the order
  by_cases woken : ∃ event ∈ k.bus.queues.events, event.payload.Wakes pid t
  · obtain ⟨event, queued, wakes⟩ := woken
    rw [h.woken slot queued wakes, h'.woken slot' (same.events.mem_iff.2 queued) wakes]
  · push Not at woken
    by_cases loose : t.state = .dead ∧ ∃ id, t.entity = some id ∧ ¬ k.Anchored rest id
    · obtain ⟨dead, id, owns, loose⟩ := loose
      rw [h.freed slot dead owns loose, h'.freed slot' dead owns (loose ∘ same.anchored_iff.1)]
    · have anchored (dead : t.state = .dead) (id : EntityId) (owns : t.entity = some id) :
          k.Anchored rest id := by
        by_contra unanchored
        exact loose ⟨dead, id, owns, unanchored⟩
      rw [h.kept slot woken anchored, h'.kept slot'
        (fun event queued => woken event (same.events.mem_iff.1 queued))
        fun dead id owns => same.anchored_iff.2 (anchored dead id owns)]

theorem tasks_eq (same : k.Reordered r) (h : k.Delivered rest k') (h' : r.Delivered rest r') :
    r'.sched.tasks = k'.sched.tasks := by
  refine Vector.ext fun pid lt => ?_
  obtain ⟨t, slot⟩ := k.sched.exists_task? lt
  have eq := h.task?_eq same h' slot
  rw [Scheduler.task?, Scheduler.task?, Vector.getElem?_eq_getElem lt,
    Vector.getElem?_eq_getElem lt] at eq
  exact Option.some.inj eq

theorem length_listed_eq (same : k.Reordered r) (h : k.Delivered rest k') (h' : r.Delivered rest r')
    (slot : k.sched.task? pid = some t) (kind : EventKind) :
    ((r'.bus.registry.lists.get kind).filter (·.extra = pid)).length =
      ((k'.bus.registry.lists.get kind).filter (·.extra = pid)).length := by
  have slot' : r.sched.task? pid = some t := same.sched ▸ slot
  have before := ((same.lists kind).filter (·.extra = pid)).length_eq
  by_cases woken : ∃ event ∈ k.bus.queues.events, event.kind = kind ∧ event.payload.Wakes pid t
  · obtain ⟨event, queued, rfl, wakes⟩ := woken
    obtain ⟨sub, left⟩ := h.left slot queued wakes
    obtain ⟨sub', left'⟩ := h'.left slot' (same.events.mem_iff.2 queued) wakes
    rw [left, left', List.length_cons, List.length_cons] at before
    exact Nat.succ.inj before
  · push Not at woken
    rw [h.listed slot woken, h'.listed slot' fun event queued =>
      woken event (same.events.mem_iff.1 queued)]
    exact before

/-- Of a task other than the idle one the same listeners stay. -/
theorem listed_eq (poised : k.Poised rest) (same : k.Reordered r) (h : k.Delivered rest k')
    (h' : r.Delivered rest r') (slot : k.sched.task? pid = some t) (busy : pid ≠ idlePid)
    (kind : EventKind) : (r'.bus.registry.lists.get kind).filter (·.extra = pid) =
      (k'.bus.registry.lists.get kind).filter (·.extra = pid) := by
  have once := poised.once kind slot busy
  rw [List.countP_eq_length_filter] at once
  by_cases woken : ∃ event ∈ k.bus.queues.events, event.kind = kind ∧ event.payload.Wakes pid t
  · -- its only listener is gone
    obtain ⟨event, queued, rfl, wakes⟩ := woken
    obtain ⟨sub, left⟩ := h.left slot queued wakes
    rw [left, List.length_cons] at once
    have none := List.eq_nil_of_length_eq_zero (Nat.le_zero.1 (Nat.le_of_succ_le_succ once))
    have none' := h.length_listed_eq same h' slot event.kind
    rw [none] at none' ⊢
    exact List.eq_nil_of_length_eq_zero none'
  · push Not at woken
    rw [h.listed slot woken, h'.listed (same.sched ▸ slot) fun event queued =>
      woken event (same.events.mem_iff.1 queued)]
    exact eq_of_perm_of_short ((same.lists kind).filter _) once

/-- The references that are left do not depend on the order. -/
theorem references_eq (tasks : r'.sched.tasks = k'.sched.tasks) (devices : r'.devices = k'.devices)
    (h : k.Delivered rest k') (h' : r.Delivered rest r') : r'.references = k'.references := by
  simp only [references, Scheduler.references, deviceReferences, tasks, devices, h.drained,
    h'.drained]

/-- Kernels that a pass finds alike, but for the order of what is queued and of the listeners, agree
behind the pass. -/
theorem agrees (poised : k.Poised rest) (same : k.Reordered r) (h : k.Delivered rest k')
    (h' : r.Delivered rest r') : k'.Agrees r' where
  tasks := h.tasks_eq same h'
  current := by rw [h'.stays.current, same.sched, h.stays.current]
  tick := by rw [h'.stays.tick, same.sched, h.stays.tick]
  devices := h'.devices.trans (same.devices.trans h.devices.symm)
  entities := by
    have devices := h'.devices.trans (same.devices.trans h.devices.symm)
    have prunes : k.entities.Prunes r'.entities := same.entities ▸ h'.prunes
    refine prunes.eq h.prunes (tallied h'.sound (prunes.ranked poised.ranked))
      (tallied h.sound (h.prunes.ranked poised.ranked)) ?_
    rw [references_eq (h.tasks_eq same h') devices h h']
  listeners kind pid busy := by
    by_cases lt : pid < maxTasks
    · obtain ⟨t, slot⟩ := k.sched.exists_task? lt
      exact listed_eq poised same h h' slot busy kind
    · -- nobody is listed who has no slot
      have none {q q' : Kernel π} (seated : ∀ sub ∈ q.bus.registry.lists.get kind,
          sub.extra < maxTasks) (left : q.Delivered rest q') :
          (q'.bus.registry.lists.get kind).filter (·.extra = pid) = [] := by
        refine List.filter_eq_nil_iff.2 fun sub mem => ?_
        rw [decide_eq_true_eq]
        rintro rfl
        exact lt (seated sub ((left.sublist kind).mem mem))
      rw [none (poised.seated kind) h, none ((poised.reordered same).seated kind) h']
  idle kind := by
    obtain ⟨t, slot, -⟩ := poised.sound.tasks.idle
    rw [List.countP_eq_length_filter, List.countP_eq_length_filter]
    exact h.length_listed_eq same h' slot kind

end Delivered

end Kernel

end Rtos

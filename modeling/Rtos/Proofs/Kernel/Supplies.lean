import Rtos.Proofs.Kernel.Census

/-!
# What a refused operation lacks

Five operations create an entity, and answer that memory is short if they cannot.  Each needs
something else besides: a stack, a place in the registry, or a place in a queue.  The lemmas here say
that memory is short exactly if that is not to be had, or no slot of the arena is free.
-/

namespace Rtos

/-- Queues that hold as many events as they can have no place for any. -/
theorem Queues.full_of_load {q : Queues} (most : q.load = eventKinds * queueDepth + overflowDepth)
    (kind : EventKind) : q.Full kind := by
  have device := q.pending.device.length_le
  have task := q.pending.task.length_le
  have file := q.pending.file.length_le
  have overflow := q.overflow.length_le
  have kinds : eventKinds * queueDepth = queueDepth + queueDepth + queueDepth := rfl
  simp only [load, Fifo.length] at most
  refine ⟨?_, by omega⟩
  cases kind with
  | device => change q.pending.device.items.length = _; omega
  | task => change q.pending.task.items.length = _; omega
  | file => change q.pending.file.items.length = _; omega

namespace Kernel

variable {π : Type} {k k' : Kernel π} {p : EntityId} {o : Owner}

/-- Under a live parent a kernel creates an entity, unless no slot of the arena is free. -/
theorem createEntity_of_live {owner : Owner} {cleanup : Cleanup} {result : Except Error EntityId}
    (live : k.entities.owner? p = some o)
    (h : k.createEntity (some p) owner cleanup = .ok (result, k')) :
    (k.entities.freeSlot? = none ∧ result = .error .outOfMemory) ∨
      (k.entities.freeSlot? ≠ none ∧ ∃ id, result = .ok id) := by
  have live : k.entities.isLive p = true := EntityTree.isLive_iff.2 ⟨o, live⟩
  obtain ⟨created, create, next⟩ := Checked.bind_eq_ok.1 h
  rcases EntityTree.create_of_live live create with ⟨full, rfl⟩ | ⟨free, ⟨id, entities⟩, rfl⟩
  · cases next
    exact .inl ⟨full, rfl⟩
  · cases next
    exact .inr ⟨free, id, rfl⟩

/-- Registering a device lacks a place in the registry, or an entity. -/
theorem registerDevice_outOfMemory_iff {result : Except Error DeviceId}
    (proper : k.entities.Proper) (h : k.registerDevice = .ok (result, k')) :
    result = .error .outOfMemory ↔ k.freeDeviceSlot? = none ∨ k.entities.freeSlot? = none := by
  unfold registerDevice at h
  split at h
  case h_2 full =>
    cases h
    exact ⟨fun _ => .inl (Option.eq_none_iff_forall_ne_some.2 full), fun _ => rfl⟩
  case h_1 slot free =>
    obtain ⟨⟨created, k₁⟩, create, next⟩ := Checked.bind_eq_ok.1 h
    rcases createEntity_of_live proper.root create with ⟨full, rfl⟩ | ⟨room, id, rfl⟩
    · cases next
      exact ⟨fun _ => .inr full, fun _ => rfl⟩
    · cases next
      simp [free, room]

variable [Port π]

/-- An announcement lacks a place in a queue, or an entity. -/
theorem announce_outOfMemory_iff {payload : Payload} {result : Except Error Unit}
    (live : k.entities.owner? p = some o) (h : k.announce (some p) payload = .ok (result, k')) :
    result = .error .outOfMemory ↔
      k.bus.queues.Full payload.kind ∨ k.entities.freeSlot? = none := by
  obtain ⟨⟨created, k₁⟩, create, next⟩ := Checked.bind_eq_ok.1 h
  rcases createEntity_of_live live create with ⟨full, rfl⟩ | ⟨room, id, rfl⟩
  · cases next
    exact ⟨fun _ => .inr full, fun _ => rfl⟩
  · obtain ⟨p', e, -, found, -, rfl⟩ := createEntity_eq_ok create
    obtain ⟨⟨dispatched, k₂⟩, dispatch, next⟩ := Checked.bind_eq_ok.1 next
    obtain ⟨queues, queued, rfl⟩ := Kernel.dispatch_eq_ok dispatch
    have refused : (∃ handed, dispatched = .refused handed) ↔ k.bus.queues.Full payload.kind :=
      (Queues.refused_iff queued).1
    rw [← refused, or_iff_left room]
    cases dispatched with
    | queued | overflowed => cases next; simp
    | refused =>
      obtain ⟨k₃, -, eq⟩ := Checked.bind_eq_ok.1 next
      cases eq
      simp

variable {device : DeviceId} {flags : DeviceFlags}

/-- A report of a registered device lacks a place in the queues, or an entity. -/
theorem reportDevice_outOfMemory_iff {result : Except Error Unit} (linked : k.Linked)
    (h : k.reportDevice device flags = .ok (result, k')) :
    result = .error .outOfMemory ↔ (k.deviceEntity? device).isSome = true ∧
      (k.bus.queues.Full .device ∨ k.entities.freeSlot? = none) := by
  unfold reportDevice at h
  split at h
  case h_2 missing =>
    cases h
    simp [Option.eq_none_iff_forall_ne_some.2 missing]
  case h_1 entity registered =>
    rw [announce_outOfMemory_iff (linked.device registered) h, registered]
    simp [Payload.kind]

theorem signalDevice_outOfMemory_iff {result : Except Error Unit} (linked : k.Linked)
    (h : k.signalDevice device flags = .ok (result, k')) :
    result = .error .outOfMemory ↔ (k.deviceEntity? device).isSome = true ∧
      (k.bus.queues.Full .device ∨ k.entities.freeSlot? = none) := by
  obtain ⟨⟨reported, k₁⟩, report, next⟩ := Checked.bind_eq_ok.1 h
  rw [← reportDevice_outOfMemory_iff linked report]
  cases reported with
  | error => cases next; exact Iff.rfl
  | ok =>
    obtain ⟨k₂, -, eq⟩ := Checked.bind_eq_ok.1 next
    cases eq
    simp

theorem reportFile_outOfMemory_iff {handle : Nat} {held : List EntityId}
    {result : Except Error Unit} (sound : Moment.Sound ⟨k, held, none⟩) (settled : k.Settled)
    (h : k.reportFile handle flags = .ok (result, k')) :
    result = .error .outOfMemory ↔
      k.bus.queues.Full .file ∨ k.entities.freeSlot? = none := by
  obtain ⟨t, id, slot, -, owns, owned⟩ := settled.entity sound
  obtain ⟨t', current, next⟩ := Checked.bind_eq_ok.1 h
  cases slot.symm.trans (Scheduler.task_eq_ok.1 current)
  rw [owns] at next
  exact announce_outOfMemory_iff owned next

/-- Creating a task lacks a stack, or an entity, if there is a slot for it. -/
theorem spawn_outOfMemory_iff {entry : EntryPoint} {held : List EntityId}
    {result : Except Error Pid} (sound : Moment.Sound ⟨k, held, none⟩) (settled : k.Settled)
    (h : k.spawn entry = .ok (result, k')) :
    result = .error .outOfMemory ↔ k.sched.freeSlot?.isSome = true ∧
      (Port.takeStack k.sched.port = none ∨ k.entities.freeSlot? = none) := by
  obtain ⟨t, id, slot, -, owns, owned⟩ := settled.entity sound
  have live (port : π) : ({ k with sched := { k.sched with port } } : Kernel π).entities.owner? id =
      some (.task k.current) := owned
  cases SpawnStep.of_eq_ok h with
  | noSlot full => simp [full]
  | noStack free _ bare => simp [free, bare]
  | noEntity free current take create =>
    cases slot.symm.trans current
    rw [owns] at create
    rcases createEntity_of_live (live _) create with ⟨full, refused⟩ | ⟨-, entity, made⟩
    · cases refused
      simp [free, full]
    · cases made
  | spawns free current take create =>
    cases slot.symm.trans current
    rw [owns] at create
    rcases createEntity_of_live (live _) create with ⟨-, refused⟩ | ⟨room, entity, made⟩
    · cases refused
    · simp [take, room]

end Kernel

end Rtos

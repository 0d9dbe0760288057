import Rtos.Proofs.Kernel.Operations

/-!
# Operations on devices

Registering a device and waiting for one are quiet, up to the parking of a task that waits; a report
is queued as an event.
-/

namespace Rtos.Kernel

variable {π : Type} [Port π] {k k' : Kernel π} {held : List EntityId} {device : DeviceId}
  {flags direction : DeviceFlags}

/-- Reporting a change of a device queues the report, or the report is refused. -/
theorem moves_reportDevice {result : Except Error Unit} (sound : Moment.Sound ⟨k, held, none⟩)
    (h : k.reportDevice device flags = .ok (result, k')) :
    Moves (fun label => label = .quiet ∨ label = .posts (.device device flags)) ⟨k, held, none⟩
        ⟨k', held, none⟩ ∧
      ((result = .ok () ∧ ∃ entity,
          k'.bus.queues.events.Perm (⟨entity, .device device flags⟩ :: k.bus.queues.events)) ∨
        ((∃ e, result = .error e) ∧ k'.bus.queues.events = k.bus.queues.events)) := by
  unfold reportDevice at h
  split at h
  case h_1 entity registered =>
    exact moves_announce (lasting_of_owner? (sound.linked.device registered) nofun) h
  case h_2 => cases h; exact ⟨.refl _, .inr ⟨⟨_, rfl⟩, rfl⟩⟩

theorem operates_reportDevice {result : Except Error Unit} (sound : Moment.Sound ⟨k, held, none⟩)
    (settled : k.Settled) (h : k.reportDevice device flags = .ok (result, k')) :
    Operates (fun label => label = .quiet ∨ label = .posts (.device device flags)) held held k k' :=
  .still (moves_reportDevice sound h).1 steady_posts sound settled

theorem signalDevice_eq_ok {result : Except Error Unit}
    (h : k.signalDevice device flags = .ok (result, k')) :
    (∃ e, result = .error e ∧ k.reportDevice device flags = .ok (.error e, k')) ∨
      ∃ k₁, result = .ok () ∧ k.reportDevice device flags = .ok (.ok (), k₁) ∧
        k₁.schedule = .ok k' := by
  obtain ⟨⟨reported, k₁⟩, report, next⟩ := Checked.bind_eq_ok.1 h
  cases reported with
  | error e => cases next; exact .inl ⟨e, rfl, report⟩
  | ok _ =>
    obtain ⟨k₂, pass, eq⟩ := Checked.bind_eq_ok.1 next
    cases eq
    exact .inr ⟨k₁, rfl, report, pass⟩

theorem signalDevice_of_refused {e : Error}
    (refused : k.reportDevice device flags = .ok (.error e, k')) :
    k.signalDevice device flags = .ok (.error e, k') :=
  Checked.bind_eq_ok.2 ⟨_, refused, rfl⟩

/-- A signal queues a report, and a pass follows unless it is refused. -/
theorem operates_signalDevice {result : Except Error Unit} (sound : Moment.Sound ⟨k, held, none⟩)
    (settled : k.Settled) (h : k.signalDevice device flags = .ok (result, k')) :
    Operates (fun label => label = .quiet ∨ label = .posts (.device device flags)) held held
      k k' := by
  rcases signalDevice_eq_ok h with ⟨e, -, refused⟩ | ⟨k₁, -, reported, pass⟩
  · exact operates_reportDevice sound settled refused
  · have moves := (moves_reportDevice sound reported).1
    exact ⟨k₁, moves, .pass (.inl (moves.settled steady_posts sound settled)) pass⟩

theorem operates_reportFile {result : Except Error Unit} {handle : Nat}
    (sound : Moment.Sound ⟨k, held, none⟩) (settled : k.Settled)
    (h : k.reportFile handle flags = .ok (result, k')) :
    Operates (fun label => label = .quiet ∨ label = .posts (.file handle flags)) held held
      k k' := by
  obtain ⟨t, id, slot, running, owns, owned⟩ := settled.entity sound
  obtain ⟨t', slot', next⟩ := Checked.bind_eq_ok.1 h
  cases slot.symm.trans (Scheduler.task_eq_ok.1 slot')
  rw [owns] at next
  exact .still (moves_announce (lasting_of_owner? owned nofun) next).1 steady_posts sound
    ⟨t, slot, running⟩

theorem operates_registerDevice {result : Except Error DeviceId}
    (sound : Moment.Sound ⟨k, held, none⟩) (settled : k.Settled)
    (h : k.registerDevice = .ok (result, k')) : Operates (· = .quiet) held held k k' := by
  refine .still ?_ steady_quiet sound settled
  unfold registerDevice at h
  split at h
  case h_2 => cases h; exact .refl _
  case h_1 slot free =>
    have vacant := Option.isNone_iff_eq_none.1 (Table.of_findFinIdx? free)
    obtain ⟨⟨created, k₁⟩, create, next⟩ := Checked.bind_eq_ok.1 h
    obtain ⟨inTree, grow, eq⟩ := Checked.bind_eq_ok.1 create
    cases inTree with
    | error e => cases eq; cases next; exact .refl _
    | ok inTree =>
      obtain ⟨id, entities⟩ := inTree
      cases eq
      cases next
      obtain ⟨p, e, tag, above, cleanup, found, unused, rfl⟩ := EntityTree.create_eq_ok grow
      cases above
      cases cleanup
      exact .trans (.single rfl (.register slot vacant found unused)) (moves_note _ _ none _)

theorem operates_unregisterDevice {result : Except Error Unit}
    (sound : Moment.Sound ⟨k, held, none⟩) (settled : k.Settled)
    (h : k.unregisterDevice device = .ok (result, k')) : Operates (· = .quiet) held held k k' := by
  refine .still ?_ steady_quiet sound settled
  unfold unregisterDevice at h
  split at h
  case h_2 => cases h; exact .refl _
  case h_1 entity registered =>
    obtain ⟨k₁, release, eq⟩ := Checked.bind_eq_ok.1 h
    cases eq
    exact .trans (.single rfl (.unregister device registered)) (moves_release release (.refl _))

/-- Parking the current task behind a new listener for reports. -/
theorem moves_awaitDevice {t : Task} {issued : Counter} (wait : DeviceWait)
    (slot : k.sched.task? k.current = some t) (running : t.state = .running)
    (later : issued.value = k.bus.registry.issued.value + 1) :
    Moves (fun label => label = .quiet ∨ label = .parks k.current .awaitingDevice) ⟨k, held, none⟩
      ⟨((k.setBooks { k.books with issued }).setTask k.current { t with
          deviceWait := some wait, state := .awaitingDevice }).setListeners .device
        (k.bus.registry.lists.device ++ [⟨⟨issued.value⟩, .deviceReady, k.current⟩]),
        held, none⟩ := by
  have issue : Move .quiet ⟨k, held, none⟩ ⟨k.setBooks { k.books with issued }, held, none⟩ :=
    .book { k.books with issued } (by simp only [later]; omega)
  exact .tail (.single (.inl rfl) issue) (.inr rfl) (.awaitDevice slot running)

/-- What a step of a wait for a device does. -/
inductive WaitDeviceStep (k : Kernel π) (device : DeviceId) (direction : DeviceFlags) :
    Except Error (Progress Unit) → Kernel π → Prop
  /-- There is no such device. -/
  | unknown (missing : k.deviceEntity? device = none) :
      WaitDeviceStep k device direction (.error .badDevice) k
  /-- An atomic section refuses to wait. -/
  | refused (inside : 0 < k.sched.sectionDepth) :
      WaitDeviceStep k device direction (.error .atomicContext)
        (k.note (.refusedInSection k.current .deviceWait))
  /-- A listener is registered, and the current task is parked behind it. -/
  | parks {entity : EntityId} {id : ListenerId} {bus : EventBus KernelListener}
      {s₁ s₂ : Scheduler π} {k' : Kernel π} (registered : k.deviceEntity? device = some entity)
      (outside : k.sched.sectionDepth = 0)
      (subscribe : k.bus.subscribe .device .deviceReady k.current = .ok (.ok id, bus))
      (waits : k.sched.modify k.current (fun t =>
        { t with deviceWait := some ⟨device, direction⟩ }) = .ok s₁)
      (parks : s₁.parkCurrent .awaitingDevice = .ok s₂)
      (pass : ({ k with bus, sched := s₂ } : Kernel π).schedule = .ok k') :
      WaitDeviceStep k device direction (.ok .parked) k'
  /-- None can be registered, and the current task polls. -/
  | polls {e : Error} {bus : EventBus KernelListener} {k' : Kernel π}
      (outside : k.sched.sectionDepth = 0)
      (subscribe : k.bus.subscribe .device .deviceReady k.current = .ok (.error e, bus))
      (pass : (({ k with bus } : Kernel π).note (.pollingDevice k.current device)).schedule =
        .ok k') : WaitDeviceStep k device direction (.ok .polling) k'

theorem WaitDeviceStep.of_eq_ok {result : Except Error (Progress Unit)}
    (h : k.waitDevice device direction = .ok (result, k')) :
    k.WaitDeviceStep device direction result k' := by
  unfold waitDevice at h
  split at h
  case isTrue missing => cases h; exact .unknown (by simpa using missing)
  case isFalse registered =>
  obtain ⟨entity, registered⟩ := Option.ne_none_iff_exists'.1 (by simpa using registered)
  split at h
  case isTrue inside => cases h; exact .refused inside
  case isFalse outside =>
  have outside : k.sched.sectionDepth = 0 := Nat.eq_zero_of_not_pos outside
  obtain ⟨⟨listed, bus⟩, subscribe, next⟩ := Checked.bind_eq_ok.1 h
  cases listed with
  | ok id =>
    obtain ⟨s₁, waits, next⟩ := Checked.bind_eq_ok.1 next
    obtain ⟨s₂, parks, next⟩ := Checked.bind_eq_ok.1 next
    obtain ⟨k₁, pass, eq⟩ := Checked.bind_eq_ok.1 next
    cases eq
    exact .parks registered outside subscribe waits parks pass
  | error e =>
    obtain ⟨k₁, pass, eq⟩ := Checked.bind_eq_ok.1 next
    cases eq
    exact .polls outside subscribe pass

/-- A step of a wait for a device is refused or polls, or the current task is parked behind a
listener and a pass runs. -/
theorem waitDevice_eq_ok {result : Except Error (Progress Unit)}
    (sound : Moment.Sound ⟨k, held, none⟩) (settled : k.Settled)
    (h : k.waitDevice device direction = .ok (result, k')) :
    (result ≠ .ok .parked ∧ Operates (· = .quiet) held held k k') ∨
      (result = .ok .parked ∧ (∃ entity, k.deviceEntity? device = some entity) ∧
        ∃ k₁ t, Moves (fun label => label = .quiet ∨ label = .parks k.current .awaitingDevice)
            ⟨k, held, none⟩ ⟨k₁, held, none⟩ ∧
          k₁.sched.task? k.current = some t ∧ t.state = .awaitingDevice ∧
          t.deviceWait = some ⟨device, direction⟩ ∧ k₁.sched.sectionDepth = 0 ∧
          k₁.schedule = .ok k') := by
  cases WaitDeviceStep.of_eq_ok h with
  | unknown => exact .inl ⟨nofun, .none settled⟩
  | refused => exact .inl ⟨nofun, .still (moves_note k held none _) steady_quiet sound settled⟩
  | @parks entity _ _ _ _ _ registered outside subscribe waits parks pass =>
    obtain ⟨issued, later, ⟨listed, -, rfl⟩ | ⟨⟨_, listed⟩, -⟩⟩ := EventBus.subscribe_eq_ok subscribe
    · obtain ⟨t, slot, rfl⟩ := Scheduler.park_eq_ok waits parks
      obtain ⟨t', slot', running⟩ := settled
      cases slot.symm.trans slot'
      exact .inr ⟨rfl, ⟨entity, registered⟩, _, _,
        moves_awaitDevice ⟨device, direction⟩ slot running later,
        Scheduler.task?_setTask_self slot _, rfl, rfl, outside, pass⟩
    · cases listed
  | polls _ subscribe pass =>
    obtain ⟨issued, later, ⟨listed, -⟩ | ⟨-, rfl⟩⟩ := EventBus.subscribe_eq_ok subscribe
    · cases listed
    have poll : Move .quiet ⟨k, held, .none⟩ _ := .book { k.books with
      issued, journal := .pollingDevice k.current device :: k.sched.journal }
      (by simp only [later]; omega)
    exact .inl ⟨nofun, _, .single rfl poll, .pass (.inl settled) pass⟩

theorem operates_waitDevice {result : Except Error (Progress Unit)}
    (sound : Moment.Sound ⟨k, held, none⟩) (settled : k.Settled)
    (h : k.waitDevice device direction = .ok (result, k')) :
    Operates (fun label => label = .quiet ∨ label = .parks k.current .awaitingDevice) held held
      k k' := by
  rcases waitDevice_eq_ok sound settled h with ⟨-, quiet⟩ |
    ⟨-, -, k₁, t, moves, -, -, -, outside, pass⟩
  · exact quiet.mono fun _ => .inl
  · exact ⟨k₁, moves, .pass (.inr outside) pass⟩

end Rtos.Kernel

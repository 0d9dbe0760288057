import Rtos.Proofs.Entity.Releases
import Rtos.Proofs.Kernel.Devices
import Rtos.Proofs.Kernel.Locks
import Rtos.Proofs.Kernel.Tasks
import Rtos.Proofs.Port.Lawful

/-!
# Refusals

A refused operation leaves the kernel as it was, up to the log and the number of refused events.
Most refusals come before anything is changed.  Two come behind a part of the work: a spawn that
finds no entity has taken a stack by then, and an event that finds no place in a queue has an entity
of its own, whose creation raised the count of its parent.  In both cases what was taken is given
back, and the lemmas here say that giving it back undoes the taking: the stack by what a port
promises (`RestoringPort`), the entity because its release is the inverse of its creation
(`EntityTree.release_addChild`).
-/

namespace Rtos

variable {π : Type}

namespace Kernel

/-! ## What a refusal leaves behind -/

/-- The kernel with more notices in its log, and more events counted as refused. -/
def noted (k : Kernel π) (notices : List Notice) (dropped : Nat) : Kernel π :=
  { k with
    sched := { k.sched with journal := notices ++ k.sched.journal }
    bus := { k.bus with
      queues := { k.bus.queues with dropped := ⟨k.bus.queues.dropped.value + dropped⟩ } } }

/-- One kernel is the other but for notices in the log, and at most one event counted as refused. -/
def Undisturbed (k k' : Kernel π) : Prop :=
  ∃ notices dropped, dropped ≤ 1 ∧ k' = k.noted notices dropped

variable {k k' : Kernel π} {e : Error}

namespace Undisturbed

@[refl] theorem refl (k : Kernel π) : k.Undisturbed k :=
  ⟨[], 0, Nat.zero_le 1, rfl⟩

theorem note (k : Kernel π) (notice : Notice) : k.Undisturbed (k.note notice) :=
  ⟨[notice], 0, Nat.zero_le 1, rfl⟩

end Undisturbed

theorem createEntity_refused {parent : Option EntityId} {owner : Owner} {cleanup : Cleanup}
    (h : k.createEntity parent owner cleanup = .ok (.error e, k')) : k' = k := by
  obtain ⟨created, -, next⟩ := Checked.bind_eq_ok.1 h
  cases created <;> cases next
  rfl

/-- An entity is created in a free slot, under a live parent. -/
theorem createEntity_eq_ok {parent : Option EntityId} {owner : Owner} {cleanup : Cleanup}
    {id : EntityId} (h : k.createEntity parent owner cleanup = .ok (.ok id, k')) :
    ∃ p e, parent = some p ∧ k.entities.get? p = some e ∧ k.entities.get? id = none ∧
      k' = k.setEntities (k.entities.addChild p e id owner cleanup) := by
  obtain ⟨created, create, next⟩ := Checked.bind_eq_ok.1 h
  cases created with
  | error => cases next
  | ok created =>
    obtain ⟨id, entities⟩ := created
    cases next
    obtain ⟨p, e, tag, above, cleans, found, free, rfl⟩ := EntityTree.create_eq_ok create
    cases cleans
    exact ⟨p, e, above, found, free, rfl⟩

/-- A dispatch that hands its event back is logged and counted. -/
theorem dispatch_refused {event handed : Event} (h : k.dispatch event = .ok (.refused handed, k')) :
    handed = event ∧ k' = k.noted [.dispatched event.payload (.refused event)] 1 := by
  obtain ⟨queues, dispatched, rfl⟩ := Kernel.dispatch_eq_ok h
  obtain ⟨rfl, rfl⟩ := (Queues.refused_iff dispatched).2 handed rfl
  exact ⟨rfl, rfl⟩

variable [Port π]

/-- Releasing the entity of an event that was just created, whatever was noted meanwhile. -/
theorem release_event {p id : EntityId} {parent : Entity Cleanup} {notices : List Notice}
    {dropped : Nat} (proper : k.entities.Proper) (found : k.entities.get? p = some parent)
    (free : k.entities.get? id = none) :
    ((k.setEntities (k.entities.addChild p parent id .event .nothing)).noted notices
      dropped).release id = .ok (k.noted notices dropped) := by
  have taken : (k.entities.addChild p parent id .event .nothing).release Cleanup.run id
      (k.noted notices dropped).sched = .ok (k.entities, (k.noted notices dropped).sched) :=
    EntityTree.release_addChild proper found free rfl
  refine Checked.bind_eq_ok.2 ⟨(k.noted notices dropped).toCore, ?_, rfl⟩
  exact Checked.bind_eq_ok.2 ⟨_, taken, rfl⟩

/-- A refused announcement takes back the entity of the event. -/
theorem announce_refused {parent : Option EntityId} {payload : Payload}
    (proper : k.entities.Proper) (h : k.announce parent payload = .ok (.error e, k')) :
    k.Undisturbed k' := by
  obtain ⟨⟨created, k₁⟩, create, next⟩ := Checked.bind_eq_ok.1 h
  cases created with
  | error =>
    cases next
    rw [createEntity_refused create]
  | ok id =>
    obtain ⟨p, parent, -, found, free, rfl⟩ := createEntity_eq_ok create
    obtain ⟨⟨dispatched, k₂⟩, dispatch, next⟩ := Checked.bind_eq_ok.1 next
    cases dispatched with
    | queued | overflowed => cases next
    | refused handed =>
      obtain ⟨k₃, release, eq⟩ := Checked.bind_eq_ok.1 next
      cases eq
      obtain ⟨rfl, rfl⟩ := dispatch_refused dispatch
      rw [release_event proper found free] at release
      cases release
      exact ⟨_, 1, Nat.le_refl 1, rfl⟩

/-! ## The operations -/

/-- A refused spawn returns the stack that it took. -/
theorem spawn_refused [RestoringPort π] {entry : EntryPoint}
    (h : k.spawn entry = .ok (.error e, k')) : k' = k := by
  cases SpawnStep.of_eq_ok h with
  | noSlot => rfl
  | noStack => rfl
  | noEntity _ _ take create back =>
    cases createEntity_refused create
    cases back.symm.trans (RestoringPort.restores take)
    rfl

theorem exit_refused {status : Int} (h : k.exit status = .ok (.error e, k')) : k' = k := by
  cases ExitStep.of_eq_ok h with
  | idle => rfl
  | bare => rfl

theorem waitChild_refused {filter : ChildFilter} {options : WaitOptions}
    (h : k.waitChild filter options = .ok (.error e, k')) : k.Undisturbed k' := by
  cases WaitChildStep.of_eq_ok h with
  | childless => rfl
  | hasty => rfl
  | refused => exact .note k _

theorem sleep_refused {millis : UInt32} (h : k.sleep millis = .ok (.error e, k')) :
    k.Undisturbed k' := by
  cases SleepStep.of_eq_ok h with
  | refused => exact .note k _

/-- A refused lock leaves the mutex to its owner, and those that wait for it in their places. -/
theorem lock_refused {m m' : Mutex} (h : k.lock m = .ok (.error e, m', k')) :
    m' = m ∧ k.Undisturbed k' := by
  cases LockStep.of_eq_ok h with
  | refused => exact ⟨rfl, .note k _⟩

omit [Port π] in
theorem registerDevice_refused (h : k.registerDevice = .ok (.error e, k')) : k' = k := by
  unfold registerDevice at h
  split at h
  case h_2 => cases h; rfl
  case h_1 slot free =>
    obtain ⟨⟨created, k₁⟩, create, next⟩ := Checked.bind_eq_ok.1 h
    cases created with
    | error =>
      cases next
      exact createEntity_refused create
    | ok id => cases next

theorem unregisterDevice_refused {device : DeviceId}
    (h : k.unregisterDevice device = .ok (.error e, k')) : k' = k := by
  unfold unregisterDevice at h
  split at h
  case h_2 => cases h; rfl
  case h_1 entity registered =>
    obtain ⟨k₁, -, eq⟩ := Checked.bind_eq_ok.1 h
    cases eq

variable {device : DeviceId} {flags direction : DeviceFlags}

/-- A refused report leaves the queues as they were. -/
theorem reportDevice_refused (proper : k.entities.Proper)
    (h : k.reportDevice device flags = .ok (.error e, k')) : k.Undisturbed k' := by
  unfold reportDevice at h
  split at h
  case h_2 => cases h; rfl
  case h_1 entity registered => exact announce_refused proper h

theorem signalDevice_refused (proper : k.entities.Proper)
    (h : k.signalDevice device flags = .ok (.error e, k')) : k.Undisturbed k' := by
  obtain ⟨_, -, report⟩ | ⟨_, ok, -⟩ := signalDevice_eq_ok h
  · exact reportDevice_refused proper report
  · cases ok

theorem reportFile_refused {handle : Nat} (proper : k.entities.Proper)
    (h : k.reportFile handle flags = .ok (.error e, k')) : k.Undisturbed k' := by
  obtain ⟨t, -, next⟩ := Checked.bind_eq_ok.1 h
  split at next
  case h_2 => cases next; rfl
  case h_1 entity owns => exact announce_refused proper next

theorem waitDevice_refused (h : k.waitDevice device direction = .ok (.error e, k')) :
    k.Undisturbed k' := by
  cases WaitDeviceStep.of_eq_ok h with
  | unknown => rfl
  | refused => exact .note k _

end Kernel

end Rtos

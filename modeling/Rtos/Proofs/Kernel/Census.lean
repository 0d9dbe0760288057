import Rtos.Proofs.Kernel.Descent
import Rtos.Proofs.Kernel.Refusals

/-!
# A census of the arena

The arena has a slot for the root, and for every task, device and event that the other tables have
room for.  What lives in it is the root, the entities of the tasks, of the registered devices and of
the queued events, and strays: the entities of devices that were taken out of the registry while an
event about them was queued (`Kernel.Arranged.members_perm`).  Nothing was set aside for strays, so
the arena is full exactly when there are as many of them as there are free places in the other tables
together (`Kernel.Arranged.full_iff`).
-/

namespace Rtos

variable {π : Type}

/-! ## Who lives in the arena -/

/-- The entities in the slots of the task table. -/
def Scheduler.entities (s : Scheduler π) : List EntityId :=
  s.tasks.toList.flatMap (·.entity.toList)

/-- The live entities, in the order of the arena. -/
def EntityTree.residents {δ : Type} (t : EntityTree δ) : List EntityId :=
  (List.finRange entityCapacity).filter t.isLive

theorem EntityTree.length_residents {δ : Type} (t : EntityTree δ) :
    t.residents.length = t.occupied := by
  have slots : t.slots.toList = (List.finRange entityCapacity).map t.get? :=
    List.ext_getElem (by simp) (by simp [get?])
  rw [occupied, slots, List.countP_map, residents, List.countP_eq_length_filter]
  rfl

theorem Queues.load_le (q : Queues) : q.load ≤ eventKinds * queueDepth + overflowDepth := by
  have device := q.pending.device.length_le
  have task := q.pending.task.length_le
  have file := q.pending.file.length_le
  have overflow := q.overflow.length_le
  have kinds : eventKinds * queueDepth = queueDepth + queueDepth + queueDepth := rfl
  simp only [load, Fifo.length]
  omega

namespace Kernel

/-- The entity of a device that is not the one in the registry. -/
def Stray (k : Kernel π) (id : EntityId) : Prop :=
  ∃ slot, k.entities.owner? id = some (.device slot) ∧ k.deviceEntity? slot ≠ some id

instance (k : Kernel π) : DecidablePred k.Stray := fun id =>
  match owned : k.entities.owner? id with
  | some (.device slot) => decidable_of_iff (k.deviceEntity? slot ≠ some id)
      ⟨fun unregistered => ⟨slot, owned, unregistered⟩, fun ⟨_, owned', unregistered⟩ => by
        cases owned.symm.trans owned'
        exact unregistered⟩
  | some .root | some (.task _) | some .event | none => .isFalse fun ⟨_, owned', _⟩ => by
      cases owned.symm.trans owned'

/-- The strays, in the order of the arena. -/
def strays (k : Kernel π) : List EntityId :=
  (List.finRange entityCapacity).filter k.Stray

/-- All that live in the arena. -/
def members (k : Kernel π) : List EntityId :=
  .root ::
    (k.sched.entities ++ k.deviceReferences ++ k.bus.queues.events.map (·.entity) ++ k.strays)

/-- The free places in the other tables: slots for tasks and devices, and places in the queues. -/
def room (k : Kernel π) : Nat :=
  k.sched.tasks.toList.countP (!·.active) + k.devices.toList.countP (·.isNone) +
    (eventKinds * queueDepth + overflowDepth - k.bus.queues.load)

variable {k : Kernel π} {id : EntityId}

theorem mem_strays : id ∈ k.strays ↔ k.Stray id := by
  simp [strays]

theorem count_strays (k : Kernel π) (id : EntityId) :
    k.strays.count id = if k.Stray id then 1 else 0 := by
  have nodup : k.strays.Nodup := (List.nodup_finRange _).filter _
  simp only [nodup.count, mem_strays]

theorem count_members (k : Kernel π) (id : EntityId) :
    k.members.count id = [EntityId.root].count id + k.sched.entities.count id +
      k.deviceReferences.count id + (k.bus.queues.events.map (·.entity)).count id +
        k.strays.count id := by
  rw [members, ← List.singleton_append, List.count_append, List.count_append, List.count_append,
    List.count_append]
  omega

namespace Arranged

/-- The slots of the task table hold the entities of tasks, each in the slot of its task. -/
theorem mem_entities (h : k.Arranged) :
    id ∈ k.sched.entities ↔ ∃ pid, k.entities.owner? id = some (.task pid) := by
  have accounted := h.sound.accounted h.single
  constructor
  · intro mem
    obtain ⟨t, place, owns⟩ := List.mem_flatMap.1 mem
    obtain ⟨pid, slot⟩ := Scheduler.mem_tasks.1 place
    exact ⟨pid, accounted.slot slot (Option.mem_toList.1 owns)⟩
  · rintro ⟨pid, owned⟩
    obtain ⟨t, slot, -, owns⟩ := accounted.task.1 owned
    exact List.mem_flatMap.2 ⟨t, Scheduler.mem_tasks.2 ⟨pid, slot⟩, Option.mem_toList.2 owns⟩

theorem count_entities (h : k.Arranged) {pid : Pid}
    (owned : k.entities.owner? id = some (.task pid)) : k.sched.entities.count id = 1 := by
  have accounted := h.sound.accounted h.single
  obtain ⟨t, slot, -, owns⟩ := accounted.task.1 owned
  rw [Scheduler.entities, Scheduler.count_flatMap_of_slot slot, owns, Option.toList_some,
    List.count_singleton_self]
  intro other u slot mem
  cases owned.symm.trans (accounted.slot slot (Option.mem_toList.1 mem))
  rfl

theorem live_of_mem_members (h : k.Arranged) (mem : id ∈ k.members) :
    ∃ o, k.entities.owner? id = some o := by
  simp only [members, List.mem_cons, List.mem_append, List.mem_map] at mem
  obtain rfl | ((task | device) | ⟨event, queued, rfl⟩) | stray := mem
  · exact ⟨_, h.sound.tree.root⟩
  · obtain ⟨pid, owned⟩ := h.mem_entities.1 task
    exact ⟨_, owned⟩
  · obtain ⟨slot, registered⟩ := mem_deviceReferences.1 device
    exact ⟨_, h.sound.linked.device registered⟩
  · exact ⟨_, h.sound.linked.event queued⟩
  · obtain ⟨slot, owned, -⟩ := mem_strays.1 stray
    exact ⟨_, owned⟩

/-- Every live entity is a member once. -/
theorem count_members_of_live (h : k.Arranged) {o : Owner}
    (owned : k.entities.owner? id = some o) : k.members.count id = 1 := by
  have entities (other : ∀ pid, o ≠ .task pid) : k.sched.entities.count id = 0 := by
    refine List.count_eq_zero.2 fun mem => ?_
    obtain ⟨pid, owned'⟩ := h.mem_entities.1 mem
    cases owned.symm.trans owned'
    exact other pid rfl
  have tame (other : ∀ slot, o ≠ .device slot) : ¬k.Stray id := by
    rintro ⟨slot, owned', -⟩
    cases owned.symm.trans owned'
    exact other slot rfl
  rw [count_members, count_strays]
  cases o with
  | root =>
    obtain rfl := h.sound.tree.root_unique owned
    rw [entities (by simp), h.sound.count_devices_eq_zero owned (by simp),
      h.sound.count_events_eq_zero owned (by simp), if_neg (tame (by simp))]
    rfl
  | task pid =>
    rw [h.sound.count_root_eq_zero owned (by simp), h.count_entities owned,
      h.sound.count_devices_eq_zero owned (by simp), h.sound.count_events_eq_zero owned (by simp),
      if_neg (tame (by simp))]
  | event =>
    rw [h.sound.count_root_eq_zero owned (by simp), entities (by simp),
      h.sound.count_devices_eq_zero owned (by simp),
      (h.sound.accounted h.single).once owned, if_neg (tame (by simp))]
  | device slot =>
    rw [h.sound.count_root_eq_zero owned (by simp), entities (by simp),
      h.sound.count_events_eq_zero owned (by simp)]
    by_cases registered : k.deviceEntity? slot = some id
    · rw [h.sound.count_device registered, if_neg]
      rintro ⟨slot', owned', unregistered⟩
      cases owned.symm.trans owned'
      exact unregistered registered
    · rw [h.sound.count_devices_eq_zero owned, if_pos ⟨slot, owned, registered⟩]
      rintro other registered' eq
      cases eq
      exact registered registered'

/-- The members are those that live in the arena. -/
theorem members_perm (h : k.Arranged) : k.members.Perm k.entities.residents := by
  refine List.perm_iff_count.2 fun id => ?_
  rw [EntityTree.residents, ((List.nodup_finRange _).filter _).count]
  split
  case isTrue mem =>
    obtain ⟨o, owned⟩ := EntityTree.isLive_iff.1 (List.mem_filter.1 mem).2
    exact h.count_members_of_live owned
  case isFalse dead =>
    refine List.count_eq_zero.2 fun mem => dead ?_
    exact List.mem_filter.2
      ⟨List.mem_finRange id, EntityTree.isLive_iff.2 (h.live_of_mem_members mem)⟩

/-! ## How many they are -/

/-- Whoever lives in the arena has a place in another table, or is a stray. -/
theorem census (h : k.Arranged) :
    k.entities.live + k.room = entityCapacity + k.strays.length := by
  have residents : k.members.length = k.entities.live := by
    rw [h.members_perm.length_eq, h.sound.tree.census, EntityTree.length_residents]
  have tasks : k.sched.entities.length + k.sched.tasks.toList.countP (!·.active) = maxTasks := by
    refine (Table.length_flatMap_add_countP fun t place => ?_).trans Vector.length_toList
    obtain ⟨pid, slot⟩ := Scheduler.mem_tasks.1 place
    cases active : t.active with
    | true =>
      obtain ⟨id, owns, -⟩ := h.sound.linked.task slot active
      rw [owns]
      rfl
    | false =>
      rw [(h.sound.tasks.free slot active).2]
      rfl
  have devices : k.deviceReferences.length + k.devices.toList.countP (·.isNone) = maxDevices := by
    refine (Table.length_flatMap_add_countP fun entry _ => ?_).trans Vector.length_toList
    cases entry <;> rfl
  have queues := k.bus.queues.load_le
  have members : k.members.length = 1 + k.sched.entities.length + k.deviceReferences.length +
      k.bus.queues.load + k.strays.length := by
    simp only [Kernel.members, List.length_cons, List.length_append, List.length_map,
      Queues.length_events]
    omega
  simp only [room, entityCapacity]
  omega

/-- The arena is full exactly when there are as many strays as free places in the other tables. -/
theorem full_iff (h : k.Arranged) :
    k.entities.freeSlot? = none ↔ k.room = k.strays.length := by
  have live : k.entities.live = k.entities.occupied := h.sound.tree.census
  have census := h.census
  rw [EntityTree.freeSlot?_eq_none, ← live]
  omega

/-- An event that is queued keeps a stray. -/
theorem pinned_of_stray (h : k.Arranged) (stray : k.Stray id) :
    ∃ event ∈ k.bus.queues.events, k.entities.parent? event.entity = some id := by
  obtain ⟨slot, owned, unregistered⟩ := stray
  obtain ⟨child, stands⟩ := h.exists_child owned (if_neg unregistered)
  rcases h.of_below (.single stands) (h.ne_root owned (by simp)) with
    ⟨event, queued, rfl⟩ | ⟨pid, task, busy⟩
  · exact ⟨event, queued, stands⟩
  · -- tasks stand under tasks
    obtain ⟨t, found, -, -⟩ := (h.sound.accounted h.single).task.1 task
    obtain ⟨above, stands', ownedAbove⟩ := h.rooted task busy found
    cases stands.symm.trans stands'
    cases owned.symm.trans ownedAbove

end Arranged

/-! ## Room in the other tables -/

theorem room_pos_of_freeSlot {pid : Pid} {t : Task} (slot : k.sched.task? pid = some t)
    (free : t.active = false) : 0 < k.room := by
  have counted : 0 < k.sched.tasks.toList.countP (!·.active) :=
    List.countP_pos_iff.2 ⟨t, Scheduler.mem_tasks.2 ⟨pid, slot⟩, by simp [free]⟩
  unfold room
  omega

theorem freeDeviceSlot?_of_no_room (none : k.room = 0) : k.freeDeviceSlot? = Option.none := by
  have counted : k.devices.toList.countP (·.isNone) = 0 := by
    unfold room at none
    omega
  refine Vector.findFinIdx?_eq_none_iff.2 fun entry place => ?_
  exact List.countP_eq_zero.1 counted entry (Vector.mem_toList_iff.2 place)

theorem load_of_no_room (none : k.room = 0) :
    k.bus.queues.load = eventKinds * queueDepth + overflowDepth := by
  have most := k.bus.queues.load_le
  unfold room at none
  omega

end Kernel

end Rtos

import Rtos.Proofs.Kernel.Supplies
import Rtos.Proofs.System.Runs

/-!
# When memory is short

The arena has as many slots as all other tables have places, so a call that creates an entity should
find one whenever it finds what else it needs.  It does as long as there are no strays
(`System.Supplied.ample`).  A stray takes a slot for which nothing was set aside: the device was
taken out of the registry, whose place is free again, while an event about it is queued, which keeps
its entity.  Once there are as many strays as free places, the arena is full, and calls are refused
that lack nothing else (`strays_crowd_host`).
-/

namespace Rtos

/-- The calls that create an entity and answer whether there was memory for it. -/
def Call.creates : Call → Bool
  | .spawn _ | .registerDevice | .reportDevice _ _ | .signalDevice _ _ | .reportFile _ _ => true
  | _ => false

namespace System

variable {π : Type} [Port π] {s s' : System π} {call : Call} {reply : Reply} {calls : List Call}
  {replies : List Reply}

/-- A call is not refused before it asks for memory. -/
def Asks (s : System π) : Call → Prop
  | .spawn _ => s.kernel.sched.freeSlot?.isSome = true
  | .reportDevice device _ | .signalDevice device _ => (s.kernel.deviceEntity? device).isSome = true
  | _ => True

/-- What a call needs besides an entity is not to be had: a stack, a place in the registry, or a
place in a queue. -/
def Lacks (s : System π) : Call → Prop
  | .spawn _ => Port.takeStack s.kernel.sched.port = none
  | .registerDevice => s.kernel.freeDeviceSlot? = none
  | .reportDevice _ _ | .signalDevice _ _ => s.kernel.bus.queues.Full .device
  | .reportFile _ _ => s.kernel.bus.queues.Full .file
  | _ => False

/-- What memory there is, and to whom it is refused. -/
structure Supplied (s : System π) : Prop where
  /-- Every slot of the arena that is not free is that of a place in another table which is not free,
  or of a stray. -/
  census : s.kernel.entities.live + s.kernel.room = entityCapacity + s.kernel.strays.length
  /-- A stray is kept by a queued event. -/
  pinned : ∀ id ∈ s.kernel.strays, ∃ event ∈ s.kernel.bus.queues.events,
    s.kernel.entities.parent? event.entity = some id
  /-- The arena is full exactly when there are as many strays as free places. -/
  full : s.kernel.entities.freeSlot? = none ↔ s.kernel.room = s.kernel.strays.length
  /-- Memory is refused to a call exactly if it lacks something else, or the arena is full. -/
  refused : ∀ {call reply s'}, call.creates = true → s.step call = .ok (reply, s') →
    (reply = .refused .outOfMemory ↔
      s.Asks call ∧ (s.Lacks call ∨ s.kernel.room = s.kernel.strays.length))
  /-- Without strays it is refused only to a call that lacks something else. -/
  ample : s.kernel.strays = [] → ∀ {call reply s'}, call.creates = true →
    s.step call = .ok (reply, s') → reply = .refused .outOfMemory → s.Lacks call

/-! ## One call -/

omit [Port π] in
theorem request_outOfMemory_iff {α : Type} {f : Kernel π → Checked (Except Error α × Kernel π)}
    {of : α → Reply} (answers : ∀ a, of a ≠ .refused .outOfMemory)
    (h : s.request f of = .ok (reply, s')) :
    ∃ result, f s.kernel = .ok (result, s'.kernel) ∧
      (reply = .refused .outOfMemory ↔ result = .error .outOfMemory) := by
  obtain ⟨result, operation, rfl, -⟩ := request_eq_ok h
  refine ⟨result, operation, ?_⟩
  cases result with
  | ok a => exact ⟨fun eq => absurd eq (answers a), fun eq => by cases eq⟩
  | error e => exact ⟨fun eq => by cases eq; rfl, fun eq => by cases eq; rfl⟩

namespace Arranged

/-- Memory is refused to a call exactly if it lacks something else, or the arena is full. -/
theorem refused_iff (h : s.Arranged) (creates : call.creates = true)
    (step : s.step call = .ok (reply, s')) : reply = .refused .outOfMemory ↔
      s.Asks call ∧ (s.Lacks call ∨ s.kernel.room = s.kernel.strays.length) := by
  rw [← h.kernel.full_iff]
  have sound := h.kernel.sound
  unfold System.step at step
  cases call with
  | spawn entry =>
    obtain ⟨result, operation, same⟩ := request_outOfMemory_iff (by simp) step
    exact same.trans (Kernel.spawn_outOfMemory_iff sound h.settled operation)
  | registerDevice =>
    obtain ⟨result, operation, same⟩ := request_outOfMemory_iff (by simp) step
    rw [same, Kernel.registerDevice_outOfMemory_iff sound.tree operation]
    exact (and_iff_right trivial).symm
  | reportDevice device flags =>
    obtain ⟨result, operation, same⟩ := request_outOfMemory_iff (by simp) step
    exact same.trans (Kernel.reportDevice_outOfMemory_iff sound.linked operation)
  | signalDevice device flags =>
    obtain ⟨result, operation, same⟩ := request_outOfMemory_iff (by simp) step
    exact same.trans (Kernel.signalDevice_outOfMemory_iff sound.linked operation)
  | reportFile handle flags =>
    obtain ⟨result, operation, same⟩ := request_outOfMemory_iff (by simp) step
    rw [same, Kernel.reportFile_outOfMemory_iff sound h.settled operation]
    exact (and_iff_right trivial).symm
  | exit | waitChild | sleep | tick | schedule | yield | enterSection | leaveSection | lock
  | tryLock | unlock | unregisterDevice | waitDevice => cases creates

/-- A call that finds no room at all lacks something else. -/
theorem lacks_of_no_room (none : s.kernel.room = 0) (creates : call.creates = true)
    (asks : s.Asks call) : s.Lacks call := by
  cases call with
  | spawn entry =>
    obtain ⟨pid, free⟩ := Option.isSome_iff_exists.1 asks
    obtain ⟨-, t, slot, free⟩ := Kernel.freeSlot?_eq_some free
    have room := Kernel.room_pos_of_freeSlot slot free
    omega
  | registerDevice => exact Kernel.freeDeviceSlot?_of_no_room none
  | reportDevice | signalDevice => exact Queues.full_of_load (Kernel.load_of_no_room none) .device
  | reportFile => exact Queues.full_of_load (Kernel.load_of_no_room none) .file
  | exit | waitChild | sleep | tick | schedule | yield | enterSection | leaveSection | lock
  | tryLock | unlock | unregisterDevice | waitDevice => cases creates

/-- Memory is refused to those that lack something else, and to those that strays crowd out. -/
theorem supplied (h : s.Arranged) : s.Supplied where
  census := h.kernel.census
  pinned id mem := h.kernel.pinned_of_stray (Kernel.mem_strays.1 mem)
  full := h.kernel.full_iff
  refused := h.refused_iff
  ample none call reply s' creates step refused := by
    obtain ⟨asks, lacks | full⟩ := (h.refused_iff creates step).1 refused
    · exact lacks
    · rw [none] at full
      exact lacks_of_no_room full creates asks

end Arranged

/-! ## Runs -/

/-- Whatever calls are made on a kernel that was just built, memory is refused to those that lack
something else, and to those that strays crowd out. -/
theorem supplied_of_run {port : π} {k : Kernel π} {mutexes : MutexId → Mutex}
    (booted : Kernel.boot port = .ok (.ok k))
    (run : System.run ⟨k, mutexes⟩ calls = .ok (replies, s')) : s'.Supplied :=
  ((arranged_boot booted mutexes).run run).supplied

/-- A run that leaves a stray. -/
theorem supplied_of_run_host : ∃ k replies s, Kernel.boot (HostPort.new false) = .ok (.ok k) ∧
    System.run ⟨k, fun _ => .free⟩ [.registerDevice, .reportDevice 0 DeviceFlags.rx,
      .unregisterDevice 0, .spawn (.program 0)] = .ok (replies, s) ∧
    s.kernel.strays.length = 1 ∧ s.Supplied := by
  have runs : (((Kernel.boot (HostPort.new false)).toOption.bind Except.toOption).any fun k =>
        (System.run ⟨k, fun _ => .free⟩ [.registerDevice, .reportDevice 0 DeviceFlags.rx,
          .unregisterDevice 0, .spawn (.program 0)]).toOption.any fun out =>
            out.2.kernel.strays.length = 1) = true := by decide +kernel
  obtain ⟨k, booted, runs⟩ := Kernel.exists_of_boot runs
  obtain ⟨⟨replies, s⟩, run, strays⟩ := Checked.exists_of_any runs
  exact ⟨k, replies, s, booted, run, of_decide_eq_true strays, supplied_of_run booted run⟩

/-- Twenty-four devices are registered one after the other, and taken out while a report of each is
queued. With sixteen events about files and three more devices the arena is full, and a fourth device
is refused, although there is a place for it in the registry. -/
theorem strays_crowd_host : ∃ k replies s s', Kernel.boot (HostPort.new false) = .ok (.ok k) ∧
    System.run ⟨k, fun _ => .free⟩ ((List.replicate (queueDepth + overflowDepth)
        [.registerDevice, .reportDevice 0 DeviceFlags.rx, .unregisterDevice 0]).flatten ++
      List.replicate queueDepth (.reportFile 0 DeviceFlags.rx) ++
      List.replicate 3 .registerDevice) = .ok (replies, s) ∧
    s.step .registerDevice = .ok (.refused .outOfMemory, s') ∧ ¬s.Lacks .registerDevice := by
  have runs : (((Kernel.boot (HostPort.new false)).toOption.bind Except.toOption).any fun k =>
        (System.run ⟨k, fun _ => .free⟩ ((List.replicate (queueDepth + overflowDepth)
            [.registerDevice, .reportDevice 0 DeviceFlags.rx, .unregisterDevice 0]).flatten ++
          List.replicate queueDepth (.reportFile 0 DeviceFlags.rx) ++
          List.replicate 3 .registerDevice)).toOption.any fun out =>
            ¬out.2.kernel.freeDeviceSlot? = none ∧
              (out.2.step .registerDevice).toOption.any fun next =>
                next.1 = .refused .outOfMemory) = true := by
    decide +kernel
  obtain ⟨k, booted, runs⟩ := Kernel.exists_of_boot runs
  obtain ⟨⟨replies, s⟩, run, seen⟩ := Checked.exists_of_any runs
  obtain ⟨vacant, next⟩ := of_decide_eq_true seen
  obtain ⟨⟨reply, s'⟩, step, refused⟩ := Checked.exists_of_any next
  obtain rfl := of_decide_eq_true refused
  exact ⟨k, replies, s, s', booted, run, step, vacant⟩

end System

end Rtos

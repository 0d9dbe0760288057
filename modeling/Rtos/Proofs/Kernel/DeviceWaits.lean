import Rtos.Proofs.Kernel.Boot
import Rtos.Proofs.Kernel.Devices

/-!
# Waiting for devices

A task that waits for a device is listed for reports (`Kernel.Listed`), so that a queued report of
the device wakes it in the next pass.  A kernel is prompt if such a report is queued for every task
whose device is ready (`Kernel.Prompt`).  Operations keep a kernel prompt, and so does a pass, which
leaves no such task parked.
-/

namespace Rtos

variable {π : Type}

namespace Kernel

/-- Every task that waits for a device stands on the list of listeners for reports. -/
def Listed (k : Kernel π) : Prop :=
  ∀ pid t, k.sched.task? pid = some t → t.state = .awaitingDevice →
    ∃ sub ∈ k.bus.registry.lists.device, sub.extra = pid

/-- A report is queued that ends the wait: of the device, in the direction, or of an error. -/
def Covers (k : Kernel π) (wait : DeviceWait) : Prop :=
  ∃ event ∈ k.bus.queues.events, ∃ flags, event.payload = .device wait.device flags ∧
    flags.intersects (wait.direction.union DeviceFlags.err) = true

/-- For each task that waits for a device and could go on, a report is queued that ends the wait. -/
def Prompt (ready : Pid → Prop) (k : Kernel π) : Prop :=
  ∀ pid t, k.sched.task? pid = some t → t.state = .awaitingDevice → ready pid →
    ∃ wait, t.deviceWait = some wait ∧ k.Covers wait

theorem Covers.mono {k k' : Kernel π} {wait : DeviceWait} (h : k.Covers wait)
    (more : k.bus.queues.events ⊆ k'.bus.queues.events) : k'.Covers wait := by
  obtain ⟨event, queued, covers⟩ := h
  exact ⟨event, more queued, covers⟩

end Kernel

/-! ## Moves -/

variable [Port π]

namespace Move

variable {label : Label} {m m' : Moment π}

/-- Moves keep waiting tasks listed for reports. -/
theorem listed (move : Move label m m') (sound : m.Sound) (h : m.kernel.Listed) :
    m'.kernel.Listed := by
  intro pid t' slot' parked
  obtain ⟨t, slot, step⟩ := move.slotStep_back sound slot'
  rcases step.parked_back parked (.inl rfl) with rfl | same
  · cases move with
    | change found change => cases change
    | awaitDevice found running =>
      exact ⟨_, List.mem_append_right _ (List.mem_singleton_self _), rfl⟩
  · obtain ⟨sub, mem, extra⟩ := h pid t slot (same.state.symm.trans parked)
    cases move with
    | awaitDevice found running => exact ⟨sub, List.mem_append_left _ mem, extra⟩
    | @wake k held falling payload pre told post u listed found wakes =>
      cases payload with
      | task => exact ⟨sub, mem, extra⟩
      | file => exact wakes.elim
      | device number flags =>
        refine ⟨sub, ?_, extra⟩
        have listed : k.bus.registry.lists.device = pre ++ told :: post := listed
        have mem : sub ∈ pre ++ told :: post := listed ▸ mem
        rcases List.mem_append.1 mem with mem | mem
        · exact List.mem_append_left _ mem
        · rcases List.mem_cons.1 mem with rfl | mem
          · -- the listener that goes has woken its task
            subst extra
            cases (Scheduler.task?_setTask_self found _).symm.trans slot'
            cases wakes.state_woken.symm.trans parked
          · exact List.mem_append_right _ mem
    | _ => exact ⟨sub, mem, extra⟩

/-- Events leave the bus by being delivered. -/
theorem events_subset (move : Move label m m') (undelivered : label ≠ .delivers) :
    m.kernel.bus.queues.events ⊆ m'.kernel.bus.queues.events := by
  cases move with
  | fetch | shift => exact absurd rfl undelivered
  | post mine owner dispatched queued =>
    rcases Queues.dispatch_eq_ok dispatched with ⟨-, perm, -⟩ | ⟨refused, -⟩
    · exact fun event mem => perm.symm.subset (List.mem_cons_of_mem _ mem)
    · exact absurd refused (queued _)
  | _ => exact fun _ => id

end Move

namespace Moves

variable {P : Label → Prop} {m m' : Moment π} {ready : Pid → Prop}

theorem listed (moves : Moves P m m') (sound : m.Sound) (h : m.kernel.Listed) : m'.kernel.Listed :=
  (moves.keeps (I := fun m => m.Sound ∧ m.kernel.Listed) ⟨sound, h⟩
    fun _ move ⟨sound, h⟩ => ⟨move.sound sound, move.listed sound h⟩).2

theorem events_subset (moves : Moves P m m') (undelivered : ¬P .delivers) :
    m.kernel.bus.queues.events ⊆ m'.kernel.bus.queues.events :=
  moves.keeps (I := fun m' => m.kernel.bus.queues.events ⊆ m'.kernel.bus.queues.events)
    (fun _ => id) fun allowed move more _ mem =>
      move.events_subset (fun eq => undelivered (eq ▸ allowed)) (more mem)

/-- Moves that deliver nothing, and park no task that could go on, keep a kernel prompt. -/
theorem prompt (moves : Moves P m m') (sound : m.Sound) (h : m.kernel.Prompt ready)
    (undelivered : ¬P .delivers) (parks : ∀ pid, P (.parks pid .awaitingDevice) → ¬ready pid) :
    m'.kernel.Prompt ready := by
  intro pid t' slot' parked due
  obtain ⟨t, slot, before, same⟩ := moves.waits_back sound slot' parked (.inl rfl)
    fun allowed => parks pid allowed due
  obtain ⟨wait, waiting, covers⟩ := h pid t slot before due
  exact ⟨wait, same.device.trans waiting, covers.mono (moves.events_subset undelivered)⟩

end Moves

namespace Kernel

variable {k k' : Kernel π} {held held' : List EntityId} {P : Label → Prop} {ready : Pid → Prop}

/-! ## Passes and operations -/

theorem not_awaitingDevice_of_boot {port : π} (booted : boot port = .ok (.ok k)) {pid : Pid}
    {t : Task} (slot : k.sched.task? pid = some t) : t.state ≠ .awaitingDevice := by
  intro parked
  by_cases idle : pid = idlePid
  · subst idle
    obtain ⟨t', slot', running⟩ := settled_boot booted
    obtain ⟨stack, stackPointer, -, laid, e, id, -, -, -, -, -, rfl⟩ := boot_eq_ok booted
    cases slot.symm.trans slot'
    cases parked.symm.trans running
  · cases empty_of_boot booted idle slot
    cases parked

/-- A pass keeps a kernel prompt: whoever could go on is woken by the report that is queued. -/
theorem Prompt.schedule (h : k.Prompt ready) (sound : Moment.Sound ⟨k, held, none⟩)
    (listed : k.Listed) (pass : k.schedule = .ok k') : k'.Prompt ready := by
  rcases schedule_eq_ok pass with ⟨-, rfl⟩ | ⟨outside, -⟩
  · exact h
  · intro pid t' slot' parked due
    obtain ⟨t, slot, before, -, deaf⟩ :=
      waits_back_of_schedule sound outside pass slot' parked (.inl rfl)
    obtain ⟨wait, waiting, event, queued, flags, payload, covers⟩ := h pid t slot before due
    obtain ⟨sub, mem, extra⟩ := listed pid t slot before
    have wakes : event.payload.Wakes pid t := by
      rw [payload]
      exact ⟨before, wait, waiting, rfl, covers⟩
    have kind : event.kind = .device := by rw [Event.kind, payload]; rfl
    exact absurd extra (deaf event queued wakes sub (kind ▸ mem))

namespace Operates

theorem listed (h : Operates P held held' k k') (sound : Moment.Sound ⟨k, held, .none⟩)
    (listed : k.Listed) : k'.Listed :=
  (h.moves sound).listed sound listed

/-- An operation whose body delivers nothing, and parks no task that could go on, keeps a kernel
prompt. -/
theorem prompt (h : Operates P held held' k k') (sound : Moment.Sound ⟨k, held, .none⟩)
    (listed : k.Listed) (prompt : k.Prompt ready) (undelivered : ¬P .delivers)
    (parks : ∀ pid, P (.parks pid .awaitingDevice) → ¬ready pid) : k'.Prompt ready := by
  obtain ⟨k₁, body, ⟨-, rfl⟩ | ⟨-, pass⟩⟩ := h
  · exact body.prompt sound prompt undelivered parks
  · exact (body.prompt sound prompt undelivered parks).schedule (body.sound sound)
      (body.listed sound listed) pass

end Operates

end Kernel

end Rtos

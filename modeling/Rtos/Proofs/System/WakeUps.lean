import Rtos.Proofs.Kernel.Outcome
import Rtos.Proofs.System.Scene

/-!
# Passes in a scene

Wherever a scene has come, and whatever is queued there, a pass wakes exactly the tasks that wait for
what is queued, and the order does not matter.  This holds between two deeds, and in front of the pass
in the middle of a call, when its caller may have been parked already.
-/

namespace Rtos.Scene

variable {π : Type} [Port π] [LawfulPort π] {s : Scene π} {k : Kernel π}
  {held rest : List EntityId} {queues : Queues}

/-- The kernel `k` is that of a scene, or what a call has made of it in front of its pass.  Any events
may be queued in it, each with a reference of its own on a live entity; the references in `rest` are
the others that somebody has in hand.  Outside atomic sections a pass delivers the events before it
switches.  What it has done then is described by `Kernel.Delivered`, and it would have done the same had
the events been queued, or the listeners been registered, in another order. -/
theorem Run.awakens {port : π} {k₀ : Kernel π} {mutexes : MutexId → Mutex}
    (booted : Kernel.boot port = .ok (.ok k₀))
    (run : Run (fun _ _ => True) ⟨⟨k₀, mutexes⟩, []⟩ s)
    (moves : Moves (fun _ => True) ⟨s.kernel, s.held, none⟩ ⟨k, held, none⟩)
    (owned : (queues.events.map (·.entity) ++ rest).Perm
      (k.bus.queues.events.map (·.entity) ++ held))
    (outside : k.sched.sectionDepth = 0) :
    ∃ k₁, (k.setQueues queues).deliverEvents = .ok k₁ ∧
      (k.setQueues queues).schedule = k₁.switchOn ∧ (k.setQueues queues).Delivered rest k₁ ∧
      ∀ r, (k.setQueues queues).Reordered r →
        ∃ r₁, r.deliverEvents = .ok r₁ ∧ r.schedule = r₁.switchOn ∧ k₁.Agrees r₁ := by
  have moves := (run.moves (Kernel.sound_boot booted) (Kernel.settled_boot booted)).1.trans moves
  have poised := Kernel.poised_of_moves booted moves owned
  have owns : (k.setQueues queues).OwnsStacks := moves.ownsStacks (Kernel.ownsStacks_boot booted)
  obtain ⟨k₁, delivers, delivered⟩ := poised.ends owns
  refine ⟨k₁, delivers, Kernel.schedule_outside outside delivers, delivered, fun r same => ?_⟩
  have owns' : r.OwnsStacks := by
    unfold Kernel.OwnsStacks
    rw [same.sched]
    exact owns
  obtain ⟨r₁, delivers', delivered'⟩ := (poised.reordered same).ends owns'
  have outside' : r.sched.sectionDepth = 0 := same.sched ▸ outside
  exact ⟨r₁, delivers', Kernel.schedule_outside outside' delivers',
    delivered.agrees poised same delivered'⟩

/-- A task that waits for a device is woken by an error, a parent by the exit of a child, and with the
event about a file goes the slot of the dead task that only this event kept. -/
theorem awakens_host : ∃ k s queues k₁,
    Kernel.boot (HostPort.new false) = .ok (.ok k) ∧
    Run (fun _ _ => True) ⟨⟨k, fun _ => .free⟩, []⟩ s ∧
    queues.events.map Event.entity = [8, 9, 7] ∧ s.held = [9, 8, 7] ∧
    (s.kernel.setQueues queues).deliverEvents = .ok k₁ ∧
    (∃ t, k₁.sched.task? 1 = some t ∧ t.state = .ready) ∧
    (∃ t, k₁.sched.task? 2 = some t ∧ t.state = .ready) ∧ k₁.sched.task? 3 = some .empty := by
  have runs : (((Kernel.boot (HostPort.new false)).toOption.bind Except.toOption).any fun k =>
        (play ⟨⟨k, fun _ => .free⟩, []⟩ [.call .registerDevice, .call (.spawn (.program 0)),
            .call (.spawn (.program 1)), .call (.spawn (.program 2)), .call .schedule,
            .call (.waitDevice 0 DeviceFlags.rx), .call (.spawn (.program 3)),
            .call (.waitChild .any ⟨0⟩), .create (some 5), .create (some .root),
            .create (some .root), .call (.exit 0)]).toOption.any fun s =>
          ((Queues.empty.enqueue? ⟨8, .device 0 DeviceFlags.err⟩).bind fun queues =>
              (queues.enqueue? ⟨9, .task 4 2 0⟩).bind fun queues =>
                queues.enqueue? ⟨7, .file 0 DeviceFlags.rx⟩).any fun queues =>
            (s.kernel.sched.task? 1).any fun reader => (s.kernel.sched.task? 2).any fun parent =>
              (s.kernel.sched.task? 3).any fun dead =>
                queues.events.map Event.entity = [8, 9, 7] ∧ s.held = [9, 8, 7] ∧
                  ⟨8, .device 0 DeviceFlags.err⟩ ∈ queues.events ∧
                  ⟨9, .task 4 2 0⟩ ∈ queues.events ∧ s.kernel.bus.queues.events = [] ∧
                  s.kernel.sched.sectionDepth = 0 ∧ reader.state = .awaitingDevice ∧
                  reader.deviceWait = some ⟨0, DeviceFlags.rx⟩ ∧ parent.state = .awaitingChild ∧
                  parent.childFilter.accepts 4 = true ∧ dead.state = .dead ∧
                  dead.entity = some 5 ∧
                  (s.kernel.setQueues queues).deliverEvents.toOption.all
                    (!·.entities.isLive 5)) = true := by
    decide +kernel
  obtain ⟨k, booted, runs⟩ := Kernel.exists_of_boot runs
  obtain ⟨s, played, runs⟩ := Checked.exists_of_any runs
  obtain ⟨queues, -, runs⟩ := (Option.any_eq_true _ _).1 runs
  obtain ⟨reader, slot₁, runs⟩ := (Option.any_eq_true _ _).1 runs
  obtain ⟨parent, slot₂, runs⟩ := (Option.any_eq_true _ _).1 runs
  obtain ⟨dead, slot₃, runs⟩ := (Option.any_eq_true _ _).1 runs
  obtain ⟨inQueue, inHand, failed, exited, none, outside, waits, wait, waits', accepts, gone, owns,
    ends⟩ := of_decide_eq_true runs
  have run := Run.of_play (.refl _) played
  have owned : (queues.events.map Event.entity ++ []).Perm
      (s.kernel.bus.queues.events.map Event.entity ++ s.held) := by
    rw [inQueue, none, inHand]
    decide
  obtain ⟨k₁, delivers, -, delivered, -⟩ := run.awakens booted (.refl _) owned outside
  refine ⟨k, s, queues, k₁, booted, run, inQueue, inHand, delivers, ?_, ?_, ?_⟩
  · exact (delivered.device slot₁ waits).2 ⟨_, failed, _, _, wait, rfl, by decide⟩
  · exact (delivered.child slot₂ waits').2 ⟨_, exited, _, _, rfl, accepts⟩
  · refine delivered.freed slot₃ gone owns fun anchored => ?_
    have stays := (delivered.survivors 5).2 anchored
    rw [delivers] at ends
    simp [Except.toOption, stays] at ends

end Rtos.Scene

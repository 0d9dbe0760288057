import Rtos.Proofs.Kernel.Operations

/-!
# Parked tasks

A task that is parked stays parked for what it waits for, until a mutex is granted to it, it is woken
past its listener, or an event is delivered that ends its wait.  So an operation leaves a parked task
where it is, or it has delivered such an event (`Operates.waits_or_wakes`).  The idle task is left
out: the scheduler runs it whatever it waits for.
-/

namespace Rtos

variable {π : Type} [Port π]

/-! ## Moves -/

/-- What is queued behind moves was queued before, or they have queued it. -/
theorem Moves.queued_or_posts {P : Label → Prop} {m m' : Moment π} (moves : Moves P m m') :
    ∀ event ∈ m'.kernel.bus.queues.events,
      event ∈ m.kernel.bus.queues.events ∨ P (.posts event.payload) := by
  refine moves.keeps (I := fun m' => ∀ event ∈ m'.kernel.bus.queues.events,
    event ∈ m.kernel.bus.queues.events ∨ P (.posts event.payload)) (fun _ => .inl) ?_
  intro label m₁ m₂ allowed move before event queued
  cases move with
  | @post k held rest posted result queues mine owner dispatched refused =>
    rcases Queues.dispatch_eq_ok dispatched with ⟨-, perm, -⟩ | ⟨is, -⟩
    · rcases List.mem_cons.1 (perm.subset queued) with rfl | queued
      · exact .inr allowed
      · exact before event queued
    · exact absurd is (refused _)
  | fetch taken => exact before event (taken.events.symm.subset (List.mem_cons_of_mem _ queued))
  | shift oldest put => exact before event ((Queues.events_refill oldest put).subset queued)
  | _ => exact before event queued

/-! ## Deliveries -/

namespace Kernel

variable {k k' : Kernel π} {c c' : Core π} {bus bus' : EventBus KernelListener}
  {devices : Vector (Option EntityId) maxDevices} {held held' : List EntityId} {event : Event}
  {queues queues' : Queues} {list list' : List (Subscription KernelListener)} {pid : Pid} {t : Task}
  {P : Label → Prop}

/-- Telling listeners of an event leaves a task alone that it does not wake. -/
theorem slot_tell_of_deaf (own : ∀ sub ∈ list, sub.listener.serves event.kind = true)
    (h : EventBus.tell Core.callbacks event list queues c = .ok (list', queues', c'))
    (slot : c.sched.task? pid = some t) (deaf : ¬event.payload.Wakes pid t) :
    c'.sched.task? pid = some t := by
  induction list generalizing c list' with
  | nil => cases h; exact slot
  | cons sub list ih =>
    have others := fun other mem => own other (List.mem_cons_of_mem sub mem)
    obtain ⟨c₁, list₁, told, ⟨u, notice, found, wakes, rfl, -⟩ | ⟨rfl, -⟩⟩ :=
      tell_cons_eq_ok (own sub List.mem_cons_self) h
    · refine ih others told ?_
      have other : pid ≠ sub.extra := by
        rintro rfl
        cases slot.symm.trans found
        exact deaf wakes
      exact (Scheduler.task?_setTask_of_ne _ _ other).trans slot
    · exact ih others told slot

theorem slot_deliver_of_deaf (sound : Moment.Sound ⟨(⟨c, bus, devices⟩ : Kernel π), held, none⟩)
    (taken : bus.queues.Takes event queues)
    (h : EventBus.deliver Core.callbacks { bus with queues } event c = .ok (bus', c'))
    (slot : c.sched.task? pid = some t) (alive : t.isAlive = true)
    (deaf : ¬event.payload.Wakes pid t) : c'.sched.task? pid = some t := by
  obtain ⟨list, c₁, told, released, rfl⟩ := EventBus.deliver_eq_ok callbacks_quiet h
  have fetched : Move .delivers ⟨(⟨c, bus, devices⟩ : Kernel π), held, none⟩ _ := .fetch taken
  have tell := moves_tell { bus with queues } devices [] (event.entity :: held) none
    (sound.listeners _) told
  rw [List.nil_append, List.nil_append, setListeners_self ⟨c, { bus with queues }, devices⟩] at tell
  have release := moves_coreRelease { bus with
    queues, registry := { bus.registry with lists := bus.registry.lists.set event.kind list } }
    devices (Reaction.done.inj released) (.refl (event.entity :: held))
  have slot₁ := slot_tell_of_deaf (sound.listeners _) told slot deaf
  exact release.slot_quiet (tell.sound (fetched.sound sound)) slot₁ alive

theorem slot_deliverEvents_of_deaf (sound : Moment.Sound ⟨k, held, none⟩)
    (h : k.deliverEvents = .ok k') (slot : k.sched.task? pid = some t) (alive : t.isAlive = true)
    (deaf : ∀ event ∈ k.bus.queues.events, ¬event.payload.Wakes pid t) :
    k'.sched.task? pid = some t := by
  obtain ⟨⟨bus, c⟩, delivered, eq⟩ := Checked.bind_eq_ok.1 h
  cases eq
  have kept := EventBus.deliverAll_keeps (P := fun bus c =>
    Moves Label.InPass ⟨k, held, none⟩ ⟨⟨c, bus, k.devices⟩, held, none⟩ ∧
      c.sched.task? pid = some t ∧ bus.queues.events ⊆ k.bus.queues.events)
    { delivered := fun {bus c told queues bus' c'} ⟨moves, slot, fewer⟩ taken deliver => by
        have sound := moves.sound sound
        have queued := taken.events.symm.subset
        refine ⟨moves.trans (moves_deliver sound.listeners taken deliver), ?_, ?_⟩
        · exact slot_deliver_of_deaf sound taken deliver slot alive
            (deaf told (fewer (queued List.mem_cons_self)))
        · obtain ⟨list, c₁, -, -, rfl⟩ := EventBus.deliver_eq_ok callbacks_quiet deliver
          exact fun event mem => fewer (queued (List.mem_cons_of_mem told mem))
      refilled := fun ⟨moves, slot, fewer⟩ oldest put =>
        ⟨moves.tail (.inr rfl) (.shift oldest put), slot,
          fun event mem => fewer ((Queues.events_refill oldest put).subset mem)⟩ }
    delivered ⟨.refl _, slot, fun _ => id⟩
  exact kept.2.1

/-! ## Passes and operations -/

/-- A pass leaves a parked task where it is, or it has delivered an event that ends the wait. -/
theorem Waits.schedule (h : k.Waits pid t) (sound : Moment.Sound ⟨k, held, none⟩)
    (parked : t.state.Parked) (busy : pid ≠ idlePid) (pass : k.schedule = .ok k') :
    k'.Waits pid t ∨
      (k'.bus.queues.events = [] ∧ ∃ event ∈ k.bus.queues.events, event.payload.Wakes pid t) := by
  rcases schedule_eq_ok pass with ⟨-, rfl⟩ | ⟨outside, k₁, delivered, -, switch, -⟩
  · exact .inl h
  · by_cases deaf : ∃ event ∈ k.bus.queues.events, event.payload.Wakes pid t
    · exact .inr ⟨events_schedule sound pass outside, deaf⟩
    · obtain ⟨t', slot, same⟩ := h
      have deliver := (moves_deliverEvents sound delivered).1
      have alive := sound.tasks.alive slot (by rw [same.state]; exact parked.not_dead)
      have slot₁ := slot_deliverEvents_of_deaf sound delivered slot alive
        fun event queued wakes => deaf ⟨event, queued, same.wakes_iff.1 wakes⟩
      exact .inl ((switch (deliver.sound sound)).waits (deliver.sound sound) ⟨t', slot₁, same⟩
        parked busy (fun _ _ => nofun) (fun _ => nofun) (fun _ _ _ => nofun))

/-- An operation that neither grants a mutex to a parked task nor wakes it past its listener leaves it
where it is, or it has delivered an event that ends the wait. -/
theorem Operates.waits_or_wakes (h : Operates P held held' k k')
    (sound : Moment.Sound ⟨k, held, .none⟩) (waits : k.Waits pid t) (parked : t.state.Parked)
    (busy : pid ≠ idlePid) (undelivered : ¬P .delivers)
    (ungranted : t.state = .awaitingMutex → ¬P (.grants pid))
    (unwoken : t.state = .awaitingChild → ∀ child, t.childFilter.accepts child = true →
      ¬P (.wakes pid child)) :
    k'.Waits pid t ∨ (k'.bus.queues.events = [] ∧ ∃ payload : Payload, payload.Wakes pid t ∧
      ((∃ event ∈ k.bus.queues.events, event.payload = payload) ∨ P (.posts payload))) := by
  obtain ⟨k₁, body, ⟨-, rfl⟩ | ⟨-, pass⟩⟩ := h
  · exact .inl (body.waits sound waits parked busy (fun _ _ => undelivered) ungranted unwoken)
  · have waits := body.waits sound waits parked busy (fun _ _ => undelivered) ungranted unwoken
    refine (waits.schedule (body.sound sound) parked busy pass).imp_right ?_
    rintro ⟨empty, event, queued, wakes⟩
    refine ⟨empty, event.payload, wakes, ?_⟩
    exact (body.queued_or_posts event queued).imp_left fun queued => ⟨event, queued, rfl⟩

end Kernel

end Rtos

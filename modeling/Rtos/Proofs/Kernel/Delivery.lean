import Rtos.Proofs.Kernel.SlotStep

/-!
# Releases and passes as moves

Dropping a reference and delivering what is queued are sequences of moves.  A delivery reaches every
listener of its kind, so no task that is listening is left parked on what was delivered.
-/

namespace Rtos

variable {π : Type} [Port π]

/-! ## Releases -/

namespace Scheduler

variable {s r : Scheduler π} {pid : Pid}

theorem freeTask_eq_ok (h : s.freeTask pid = .ok r) :
    ∃ t port, s.task? pid = some t ∧
      (∀ stack, t.stack = some stack → Port.returnStack stack s.port = .ok port) ∧
      (t.stack = none → port = s.port) ∧
      r = (({ s with port } : Scheduler π).setTask pid .empty).note (.released pid) := by
  obtain ⟨t, found, h⟩ := Checked.bind_eq_ok.1 h
  have found := task_eq_ok.1 found
  have emptied {port : π} {s₁ : Scheduler π}
      (h : ({ s with port } : Scheduler π).modify pid (fun _ => .empty) = .ok s₁) :
      s₁ = ({ s with port } : Scheduler π).setTask pid .empty := by
    obtain ⟨-, -, eq⟩ := modify_eq_ok.1 h
    exact eq
  dsimp only at h
  split at h
  case h_1 stack has =>
    obtain ⟨port, returned, h⟩ := Checked.bind_eq_ok.1 h
    obtain ⟨s₁, modified, eq⟩ := Checked.bind_eq_ok.1 h
    cases eq
    refine ⟨t, port, found, fun other eq => ?_, fun bare => ?_, by rw [emptied modified]⟩
    · cases has.symm.trans eq
      exact returned
    · cases has.symm.trans bare
  case h_2 bare =>
    obtain ⟨_, kept, h⟩ := Checked.bind_eq_ok.1 h
    obtain ⟨s₁, modified, eq⟩ := Checked.bind_eq_ok.1 h
    cases kept
    cases eq
    refine ⟨t, s.port, found, fun stack has => ?_, fun _ => rfl, by rw [emptied modified]⟩
    cases bare.symm.trans has

end Scheduler

namespace Kernel

variable {k k' : Kernel π} {held rest : List EntityId} {falling : Option EntityId} {id : EntityId}

theorem moves_note (k : Kernel π) (held : List EntityId) (falling : Option EntityId)
    (notice : Notice) : Moves (· = .quiet) ⟨k, held, falling⟩ ⟨k.note notice, held, falling⟩ :=
  .single rfl (.book { k.books with journal := notice :: k.sched.journal } (Nat.le_refl _))

theorem moves_destroy (held : List EntityId) {e : Entity Cleanup} {s₁ : Scheduler π}
    (found : k.entities.get? id = some e) (last : e.count.value = 1) (below : id ≠ .root)
    (cleaned : ∀ tag, e.cleanup = some tag → tag.run e.owner k.sched = .ok s₁)
    (bare : e.cleanup = none → s₁ = k.sched) :
    Moves (· = .quiet) ⟨k, held, some id⟩
      ⟨{ k with entities := k.entities.remove id, sched := s₁ }, held, e.parent⟩ := by
  by_cases task : ∃ pid, e.owner = .task pid ∧ e.cleanup = some .releaseTask
  · obtain ⟨pid, owner, cleanup⟩ := task
    have cleaned := cleaned _ cleanup
    rw [owner] at cleaned
    obtain ⟨t, port, slot, stack, none, rfl⟩ := Scheduler.freeTask_eq_ok cleaned
    refine .trans (.single rfl (.destroyTask found last below owner cleanup slot stack none)) ?_
    exact moves_note _ held e.parent (.released pid)
  · have kept : s₁ = k.sched := by
      cases cleanup : e.cleanup with
      | none => exact bare cleanup
      | some tag =>
        have cleaned := cleaned tag cleanup
        cases tag with
        | nothing => cases cleaned; rfl
        | releaseTask =>
          cases owner : e.owner with
          | task pid => exact absurd ⟨pid, owner, cleanup⟩ task
          | root | device | event => rw [owner] at cleaned; cases cleaned; rfl
    subst kept
    exact .single rfl (.destroy found last below fun pid owner cleanup =>
      task ⟨pid, owner, cleanup⟩)

/-- A round of a release: the reference that falls is settled, or the entity goes and lets its own
fall. -/
theorem moves_round (held : List EntityId) {entities : EntityTree Cleanup} {sched : Scheduler π}
    {next : Option EntityId}
    (h : k.entities.releaseRound Cleanup.run id k.sched = .ok (entities, sched, next)) :
    Moves (· = .quiet) ⟨k, held, some id⟩ ⟨{ k with entities, sched }, held, next⟩ := by
  cases EntityTree.releaseRound_eq_ok.1 h with
  | settles found others => exact .single rfl (.settle found others)
  | falls found last below counted cleaned =>
    obtain ⟨ran, bare⟩ := EntityTree.runCleanup_eq_ok.1 cleaned
    exact moves_destroy held found last below ran bare

theorem moves_releaseUp {fuel : Nat} {entities : EntityTree Cleanup} {sched : Scheduler π}
    (h : EntityTree.releaseUp Cleanup.run fuel k.entities id k.sched = .ok (entities, sched)) :
    Moves (· = .quiet) ⟨k, held, some id⟩ ⟨{ k with entities, sched }, held, none⟩ := by
  induction fuel generalizing k id with
  | zero => cases h
  | succ fuel ih =>
    obtain ⟨⟨entities₁, sched₁, next⟩, round, h⟩ := Checked.bind_eq_ok.1 h
    have first := moves_round held round
    cases next with
    | none => cases h; exact first
    | some p => exact first.trans (ih (k := { k with entities := entities₁, sched := sched₁ }) h)

/-- Dropping a reference in hand is a sequence of moves. -/
theorem moves_coreRelease {c c' : Core π} (bus : EventBus KernelListener)
    (devices : Vector (Option EntityId) maxDevices)
    (h : c.release id = .ok c') (mine : held.Perm (id :: rest)) :
    Moves (· = .quiet) ⟨⟨c, bus, devices⟩, held, none⟩ ⟨⟨c', bus, devices⟩, rest, none⟩ := by
  obtain ⟨⟨entities, sched⟩, released, eq⟩ := Checked.bind_eq_ok.1 h
  cases eq
  exact .trans (.single rfl (.drop mine)) (moves_releaseUp (k := ⟨c, bus, devices⟩) released)

theorem moves_release (h : k.release id = .ok k') (mine : held.Perm (id :: rest)) :
    Moves (· = .quiet) ⟨k, held, none⟩ ⟨k', rest, none⟩ := by
  obtain ⟨c, released, eq⟩ := Checked.bind_eq_ok.1 h
  cases eq
  exact moves_coreRelease _ _ released mine

theorem moves_releaseAll (held : List EntityId) {ids : List EntityId}
    (h : k.releaseAll ids = .ok k') :
    Moves (· = .quiet) ⟨k, ids ++ held, none⟩ ⟨k', held, none⟩ := by
  induction ids generalizing k with
  | nil => cases h; exact .refl _
  | cons id ids ih =>
    obtain ⟨k₁, released, h⟩ := Checked.bind_eq_ok.1 h
    exact (moves_release released (.refl _)).trans (ih h)

end Kernel

/-! ## Deliveries -/

namespace Core

omit [Port π]

variable {c c' : Core π} {payload : Payload} {extra : Pid} {listener : KernelListener}
  {action : ListenerAction}

/-- What a listener of the kernel's own does: it wakes its task and leaves its list, or it does
nothing, because its task does not wait for the event. -/
theorem onEvent_eq_ok (serves : listener.serves payload.kind = true)
    (h : c.onEvent payload extra listener = .ok (action, c')) :
    (∃ t notice, c.sched.task? extra = some t ∧ payload.Wakes extra t ∧ action = .remove ∧
      c' = { c with sched := (c.sched.setTask extra (t.woken payload)).note notice }) ∨
    (action = .proceed ∧ c' = c ∧ ∀ t, c.sched.task? extra = some t → ¬ payload.Wakes extra t) := by
  cases listener with
  | childExit =>
    cases payload with
    | device | file => cases serves
    | task pid parent status =>
      obtain ⟨t, found, h⟩ := Checked.bind_eq_ok.1 h
      have found := Scheduler.task_eq_ok.1 found
      split at h
      case isTrue idle =>
        cases h
        refine .inr ⟨rfl, rfl, fun u found' => ?_⟩
        cases found.symm.trans found'
        rintro ⟨rfl, parked, accepts⟩
        simp [parked, accepts] at idle
      case isFalse waits =>
        obtain ⟨s₁, modified, eq⟩ := Checked.bind_eq_ok.1 h
        cases eq
        obtain ⟨u, found', rfl⟩ := Scheduler.modify_eq_ok.1 modified
        cases found.symm.trans found'
        simp only [ne_eq, Bool.or_eq_true, decide_eq_true_eq, Bool.not_eq_true', not_or,
          Decidable.not_not, Bool.not_eq_false] at waits
        exact .inl ⟨t, _, found, ⟨waits.1.1, waits.1.2, waits.2⟩, rfl, rfl⟩
  | deviceReady =>
    cases payload with
    | task | file => cases serves
    | device device flags =>
      obtain ⟨t, found, h⟩ := Checked.bind_eq_ok.1 h
      have found := Scheduler.task_eq_ok.1 found
      split at h
      case h_1 wait waiting =>
        split at h
        case isTrue idle =>
          cases h
          refine .inr ⟨rfl, rfl, fun u found' => ?_⟩
          cases found.symm.trans found'
          rintro ⟨parked, wait', waiting', rfl, covered⟩
          cases waiting.symm.trans waiting'
          simp [parked, covered] at idle
        case isFalse waits =>
          obtain ⟨s₁, modified, eq⟩ := Checked.bind_eq_ok.1 h
          cases eq
          obtain ⟨u, found', rfl⟩ := Scheduler.modify_eq_ok.1 modified
          cases found.symm.trans found'
          simp only [ne_eq, Bool.or_eq_true, decide_eq_true_eq, Bool.not_eq_true', not_or,
            Decidable.not_not, Bool.not_eq_false] at waits
          exact .inl ⟨t, _, found, ⟨waits.1.1, wait, waiting, waits.1.2, waits.2⟩, rfl, rfl⟩
      case h_2 bare =>
        cases h
        refine .inr ⟨rfl, rfl, fun u found' => ?_⟩
        cases found.symm.trans found'
        rintro ⟨-, wait, waiting, -⟩
        exact bare wait waiting
  | observer | waker => cases payload <;> cases serves

end Core

namespace Kernel

variable {k : Kernel π} {c c' : Core π} {bus : EventBus KernelListener}
  {devices : Vector (Option EntityId) maxDevices} {held : List EntityId}
  {falling : Option EntityId} {event : Event} {queues queues' : Queues}
  {sub : Subscription KernelListener} {list list' pre : List (Subscription KernelListener)}

omit [Port π] in
theorem setListeners_setListeners (k : Kernel π) (kind : EventKind)
    (list list' : List (Subscription KernelListener)) :
    (k.setListeners kind list).setListeners kind list' = k.setListeners kind list' := by
  cases kind <;> rfl

omit [Port π] in
theorem setListeners_self (k : Kernel π) (kind : EventKind) :
    k.setListeners kind (k.bus.registry.lists.get kind) = k := by
  cases kind <;> rfl

theorem tell_cons_eq_ok (serves : sub.listener.serves event.kind = true)
    (h : EventBus.tell Core.callbacks event (sub :: list) queues c = .ok (list', queues', c')) :
    ∃ c₁ list₁, EventBus.tell Core.callbacks event list queues c₁ = .ok (list₁, queues', c') ∧
      ((∃ t notice, c.sched.task? sub.extra = some t ∧ event.payload.Wakes sub.extra t ∧
          c₁ = { c with sched :=
            (c.sched.setTask sub.extra (t.woken event.payload)).note notice } ∧
          list' = list₁) ∨
        (c₁ = c ∧ (∀ t, c.sched.task? sub.extra = some t → ¬ event.payload.Wakes sub.extra t) ∧
          list' = sub :: list₁)) := by
  obtain ⟨⟨⟨action, c₁⟩, queues₁⟩, told, next⟩ := Checked.bind_eq_ok.1 h
  obtain ⟨_, answered, eq⟩ := Checked.bind_eq_ok.1 told
  cases eq
  rcases Core.onEvent_eq_ok serves answered with
    ⟨t, notice, found, wakes, rfl, rfl⟩ | ⟨rfl, rfl, rest⟩
  · obtain ⟨⟨list₁, queues₂, c₂⟩, others, eq⟩ := Checked.bind_eq_ok.1 next
    cases eq
    exact ⟨_, list₁, others, .inl ⟨t, notice, found, wakes, rfl, rfl⟩⟩
  · obtain ⟨⟨list₁, queues₂, c₂⟩, others, eq⟩ := Checked.bind_eq_ok.1 next
    cases eq
    exact ⟨_, list₁, others, .inr ⟨rfl, rest, rfl⟩⟩

/-- Telling the listeners of an event is a sequence of moves. -/
theorem moves_tell (bus : EventBus KernelListener) (devices : Vector (Option EntityId) maxDevices)
    (pre : List (Subscription KernelListener)) (held : List EntityId) (falling : Option EntityId)
    (own : ∀ sub ∈ list, sub.listener.serves event.kind = true)
    (h : EventBus.tell Core.callbacks event list queues c = .ok (list', queues', c')) :
    Moves Label.InPass
      ⟨(⟨c, bus, devices⟩ : Kernel π).setListeners event.kind (pre ++ list), held, falling⟩
      ⟨(⟨c', bus, devices⟩ : Kernel π).setListeners event.kind (pre ++ list'), held, falling⟩ := by
  induction list generalizing c pre list' with
  | nil => cases h; exact .refl _
  | cons sub list ih =>
    have serves := own sub List.mem_cons_self
    have own := fun other mem => own other (List.mem_cons_of_mem sub mem)
    obtain ⟨c₁, list₁, told, woken | kept⟩ := tell_cons_eq_ok serves h
    · obtain ⟨t, notice, found, wakes, rfl, rfl⟩ := woken
      have move : Move _ ⟨(⟨c, bus, devices⟩ : Kernel π).setListeners event.kind
          (pre ++ sub :: list), held, falling⟩ _ :=
        .wake (ByKind.get_set_self _ _ _) found wakes
      refine .trans (.single (.inr rfl) move) ?_
      refine .trans (.mono (fun _ => .inl) (moves_note _ held falling notice)) ?_
      have rest := ih pre own told
      rw [← setListeners_setListeners _ _ (pre ++ sub :: list)] at rest
      exact rest
    · obtain ⟨rfl, -, rfl⟩ := kept
      have rest := ih (pre ++ [sub]) own told
      rw [List.append_assoc, List.append_assoc] at rest
      exact rest

/-- The kernel's callbacks leave the bus alone. -/
theorem callbacks_quiet : (Core.callbacks (π := π)).Quiet :=
  ⟨fun _ _ _ _ => ⟨_, rfl⟩, fun _ _ => ⟨_, rfl⟩⟩

/-- Taking an event off the bus and delivering it is a sequence of moves. -/
theorem moves_deliver {bus' : EventBus KernelListener}
    (own : ∀ kind, ∀ sub ∈ bus.registry.lists.get kind, sub.listener.serves kind = true)
    (taken : bus.queues.Takes event queues)
    (h : EventBus.deliver Core.callbacks { bus with queues } event c = .ok (bus', c')) :
    Moves Label.InPass ⟨⟨c, bus, devices⟩, held, none⟩ ⟨⟨c', bus', devices⟩, held, none⟩ := by
  obtain ⟨list, c₁, told, released, rfl⟩ := EventBus.deliver_eq_ok callbacks_quiet h
  have fetched : Move .delivers ⟨(⟨c, bus, devices⟩ : Kernel π), held, none⟩ _ := .fetch taken
  have tell := moves_tell { bus with queues } devices [] (event.entity :: held) none (own _) told
  rw [List.nil_append, List.nil_append, setListeners_self ⟨c, { bus with queues }, devices⟩] at tell
  refine .trans (.single (.inr rfl) fetched) (tell.trans (.mono (fun _ => .inl) ?_))
  exact moves_coreRelease _ _ (Reaction.done.inj released) (.refl _)

/-- What telling the listeners of an event leaves of a task: a listener among them wakes it, or the
task does not wait for the event and its listener stays. -/
theorem slot_tell {pid : Pid} {t : Task}
    (own : ∀ sub ∈ list, sub.listener.serves event.kind = true)
    (h : EventBus.tell Core.callbacks event list queues c = .ok (list', queues', c'))
    (slot : c.sched.task? pid = some t) :
    (∃ t', c'.sched.task? pid = some t' ∧ t'.state = .ready) ∨
      (c'.sched.task? pid = some t ∧
        ∀ sub ∈ list, sub.extra = pid → ¬ event.payload.Wakes pid t ∧ sub ∈ list') := by
  induction list generalizing c list' t with
  | nil => cases h; exact .inr ⟨slot, nofun⟩
  | cons sub list ih =>
    have serves := own sub List.mem_cons_self
    have own := fun other mem => own other (List.mem_cons_of_mem sub mem)
    obtain ⟨c₁, list₁, told, woken | kept⟩ := tell_cons_eq_ok serves h
    · obtain ⟨u, notice, found, wakes, rfl, rfl⟩ := woken
      by_cases eq : pid = sub.extra
      · subst eq
        rcases ih own told (Scheduler.task?_setTask_self found _) with ready | ⟨slot', -⟩
        · exact .inl ready
        · exact .inl ⟨_, slot', wakes.state_woken⟩
      · rcases ih own told ((Scheduler.task?_setTask_of_ne _ _ eq).trans slot) with
          ready | ⟨slot', rest⟩
        · exact .inl ready
        · refine .inr ⟨slot', fun other mem extra => ?_⟩
          rcases List.mem_cons.1 mem with rfl | mem
          · exact absurd extra.symm eq
          · exact rest other mem extra
    · obtain ⟨rfl, deaf, rfl⟩ := kept
      rcases ih own told slot with ready | ⟨slot', rest⟩
      · exact .inl ready
      · refine .inr ⟨slot', fun other mem extra => ?_⟩
        rcases List.mem_cons.1 mem with rfl | mem
        · exact ⟨deaf t (extra ▸ slot) ∘ (extra ▸ ·), List.mem_cons_self⟩
        · exact (rest other mem extra).imp_right (List.mem_cons_of_mem sub)

/-- A delivery ends with a live task ready, or leaves it as it was with its listeners, if it does
not wait for the event. -/
theorem slot_deliver {bus' : EventBus KernelListener} {pid : Pid} {t : Task}
    (sound : Moment.Sound ⟨(⟨c, bus, devices⟩ : Kernel π), held, none⟩)
    (taken : bus.queues.Takes event queues)
    (h : EventBus.deliver Core.callbacks { bus with queues } event c = .ok (bus', c'))
    (slot : c.sched.task? pid = some t) (alive : t.isAlive = true) :
    (∃ t', c'.sched.task? pid = some t' ∧ t'.state = .ready) ∨
      (c'.sched.task? pid = some t ∧
        (∀ kind, ∀ sub ∈ bus.registry.lists.get kind, sub.extra = pid →
          sub ∈ bus'.registry.lists.get kind) ∧
        ∀ sub ∈ bus.registry.lists.get event.kind, sub.extra = pid →
          ¬ event.payload.Wakes pid t) := by
  obtain ⟨list, c₁, told, released, rfl⟩ := EventBus.deliver_eq_ok callbacks_quiet h
  have fetched : Move .delivers ⟨(⟨c, bus, devices⟩ : Kernel π), held, none⟩ _ := .fetch taken
  have tell := moves_tell { bus with queues } devices [] (event.entity :: held) none
    (sound.listeners _) told
  rw [List.nil_append, List.nil_append, setListeners_self ⟨c, { bus with queues }, devices⟩] at tell
  have sound₁ := tell.sound (fetched.sound sound)
  have release := moves_coreRelease { bus with
    queues, registry := { bus.registry with lists := bus.registry.lists.set event.kind list } }
    devices (Reaction.done.inj released) (.refl (event.entity :: held))
  rcases slot_tell (sound.listeners _) told slot with ⟨t', slot', ready⟩ | ⟨slot', rest⟩
  · have alive := sound₁.tasks.alive slot' (by rw [ready]; nofun)
    exact .inl ⟨t', release.slot_quiet sound₁ slot' alive, ready⟩
  · refine .inr ⟨release.slot_quiet sound₁ slot' alive, fun kind sub mem extra => ?_,
      fun sub mem extra => (rest sub mem extra).1⟩
    by_cases eq : event.kind = kind
    · subst eq
      rw [ByKind.get_set_self]
      exact (rest sub mem extra).2
    · rw [ByKind.get_set_of_ne _ _ eq]
      exact mem

/-! ## Passes -/

variable {k k' : Kernel π}

/-- Delivering everything that is queued is a sequence of moves. -/
theorem moves_deliverEvents (sound : Moment.Sound ⟨k, held, none⟩) (h : k.deliverEvents = .ok k') :
    Moves Label.InPass ⟨k, held, none⟩ ⟨k', held, none⟩ ∧ k'.bus.queues.events = [] := by
  obtain ⟨⟨bus, c⟩, delivered, eq⟩ := Checked.bind_eq_ok.1 h
  cases eq
  refine ⟨?_, EventBus.events_deliverAll callbacks_quiet delivered⟩
  refine EventBus.deliverAll_keeps (P := fun bus c =>
    Moves Label.InPass ⟨k, held, none⟩ ⟨⟨c, bus, k.devices⟩, held, none⟩) ?_ delivered (.refl _)
  exact
    { delivered := fun moves taken told =>
        moves.trans (moves_deliver (moves.sound sound).listeners taken told)
      refilled := fun moves oldest put => moves.tail (.inr rfl) (.shift oldest put) }

/-- A parked task that listens for what is queued is ready once everything was delivered. -/
theorem ready_of_queued {pid : Pid} {t : Task} (sound : Moment.Sound ⟨k, held, none⟩)
    (h : k.deliverEvents = .ok k') (slot : k.sched.task? pid = some t)
    (queued : event ∈ k.bus.queues.events) (wakes : event.payload.Wakes pid t)
    (listens : ∃ sub ∈ k.bus.registry.lists.get event.kind, sub.extra = pid) :
    ∃ t', k'.sched.task? pid = some t' ∧ t'.state = .ready := by
  have alive : t.isAlive = true :=
    sound.tasks.alive slot (by rcases wakes.parked with parked | parked <;> rw [parked] <;> nofun)
  obtain ⟨⟨bus, c⟩, delivered, eq⟩ := Checked.bind_eq_ok.1 h
  cases eq
  have kept := EventBus.deliverAll_keeps (P := fun bus c =>
    Moves Label.InPass ⟨k, held, none⟩ ⟨⟨c, bus, k.devices⟩, held, none⟩ ∧
      ((∃ t', c.sched.task? pid = some t' ∧ t'.state = .ready) ∨
        (c.sched.task? pid = some t ∧ event ∈ bus.queues.events ∧
          ∃ sub ∈ bus.registry.lists.get event.kind, sub.extra = pid)))
    { delivered := fun {bus c told queues bus' c'} ⟨moves, waits⟩ taken deliver => by
        have sound := moves.sound sound
        refine ⟨moves.trans (moves_deliver sound.listeners taken deliver), ?_⟩
        rcases waits with ⟨t', slot, ready⟩ | ⟨slot, queued, sub, mem, extra⟩
        · have alive := sound.tasks.alive slot (by rw [ready]; nofun)
          rcases slot_deliver sound taken deliver slot alive with ready' | ⟨slot', -⟩
          · exact .inl ready'
          · exact .inl ⟨t', slot', ready⟩
        · rcases slot_deliver sound taken deliver slot alive with ready | ⟨slot', lists, deaf⟩
          · exact .inl ready
          · have queued := taken.events.subset queued
            rcases List.mem_cons.1 queued with rfl | queued
            · exact absurd wakes (deaf sub mem extra)
            · refine .inr ⟨slot', ?_, sub, lists _ sub mem extra, extra⟩
              obtain ⟨list, c₁, -, -, rfl⟩ := EventBus.deliver_eq_ok callbacks_quiet deliver
              exact queued
      refilled := fun {bus c event' taken queues} ⟨moves, waits⟩ oldest put => by
        refine ⟨moves.tail (.inr rfl) (.shift oldest put), waits.imp_right ?_⟩
        rintro ⟨slot, queued, listens⟩
        exact ⟨slot, (Queues.events_refill oldest put).symm.subset queued, listens⟩ }
    delivered ⟨.refl _, .inr ⟨slot, queued, listens⟩⟩
  rcases kept.2 with ready | ⟨-, queued, -⟩
  · exact ready
  · rw [EventBus.events_deliverAll callbacks_quiet delivered] at queued
    cases queued

end Kernel

end Rtos

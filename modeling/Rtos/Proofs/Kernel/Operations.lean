import Rtos.Proofs.Kernel.Passes

/-!
# Operations as moves

Every operation of the kernel is a sequence of moves, its body, behind which a pass may run.  The
labels of the body tell what the operation does to the tasks: most operations are quiet, and the
others park, grant, wake, reap or exit on behalf of the current task.
-/

namespace Rtos

variable {π : Type} [Port π]

namespace Kernel

/-- What follows the body of an operation: nothing, or a pass. -/
inductive Closes (k k' : Kernel π) : Prop
  /-- Nothing follows. -/
  | rest (settled : k.Settled) (same : k' = k)
  /-- A pass follows. -/
  | pass (ready : k.Settled ∨ k.sched.sectionDepth = 0) (h : k.schedule = .ok k')

/-- An operation leads from one kernel to another by moves with certain labels, and possibly a pass
behind them. -/
def Operates (P : Label → Prop) (held held' : List EntityId) (k k' : Kernel π) : Prop :=
  ∃ k₁, Moves P ⟨k, held, none⟩ ⟨k₁, held', none⟩ ∧ Closes k₁ k'

variable {P Q : Label → Prop} {k k' k₁ : Kernel π} {held held' rest : List EntityId} {pid : Pid}

namespace Operates

theorem mono (le : ∀ label, P label → Q label) (h : Operates P held held' k k') :
    Operates Q held held' k k' := by
  obtain ⟨k₁, body, closes⟩ := h
  exact ⟨k₁, body.mono le, closes⟩

theorem still (moves : Moves P ⟨k, held, none⟩ ⟨k', held', none⟩)
    (steady : ∀ label, P label → label.steady = true) (sound : Moment.Sound ⟨k, held, none⟩)
    (settled : k.Settled) : Operates P held held' k k' :=
  ⟨k', moves, .rest (moves.settled steady sound settled) rfl⟩

theorem none (settled : k.Settled) : Operates P held held k k :=
  ⟨k, .refl _, .rest settled rfl⟩

theorem moves (h : Operates P held held' k k') (sound : Moment.Sound ⟨k, held, .none⟩) :
    Moves (fun label => P label ∨ label.InSchedule) ⟨k, held, .none⟩ ⟨k', held', .none⟩ := by
  obtain ⟨k₁, body, ⟨-, rfl⟩ | ⟨-, pass⟩⟩ := h
  · exact body.mono fun _ => .inl
  · exact (body.mono fun _ => .inl).trans
      ((moves_schedule (body.sound sound) pass).mono fun _ => .inr)

/-- Who is parked behind an operation that parks it for nothing was parked before, for the same. -/
theorem waits_back {t' : Task} {state : TaskState} (h : Operates P held held' k k')
    (sound : Moment.Sound ⟨k, held, .none⟩) (slot' : k'.sched.task? pid = some t')
    (waits : t'.state = state) (parked : state.Parked) (none : ¬P (.parks pid state)) :
    ∃ t, k.sched.task? pid = some t ∧ t.state = state ∧ t.SameWait t' := by
  refine (h.moves sound).waits_back sound slot' waits parked ?_
  rintro (body | (quiet | delivers) | switches)
  · exact none body
  · cases quiet
  · cases delivers
  · cases switches

theorem sound (h : Operates P held held' k k') (sound : Moment.Sound ⟨k, held, .none⟩) :
    Moment.Sound ⟨k', held', .none⟩ :=
  (h.moves sound).sound sound

theorem settled (h : Operates P held held' k k') (sound : Moment.Sound ⟨k, held, .none⟩) :
    k'.Settled := by
  obtain ⟨k₁, body, ⟨settled, rfl⟩ | ⟨ready, pass⟩⟩ := h
  · exact settled
  · exact settled_schedule (body.sound sound) pass ready

end Operates

theorem steady_quiet (label : Label) (quiet : label = .quiet) : label.steady = true := by
  rw [quiet]; rfl

theorem steady_posts {payload : Payload} (label : Label)
    (posts : label = .quiet ∨ label = .posts payload) : label.steady = true := by
  rcases posts with rfl | rfl <;> rfl

theorem calm_posts {payload : Payload} (label : Label)
    (posts : label = .quiet ∨ label = .posts payload) : label.Calm :=
  posts.imp_right fun posts => ⟨payload, posts⟩

/-! ## Entities and events -/

section events

variable {parent : Option EntityId} {payload : Payload} {event : Event} {id : EntityId}

omit [Port π] in
/-- The entities that announcements are made under are no events. -/
theorem lasting_of_owner? {o : Owner} {id : EntityId} (owned : k.entities.owner? id = some o)
    (other : o ≠ .event) :
    ∀ p e, some id = some p → k.entities.get? p = some e → e.owner ≠ .event := by
  rintro p e ⟨⟩ found
  obtain ⟨e', found', rfl⟩ := EntityTree.owner?_eq_some.1 owned
  cases found.symm.trans found'
  exact other

/-- Creating an entity for an event is a move; a refusal changes nothing. -/
theorem moves_createEntity {result : Except Error EntityId}
    (lasting : ∀ p e, parent = some p → k.entities.get? p = some e → e.owner ≠ .event)
    (h : k.createEntity parent .event .nothing = .ok (result, k')) :
    (∃ e, result = .error e ∧ k' = k) ∨
      ∃ id, result = .ok id ∧ k'.entities.owner? id = some .event ∧ k'.bus = k.bus ∧
        k'.sched = k.sched ∧
        ∀ {held}, Moves (· = .quiet) ⟨k, held, none⟩ ⟨k', id :: held, none⟩ := by
  obtain ⟨created, create, h⟩ := Checked.bind_eq_ok.1 h
  cases created with
  | error e => cases h; exact .inl ⟨e, rfl, rfl⟩
  | ok created =>
    obtain ⟨id, entities⟩ := created
    cases h
    obtain ⟨p, e, tag, above, cleanup, found, free, rfl⟩ := EntityTree.create_eq_ok create
    cases cleanup
    refine .inr ⟨id, rfl, ?_, rfl, rfl,
      .single rfl (.createEvent found (lasting p e above found) free)⟩
    change (k.entities.addChild p e id .event .nothing).owner? id = _
    rw [EntityTree.owner?_addChild found, if_pos rfl]

/-- Dispatching an event is a sequence of moves. If the event is handed back, it stays in hand. -/
theorem moves_dispatch {result : Dispatched} (owner : k.entities.owner? event.entity = some .event)
    (h : k.dispatch event = .ok (result, k')) :
    k'.sched.tasks = k.sched.tasks ∧ k'.bus.registry = k.bus.registry ∧
      (((∀ handed, result ≠ .refused handed) ∧
          k'.bus.queues.events.Perm (event :: k.bus.queues.events) ∧
        ∀ {held rest}, held.Perm (event.entity :: rest) →
          Moves (fun label => label = .quiet ∨ label = .posts event.payload) ⟨k, held, none⟩
            ⟨k', rest, none⟩) ∨
      (result = .refused event ∧ k'.bus.queues.events = k.bus.queues.events ∧
        ∀ {held}, Moves (· = .quiet) ⟨k, held, none⟩ ⟨k', held, none⟩)) := by
  obtain ⟨queues, dispatched, rfl⟩ := Kernel.dispatch_eq_ok h
  refine ⟨rfl, rfl, ?_⟩
  rcases Queues.dispatch_eq_ok dispatched with ⟨queued, perm, -⟩ | ⟨rfl, dropped, rfl⟩
  · refine .inl ⟨queued, perm, fun mine => ?_⟩
    exact .trans (.single (.inr rfl) (.post mine owner dispatched queued))
      (.mono (fun _ => .inl) (moves_note _ _ none _))
  · refine .inr ⟨rfl, rfl, ?_⟩
    exact .single rfl
      (.book { k.books with dropped, journal := _ :: k.sched.journal } (Nat.le_refl _))

/-- Announcing is a sequence of moves; the event is queued, or it is refused and everything is
taken back. -/
theorem moves_announce {result : Except Error Unit}
    (lasting : ∀ p e, parent = some p → k.entities.get? p = some e → e.owner ≠ .event)
    (h : k.announce parent payload = .ok (result, k')) :
    Moves (fun label => label = .quiet ∨ label = .posts payload) ⟨k, held, none⟩
        ⟨k', held, none⟩ ∧
      ((result = .ok () ∧
          ∃ entity, k'.bus.queues.events.Perm (⟨entity, payload⟩ :: k.bus.queues.events)) ∨
        ((∃ e, result = .error e) ∧ k'.bus.queues.events = k.bus.queues.events)) := by
  obtain ⟨⟨created, k₁⟩, create, next⟩ := Checked.bind_eq_ok.1 h
  rcases moves_createEntity lasting create with ⟨e, rfl, rfl⟩ | ⟨id, rfl, owner, bus, -, create⟩
  · cases next; exact ⟨.refl _, .inr ⟨⟨e, rfl⟩, rfl⟩⟩
  · obtain ⟨⟨dispatched, k₂⟩, dispatch, next⟩ := Checked.bind_eq_ok.1 next
    rw [← bus]
    obtain ⟨-, -, ⟨queued, perm, post⟩ | ⟨rfl, same, post⟩⟩ := moves_dispatch owner dispatch
    · cases dispatched with
      | refused handed => exact absurd rfl (queued handed)
      | queued | overflowed =>
        cases next
        exact ⟨.trans (.mono (fun _ => .inl) create) (post (.refl _)), .inl ⟨rfl, id, perm⟩⟩
    · obtain ⟨k₃, release, eq⟩ := Checked.bind_eq_ok.1 next
      cases eq
      have kept : k'.bus = k₂.bus := by
        obtain ⟨core, -, eq⟩ := Checked.bind_eq_ok.1 release
        cases eq
        rfl
      exact ⟨.mono (fun _ => .inl) (create.trans (post.trans (moves_release release (.refl _)))),
        .inr ⟨⟨_, rfl⟩, kept ▸ same⟩⟩

end events

/-! ## Sections and the clock -/

theorem operates_enterSection (sound : Moment.Sound ⟨k, held, none⟩) (settled : k.Settled)
    (h : k.enterSection = .ok k') : Operates (· = .quiet) held held k k' := by
  obtain ⟨sectionDepth, -, eq⟩ := Checked.bind_eq_ok.1 h
  cases eq
  exact .still (.single rfl (.book { k.books with sectionDepth } (Nat.le_refl _))) steady_quiet
    sound settled

/-- What leaving an atomic section does. -/
inductive LeaveStep (k : Kernel π) : Kernel π → Prop
  /-- The last open section is left, and a pass was asked for. -/
  | passes {k' : Kernel π} (last : k.sched.sectionDepth = 1)
      (pending : k.sched.passPending = true)
      (pass : ({ k with sched := { k.sched with sectionDepth := k.sched.sectionDepth - 1 } } :
        Kernel π).schedule = .ok k') : LeaveStep k k'
  /-- Other sections are open, or no pass was asked for. -/
  | closes (opened : 0 < k.sched.sectionDepth)
      (calm : ¬ (k.sched.sectionDepth = 1 ∧ k.sched.passPending = true)) :
      LeaveStep k { k with sched := { k.sched with sectionDepth := k.sched.sectionDepth - 1 } }

theorem LeaveStep.of_eq_ok (h : k.leaveSection = .ok k') : k.LeaveStep k' := by
  unfold leaveSection at h
  split at h
  case isTrue => cases h
  case isFalse opened =>
    have opened : 0 < k.sched.sectionDepth := Nat.pos_of_ne_zero opened
    dsimp only at h
    split at h
    case isTrue last =>
      simp only [Bool.and_eq_true, decide_eq_true_eq] at last
      exact .passes (by omega) last.2 h
    case isFalse calm =>
      simp only [Bool.and_eq_true, decide_eq_true_eq] at calm
      cases h
      exact .closes opened fun last => calm ⟨by omega, last.2⟩

theorem operates_leaveSection (sound : Moment.Sound ⟨k, held, none⟩) (settled : k.Settled)
    (h : k.leaveSection = .ok k') : Operates (· = .quiet) held held k k' := by
  have left : Moves (· = .quiet) ⟨k, held, none⟩
      ⟨{ k with sched := { k.sched with sectionDepth := k.sched.sectionDepth - 1 } }, held, none⟩ :=
    .single rfl (.book { k.books with sectionDepth := k.sched.sectionDepth - 1 } (Nat.le_refl _))
  cases LeaveStep.of_eq_ok h with
  | passes _ _ pass => exact ⟨_, left, .pass (.inl settled) pass⟩
  | closes => exact .still left steady_quiet sound settled

theorem operates_schedule (settled : k.Settled) (h : k.schedule = .ok k') :
    Operates (· = .quiet) held held k k' :=
  ⟨k, .refl _, .pass (.inl settled) h⟩

theorem operates_tick (settled : k.Settled) (h : k.tick = .ok k') :
    Operates (· = .quiet) held held k k' :=
  ⟨_, .single rfl (.book { k.books with tick := k.sched.tick + 1 } (Nat.le_refl _)),
    .pass (.inl settled) h⟩

end Kernel

end Rtos

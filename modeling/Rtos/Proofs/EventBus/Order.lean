import Rtos.Proofs.EventBus.Conservation

/-!
# The order of delivery

Events of one kind leave a bus in the order in which they were accepted, as long as what has overflowed
is newer than what the queue of its kind holds.  A dispatch in the middle of a pass breaks that when the
queue of its kind has places again while older events wait in the overflow queue, and so does an
overflowed event that finds its queue full and is delivered at once (`Overtakes`).
`BusStep.keepsOrder_iff` shows that no other move does, and `EventBus.inOrder_iff_of_work` concludes
that the order holds at every moment exactly if no event gets ahead of another.  A run in which one does
follows (`EventBus.late_event_overtakes`).
-/

namespace Rtos

variable {κ σ : Type}

/-- The event of which a listener is told. -/
def BusAct.told? : BusAct κ → Option Event
  | .told _ _ event => some event
  | _ => none

/-- The events of which listeners were told, in order. -/
def toldEvents (log : List (BusAct κ)) : List Event :=
  log.filterMap BusAct.told?

/-! ## Who waits in front of whom -/

/-- The events of a kind, in order. -/
def ofKind (kind : EventKind) (events : List Event) : List Event :=
  events.filter fun event => event.kind = kind

/-- The events of a kind that wait in queues: those in its own queue, and behind them those that have
overflowed. -/
def Queues.waiting (q : Queues) (kind : EventKind) : List Event :=
  (q.pending.get kind).items ++ ofKind kind q.overflow.items

/-- The events of a kind that are not released yet, in the order in which they should be: in front of the
waiting ones the one that is being delivered. -/
def BusState.waiting (state : BusState κ) (kind : EventKind) : List Event :=
  ofKind kind state.phase.event?.toList ++ state.bus.queues.waiting kind

/-- The events of each kind were accepted in the order in which they were released and still wait. -/
def BusState.InOrder (state : BusState κ) (log : List (BusAct κ)) : Prop :=
  ∀ kind, ofKind kind (acceptedEvents log) = ofKind kind (releasedEvents log) ++ state.waiting kind

/-- A move lets an event get ahead of another one of its kind. -/
inductive Overtakes : BusState κ → BusMove κ → Prop
  /-- A dispatched event finds a place in its queue while an older one waits in the overflow queue. -/
  | queued {bus : EventBus κ} {phase : BusPhase κ} {event older : Event}
      (waits : older ∈ ofKind event.kind bus.queues.overflow.items) (other : older ≠ event) :
      Overtakes ⟨bus, phase⟩ (.act (.dispatched event .queued))
  /-- An overflowed event is delivered at once while an older one waits in its queue. -/
  | rushed {bus : EventBus κ} {event older : Event}
      (waits : older ∈ (bus.queues.pending.get event.kind).items) (other : older ≠ event) :
      Overtakes (.rest bus) (.rushed event)

section Lists

variable {event : Event} {kind : EventKind} {events more : List Event}

@[simp] theorem ofKind_nil : ofKind kind [] = [] := rfl

@[simp] theorem ofKind_append : ofKind kind (events ++ more) = ofKind kind events ++ ofKind kind more :=
  List.filter_append ..

theorem ofKind_cons_self : ofKind event.kind (event :: events) = event :: ofKind event.kind events :=
  List.filter_cons_of_pos (decide_eq_true rfl)

theorem ofKind_cons_of_ne (ne : event.kind ≠ kind) :
    ofKind kind (event :: events) = ofKind kind events :=
  List.filter_cons_of_neg (by rwa [decide_eq_true_eq])

/-- An event may go from the end of a list to the front if all others are like it, and only then. -/
theorem append_singleton_eq_cons_iff :
    events ++ [event] = event :: events ↔ ∀ other ∈ events, other = event := by
  induction events with
  | nil => exact ⟨nofun, fun _ => rfl⟩
  | cons first rest ih =>
    rw [List.cons_append, List.cons.injEq, List.forall_mem_cons]
    refine and_congr_right ?_
    rintro rfl
    exact ih

theorem ofKind_append_singleton_iff :
    (∀ kind, ofKind kind (events ++ [event]) = ofKind kind (event :: events)) ↔
      ∀ other ∈ ofKind event.kind events, other = event := by
  rw [← append_singleton_eq_cons_iff]
  refine ⟨fun same => ?_, fun same kind => ?_⟩
  · have same := same event.kind
    rwa [ofKind_append, ofKind_cons_self, ofKind_nil, ofKind_cons_self] at same
  · rw [ofKind_append]
    by_cases own : event.kind = kind
    · subst own
      rwa [ofKind_cons_self, ofKind_nil, ofKind_cons_self]
    · rw [ofKind_cons_of_ne own, ofKind_nil, ofKind_cons_of_ne own, List.append_nil]

end Lists

namespace Queues

variable {q r s : Queues} {event : Event} {result : Dispatched} {kind : EventKind}

/-- An event that gets a place in its queue is in front of all that have overflowed. -/
theorem waiting_enqueue? (h : q.enqueue? event = some r) (kind : EventKind) :
    r.waiting kind = (q.pending.get kind).items ++ ofKind kind (event :: q.overflow.items) := by
  have put := items_of_enqueue? h
  obtain ⟨pending, -, rfl⟩ := Option.map_eq_some_iff.1 h
  unfold waiting
  by_cases same : event.kind = kind
  · subst same
    rw [put, List.append_assoc, ofKind_cons_self, List.singleton_append]
  · rw [ofKind_cons_of_ne same, ByKind.get_set_of_ne _ _ same]

/-- The event taken from its queue waited in front of all others of its kind. -/
theorem waiting_dequeue? (sorted : q.Sorted) (h : q.dequeue? kind = some (event, r))
    (other : EventKind) : q.waiting other = ofKind other [event] ++ r.waiting other := by
  have items := items_of_dequeue? h
  have own : event.kind = kind := sorted kind event (items ▸ List.mem_cons_self)
  have overflow : r.overflow = q.overflow := by
    obtain ⟨_, -, eq⟩ := Option.map_eq_some_iff.1 h
    cases eq
    rfl
  unfold waiting
  rw [overflow]
  by_cases same : event.kind = other
  · subst own same
    rw [items, ofKind_cons_self, ofKind_nil, List.cons_append, List.singleton_append]
  · rw [ofKind_cons_of_ne same, ofKind_nil, (EventBus.pending_of_dequeue? h (own ▸ same)).1,
      List.nil_append]

/-- The event taken from the overflow queue waited behind its own queue and in front of all others that
have overflowed. -/
theorem waiting_dequeueOverflow? (h : q.dequeueOverflow? = some (event, r)) (kind : EventKind) :
    q.waiting kind = (r.pending.get kind).items ++ ofKind kind (event :: r.overflow.items) ∧
      r.pending = q.pending := by
  obtain ⟨⟨oldest, overflow⟩, popped, eq⟩ := Option.map_eq_some_iff.1 h
  cases eq
  unfold waiting
  rw [Fifo.pop?_eq_some.1 popped]
  exact ⟨rfl, rfl⟩

/-- An event that overflows waits behind all others, and one that is handed back does not wait. -/
theorem waiting_dispatch (h : q.dispatch event = .ok (result, r)) (kind : EventKind) :
    match result with
    | .queued => r.waiting kind = (q.pending.get kind).items ++ ofKind kind (event :: q.overflow.items)
    | .overflowed => r.waiting kind = q.waiting kind ++ ofKind kind [event]
    | .refused _ => r.waiting kind = q.waiting kind := by
  cases DispatchStep.of_eq_ok h with
  | queued put => exact waiting_enqueue? put kind
  | overflowed _ put =>
    unfold waiting
    dsimp only
    rw [(Fifo.push?_eq_some.1 put).2, ofKind_append, List.append_assoc]
  | refused => rfl

end Queues

/-! ## Which moves keep the order -/

/-- A dispatch that gives an event a place in its queue keeps the order if nothing else of its kind has
overflowed, and only then. -/
theorem overtakes_queued_iff {bus : EventBus κ} {phase : BusPhase κ} {event : Event} :
    Overtakes ⟨bus, phase⟩ (.act (.dispatched event .queued)) ↔
      ¬ ∀ other ∈ ofKind event.kind bus.queues.overflow.items, other = event := by
  constructor
  · intro ahead same
    cases ahead with
    | queued waits other => exact other (same _ waits)
  · intro differs
    obtain ⟨older, waits, other⟩ := not_forall₂.1 differs
    exact .queued waits other

/-- A delivery at once keeps the order if nothing else is in the queue of the event, and only then. -/
theorem overtakes_rushed_iff {bus : EventBus κ} {event : Event} :
    Overtakes (.rest bus) (.rushed event) ↔
      ¬ ∀ other ∈ (bus.queues.pending.get event.kind).items, other = event := by
  constructor
  · intro ahead same
    cases ahead with
    | rushed waits other => exact other (same _ waits)
  · intro differs
    obtain ⟨older, waits, other⟩ := not_forall₂.1 differs
    exact .rushed waits other

/-- A move keeps the order of what waits, of every kind, unless it lets an event get ahead of another. -/
theorem BusStep.keepsOrder_iff {state state' : BusState κ} {move : BusMove κ}
    (step : BusStep state move state') (sorted : state.bus.queues.Sorted) :
    (∀ kind, state.waiting kind ++ ofKind kind (acceptedEvents (BusMove.seen [move])) =
      ofKind kind (releasedEvents (BusMove.seen [move])) ++ state'.waiting kind) ↔
      ¬ Overtakes state move := by
  cases step with
  | @dispatch bus bus' phase event result free dispatch =>
    obtain ⟨queues, queued, rfl⟩ := EventBus.dispatch_eq_ok dispatch
    have waiting := Queues.waiting_dispatch queued
    cases result with
    | queued =>
      rw [overtakes_queued_iff, Classical.not_not, ← ofKind_append_singleton_iff]
      refine forall_congr' fun kind => ?_
      change (ofKind kind phase.event?.toList ++ ((bus.queues.pending.get kind).items ++
        ofKind kind bus.queues.overflow.items)) ++ ofKind kind [event] =
          ofKind kind phase.event?.toList ++ queues.waiting kind ↔ _
      rw [waiting kind, List.append_assoc, List.append_assoc, ← ofKind_append,
        List.append_cancel_left_eq, List.append_cancel_left_eq]
    | overflowed =>
      refine iff_of_true (fun kind => ?_) nofun
      change (_ ++ bus.queues.waiting kind) ++ ofKind kind [event] = _ ++ queues.waiting kind
      rw [waiting kind, List.append_assoc]
    | refused =>
      refine iff_of_true (fun kind => ?_) nofun
      change (_ ++ bus.queues.waiting kind) ++ [] = _ ++ queues.waiting kind
      rw [waiting kind, List.append_nil]
  | subscribe subscribe =>
    refine iff_of_true (fun kind => ?_) nofun
    unfold BusState.waiting BusState.rest
    rw [EventBus.queues_subscribe subscribe]
    exact List.append_nil _
  | unsubscribe unsubscribe =>
    cases unsubscribe
    exact iff_of_true (fun kind => List.append_nil _) nofun
  | take take =>
    refine iff_of_true (fun kind => ?_) nofun
    exact (List.append_nil _).trans (Queues.waiting_dequeue? sorted take kind)
  | @refill bus event taken queues take put =>
    refine iff_of_true (fun kind => ?_) nofun
    have same : bus.queues.waiting kind = queues.waiting kind :=
      (Queues.waiting_dequeueOverflow? take kind).1.trans (Queues.waiting_enqueue? put kind).symm
    exact (List.append_nil _).trans same
  | @rush bus event queues take full =>
    have moved (kind : EventKind) : bus.queues.waiting kind =
          ofKind kind [event] ++ queues.waiting kind ↔
        (bus.queues.pending.get kind).items ++ ofKind kind [event] =
          ofKind kind [event] ++ (bus.queues.pending.get kind).items := by
      obtain ⟨waiting, pending⟩ := Queues.waiting_dequeueOverflow? take kind
      unfold Queues.waiting at waiting ⊢
      rw [waiting, pending, ← List.singleton_append, ofKind_append, ← List.append_assoc,
        ← List.append_assoc, List.append_cancel_right_eq]
    rw [overtakes_rushed_iff, Classical.not_not, ← append_singleton_eq_cons_iff]
    refine ⟨fun keeps => ?_, fun same kind => ?_⟩
    · have own := (moved event.kind).1 ((List.append_nil _).symm.trans (keeps event.kind))
      rwa [ofKind_cons_self] at own
    · refine (List.append_nil _).trans ((moved kind).2 ?_)
      by_cases own : event.kind = kind
      · subst own
        rwa [ofKind_cons_self]
      · rw [ofKind_cons_of_ne own, ofKind_nil, List.append_nil, List.nil_append]
  | tell => exact iff_of_true (fun kind => List.append_nil _) nofun
  | @answer bus event passed due sub action =>
    refine iff_of_true (fun kind => ?_) nofun
    have same : (BusPhase.answered event passed sub due action).event? = some event := by
      unfold BusPhase.answered
      split <;> rfl
    unfold BusState.waiting
    rw [same]
    exact List.append_nil _
  | release => exact iff_of_true (fun kind => List.append_nil _) nofun

section Paths

variable {start state state' : BusState κ} {moves : List (BusMove κ)} {move : BusMove κ}

/-- Behind a move, things are in order if they were before it and the move lets no event get ahead, and
only then. -/
theorem BusStep.inOrder_iff (step : BusStep state move state') (sorted : state.bus.queues.Sorted)
    (ordered : state.InOrder (BusMove.seen moves)) :
    state'.InOrder (BusMove.seen (moves ++ [move])) ↔ ¬ Overtakes state move := by
  rw [← step.keepsOrder_iff sorted]
  refine forall_congr' fun kind => ?_
  rw [BusMove.seen_append, acceptedEvents, releasedEvents, List.filterMap_append,
    List.filterMap_append, ofKind_append, ofKind_append]
  change ofKind kind (acceptedEvents (BusMove.seen moves)) ++ _ =
    (ofKind kind (releasedEvents (BusMove.seen moves)) ++ _) ++ _ ↔ _
  rw [ordered kind, List.append_assoc, List.append_assoc, List.append_cancel_left_eq]
  rfl

/-- Events are delivered in order all along a path exactly if no move on it lets one get ahead of
another. -/
theorem BusPath.inOrder_iff (path : BusPath start moves state) (sorted : start.bus.queues.Sorted)
    (ordered : start.InOrder []) :
    (∀ before mid, before <+: moves → BusPath start before mid → mid.InOrder (BusMove.seen before)) ↔
      ∀ before move mid, before ++ [move] <+: moves → BusPath start before mid →
        ¬ Overtakes mid move := by
  constructor
  · intro always before move mid within first
    obtain ⟨mid', longer⟩ := path.of_prefix within
    obtain ⟨mid, first', step⟩ := longer.last
    cases first.unique first'
    refine (step.inOrder_iff (first.sorted sorted) ?_).1 (always _ _ within longer)
    exact always _ _ ((List.prefix_append _ _).trans within) first
  · intro never before mid within first
    induction first with
    | refl => exact ordered
    | snoc first step ih =>
      refine (step.inOrder_iff (first.sorted sorted) ?_).2 (never _ _ _ within first)
      exact ih ((List.prefix_append _ _).trans within)

end Paths

namespace EventBus

/-- Whatever is done with an empty bus is a path of moves, on which every release ends a delivery, and
events are delivered in the order in which they were accepted, those of each kind by themselves, all
along the path if and only if no move lets an event get ahead of another one of its kind. -/
theorem inOrder_iff_of_work {callbacks : Callbacks κ σ} {uses : List (BusUse κ σ)} {bus : EventBus κ}
    {s s' : σ} (h : work callbacks uses .empty s = .ok (bus, s')) :
    ∃ moves, BusPath (.rest .empty) moves (.rest bus) ∧
      work callbacks.recorded (uses.map .recorded) .empty (s, []) =
        .ok (bus, s', BusMove.seen moves) ∧
      Deliveries (BusMove.seen moves) bus.registry.lists ∧
      ((∀ before state, before <+: moves → BusPath (.rest .empty) before state →
          state.InOrder (BusMove.seen before)) ↔
        ∀ before move state, before ++ [move] <+: moves → BusPath (.rest .empty) before state →
          ¬ Overtakes state move) := by
  obtain ⟨moves, path, recorded⟩ := traced_work h
  have follows : Follows (BusMove.seen moves) (.rest bus) := path.follows (.resting .nothing)
  refine ⟨moves, path, recorded [], follows.deliveries, path.inOrder_iff ?_ ?_⟩
  · exact fun kind event mem => by cases kind <;> cases mem
  · exact fun kind => by cases kind <;> rfl

/-- One device event more than its queue has places for is dispatched, and a pass runs. -/
def overflowing : List (BusUse Unit (List Event)) :=
  .subscribing .device () 0 ::
    ((List.range (queueDepth + 1)).map fun number => .dispatching (.ofDevice number)) ++ [.pass 40]

/-- A listener that dispatches one event when it is told of the first one: the event is accepted last, and
the listener is told of it before the one that has overflowed. -/
theorem late_event_overtakes : ∃ bus log,
    work Callbacks.feeding.recorded (overflowing.map .recorded) .empty ([.ofDevice 99], []) =
        .ok (bus, [], log) ∧
      acceptedEvents log = (List.range (queueDepth + 1) ++ [99]).map .ofDevice ∧
      toldEvents log = (List.range queueDepth ++ [99, queueDepth]).map .ofDevice ∧
      ¬ ∀ kind, ofKind kind (toldEvents log) <+: ofKind kind (acceptedEvents log) := by
  have run : (work Callbacks.feeding.recorded (overflowing.map .recorded) .empty
      ([.ofDevice 99], [])).toOption.any (fun out => decide (out.2.1 = [] ∧
        acceptedEvents out.2.2 = (List.range (queueDepth + 1) ++ [99]).map .ofDevice ∧
        toldEvents out.2.2 = (List.range queueDepth ++ [99, queueDepth]).map .ofDevice)) = true := by
    decide +kernel
  obtain ⟨⟨bus, s, log⟩, run, seen⟩ := Checked.exists_of_any run
  obtain ⟨rfl, accepted, told⟩ := of_decide_eq_true seen
  refine ⟨bus, log, run, accepted, told, fun ordered => ?_⟩
  have ordered := ordered .device
  rw [accepted, told] at ordered
  exact absurd ordered (by decide)

/-- In some run a move lets an event get ahead of another. -/
theorem exists_overtakes : ∃ bus moves, BusPath (.rest .empty) moves (.rest bus) ∧
    work Callbacks.feeding overflowing .empty [.ofDevice 99] = .ok (bus, []) ∧
    ∃ before move state, before ++ [move] <+: moves ∧ BusPath (.rest .empty) before state ∧
      Overtakes state move := by
  have run : (work Callbacks.feeding overflowing .empty [.ofDevice 99]).toOption.any
      (fun out => decide (out.2 = [])) = true := by
    decide +kernel
  have record : (work Callbacks.feeding.recorded (overflowing.map .recorded) .empty
      ([.ofDevice 99], [])).toOption.any (fun out => decide
        ¬ ofKind .device (releasedEvents out.2.2) <+: ofKind .device (acceptedEvents out.2.2)) = true := by
    decide +kernel
  obtain ⟨⟨bus, s⟩, run, rest⟩ := Checked.exists_of_any run
  cases of_decide_eq_true rest
  obtain ⟨moves, path, recorded, -, inOrder⟩ := inOrder_iff_of_work run
  rw [recorded] at record
  refine ⟨bus, moves, path, run, ?_⟩
  by_contra never
  have ordered := inOrder.2 (fun before move state within first ahead =>
    never ⟨before, move, state, within, first, ahead⟩) moves _ List.prefix_rfl path .device
  exact of_decide_eq_true record ⟨_, ordered.symm⟩

end EventBus

end Rtos

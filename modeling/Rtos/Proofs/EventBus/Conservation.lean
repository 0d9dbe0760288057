import Rtos.Proofs.EventBus.History

/-!
# Events on a bus are conserved

An event that is dispatched is accepted or handed back.  An accepted event is in exactly one queue until
it is taken out to be delivered, and from then on it is in the hands of the delivery, which tells the
listeners of its kind of it, one after the other, and releases it.  `BusStep.held` says for each move
that it loses and invents no event, and `Deliveries` is the language of what can be seen on a bus.
`EventBus.conserved_of_work` puts them together for everything that can be done with an empty bus,
whatever the callbacks do in the meantime.
-/

namespace Rtos

variable {κ σ : Type}

/-! ## Accounts -/

namespace BusAct

/-- The event of a dispatch that accepts it. -/
def accepted? : BusAct κ → Option Event
  | .dispatched event .queued | .dispatched event .overflowed => some event
  | _ => none

/-- The event that a dispatch hands back. -/
def refused? : BusAct κ → Option Event
  | .dispatched _ (.refused handed) => some handed
  | _ => none

/-- The event of a release. -/
def released? : BusAct κ → Option Event
  | .released event => some event
  | _ => none

/-- The event of which a listener is told, or which is released. -/
def handled? : BusAct κ → Option Event
  | .told _ _ event | .released event => some event
  | _ => none

/-- Whether it is a dispatch. -/
def isDispatch : BusAct κ → Bool
  | .dispatched _ _ => true
  | _ => false

end BusAct

/-- The events that were accepted, in order. -/
def acceptedEvents (log : List (BusAct κ)) : List Event :=
  log.filterMap BusAct.accepted?

/-- The events that were handed back, in order. -/
def refusedEvents (log : List (BusAct κ)) : List Event :=
  log.filterMap BusAct.refused?

/-- The events that were released, in order. -/
def releasedEvents (log : List (BusAct κ)) : List Event :=
  log.filterMap BusAct.released?

/-- An event was accepted more often than it was released. -/
def Underway (log : List (BusAct κ)) (event : Event) : Prop :=
  (releasedEvents log).count event < (acceptedEvents log).count event

/-- The events that a bus has: the one that is being delivered, and those in its queues. -/
def BusState.held (state : BusState κ) : List Event :=
  state.phase.event?.toList ++ state.bus.queues.events

namespace Queues

variable {q r : Queues} {event : Event} {result : Dispatched}

/-- The queue of each kind holds events of that kind. -/
def Sorted (q : Queues) : Prop :=
  ∀ kind, ∀ event ∈ (q.pending.get kind).items, event.kind = kind

theorem Sorted.enqueue? (sorted : q.Sorted) (h : q.enqueue? event = some r) : r.Sorted := by
  intro kind other mem
  by_cases same : event.kind = kind
  · subst same
    rw [items_of_enqueue? h] at mem
    obtain mem | mem := List.mem_append.1 mem
    · exact sorted _ other mem
    · rw [List.mem_singleton.1 mem]
  · obtain ⟨pending, -, rfl⟩ := Option.map_eq_some_iff.1 h
    rw [ByKind.get_set_of_ne _ _ same] at mem
    exact sorted kind other mem

theorem Sorted.dequeue? {kind : EventKind} (sorted : q.Sorted)
    (h : q.dequeue? kind = some (event, r)) : r.Sorted := by
  intro kind' other mem
  by_cases same : kind = kind'
  · subst same
    refine sorted kind other ?_
    rw [items_of_dequeue? h]
    exact List.mem_cons_of_mem _ mem
  · obtain ⟨_, -, eq⟩ := Option.map_eq_some_iff.1 h
    cases eq
    rw [ByKind.get_set_of_ne _ _ same] at mem
    exact sorted kind' other mem

theorem Sorted.dequeueOverflow? (sorted : q.Sorted)
    (h : q.dequeueOverflow? = some (event, r)) : r.Sorted := by
  obtain ⟨_, -, eq⟩ := Option.map_eq_some_iff.1 h
  cases eq
  exact sorted

/-- A dispatched event goes into the queue of its kind or into none of these queues. -/
theorem Sorted.dispatch (sorted : q.Sorted) (h : q.dispatch event = .ok (result, r)) : r.Sorted := by
  cases DispatchStep.of_eq_ok h with
  | queued put => exact sorted.enqueue? put
  | overflowed => exact sorted
  | refused => exact sorted

theorem Takes.dropped (h : q.Takes event r) : r.dropped = q.dropped := by
  obtain ⟨kind, h⟩ | h := h
  · obtain ⟨_, -, eq⟩ := Option.map_eq_some_iff.1 h
    cases eq
    rfl
  · obtain ⟨_, -, eq⟩ := Option.map_eq_some_iff.1 h
    cases eq
    rfl

/-- As long as refusals can be counted, a dispatch comes to an end. -/
theorem dispatch_total (q : Queues) (event : Event) (below : q.dropped.value + 1 < Word.limit) :
    ∃ out, q.dispatch event = .ok out := by
  unfold dispatch
  split
  case h_1 => exact ⟨_, rfl⟩
  case h_2 =>
    split
    case h_1 => exact ⟨_, rfl⟩
    case h_2 =>
      have counted : q.dropped.increment = .ok ⟨q.dropped.value + 1⟩ :=
        Counter.increment_eq_ok.2 ⟨below, rfl⟩
      exact ⟨_, Checked.bind_eq_ok.2 ⟨_, counted, rfl⟩⟩

end Queues

/-! ## Each move keeps the accounts -/

/-- A move loses and invents no event: what is held before it, or accepted in it, is released in it or
held behind it. -/
theorem BusStep.held {state state' : BusState κ} {move : BusMove κ} (step : BusStep state move state') :
    (acceptedEvents (BusMove.seen [move]) ++ state.held).Perm
      (releasedEvents (BusMove.seen [move]) ++ state'.held) := by
  cases step with
  | @dispatch bus bus' phase event result free dispatch =>
    obtain ⟨queues, queued, rfl⟩ := EventBus.dispatch_eq_ok dispatch
    obtain ⟨accepted, perm, -⟩ | ⟨rfl, dropped, rfl⟩ := Queues.dispatch_eq_ok queued
    · have seen : acceptedEvents (BusMove.seen [.act (.dispatched event result : BusAct κ)]) = [event] := by
        cases result with
        | queued => rfl
        | overflowed => rfl
        | refused handed => exact absurd rfl (accepted handed)
      have put : (event :: (phase.event?.toList ++ bus.queues.events)).Perm
          (phase.event?.toList ++ queues.events) :=
        List.perm_middle.symm.trans (perm.symm.append_left _)
      rw [seen]
      exact put
    · exact .refl _
  | subscribe subscribe =>
    unfold BusState.held BusState.rest
    rw [EventBus.queues_subscribe subscribe]
    exact .refl _
  | unsubscribe unsubscribe =>
    cases unsubscribe
    exact .refl _
  | take take => exact Queues.events_dequeue? take
  | refill take put => exact (Queues.events_refill take put).symm
  | rush take => exact Queues.events_dequeueOverflow? take
  | tell => exact .refl _
  | @answer bus event passed due sub action =>
    have same : (BusPhase.answered event passed sub due action).event? = some event := by
      unfold BusPhase.answered
      split <;> rfl
    unfold BusState.held
    rw [same]
    exact .refl _
  | release => exact .refl _

/-- A move that hands an event back counts that, and no other move does. -/
theorem BusStep.dropped {state state' : BusState κ} {move : BusMove κ}
    (step : BusStep state move state') :
    state'.bus.queues.dropped.value =
      state.bus.queues.dropped.value + (refusedEvents (BusMove.seen [move])).length := by
  cases step with
  | @dispatch bus bus' phase event result free dispatch =>
    obtain ⟨queues, queued, rfl⟩ := EventBus.dispatch_eq_ok dispatch
    cases Queues.DispatchStep.of_eq_ok queued with
    | queued put =>
      obtain ⟨pending, -, rfl⟩ := Option.map_eq_some_iff.1 put
      rfl
    | overflowed => rfl
    | refused _ _ counted => exact (Counter.increment_eq_ok.1 counted).2
  | subscribe subscribe =>
    exact congrArg (·.dropped.value) (EventBus.queues_subscribe subscribe)
  | unsubscribe unsubscribe =>
    cases unsubscribe
    rfl
  | take take => exact congrArg Counter.value (Queues.Takes.dropped (.inl ⟨_, take⟩))
  | @refill bus event taken queues take put =>
    have kept : taken.dropped = bus.queues.dropped := Queues.Takes.dropped (.inr take)
    obtain ⟨pending, -, rfl⟩ := Option.map_eq_some_iff.1 put
    exact congrArg Counter.value kept
  | rush take => exact congrArg Counter.value (Queues.Takes.dropped (.inr take))
  | tell => rfl
  | answer => rfl
  | release => rfl

/-- The event that a dispatch hands back is the one that was dispatched. -/
theorem BusStep.returned {state state' : BusState κ} {move : BusMove κ} {event handed : Event}
    (step : BusStep state move state')
    (seen : move.act? = some (.dispatched event (.refused handed))) : handed = event := by
  cases step with
  | dispatch free dispatch =>
    cases seen
    obtain ⟨queues, queued, rfl⟩ := EventBus.dispatch_eq_ok dispatch
    exact ((Queues.refused_iff queued).2 handed rfl).1
  | subscribe | unsubscribe | tell | answer | release => cases seen
  | take | refill | rush => cases seen

theorem BusStep.sorted {state state' : BusState κ} {move : BusMove κ} (step : BusStep state move state')
    (sorted : state.bus.queues.Sorted) : state'.bus.queues.Sorted := by
  cases step with
  | dispatch free dispatch =>
    obtain ⟨queues, queued, rfl⟩ := EventBus.dispatch_eq_ok dispatch
    exact sorted.dispatch queued
  | subscribe subscribe =>
    exact EventBus.queues_subscribe subscribe ▸ sorted
  | unsubscribe unsubscribe =>
    cases unsubscribe
    exact sorted
  | take take => exact sorted.dequeue? take
  | refill take put => exact (sorted.dequeueOverflow? take).enqueue? put
  | rush take => exact sorted.dequeueOverflow? take
  | tell => exact sorted
  | answer => exact sorted
  | release => exact sorted

/-- An event that a listener is told of, or that is released, is the one being delivered. -/
theorem BusStep.handled {state state' : BusState κ} {move : BusMove κ} {act : BusAct κ} {event : Event}
    (step : BusStep state move state') (seen : move.act? = some act)
    (handled : act.handled? = some event) : state.phase.event? = some event := by
  cases step with
  | tell => cases seen; exact handled
  | release => cases seen; exact handled
  | dispatch => cases seen; cases handled
  | subscribe => cases seen; cases handled
  | unsubscribe => cases seen; cases handled
  | answer => cases seen; cases handled
  | take => cases seen
  | refill => cases seen
  | rush => cases seen

namespace BusPath

variable {state state' : BusState κ} {moves : List (BusMove κ)}

/-- On a path no event is lost and none is invented. -/
theorem held (path : BusPath state moves state') :
    (acceptedEvents (BusMove.seen moves) ++ state.held).Perm
      (releasedEvents (BusMove.seen moves) ++ state'.held) := by
  induction path with
  | refl => exact .refl _
  | snoc before step ih =>
    have last := step.held
    simp only [BusMove.seen_append, acceptedEvents, releasedEvents, List.filterMap_append,
      List.perm_iff_count, List.count_append] at ih last ⊢
    intro event
    have ih := ih event
    have last := last event
    omega

theorem dropped (path : BusPath state moves state') :
    state'.bus.queues.dropped.value =
      state.bus.queues.dropped.value + (refusedEvents (BusMove.seen moves)).length := by
  induction path with
  | refl => rfl
  | snoc before step ih =>
    rw [step.dropped, ih, BusMove.seen_append, refusedEvents, refusedEvents, refusedEvents,
      List.filterMap_append, List.length_append, Nat.add_assoc]

theorem returned (path : BusPath state moves state') {event handed : Event}
    (seen : .dispatched event (.refused handed) ∈ BusMove.seen moves) : handed = event := by
  induction path with
  | refl => cases seen
  | snoc before step ih =>
    rw [BusMove.seen_append, BusMove.seen_singleton] at seen
    obtain earlier | last := List.mem_append.1 seen
    · exact ih earlier
    · exact step.returned (Option.mem_toList.1 last)

theorem sorted (path : BusPath state moves state') (sorted : state.bus.queues.Sorted) :
    state'.bus.queues.Sorted := by
  induction path with
  | refl => exact sorted
  | snoc before step ih => exact step.sorted ih

/-- On a path from a bus without events, whoever is told of an event is told of one that was accepted
and is not released yet, and only such events are released. -/
theorem underway (path : BusPath state moves state') (none : state.held = [])
    {moment : List (BusAct κ)} {act : BusAct κ} {event : Event}
    (seen : moment ++ [act] <+: BusMove.seen moves) (handled : act.handled? = some event) :
    Underway moment event := by
  induction path with
  | refl => exact absurd (List.prefix_nil.1 seen) (List.append_ne_nil_of_right_ne_nil _ nofun)
  | @snoc mid state'' moves move before step ih =>
    rw [BusMove.seen_append, BusMove.seen_singleton] at seen
    cases shown : move.act? with
    | none =>
      rw [shown, Option.toList_none, List.append_nil] at seen
      exact ih seen
    | some last =>
      rw [shown, Option.toList_some] at seen
      obtain whole | earlier := List.prefix_concat_iff.1 seen
      case inr => exact ih earlier
      -- The last act is the one in question, and its event is among those that are held before it.
      obtain ⟨rfl, same⟩ := List.append_inj' whole rfl
      cases same
      have balance := before.held.count_eq event
      rw [none, List.append_nil, List.count_append, BusState.held, step.handled shown handled,
        Option.toList_some, List.count_append, List.count_singleton_self] at balance
      unfold Underway
      omega

end BusPath

/-! ## What can be seen on a bus -/

/-- What is seen while an event is told to listeners, and which of them stay: each one is told once, may
dispatch, and answers, and behind one that answers `STOP` nobody is told. -/
inductive Offers (event : Event) :
    List (Subscription κ) → List (BusAct κ) → List (Subscription κ) → Prop
  /-- Nobody is left. -/
  | nil : Offers event [] [] []
  /-- The next one is told, and then the others. -/
  | next {sub : Subscription κ} {due kept : List (Subscription κ)} {own acts : List (BusAct κ)}
      {action : ListenerAction} (dispatches : ∀ act ∈ own, act.isDispatch = true)
      (goes : action.contains ListenerAction.stop = false) (others : Offers event due acts kept) :
      Offers event (sub :: due)
        (.told sub.listener sub.extra event :: own ++ [.answered action] ++ acts)
        (sub.after action ++ kept)
  /-- The next one is told, and is the last. -/
  | stop {sub : Subscription κ} {due : List (Subscription κ)} {own : List (BusAct κ)}
      {action : ListenerAction} (dispatches : ∀ act ∈ own, act.isDispatch = true)
      (stops : action.contains ListenerAction.stop = true) :
      Offers event (sub :: due) (.told sub.listener sub.extra event :: own ++ [.answered action])
        (sub.after action ++ due)

/-- What is seen on a bus that had no listeners, and the lists of listeners behind it: dispatches,
listeners that come and go, and deliveries.  In a delivery an event is offered to the listeners of its
own kind, once, and is then released; nobody is told of an event in any other way, and no event is
released in any other way. -/
inductive Deliveries : List (BusAct κ) → ByKind (List (Subscription κ)) → Prop
  /-- Nothing has happened. -/
  | nothing : Deliveries [] (.replicate [])
  /-- An event is dispatched. -/
  | dispatched {log : List (BusAct κ)} {lists : ByKind (List (Subscription κ))}
      (before : Deliveries log lists) (event : Event) (result : Dispatched) :
      Deliveries (log ++ [.dispatched event result]) lists
  /-- A listener is registered. -/
  | subscribed {log : List (BusAct κ)} {lists : ByKind (List (Subscription κ))}
      (before : Deliveries log lists) (kind : EventKind) (sub : Subscription κ) :
      Deliveries (log ++ [.subscribed kind sub.listener sub.extra (.ok sub.id)])
        (lists.set kind (lists.get kind ++ [sub]))
  /-- A listener is refused. -/
  | excluded {log : List (BusAct κ)} {lists : ByKind (List (Subscription κ))}
      (before : Deliveries log lists) (kind : EventKind) (listener : κ) (extra : Nat)
      (error : Error) :
      Deliveries (log ++ [.subscribed kind listener extra (.error error)]) lists
  /-- A listener is taken off its list, if it is there. -/
  | unsubscribed {log : List (BusAct κ)} {lists : ByKind (List (Subscription κ))}
      (before : Deliveries log lists) (kind : EventKind) (id : ListenerId) (found : Bool) :
      Deliveries (log ++ [.unsubscribed kind id found])
        (lists.set kind ((lists.get kind).eraseP (·.id == id)))
  /-- An event is delivered. -/
  | delivered {log acts : List (BusAct κ)} {lists : ByKind (List (Subscription κ))} {event : Event}
      {kept : List (Subscription κ)} (before : Deliveries log lists)
      (offers : Offers event (lists.get event.kind) acts kept) :
      Deliveries (log ++ acts ++ [.released event]) (lists.set event.kind kept)

/-- What was seen when a bus stands somewhere in a delivery: deliveries and, if one goes on, what fits
before whatever its listeners will do yet. -/
inductive Follows : List (BusAct κ) → BusState κ → Prop
  /-- Nothing is being delivered. -/
  | resting {log : List (BusAct κ)} {bus : EventBus κ} (before : Deliveries log bus.registry.lists) :
      Follows log (.rest bus)
  /-- An event is told to listeners. -/
  | telling {log acts : List (BusAct κ)} {bus : EventBus κ} {event : Event}
      {passed due : List (Subscription κ)} (before : Deliveries log bus.registry.lists)
      (fits : ∀ {more kept}, Offers event due more kept →
        Offers event (bus.registry.lists.get event.kind) (acts ++ more) (passed ++ kept)) :
      Follows (log ++ acts) ⟨bus, .telling event passed due⟩
  /-- One of them was told. -/
  | hearing {log acts own : List (BusAct κ)} {bus : EventBus κ} {event : Event}
      {passed due : List (Subscription κ)} {sub : Subscription κ}
      (before : Deliveries log bus.registry.lists) (dispatches : ∀ act ∈ own, act.isDispatch = true)
      (fits : ∀ {more kept}, Offers event (sub :: due) more kept →
        Offers event (bus.registry.lists.get event.kind) (acts ++ more) (passed ++ kept)) :
      Follows (log ++ acts ++ .told sub.listener sub.extra event :: own)
        ⟨bus, .hearing event passed sub due⟩

/-- Each move fits what was seen before it. -/
theorem BusStep.follows {state state' : BusState κ} {move : BusMove κ} {log : List (BusAct κ)}
    (step : BusStep state move state') (start : Follows log state) :
    Follows (log ++ BusMove.seen [move]) state' := by
  cases step with
  | @dispatch bus bus' phase event result free dispatch =>
    obtain ⟨queues, -, rfl⟩ := EventBus.dispatch_eq_ok dispatch
    cases start with
    | resting before => exact .resting (before.dispatched event result)
    | telling => cases free
    | hearing before dispatches fits =>
      rw [List.append_assoc, List.cons_append]
      refine .hearing before (fun act mem => ?_) fits
      obtain mem | mem := List.mem_append.1 mem
      · exact dispatches act mem
      · cases List.mem_singleton.1 mem
        rfl
  | @subscribe bus bus' kind listener extra result subscribe =>
    cases start with
    | resting before =>
      obtain ⟨issued, -, ⟨rfl, -, rfl⟩ | ⟨⟨error, rfl⟩, rfl⟩⟩ := EventBus.subscribe_eq_ok subscribe
      · exact .resting (before.subscribed kind ⟨⟨issued.value⟩, listener, extra⟩)
      · exact .resting (before.excluded kind listener extra error)
  | @unsubscribe bus bus' kind id found unsubscribe =>
    cases start with
    | resting before =>
      cases unsubscribe
      exact .resting (before.unsubscribed kind id _)
  | take take =>
    cases start with
    | resting before => exact .telling before fun offers => offers
  | refill =>
    cases start with
    | resting before =>
      rw [show BusMove.seen _ = [] from rfl, List.append_nil]
      exact .resting before
  | rush =>
    cases start with
    | resting before => exact .telling before fun offers => offers
  | tell =>
    cases start with
    | telling before fits => exact .hearing before nofun fits
  | @answer bus event passed due sub action =>
    cases start with
    | hearing before dispatches fits =>
      unfold BusPhase.answered
      rw [List.append_assoc, List.append_assoc]
      split
      case isTrue stops =>
        refine .telling before fun {more kept} offers => ?_
        cases offers
        rw [List.append_nil, List.append_nil]
        exact fits (.stop dispatches stops)
      case isFalse goes =>
        refine .telling before fun {more kept} offers => ?_
        rw [List.append_assoc, List.append_assoc passed]
        exact fits (.next dispatches (Bool.eq_false_iff.2 goes) offers)
  | @release bus event passed =>
    cases start with
    | telling before fits =>
      have offers := fits .nil
      rw [List.append_nil, List.append_nil] at offers
      exact .resting (before.delivered offers)

theorem BusPath.follows {state state' : BusState κ} {moves : List (BusMove κ)} {log : List (BusAct κ)}
    (path : BusPath state moves state') (start : Follows log state) :
    Follows (log ++ BusMove.seen moves) state' := by
  induction path with
  | refl => rwa [BusMove.seen_nil, List.append_nil]
  | snoc before step ih =>
    rw [BusMove.seen_append, ← List.append_assoc]
    exact step.follows ih

theorem Follows.deliveries {log : List (BusAct κ)} {bus : EventBus κ} (h : Follows log (.rest bus)) :
    Deliveries log bus.registry.lists := by
  cases h with
  | resting before => exact before

/-! ## Everything that can be done with a bus -/

namespace EventBus

/-- What was seen on a bus since it was empty, and what it holds now. -/
structure Conserves (log : List (BusAct κ)) (bus : EventBus κ) : Prop where
  /-- Each event that was accepted was released or is in a queue, once, and no other event is. -/
  accounted : (acceptedEvents log).Perm (releasedEvents log ++ bus.queues.events)
  /-- The queue of each kind holds events of that kind. -/
  sorted : bus.queues.Sorted
  /-- Listeners are told of events that were accepted before and not released yet, and only such events
  are released. -/
  underway : ∀ moment act event, moment ++ [act] <+: log → act.handled? = some event →
    Underway moment event
  /-- Each release is the end of a delivery, in which the event was offered once to the listeners of its
  kind and to no others; nobody is told of an event in any other way. -/
  deliveries : Deliveries log bus.registry.lists
  /-- Each event that was handed back is the one that was dispatched. -/
  returned : ∀ event handed, .dispatched event (.refused handed) ∈ log → handed = event
  /-- The refusals were counted. -/
  dropped : bus.queues.dropped.value = (refusedEvents log).length

/-- Whatever is done with an empty bus, by those who use it and by its callbacks, conserves the events:
the callbacks may be recorded without any change, and the record agrees with what the bus holds.  A
dispatch comes to an end as long as refusals can be counted.  It hands an event back exactly if the queue
of its kind and the overflow queue are full; this is the event that was dispatched, unchanged, and nothing
but the number of refusals changes. -/
theorem conserved_of_work {callbacks : Callbacks κ σ} {uses : List (BusUse κ σ)} {bus : EventBus κ}
    {s s' : σ} (h : work callbacks uses .empty s = .ok (bus, s')) :
    (∃ log, work callbacks.recorded (uses.map .recorded) .empty (s, []) = .ok (bus, s', log) ∧
      Conserves log bus) ∧
    ∀ (bus : EventBus κ) (event : Event),
      (bus.queues.dropped.value + 1 < Word.limit → ∃ out, bus.dispatch event = .ok out) ∧
      ∀ result bus', bus.dispatch event = .ok (result, bus') →
        ((∃ handed, result = .refused handed) ↔ bus.queues.Full event.kind) ∧
        ∀ handed, result = .refused handed → handed = event ∧
          bus' = { bus with
            queues := { bus.queues with dropped := ⟨bus.queues.dropped.value + 1⟩ } } := by
  constructor
  · obtain ⟨moves, path, recorded⟩ := traced_work h
    have follows : Follows (BusMove.seen moves) (.rest bus) :=
      path.follows (.resting .nothing)
    refine ⟨BusMove.seen moves, recorded [], ?_, ?_, ?_, ?_, ?_, ?_⟩
    · have held := path.held
      rwa [show (BusState.rest EventBus.empty).held = [] from rfl, List.append_nil] at held
    · exact path.sorted fun kind event mem => by cases kind <;> cases mem
    · exact fun moment act event seen handled => path.underway rfl seen handled
    · exact follows.deliveries
    · exact fun event handed seen => path.returned seen
    · exact path.dropped.trans (Nat.zero_add _)
  · refine fun bus event => ⟨fun below => ?_, fun result bus' dispatch => ?_⟩
    · obtain ⟨out, dispatched⟩ := Queues.dispatch_total bus.queues event below
      exact ⟨_, Checked.bind_eq_ok.2 ⟨out, dispatched, rfl⟩⟩
    · obtain ⟨queues, queued, rfl⟩ := EventBus.dispatch_eq_ok dispatch
      obtain ⟨full, refused⟩ := Queues.refused_iff queued
      refine ⟨full, fun handed was => ?_⟩
      obtain ⟨same, rest⟩ := refused handed was
      exact ⟨same, congrArg (fun queues => { bus with queues }) rest⟩

/-- One event more than the queues of a bus have places for are dispatched; then a pass runs, in which the
first call of the listener and the first release dispatch one more each, and an event comes late. -/
def flood : List (BusUse Unit (List Event)) :=
  .subscribing .device () 0 ::
    ((List.range (queueDepth + overflowDepth + 1)).map fun number =>
      .dispatching (.ofDevice number)) ++
    [.pass 40, .dispatching ⟨.root, .file 7 .empty⟩]

/-- A flooded bus refuses one event and accepts the others, of which the late one is left. -/
theorem flood_conserved : ∃ bus log,
    work Callbacks.feeding.recorded (flood.map .recorded) .empty
        ([.ofDevice 99, ⟨.root, .task 1 0 0⟩], []) = .ok (bus, [], log) ∧
      refusedEvents log = [.ofDevice (queueDepth + overflowDepth)] ∧
      (acceptedEvents log).length = queueDepth + overflowDepth + 3 ∧
      bus.queues.events = [⟨.root, .file 7 .empty⟩] ∧ Conserves log bus := by
  have run : (work Callbacks.feeding flood .empty
      [.ofDevice 99, ⟨.root, .task 1 0 0⟩]).toOption.any
        (fun out => decide (out.2 = [] ∧ out.1.queues.events = [⟨.root, .file 7 .empty⟩])) = true := by
    decide +kernel
  have record : (work Callbacks.feeding.recorded (flood.map .recorded) .empty
      ([.ofDevice 99, ⟨.root, .task 1 0 0⟩], [])).toOption.any
        (fun out => decide (
          refusedEvents out.2.2 = [.ofDevice (queueDepth + overflowDepth)] ∧
          (acceptedEvents out.2.2).length = queueDepth + overflowDepth + 3)) = true := by
    decide +kernel
  obtain ⟨⟨bus, s⟩, run, left⟩ := Checked.exists_of_any run
  obtain ⟨rfl, left⟩ := of_decide_eq_true left
  obtain ⟨⟨log, recorded, conserves⟩, -⟩ := conserved_of_work run
  rw [recorded] at record
  obtain ⟨refused, accepted⟩ := of_decide_eq_true record
  exact ⟨bus, log, recorded, refused, accepted, left, conserves⟩

end EventBus

end Rtos

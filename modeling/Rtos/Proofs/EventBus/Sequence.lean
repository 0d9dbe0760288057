import Rtos.Proofs.EventBus.Order

/-!
# The whole order of a pass

As long as nobody dispatches in the middle of a pass, an event overflows only while the queue of its kind
is full, and then it is newer than what is in that queue (`Undisturbed.keeps`).  So a pass can be
described without its queues: it delivers the queued events, kind after kind, and then those that have
overflowed, kind after kind, and releases each one behind its own listeners (`Sequence`).  When the
overflow is moved, every queue is empty and has a place for each event, and no callback runs
(`refill_eq_ok`).

The callbacks may register listeners and take them off.  `EventBus.pass_in_order` is about the passes
during which they dispatch nothing, whatever else they could do.
-/

namespace Rtos

variable {κ σ α β : Type}

/-- Whether somebody uses the bus: callbacks do it, and so do those who are none. -/
def BusAct.isUse : BusAct κ → Bool
  | .dispatched _ _ | .subscribed _ _ _ _ | .unsubscribed _ _ _ => true
  | .told _ _ _ | .answered _ | .released _ => false

/-- Nothing is dispatched. -/
def Silent (log : List (BusAct κ)) : Prop :=
  ∀ act ∈ log, act.isDispatch = false

instance (log : List (BusAct κ)) : Decidable (Silent log) :=
  inferInstanceAs (Decidable (∀ act ∈ log, act.isDispatch = false))

/-- The lists of listeners of a bus. -/
abbrev Listeners (κ : Type) :=
  ByKind (List (Subscription κ))

/-- What is seen when listeners come and go between deliveries, and what becomes of their lists. -/
inductive Registers : Listeners κ → List (BusAct κ) → Listeners κ → Prop
  /-- Nobody comes or goes. -/
  | nobody (lists : Listeners κ) : Registers lists [] lists
  /-- A listener is registered, and then others come and go. -/
  | subscribed {lists lists' : Listeners κ} {acts : List (BusAct κ)} (kind : EventKind)
      (sub : Subscription κ) (others : Registers (lists.set kind (lists.get kind ++ [sub])) acts lists') :
      Registers lists (.subscribed kind sub.listener sub.extra (.ok sub.id) :: acts) lists'
  /-- A listener is refused. -/
  | excluded {lists lists' : Listeners κ} {acts : List (BusAct κ)} (kind : EventKind) (listener : κ)
      (extra : Nat) (error : Error) (others : Registers lists acts lists') :
      Registers lists (.subscribed kind listener extra (.error error) :: acts) lists'
  /-- A listener is taken off its list, if it is there. -/
  | unsubscribed {lists lists' : Listeners κ} {acts : List (BusAct κ)} (kind : EventKind)
      (id : ListenerId) (found : Bool)
      (others : Registers (lists.set kind ((lists.get kind).eraseP (·.id == id))) acts lists') :
      Registers lists (.unsubscribed kind id found :: acts) lists'

/-- What is seen when events are delivered one after the other, and what becomes of the lists of listeners:
each event is offered to the listeners that its kind has by then and is released behind them, and the
release may let listeners come and go. -/
inductive Sequence : List Event → Listeners κ → List (BusAct κ) → Listeners κ → Prop
  /-- There are no events. -/
  | nil (lists : Listeners κ) : Sequence [] lists [] lists
  /-- One event is delivered, and then the others. -/
  | next {event : Event} {events : List Event} {lists lists' lists'' : Listeners κ}
      {kept : List (Subscription κ)} {offered after acts : List (BusAct κ)}
      (offers : Offers event (lists.get event.kind) offered kept)
      (registers : Registers (lists.set event.kind kept) after lists')
      (others : Sequence events lists' acts lists'') :
      Sequence (event :: events) lists (offered ++ .released event :: (after ++ acts)) lists''

namespace Queues

/-- The events in the queues of their kinds, in the order in which these are drained. -/
def queued (q : Queues) : List Event :=
  q.pending.device.items ++ q.pending.task.items ++ q.pending.file.items

/-- The events that have overflowed, sorted in the same way. -/
def overflowed (q : Queues) : List Event :=
  ofKind .device q.overflow.items ++ ofKind .task q.overflow.items ++ ofKind .file q.overflow.items

/-- Events have overflowed only if the queues of their kinds are full. -/
def Packed (q : Queues) : Prop :=
  ∀ event ∈ q.overflow.items, (q.pending.get event.kind).items.length = queueDepth

/-- The queue of every kind has places for the events of that kind that have overflowed. -/
def Roomy (q : Queues) : Prop :=
  ∀ kind, (q.pending.get kind).items.length + (ofKind kind q.overflow.items).length ≤ queueDepth

end Queues

/-- As long as a property of the listeners and of the state holds, every delivery comes to an end,
dispatches nothing and keeps the property. -/
def Callbacks.Serves (callbacks : Callbacks κ σ) (P : Registry κ → σ → Prop) : Prop :=
  ∀ queues registry event s log, P registry s → ∃ registry' s' acts,
    EventBus.deliver callbacks.recorded ⟨queues, registry⟩ event (s, log) =
        .ok (⟨queues, registry'⟩, s', log ++ acts) ∧ Silent acts ∧ P registry' s'

/-- Callbacks that count the calls of listeners; every second call makes a listener leave. -/
def Callbacks.counting : Callbacks Unit Nat where
  listen _ _ _ n := .done (.ok (if n % 2 = 0 then .proceed else .remove, n + 1))
  release _ n := .done (.ok n)

namespace EventBus

/-- What was seen on a bus since it was empty, if it was used by dispatching events, by registering
listeners and taking them off, and by running passes, with any callbacks, during which nothing was
dispatched. -/
inductive Undisturbed : List (BusAct κ) → EventBus κ → Prop
  /-- Nothing has happened. -/
  | empty : Undisturbed [] .empty
  /-- An event is dispatched. -/
  | dispatch {log : List (BusAct κ)} {bus bus' : EventBus κ} {event : Event} {result : Dispatched}
      (before : Undisturbed log bus) (dispatch : bus.dispatch event = .ok (result, bus')) :
      Undisturbed (log ++ [.dispatched event result]) bus'
  /-- A listener is registered, or refused. -/
  | subscribe {log : List (BusAct κ)} {bus bus' : EventBus κ} {kind : EventKind} {listener : κ}
      {extra : Nat} {result : Except Error ListenerId} (before : Undisturbed log bus)
      (subscribe : bus.subscribe kind listener extra = .ok (result, bus')) :
      Undisturbed (log ++ [.subscribed kind listener extra result]) bus'
  /-- A listener is taken off a list. -/
  | unsubscribe {log : List (BusAct κ)} {bus bus' : EventBus κ} {kind : EventKind} {id : ListenerId}
      {found : Bool} (before : Undisturbed log bus)
      (unsubscribe : bus.unsubscribe kind id = (found, bus')) :
      Undisturbed (log ++ [.unsubscribed kind id found]) bus'
  /-- A pass is run. -/
  | pass {σ : Type} {log acts : List (BusAct κ)} {bus bus' : EventBus κ} {callbacks : Callbacks κ σ}
      {fuel : Nat} {s s' : σ} (before : Undisturbed log bus)
      (pass : deliverAll callbacks.recorded fuel bus (s, []) = .ok (bus', s', acts))
      (silent : Silent acts) : Undisturbed (log ++ acts) bus'

end EventBus

/-! ## What is seen -/

section Seen

variable {event : Event} {events more : List Event} {lists lists' lists'' : Listeners κ}
  {due kept : List (Subscription κ)} {acts acts' : List (BusAct κ)}

theorem silent_append : Silent (acts ++ acts') ↔ Silent acts ∧ Silent acts' :=
  List.forall_mem_append

theorem silent_cons {act : BusAct κ} : Silent (act :: acts) ↔ act.isDispatch = false ∧ Silent acts :=
  List.forall_mem_cons

theorem acceptedEvents_append :
    acceptedEvents (acts ++ acts') = acceptedEvents acts ++ acceptedEvents acts' :=
  List.filterMap_append

theorem releasedEvents_append :
    releasedEvents (acts ++ acts') = releasedEvents acts ++ releasedEvents acts' :=
  List.filterMap_append

theorem acceptedEvents_concat {act : BusAct κ} (none : act.accepted? = none) :
    acceptedEvents (acts ++ [act]) = acceptedEvents acts := by
  rw [acceptedEvents_append, acceptedEvents, acceptedEvents, List.filterMap_cons_none none]
  exact List.append_nil _

theorem releasedEvents_concat {act : BusAct κ} (none : act.released? = none) :
    releasedEvents (acts ++ [act]) = releasedEvents acts := by
  rw [releasedEvents_append, releasedEvents, releasedEvents, List.filterMap_cons_none none]
  exact List.append_nil _

theorem Silent.accepted (silent : Silent acts) : acceptedEvents acts = [] := by
  refine List.filterMap_eq_nil_iff.2 fun act mem => ?_
  cases act with
  | dispatched => cases silent _ mem
  | subscribed | unsubscribed | told | answered | released => rfl

theorem released_of_dispatches (dispatches : ∀ act ∈ acts, act.isDispatch = true) :
    releasedEvents acts = [] := by
  refine List.filterMap_eq_nil_iff.2 fun act mem => ?_
  cases act with
  | released => cases dispatches _ mem
  | dispatched | subscribed | unsubscribed | told | answered => rfl

theorem Offers.released (offers : Offers event due acts kept) : releasedEvents acts = [] := by
  induction offers with
  | nil => rfl
  | @next sub due kept own acts action dispatches _ _ ih =>
    change releasedEvents (own ++ [.answered action] ++ acts) = []
    rw [releasedEvents_append, releasedEvents_append, released_of_dispatches dispatches, ih]
    rfl
  | @stop sub due own action dispatches _ =>
    change releasedEvents (own ++ [.answered action]) = []
    rw [releasedEvents_append, released_of_dispatches dispatches]
    rfl

theorem Registers.released (registers : Registers lists acts lists') : releasedEvents acts = [] := by
  induction registers with
  | nobody => rfl
  | subscribed _ _ _ ih => exact ih
  | excluded _ _ _ _ _ ih => exact ih
  | unsubscribed _ _ _ _ ih => exact ih

/-- The events of a sequence are released in order. -/
theorem Sequence.released (sequence : Sequence events lists acts lists') :
    releasedEvents acts = events := by
  induction sequence with
  | nil => rfl
  | @next event events _ _ _ kept offered after acts offers registers _ ih =>
    rw [releasedEvents_append, offers.released]
    change event :: releasedEvents (after ++ acts) = event :: events
    rw [releasedEvents_append, registers.released, ih]
    rfl

theorem Sequence.trans (first : Sequence events lists acts lists')
    (rest : Sequence more lists' acts' lists'') :
    Sequence (events ++ more) lists (acts ++ acts') lists'' := by
  induction first with
  | nil => exact rest
  | next offers registers _ ih =>
    rw [List.cons_append, List.append_assoc, List.cons_append, List.append_assoc]
    exact .next offers registers (ih rest)

end Seen

/-! ## The queues between passes -/

/-- Of the events of all kinds in turn, those of one kind are the ones that stand for it. -/
theorem ofKind_inTurn (events : ByKind (List Event))
    (own : ∀ kind, ∀ event ∈ events.get kind, event.kind = kind) (kind : EventKind) :
    ofKind kind (events.get .device ++ events.get .task ++ events.get .file) = events.get kind := by
  have all (kind : EventKind) : ofKind kind (events.get kind) = events.get kind :=
    List.filter_eq_self.2 fun event mem => decide_eq_true (own kind event mem)
  have none (kind other : EventKind) (ne : kind ≠ other) : ofKind other (events.get kind) = [] :=
    List.filter_eq_nil_iff.2 fun event mem same =>
      ne ((own kind event mem).symm.trans (of_decide_eq_true same))
  rw [ofKind_append, ofKind_append]
  cases kind with
  | device =>
    rw [all, none .task _ (by decide), none .file _ (by decide), List.append_nil, List.append_nil]
  | task =>
    rw [all, none .device _ (by decide), none .file _ (by decide), List.append_nil, List.nil_append]
  | file =>
    rw [all, none .device _ (by decide), none .task _ (by decide), List.nil_append, List.nil_append]

namespace Queues

variable {q r : Queues} {event : Event} {result : Dispatched} {kind : EventKind}

/-- An event that finds a place in its queue is the only one that a queue gets. -/
theorem length_enqueue? (h : q.enqueue? event = some r) (kind : EventKind) :
    (r.pending.get kind).items.length =
      (q.pending.get kind).items.length + (ofKind kind [event]).length := by
  have put := items_of_enqueue? h
  obtain ⟨pending, -, rfl⟩ := Option.map_eq_some_iff.1 h
  by_cases same : event.kind = kind
  · subst same
    rw [put, List.length_append, ofKind_cons_self]
    rfl
  · rw [ByKind.get_set_of_ne _ _ same, ofKind_cons_of_ne same]
    rfl

/-- Where a queue has a place, no event of its kind has overflowed. -/
theorem Packed.ofKind_overflow (packed : q.Packed)
    (room : (q.pending.get kind).items.length < queueDepth) : ofKind kind q.overflow.items = [] := by
  refine List.filter_eq_nil_iff.2 fun event mem own => ?_
  have full := packed event mem
  rw [of_decide_eq_true own] at full
  exact absurd full (Nat.ne_of_lt room)

theorem lt_of_enqueue? (h : q.enqueue? event = some r) :
    (q.pending.get event.kind).items.length < queueDepth := by
  obtain ⟨pending, pushed, -⟩ := Option.map_eq_some_iff.1 h
  exact (Fifo.push?_eq_some.1 pushed).1

/-- A dispatch puts an event into the overflow queue only if its own queue is full. -/
theorem Packed.dispatch (packed : q.Packed) (h : q.dispatch event = .ok (result, r)) : r.Packed := by
  cases DispatchStep.of_eq_ok h with
  | queued put =>
    -- its queue has a place, so nothing of its kind has overflowed
    have empty := packed.ofKind_overflow (lt_of_enqueue? put)
    obtain ⟨pending, -, rfl⟩ := Option.map_eq_some_iff.1 put
    intro other mem
    have ne : event.kind ≠ other.kind := fun same => by
      have waits : other ∈ ofKind event.kind q.overflow.items :=
        List.mem_filter.2 ⟨mem, decide_eq_true same.symm⟩
      rw [empty] at waits
      cases waits
    rw [ByKind.get_set_of_ne _ _ ne]
    exact packed other mem
  | overflowed full put =>
    intro other mem
    rw [(Fifo.push?_eq_some.1 put).2] at mem
    obtain mem | mem := List.mem_append.1 mem
    · exact packed other mem
    · cases List.mem_singleton.1 mem
      exact (enqueue?_eq_none (q := q)).1 full
  | refused => exact packed

/-- In packed queues a dispatched event waits behind all others of its kind, unless it is handed back.
-/
theorem Packed.waiting_dispatch (packed : q.Packed) (h : q.dispatch event = .ok (result, r)) :
    r.waiting kind =
      q.waiting kind ++ ofKind kind (acceptedEvents [(.dispatched event result : BusAct κ)]) := by
  have waits := Queues.waiting_dispatch h kind
  cases DispatchStep.of_eq_ok h with
  | queued put =>
    refine waits.trans ?_
    by_cases same : event.kind = kind
    · have room : (q.pending.get kind).items.length < queueDepth := same ▸ lt_of_enqueue? put
      unfold waiting
      rw [← List.singleton_append, ofKind_append, packed.ofKind_overflow room, List.append_nil,
        List.append_nil]
      rfl
    · unfold waiting
      change _ = _ ++ ofKind kind [event]
      rw [ofKind_cons_of_ne same, ofKind_cons_of_ne same, ofKind_nil, List.append_nil]
  | overflowed => exact waits
  | refused => exact waits.trans (List.append_nil _).symm

/-- Of the queued events, those of one kind are in the queue of that kind. -/
theorem Sorted.ofKind_queued (sorted : q.Sorted) (kind : EventKind) :
    ofKind kind q.queued = (q.pending.get kind).items := by
  refine (ofKind_inTurn ⟨_, _, _⟩ (fun kind event mem => ?_) kind).trans ?_
  · cases kind with
    | device => exact sorted .device event mem
    | task => exact sorted .task event mem
    | file => exact sorted .file event mem
  · cases kind <;> rfl

theorem ofKind_overflowed (q : Queues) (kind : EventKind) :
    ofKind kind q.overflowed = ofKind kind q.overflow.items := by
  refine (ofKind_inTurn ⟨_, _, _⟩ (fun kind event mem => ?_) kind).trans ?_
  · cases kind <;> exact of_decide_eq_true (List.mem_filter.1 mem).2
  · cases kind <;> rfl

/-- Emptied queues are roomy, because the overflow queue is not longer than they are. -/
theorem roomy_of_drained (drained : q.pending = .replicate .empty) : q.Roomy := by
  intro kind
  have few := List.length_filter_le (fun event : Event => decide (event.kind = kind)) q.overflow.items
  have bound := q.overflow.length_le
  have empty : (q.pending.get kind).items = [] := by
    rw [drained]
    cases kind <;> rfl
  have fits : overflowDepth ≤ queueDepth := by decide
  rw [empty]
  change 0 + (q.overflow.items.filter fun event => event.kind = kind).length ≤ queueDepth
  omega

/-- In roomy queues each event that has overflowed finds a place, and they stay roomy. -/
theorem Roomy.put (roomy : q.Roomy) (oldest : q.dequeueOverflow? = some (event, r)) :
    ∃ s, r.enqueue? event = some s ∧ s.Roomy := by
  obtain ⟨⟨first, overflow⟩, popped, eq⟩ := Option.map_eq_some_iff.1 oldest
  cases eq
  unfold Roomy at roomy
  rw [Fifo.pop?_eq_some.1 popped] at roomy
  cases put : Queues.enqueue? { q with overflow } event with
  | none =>
    have full := enqueue?_eq_none.1 put
    have room := roomy event.kind
    rw [ofKind_cons_self, List.length_cons] at room
    dsimp only at full
    omega
  | some s =>
    refine ⟨s, rfl, fun kind => ?_⟩
    have room := roomy kind
    have length := length_enqueue? put kind
    obtain ⟨pending, -, rfl⟩ := Option.map_eq_some_iff.1 put
    rw [← List.singleton_append, ofKind_append, List.length_append] at room
    dsimp only at length room ⊢
    omega

theorem items_of_put {s : Queues} (oldest : q.dequeueOverflow? = some (event, r))
    (put : r.enqueue? event = some s) (kind : EventKind) :
    (s.pending.get kind).items ++ ofKind kind s.overflow.items =
      (q.pending.get kind).items ++ ofKind kind q.overflow.items :=
  (waiting_enqueue? put kind).trans (waiting_dequeueOverflow? oldest kind).1.symm

theorem items_of_events_eq_nil (none : q.events = []) :
    (∀ kind, (q.pending.get kind).items = []) ∧ q.overflow.items = [] := by
  obtain ⟨pending, overflow⟩ := List.append_eq_nil_iff.1 none
  obtain ⟨pending, file⟩ := List.append_eq_nil_iff.1 pending
  obtain ⟨device, task⟩ := List.append_eq_nil_iff.1 pending
  refine ⟨fun kind => ?_, overflow⟩
  cases kind with
  | device => exact device
  | task => exact task
  | file => exact file

end Queues

/-! ## Passes that are recorded -/

/-- A reaction of a listener is recorded: it dispatches, and leaves the queues alone if it does not. -/
theorem runHeld_recorded {reaction : Reaction κ α} {finish : α → List (BusAct κ) → β}
    {log : List (BusAct κ)} {queues queues' : Queues} {b : β}
    (h : (reaction.recorded finish log).runHeld queues = .ok (b, queues')) :
    ∃ a acts, b = finish a (log ++ acts) ∧ (∀ act ∈ acts, act.isDispatch = true) ∧
      (Silent acts → queues' = queues) := by
  induction reaction generalizing log queues with
  | done result =>
    obtain ⟨b, finished, eq⟩ := Checked.bind_eq_ok.1 h
    cases eq
    cases result with
    | error => cases finished
    | ok a =>
      cases finished
      exact ⟨a, [], by rw [List.append_nil], nofun, fun _ => rfl⟩
  | dispatch event next ih =>
    obtain ⟨⟨result, queues₁⟩, -, rest⟩ := Checked.bind_eq_ok.1 h
    obtain ⟨a, acts, rfl, dispatches, -⟩ := ih result rest
    refine ⟨a, .dispatched event result :: acts, ?_, ?_, fun silent => ?_⟩
    · rw [List.append_assoc, List.singleton_append]
    · exact List.forall_mem_cons.2 ⟨rfl, dispatches⟩
    · cases (silent_cons.1 silent).1
  | subscribe => cases h
  | unsubscribe => cases h

/-- A reaction between deliveries is recorded: if it does not dispatch, it lets listeners come and go. -/
theorem run_recorded {reaction : Reaction κ α} {finish : α → List (BusAct κ) → β}
    {log : List (BusAct κ)} {bus bus' : EventBus κ} {b : β}
    (h : (reaction.recorded finish log).run bus = .ok (b, bus')) :
    ∃ a acts, b = finish a (log ++ acts) ∧ (∀ act ∈ acts, act.isUse = true) ∧
      (Silent acts → bus'.queues = bus.queues ∧
        Registers bus.registry.lists acts bus'.registry.lists) := by
  induction reaction generalizing log bus with
  | done result =>
    obtain ⟨b, finished, eq⟩ := Checked.bind_eq_ok.1 h
    cases eq
    cases result with
    | error => cases finished
    | ok a =>
      cases finished
      exact ⟨a, [], by rw [List.append_nil], nofun, fun _ => ⟨rfl, .nobody _⟩⟩
  | dispatch event next ih =>
    obtain ⟨⟨result, bus₁⟩, -, rest⟩ := Checked.bind_eq_ok.1 h
    obtain ⟨a, acts, rfl, own, -⟩ := ih result rest
    refine ⟨a, .dispatched event result :: acts, ?_, List.forall_mem_cons.2 ⟨rfl, own⟩,
      fun silent => ?_⟩
    · rw [List.append_assoc, List.singleton_append]
    · cases (silent_cons.1 silent).1
  | subscribe kind listener extra next ih =>
    obtain ⟨⟨result, bus₁⟩, subscribed, rest⟩ := Checked.bind_eq_ok.1 h
    obtain ⟨a, acts, rfl, own, others⟩ := ih result rest
    refine ⟨a, .subscribed kind listener extra result :: acts, ?_,
      List.forall_mem_cons.2 ⟨rfl, own⟩, fun silent => ?_⟩
    · rw [List.append_assoc, List.singleton_append]
    · obtain ⟨queues, registers⟩ := others (silent_cons.1 silent).2
      refine ⟨queues.trans (EventBus.queues_subscribe subscribed), ?_⟩
      obtain ⟨issued, -, ⟨rfl, -, rfl⟩ | ⟨⟨error, rfl⟩, rfl⟩⟩ := EventBus.subscribe_eq_ok subscribed
      · exact .subscribed kind ⟨⟨issued.value⟩, listener, extra⟩ registers
      · exact .excluded kind listener extra error registers
  | unsubscribe kind id next ih =>
    obtain ⟨a, acts, rfl, own, others⟩ := ih (bus.unsubscribe kind id).1 h
    refine ⟨a, .unsubscribed kind id (bus.unsubscribe kind id).1 :: acts, ?_,
      List.forall_mem_cons.2 ⟨rfl, own⟩, fun silent => ?_⟩
    · rw [List.append_assoc, List.singleton_append]
      rfl
    · obtain ⟨queues, registers⟩ := others (silent_cons.1 silent).2
      exact ⟨queues, .unsubscribed kind id _ registers⟩

namespace EventBus

variable {callbacks : Callbacks κ σ} {bus bus' : EventBus κ} {s s' : σ} {event : Event}
  {kind : EventKind} {fuel : Nat} {log log' : List (BusAct κ)}

/-- An event is told to listeners, which is an offer; if they dispatch nothing, the queues stay. -/
theorem tell_recorded {list kept : List (Subscription κ)} {queues queues' : Queues}
    (h : tell callbacks.recorded event list queues (s, log) = .ok (kept, queues', s', log')) :
    ∃ acts, log' = log ++ acts ∧ Offers event list acts kept ∧ (Silent acts → queues' = queues) := by
  induction list generalizing queues s log kept with
  | nil =>
    cases h
    exact ⟨[], (List.append_nil _).symm, .nil, fun _ => rfl⟩
  | cons sub due ih =>
    obtain ⟨⟨⟨action, s₁, log₁⟩, queues₁⟩, heard, h⟩ := Checked.bind_eq_ok.1 h
    obtain ⟨answer, own, answered, dispatches, still⟩ := runHeld_recorded heard
    cases answered
    dsimp only at h
    split at h
    case isTrue stops =>
      cases h
      refine ⟨_, ?_, .stop dispatches stops, fun silent => still ?_⟩
      · simp only [List.append_assoc, List.cons_append, List.nil_append]
      · exact (silent_append.1 (silent_cons.1 silent).2).1
    case isFalse goes =>
      obtain ⟨⟨kept₁, queues₂, s₂, log₂⟩, told, eq⟩ := Checked.bind_eq_ok.1 h
      cases eq
      obtain ⟨acts, rfl, offers, others⟩ := ih told
      refine ⟨_, ?_, .next dispatches (Bool.eq_false_iff.2 goes) offers, fun silent => ?_⟩
      · simp only [List.append_assoc, List.cons_append, List.nil_append]
      · obtain ⟨mine, rest⟩ := silent_append.1 (silent_cons.1 silent).2
        exact (others rest).trans (still (silent_append.1 mine).1)

theorem deliver_recorded
    (h : deliver callbacks.recorded bus event (s, log) = .ok (bus', s', log')) :
    ∃ acts, log' = log ++ acts ∧ (Silent acts → bus'.queues = bus.queues ∧
      Sequence [event] bus.registry.lists acts bus'.registry.lists) := by
  obtain ⟨⟨kept, queues, s₁, log₁⟩, told, h⟩ := Checked.bind_eq_ok.1 h
  obtain ⟨⟨s₂, bus₂⟩, released, eq⟩ := Checked.bind_eq_ok.1 h
  cases eq
  obtain ⟨offered, rfl, offers, still⟩ := tell_recorded told
  obtain ⟨answer, after, answered, -, registers⟩ := run_recorded released
  cases answered
  refine ⟨offered ++ .released event :: (after ++ []), ?_, fun silent => ?_⟩
  · simp only [List.append_assoc, List.cons_append, List.nil_append, List.append_nil]
  · obtain ⟨first, rest⟩ := silent_append.1 silent
    rw [List.append_nil] at rest
    obtain ⟨same, registers⟩ := registers (silent_cons.1 rest).2
    exact ⟨same.trans (still first), .next offers registers (.nil _)⟩

theorem set_empty_of_dequeue? {q : Queues} (none : q.dequeue? kind = none) :
    { q with pending := q.pending.set kind .empty } = q := by
  have items := Queues.dequeue?_eq_none.1 none
  have empty : q.pending.get kind = .empty := by
    cases same : q.pending.get kind
    rw [same] at items
    cases items
    rfl
  rw [← empty, ByKind.set_get]

theorem drain_recorded {out out' : σ × List (BusAct κ)}
    (h : drain callbacks.recorded kind fuel bus out = .ok (bus', out')) :
    ∃ acts, out'.2 = out.2 ++ acts ∧ (Silent acts →
      bus'.queues = { bus.queues with pending := bus.queues.pending.set kind .empty } ∧
      Sequence (bus.queues.pending.get kind).items bus.registry.lists acts bus'.registry.lists) := by
  replace h := Drains.of_eq_ok h
  induction h with
  | done none =>
    refine ⟨[], (List.append_nil _).symm, fun _ => ⟨(set_empty_of_dequeue? none).symm, ?_⟩⟩
    rw [Queues.dequeue?_eq_none.1 none]
    exact .nil _
  | next oldest delivered _ ih =>
    obtain ⟨acts, grows, first⟩ := deliver_recorded delivered
    obtain ⟨more, grows', others⟩ := ih
    refine ⟨acts ++ more, by rw [grows', grows, List.append_assoc], fun silent => ?_⟩
    obtain ⟨now, later⟩ := silent_append.1 silent
    obtain ⟨same, sequence⟩ := first now
    obtain ⟨drained, sequence'⟩ := others later
    have items := Queues.items_of_dequeue? oldest
    obtain ⟨⟨event, pending⟩, -, eq⟩ := Option.map_eq_some_iff.1 oldest
    cases eq
    rw [same] at drained sequence'
    refine ⟨drained.trans ?_, ?_⟩
    · rw [ByKind.set_set]
    · rw [items]
      exact sequence.trans sequence'

theorem drainAll_recorded
    (h : drainAll callbacks.recorded fuel bus (s, log) = .ok (bus', s', log')) :
    ∃ acts, log' = log ++ acts ∧ (Silent acts →
      bus'.queues = { bus.queues with pending := .replicate .empty } ∧
      Sequence bus.queues.queued bus.registry.lists acts bus'.registry.lists) := by
  obtain ⟨⟨bus₁, s₁, log₁⟩, device, h⟩ := Checked.bind_eq_ok.1 h
  obtain ⟨⟨bus₂, s₂, log₂⟩, task, file⟩ := Checked.bind_eq_ok.1 h
  obtain ⟨acts₁, rfl, drained₁⟩ := drain_recorded device
  obtain ⟨acts₂, rfl, drained₂⟩ := drain_recorded task
  obtain ⟨acts₃, rfl, drained₃⟩ := drain_recorded file
  refine ⟨acts₁ ++ acts₂ ++ acts₃, by rw [List.append_assoc, List.append_assoc, List.append_assoc],
    fun silent => ?_⟩
  obtain ⟨silent, silent₃⟩ := silent_append.1 silent
  obtain ⟨silent₁, silent₂⟩ := silent_append.1 silent
  obtain ⟨queues₁, first⟩ := drained₁ silent₁
  obtain ⟨queues₂, second⟩ := drained₂ silent₂
  obtain ⟨queues₃, third⟩ := drained₃ silent₃
  rw [queues₁] at queues₂ second
  rw [queues₂] at queues₃ third
  exact ⟨queues₃, (first.trans second).trans third⟩

/-- While the queues have room for what has overflowed, moving it calls nobody: with any callbacks and in
any state, the same events go to the ends of their queues. -/
theorem refill_eq_ok {moved moved' : Bool} (roomy : bus.queues.Roomy)
    (h : refill callbacks fuel moved bus s = .ok (moved', bus', s')) :
    (∀ kind, (bus'.queues.pending.get kind).items =
      (bus.queues.pending.get kind).items ++ ofKind kind bus.queues.overflow.items) ∧
    bus'.queues.overflow.items = [] ∧ bus'.registry = bus.registry ∧
    ∀ {τ : Type} (other : Callbacks κ τ) (t : τ),
      refill other fuel moved bus t = .ok (moved', bus', t) := by
  replace h := Refills.of_eq_ok h
  induction h with
  | done none =>
    have empty := Fifo.pop?_eq_none.1 (Option.map_eq_none_iff.1 none)
    refine ⟨fun kind => ?_, empty, rfl, fun other t => refill_of_none none⟩
    rw [empty, ofKind_nil, List.append_nil]
  | put oldest put _ ih =>
    obtain ⟨queues, put', roomy⟩ := roomy.put oldest
    cases put.symm.trans put'
    obtain ⟨pending, overflow, registry, silent⟩ := ih roomy
    refine ⟨fun kind => ?_, overflow, registry, fun other t => ?_⟩
    · exact (pending kind).trans (Queues.items_of_put oldest put kind)
    · exact (refill_of_put oldest put).trans (silent other t)
  | rush oldest full =>
    -- there is room for it, so no event is delivered at once
    obtain ⟨queues, put, -⟩ := roomy.put oldest
    cases full.symm.trans put

/-- What is recorded while overflowed events are moved comes behind what was recorded before. -/
theorem refill_grows {moved moved' : Bool} {out out' : σ × List (BusAct κ)}
    (h : refill callbacks.recorded fuel moved bus out = .ok (moved', bus', out')) :
    out.2 <+: out'.2 := by
  replace h := Refills.of_eq_ok h
  induction h with
  | done => exact List.prefix_rfl
  | put _ _ _ ih => exact ih
  | rush _ _ delivered _ ih =>
    obtain ⟨acts, grows, -⟩ := deliver_recorded delivered
    exact (grows ▸ List.prefix_append _ _).trans ih

/-- A pass in which nothing is dispatched delivers the queued events and then the overflowed ones.  Those
are moved while every queue is empty, so that nobody is called. -/
theorem deliverAll_recorded {acts : List (BusAct κ)}
    (h : deliverAll callbacks.recorded fuel bus (s, []) = .ok (bus', s', acts)) (silent : Silent acts) :
    Sequence (bus.queues.queued ++ bus.queues.overflowed) bus.registry.lists acts bus'.registry.lists ∧
    bus'.queues.events = [] ∧
    ∃ bus₁ out moved bus₂, drainAll callbacks.recorded fuel bus (s, []) = .ok (bus₁, out) ∧
      ∀ {τ : Type} (other : Callbacks κ τ) (t : τ),
        refill other fuel false bus₁ t = .ok (moved, bus₂, t) := by
  obtain ⟨⟨bus₁, s₁, log₁⟩, first, h⟩ := Checked.bind_eq_ok.1 h
  obtain ⟨⟨moved, bus₂, s₂, log₂⟩, refilled, h⟩ := Checked.bind_eq_ok.1 h
  obtain ⟨_, rfl, drained⟩ := drainAll_recorded first
  -- Nothing was dispatched by the end of the first half, because nothing is dispatched at all.
  have early : Silent log₂ := by
    cases moved with
    | false => cases h; exact silent
    | true =>
      obtain ⟨more, rfl, -⟩ := drainAll_recorded h
      exact (silent_append.1 silent).1
  obtain ⟨queues₁, sequence₁⟩ := drained fun act mem => early act ((refill_grows refilled).subset mem)
  have roomy : bus₁.queues.Roomy := Queues.roomy_of_drained (queues₁ ▸ rfl)
  obtain ⟨pending, overflow, registry, unheard⟩ := refill_eq_ok roomy refilled
  have same := unheard callbacks.recorded (s₁, log₁)
  rw [refilled] at same
  cases same
  have items (kind : EventKind) : (bus₂.queues.pending.get kind).items =
      ofKind kind bus.queues.overflow.items := by
    rw [pending kind, queues₁]
    cases kind <;> rfl
  refine and_assoc.1 ⟨?_, bus₁, _, moved, bus₂, first, unheard⟩
  cases moved with
  | false =>
    -- nothing has overflowed, and the first half was all
    cases h
    obtain ⟨rfl, -⟩ := (refill_queues refilled).2 rfl
    have none : bus.queues.overflowed = [] := by
      rw [Queues.overflowed, ← items .device, ← items .task, ← items .file, queues₁]
      rfl
    rw [none, List.append_nil]
    exact ⟨sequence₁, Queues.events_eq_nil (fun kind => by rw [queues₁]; cases kind <;> rfl) overflow⟩
  | true =>
    obtain ⟨more, rfl, drained'⟩ := drainAll_recorded h
    obtain ⟨queues₂, sequence₂⟩ := drained' (silent_append.1 silent).2
    have queued : bus₂.queues.queued = bus.queues.overflowed := by
      rw [Queues.overflowed, ← items .device, ← items .task, ← items .file]
      rfl
    rw [registry, queued] at sequence₂
    refine ⟨sequence₁.trans sequence₂, Queues.events_eq_nil (fun kind => ?_) (queues₂ ▸ overflow)⟩
    rw [queues₂]
    cases kind <;> rfl

/-! ## Passes that come to an end -/

/-- Callbacks that serve let every pass come to an end. -/
theorem endsPass_of_serves {P : Registry κ → σ → Prop} (serves : callbacks.Serves P) :
    EndsPass callbacks.recorded fun bus out => P bus.registry out.1 ∧ Silent out.2 where
  delivered {bus out event queues bus' out'} start _ h := by
    obtain ⟨registry', s', acts, delivered, silent, holds⟩ :=
      serves queues bus.registry event out.1 out.2 start.1
    rw [show deliver _ _ _ out = _ from delivered] at h
    cases h
    exact ⟨holds, silent_append.2 ⟨start.2, silent⟩⟩
  refilled start _ _ := start
  delivers {bus out event queues} start _ := by
    obtain ⟨registry', s', acts, delivered, -⟩ :=
      serves queues bus.registry event out.1 out.2 start.1
    exact ⟨_, delivered⟩
  silent {bus out event queues bus' out'} start _ h := by
    obtain ⟨registry', s', acts, delivered, -⟩ :=
      serves queues bus.registry event out.1 out.2 start.1
    rw [show deliver _ _ _ out = _ from delivered] at h
    cases h
    rfl

/-- Listeners that answer at once and do not fault dispatch nothing. -/
theorem tell_of_done
    (listen : ∀ listener event extra s, ∃ out, callbacks.listen listener event extra s = .done (.ok out))
    (queues : Queues) (event : Event) (list : List (Subscription κ)) (s : σ)
    (log : List (BusAct κ)) : ∃ kept s' acts,
      tell callbacks.recorded event list queues (s, log) = .ok (kept, queues, s', log ++ acts) ∧
      Silent acts := by
  induction list generalizing s log with
  | nil => exact ⟨[], s, [], by rw [List.append_nil]; rfl, nofun⟩
  | cons sub due ih =>
    obtain ⟨⟨action, s₁⟩, answers⟩ := listen sub.listener event sub.extra s
    let told : BusAct κ := .told sub.listener sub.extra event
    have heard : (callbacks.recorded.listen sub.listener event sub.extra (s, log)).runHeld queues =
        .ok ((action, s₁, log ++ [told, .answered action]), queues) := by
      change ((callbacks.listen sub.listener event sub.extra s).recorded _ (log ++ [told])).runHeld
        queues = _
      rw [answers, List.append_cons log told [.answered action]]
      rfl
    have quiet : Silent [told, .answered action] :=
      silent_cons.2 ⟨rfl, silent_cons.2 ⟨rfl, nofun⟩⟩
    by_cases stops : action.contains ListenerAction.stop
    · refine ⟨sub.after action ++ due, s₁, [told, .answered action], ?_, quiet⟩
      rw [tell, heard]
      exact if_pos stops
    · obtain ⟨kept, s', acts, others, silent⟩ := ih s₁ (log ++ [told, .answered action])
      refine ⟨sub.after action ++ kept, s', _, ?_, silent_append.2 ⟨quiet, silent⟩⟩
      rw [tell, heard, ← List.append_assoc]
      refine (if_neg stops).trans ?_
      rw [others]
      rfl

theorem serves_of_done
    (listen : ∀ listener event extra s, ∃ out, callbacks.listen listener event extra s = .done (.ok out))
    (release : ∀ event s, ∃ out, callbacks.release event s = .done (.ok out)) :
    callbacks.Serves fun _ _ => True := by
  intro queues registry event s log _
  obtain ⟨kept, s₁, acts, told, silent⟩ :=
    tell_of_done listen queues event (registry.lists.get event.kind) s log
  obtain ⟨s₂, answers⟩ := release event s₁
  let registry' := { registry with lists := registry.lists.set event.kind kept }
  have released : (callbacks.recorded.release event (s₁, log ++ acts)).run ⟨queues, registry'⟩ =
      .ok ((s₂, log ++ acts ++ [.released event]), ⟨queues, registry'⟩) := by
    change ((callbacks.release event s₁).recorded _ _).run _ = _
    rw [answers]
    rfl
  have last : Silent [(.released event : BusAct κ)] := silent_cons.2 ⟨rfl, nofun⟩
  refine ⟨registry', s₂, acts ++ [.released event], ?_, silent_append.2 ⟨silent, last⟩, trivial⟩
  refine Checked.bind_eq_ok.2 ⟨_, told, Checked.bind_eq_ok.2 ⟨_, released, ?_⟩⟩
  rw [List.append_assoc]
  rfl

/-! ## What holds between passes -/

/-- On a bus that is undisturbed, events overflow only while their own queues are full, and behind all
events in these. -/
theorem Undisturbed.keeps (reached : Undisturbed log bus) :
    bus.queues.Sorted ∧ bus.queues.Packed ∧
      ∀ kind, ofKind kind (acceptedEvents log) =
        ofKind kind (releasedEvents log) ++ bus.queues.waiting kind := by
  induction reached with
  | empty =>
    refine ⟨fun kind event mem => ?_, nofun, fun kind => ?_⟩
    · cases kind <;> cases mem
    · cases kind <;> rfl
  | dispatch before dispatch ih =>
    obtain ⟨sorted, packed, waiting⟩ := ih
    obtain ⟨queues, queued, rfl⟩ := EventBus.dispatch_eq_ok dispatch
    refine ⟨sorted.dispatch queued, packed.dispatch queued, fun kind => ?_⟩
    rw [packed.waiting_dispatch (κ := κ) queued, acceptedEvents_append, releasedEvents_concat rfl,
      ofKind_append, waiting kind, List.append_assoc]
  | subscribe before subscribe ih =>
    rw [queues_subscribe subscribe, acceptedEvents_concat rfl, releasedEvents_concat rfl]
    exact ih
  | unsubscribe before unsubscribe ih =>
    cases unsubscribe
    rw [acceptedEvents_concat rfl, releasedEvents_concat rfl]
    exact ih
  | @pass σ log acts bus bus' callbacks fuel s s' before pass silent ih =>
    -- nothing is queued behind the pass, which has released all that was
    obtain ⟨sorted, packed, waiting⟩ := ih
    obtain ⟨sequence, none, -⟩ := deliverAll_recorded pass silent
    obtain ⟨pending, overflow⟩ := Queues.items_of_events_eq_nil none
    refine ⟨fun kind event mem => ?_, fun event mem => ?_, fun kind => ?_⟩
    · rw [pending kind] at mem
      cases mem
    · rw [overflow] at mem
      cases mem
    · have empty : bus'.queues.waiting kind = [] := by
        rw [Queues.waiting, pending kind, overflow]
        rfl
      rw [empty, List.append_nil, acceptedEvents_append, silent.accepted, List.append_nil, waiting kind,
        releasedEvents_append, sequence.released, ofKind_append, ofKind_append, sorted.ofKind_queued,
        Queues.ofKind_overflowed]
      rfl

theorem Undisturbed.run {reaction : Reaction κ α} {a : α} (before : Undisturbed log bus)
    (h : reaction.run bus = .ok (a, bus')) : ∃ log', Undisturbed log' bus' := by
  induction reaction generalizing log bus with
  | done result =>
    obtain ⟨_, -, eq⟩ := Checked.bind_eq_ok.1 h
    cases eq
    exact ⟨log, before⟩
  | dispatch event next ih =>
    obtain ⟨⟨result, bus₁⟩, dispatch, rest⟩ := Checked.bind_eq_ok.1 h
    exact ih result (before.dispatch dispatch) rest
  | subscribe kind listener extra next ih =>
    obtain ⟨⟨result, bus₁⟩, subscribe, rest⟩ := Checked.bind_eq_ok.1 h
    exact ih result (before.subscribe subscribe) rest
  | unsubscribe kind id next ih => exact ih _ (before.unsubscribe rfl) h

/-- Everything that is done with a bus leaves it undisturbed if its callbacks serve. -/
theorem Undisturbed.work {uses : List (BusUse κ σ)} (serves : callbacks.Serves fun _ _ => True)
    (before : Undisturbed log bus) (h : EventBus.work callbacks uses bus s = .ok (bus', s')) :
    ∃ log', Undisturbed log' bus' := by
  induction uses generalizing log bus s with
  | nil => cases h; exact ⟨log, before⟩
  | cons next uses ih =>
    obtain ⟨⟨bus₁, s₁⟩, used, rest⟩ := Checked.bind_eq_ok.1 h
    cases next with
    | act reaction =>
      obtain ⟨⟨s₁, bus₁⟩, acted, eq⟩ := Checked.bind_eq_ok.1 used
      cases eq
      obtain ⟨log₁, reached⟩ := before.run acted
      exact ih reached rest
    | pass fuel =>
      obtain ⟨moves, -, recorded⟩ := traced_deliverAll used
      obtain ⟨-, silent⟩ := deliverAll_keeps (endsPass_of_serves serves).toKeepsPass (recorded [])
        ⟨trivial, nofun⟩
      exact ih (before.pass (recorded []) silent) rest

/-! ## The order of a pass -/

/-- On a bus that is undisturbed, an event is in the overflow queue only if the queue of its kind is full,
and of each kind the events were accepted in this order: first those that are released by now, then those
in their queue, then those in the overflow queue.  A pass during which nothing is dispatched delivers the
queued events, kind after kind, and then the overflowed ones in the same way, each of them released behind
its own listeners, and leaves all queues empty.  When the overflowed events are moved into their queues,
no callback is called, whatever the callbacks are, so none of these events is delivered at once.  A pass
comes to an end if its callbacks serve and its loops may handle as many events as there are. -/
theorem pass_in_order (reached : Undisturbed log bus) :
    (∀ event ∈ bus.queues.overflow.items,
      (bus.queues.pending.get event.kind).items.length = queueDepth) ∧
    (∀ kind, ofKind kind (acceptedEvents log) = ofKind kind (releasedEvents log) ++
      ((bus.queues.pending.get kind).items ++ ofKind kind bus.queues.overflow.items)) ∧
    ∀ {σ : Type} (callbacks : Callbacks κ σ) (fuel : Nat) (s : σ),
      (∀ bus' s' acts, deliverAll callbacks.recorded fuel bus (s, []) = .ok (bus', s', acts) →
        Silent acts →
        Sequence (bus.queues.queued ++ bus.queues.overflowed) bus.registry.lists acts
            bus'.registry.lists ∧
          bus'.queues.events = [] ∧
          ∃ bus₁ out moved bus₂, drainAll callbacks.recorded fuel bus (s, []) = .ok (bus₁, out) ∧
            ∀ {τ : Type} (other : Callbacks κ τ) (t : τ),
              refill other fuel false bus₁ t = .ok (moved, bus₂, t)) ∧
      ∀ P, callbacks.Serves P → P bus.registry s → bus.queues.load ≤ fuel →
        ∃ bus' s' acts, deliverAll callbacks.recorded fuel bus (s, []) = .ok (bus', s', acts) ∧
          Silent acts := by
  obtain ⟨-, packed, waiting⟩ := reached.keeps
  refine ⟨packed, waiting, fun callbacks fuel s => ⟨fun bus' s' acts h silent => ?_, ?_⟩⟩
  · exact deliverAll_recorded h silent
  · intro P serves holds enough
    have ends := endsPass_of_serves serves
    have none : Silent ([] : List (BusAct κ)) := nofun
    obtain ⟨⟨bus', s', acts⟩, h⟩ := ends.deliverAll_total (s := (s, [])) ⟨holds, none⟩
      (Nat.le_trans (Nat.le_of_eq bus.queues.length_events) enough)
    obtain ⟨-, silent⟩ := deliverAll_keeps ends.toKeepsPass h ⟨holds, none⟩
    exact ⟨bus', s', acts, h, silent⟩

/-- More device events are dispatched than their queue has places for, and one event of each other kind;
between two of them a pass runs. -/
def crowding : List (BusUse Unit Nat) :=
  [.subscribing .device () 0, .dispatching (.ofDevice 99), .pass 1] ++
    ((List.range (queueDepth + 1)).map fun number => .dispatching (.ofDevice number)) ++
    [.dispatching ⟨.root, .file 7 .empty⟩, .dispatching ⟨.root, .task 1 0 0⟩]

/-- A pass over a crowded bus delivers the device event that has overflowed last of all. -/
theorem pass_in_order_crowding : ∃ log bus acts bus' n, Undisturbed log bus ∧
    deliverAll Callbacks.counting.recorded 40 bus (1, []) = .ok (bus', n, acts) ∧ Silent acts ∧
    releasedEvents acts = (List.range queueDepth).map .ofDevice ++
      [⟨.root, .task 1 0 0⟩, ⟨.root, .file 7 .empty⟩, .ofDevice queueDepth] ∧
    Sequence (releasedEvents acts) bus.registry.lists acts bus'.registry.lists ∧
    bus'.queues.events = [] := by
  have serves : (Callbacks.counting).Serves fun _ _ => True :=
    serves_of_done (fun _ _ _ _ => ⟨_, rfl⟩) fun _ _ => ⟨_, rfl⟩
  have run : (work Callbacks.counting crowding .empty 0).toOption.any (fun out =>
      decide (out.1.queues.load ≤ 40 ∧
        out.1.queues.queued ++ out.1.queues.overflowed = (List.range queueDepth).map .ofDevice ++
          [⟨.root, .task 1 0 0⟩, ⟨.root, .file 7 .empty⟩, .ofDevice queueDepth])) = true := by
    decide +kernel
  obtain ⟨⟨bus, s⟩, run, holds⟩ := Checked.exists_of_any run
  obtain ⟨few, events⟩ := of_decide_eq_true holds
  obtain ⟨log, reached⟩ := Undisturbed.empty.work serves run
  obtain ⟨-, -, order⟩ := pass_in_order reached
  obtain ⟨delivers, ends⟩ := order Callbacks.counting 40 1
  obtain ⟨bus', n, acts, pass, silent⟩ := ends _ serves trivial few
  obtain ⟨sequence, none, -⟩ := delivers bus' n acts pass silent
  have released := sequence.released
  rw [← released] at sequence
  exact ⟨log, bus, acts, bus', n, reached, pass, silent, released.trans events, sequence, none⟩

end EventBus

end Rtos

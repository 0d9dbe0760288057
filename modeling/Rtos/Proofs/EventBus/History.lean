import Rtos.Proofs.EventBus.Pass

/-!
# What happens on a bus

Whoever uses a bus sees dispatches and what came of them, listeners that come and go, calls of listeners
and their answers, and releases (`BusAct`).  Recording callbacks write all of that down and change
nothing else.  Between two such acts events move from queue to queue, which nobody sees (`BusMove`);
`BusStep` says when a move can happen and what becomes of the bus.  Whatever is done with a bus is a
path of such steps, and what was recorded is what was seen on it (`traced_work`).

A path and a record are kept together by `Traced`.  It lets a move be made first (`Traced.step`) and
something else be done behind (`Traced.bind`), which is all that the operations of a bus are made of, so
the lemmas about them follow their clauses.  A record is arbitrary at the start (`Traced` holds for every
`log`), because each part is recorded behind the parts before it.
-/

namespace Rtos

/-- Something that happens on a bus and is seen by those who use it. -/
inductive BusAct (κ : Type)
  /-- An event is dispatched, with this result. -/
  | dispatched (event : Event) (result : Dispatched)
  /-- A listener is registered under a name, or refused. -/
  | subscribed (kind : EventKind) (listener : κ) (extra : Nat) (result : Except Error ListenerId)
  /-- A listener is taken off a list, if it is there. -/
  | unsubscribed (kind : EventKind) (id : ListenerId) (found : Bool)
  /-- A listener is told of an event. -/
  | told (listener : κ) (extra : Nat) (event : Event)
  /-- The listener answers. -/
  | answered (action : ListenerAction)
  /-- An event is released. -/
  | released (event : Event)

/-- Something that happens on a bus. -/
inductive BusMove (κ : Type)
  /-- Something that is seen. -/
  | act (a : BusAct κ)
  /-- The oldest event of the queue of a kind is taken out to be delivered. -/
  | taken (kind : EventKind) (event : Event)
  /-- The oldest overflowed event is put into the queue of its kind. -/
  | refilled (event : Event)
  /-- The oldest overflowed event, whose queue is full, is taken out to be delivered at once. -/
  | rushed (event : Event)

/-- What is seen of a move. -/
def BusMove.act? {κ : Type} : BusMove κ → Option (BusAct κ)
  | .act a => some a
  | .taken _ _ | .refilled _ | .rushed _ => none

/-- What is seen of moves, in order. -/
def BusMove.seen {κ : Type} (moves : List (BusMove κ)) : List (BusAct κ) :=
  moves.filterMap BusMove.act?

/-- What is done with a bus from outside. -/
inductive BusUse (κ σ : Type)
  /-- Someone dispatches, registers listeners or takes them off their lists, depending on how things
  stand and on what comes of it. -/
  | act (reaction : σ → Reaction κ σ)
  /-- A pass is run, none of whose loops handles more than `fuel` events. -/
  | pass (fuel : Nat)

variable {κ σ α β : Type}

/-! ## Recording -/

/-- A reaction that writes down what it sees, and finishes with it. -/
def Reaction.recorded (finish : α → List (BusAct κ) → β) :
    Reaction κ α → List (BusAct κ) → Reaction κ β
  | .done result, log => .done (result.map (finish · log))
  | .dispatch event next, log => .dispatch event fun result =>
      (next result).recorded finish (log ++ [.dispatched event result])
  | .subscribe kind listener extra next, log => .subscribe kind listener extra fun result =>
      (next result).recorded finish (log ++ [.subscribed kind listener extra result])
  | .unsubscribe kind id next, log => .unsubscribe kind id fun found =>
      (next found).recorded finish (log ++ [.unsubscribed kind id found])

/-- The callbacks that write down what they see, besides what they do. -/
def Callbacks.recorded (callbacks : Callbacks κ σ) : Callbacks κ (σ × List (BusAct κ)) where
  listen listener event extra s :=
    (callbacks.listen listener event extra s.1).recorded
      (fun answer log => (answer.1, answer.2, log ++ [.answered answer.1]))
      (s.2 ++ [.told listener extra event])
  release event s := (callbacks.release event s.1).recorded Prod.mk (s.2 ++ [.released event])

/-- Callbacks that dispatch the events of a list, one in each call. -/
def Callbacks.feeding : Callbacks κ (List Event) where
  listen _ _ _ events := match events with
    | [] => .done (.ok (.proceed, []))
    | event :: rest => .dispatch event fun _ => .done (.ok (.proceed, rest))
  release _ events := match events with
    | [] => .done (.ok [])
    | event :: rest => .dispatch event fun _ => .done (.ok rest)

/-- A report of a device, without flags. -/
def Event.ofDevice (number : Nat) : Event :=
  ⟨.root, .device number .empty⟩

/-- An event is dispatched. -/
def BusUse.dispatching (event : Event) : BusUse κ σ :=
  .act fun s => .dispatch event fun _ => .done (.ok s)

/-- A listener is registered. -/
def BusUse.subscribing (kind : EventKind) (listener : κ) (extra : Nat) : BusUse κ σ :=
  .act fun s => .subscribe kind listener extra fun _ => .done (.ok s)

/-- A use of a bus that is written down. -/
def BusUse.recorded : BusUse κ σ → BusUse κ (σ × List (BusAct κ))
  | .act reaction => .act fun s => (reaction s.1).recorded Prod.mk s.2
  | .pass fuel => .pass fuel

namespace EventBus

/-- Uses a bus. -/
def use (callbacks : Callbacks κ σ) (bus : EventBus κ) (s : σ) :
    BusUse κ σ → Checked (EventBus κ × σ)
  | .act reaction => do
    let (s, bus) ← (reaction s).run bus
    return (bus, s)
  | .pass fuel => deliverAll callbacks fuel bus s

/-- Uses a bus several times. -/
def work (callbacks : Callbacks κ σ) : List (BusUse κ σ) → EventBus κ → σ →
    Checked (EventBus κ × σ)
  | [], bus, s => return (bus, s)
  | next :: uses, bus, s => do
    let (bus, s) ← bus.use callbacks s next
    work callbacks uses bus s

end EventBus

/-! ## Moves and what they do -/

/-- What the answer of a listener leaves of its subscription. -/
def Subscription.after (sub : Subscription κ) (action : ListenerAction) : List (Subscription κ) :=
  if action.contains ListenerAction.remove then [] else [sub]

/-- Where a bus stands in a delivery. -/
inductive BusPhase (κ : Type)
  /-- Nothing is being delivered. -/
  | resting
  /-- An event is told to the listeners in `due` one after the other; those in `passed` were told of it
  and stay. -/
  | telling (event : Event) (passed due : List (Subscription κ))
  /-- One of them was told, and has not answered yet. -/
  | hearing (event : Event) (passed : List (Subscription κ)) (sub : Subscription κ)
    (due : List (Subscription κ))

namespace BusPhase

/-- The event that is being delivered. -/
def event? : BusPhase κ → Option Event
  | .resting => none
  | .telling event _ _ | .hearing event _ _ _ => some event

/-- Whether it is between two listeners, and nobody can use the bus. -/
def isTelling : BusPhase κ → Bool
  | .telling _ _ _ => true
  | .resting | .hearing _ _ _ _ => false

/-- Behind the answer of a listener: the others are due, unless the answer is to stop. -/
def answered (event : Event) (passed : List (Subscription κ)) (sub : Subscription κ)
    (due : List (Subscription κ)) (action : ListenerAction) : BusPhase κ :=
  if action.contains ListenerAction.stop then .telling event (passed ++ (sub.after action ++ due)) []
  else .telling event (passed ++ sub.after action) due

end BusPhase

/-- A bus, and where it stands in a delivery. -/
structure BusState (κ : Type) where
  /-- The bus. -/
  bus : EventBus κ
  /-- Where it stands. -/
  phase : BusPhase κ

namespace BusState

/-- A bus between deliveries. -/
def rest (bus : EventBus κ) : BusState κ :=
  ⟨bus, .resting⟩

/-- A bus on which an event is about to be told to the listeners of its kind. -/
def offer (bus : EventBus κ) (event : Event) : BusState κ :=
  ⟨bus, .telling event [] (bus.registry.lists.get event.kind)⟩

end BusState

/-- A move gets a bus from one state to another. -/
inductive BusStep : BusState κ → BusMove κ → BusState κ → Prop
  /-- An event is dispatched, by a listener or while nothing is being delivered. -/
  | dispatch {bus bus' : EventBus κ} {phase : BusPhase κ} {event : Event} {result : Dispatched}
      (free : phase.isTelling = false) (dispatch : bus.dispatch event = .ok (result, bus')) :
      BusStep ⟨bus, phase⟩ (.act (.dispatched event result)) ⟨bus', phase⟩
  /-- A listener is registered, or refused. -/
  | subscribe {bus bus' : EventBus κ} {kind : EventKind} {listener : κ} {extra : Nat}
      {result : Except Error ListenerId}
      (subscribe : bus.subscribe kind listener extra = .ok (result, bus')) :
      BusStep (.rest bus) (.act (.subscribed kind listener extra result)) (.rest bus')
  /-- A listener is taken off a list. -/
  | unsubscribe {bus bus' : EventBus κ} {kind : EventKind} {id : ListenerId} {found : Bool}
      (unsubscribe : bus.unsubscribe kind id = (found, bus')) :
      BusStep (.rest bus) (.act (.unsubscribed kind id found)) (.rest bus')
  /-- An event is taken out of its queue. -/
  | take {bus : EventBus κ} {kind : EventKind} {event : Event} {queues : Queues}
      (take : bus.queues.dequeue? kind = some (event, queues)) :
      BusStep (.rest bus) (.taken kind event) (.offer { bus with queues } event)
  /-- An overflowed event gets a place in its queue. -/
  | refill {bus : EventBus κ} {event : Event} {taken queues : Queues}
      (take : bus.queues.dequeueOverflow? = some (event, taken))
      (put : taken.enqueue? event = some queues) :
      BusStep (.rest bus) (.refilled event) (.rest { bus with queues })
  /-- An overflowed event finds its queue full. -/
  | rush {bus : EventBus κ} {event : Event} {queues : Queues}
      (take : bus.queues.dequeueOverflow? = some (event, queues))
      (full : queues.enqueue? event = none) :
      BusStep (.rest bus) (.rushed event) (.offer { bus with queues } event)
  /-- The next listener is told. -/
  | tell {bus : EventBus κ} {event : Event} {passed due : List (Subscription κ)}
      {sub : Subscription κ} :
      BusStep ⟨bus, .telling event passed (sub :: due)⟩
        (.act (.told sub.listener sub.extra event)) ⟨bus, .hearing event passed sub due⟩
  /-- The listener answers. -/
  | answer {bus : EventBus κ} {event : Event} {passed due : List (Subscription κ)}
      {sub : Subscription κ} (action : ListenerAction) :
      BusStep ⟨bus, .hearing event passed sub due⟩ (.act (.answered action))
        ⟨bus, .answered event passed sub due action⟩
  /-- Nobody is due, and the event is released. -/
  | release {bus : EventBus κ} {event : Event} {passed : List (Subscription κ)} :
      BusStep ⟨bus, .telling event passed []⟩ (.act (.released event))
        (.rest { bus with registry :=
          { bus.registry with lists := bus.registry.lists.set event.kind passed } })

/-- What a move comes to is determined by it. -/
theorem BusStep.unique {state state' state'' : BusState κ} {move : BusMove κ}
    (step : BusStep state move state') (other : BusStep state move state'') : state' = state'' := by
  cases step with
  | dispatch _ dispatch =>
    cases other with
    | dispatch _ dispatch' =>
      rw [dispatch] at dispatch'
      cases dispatch'
      rfl
  | subscribe subscribe =>
    cases other with
    | subscribe subscribe' =>
      rw [subscribe] at subscribe'
      cases subscribe'
      rfl
  | unsubscribe unsubscribe =>
    cases other with
    | unsubscribe unsubscribe' =>
      rw [unsubscribe] at unsubscribe'
      cases unsubscribe'
      rfl
  | take take =>
    cases other with
    | take take' =>
      rw [take] at take'
      cases take'
      rfl
  | refill take put =>
    cases other with
    | refill take' put' =>
      rw [take] at take'
      cases take'
      rw [put] at put'
      cases put'
      rfl
  | rush take =>
    cases other with
    | rush take' =>
      rw [take] at take'
      cases take'
      rfl
  | tell => cases other; rfl
  | answer => cases other; rfl
  | release => cases other; rfl

/-- Moves get a bus from one state to another. -/
inductive BusPath : BusState κ → List (BusMove κ) → BusState κ → Prop
  /-- There is none. -/
  | refl (state : BusState κ) : BusPath state [] state
  /-- One more is made. -/
  | snoc {state state' state'' : BusState κ} {moves : List (BusMove κ)} {move : BusMove κ}
      (before : BusPath state moves state') (step : BusStep state' move state'') :
      BusPath state (moves ++ [move]) state''

namespace BusMove

variable {moves more : List (BusMove κ)} {move : BusMove κ}

@[simp] theorem seen_nil : seen ([] : List (BusMove κ)) = [] := rfl

@[simp] theorem seen_append : seen (moves ++ more) = seen moves ++ seen more :=
  List.filterMap_append

theorem seen_singleton : seen [move] = move.act?.toList := by
  cases move <;> rfl

end BusMove

namespace BusPath

variable {state state' state'' : BusState κ} {moves more : List (BusMove κ)} {move : BusMove κ}

theorem trans (first : BusPath state moves state') (rest : BusPath state' more state'') :
    BusPath state (moves ++ more) state'' := by
  induction rest with
  | refl => rwa [List.append_nil]
  | snoc _ step ih => rw [← List.append_assoc]; exact ih.snoc step

theorem single (step : BusStep state move state') : BusPath state [move] state' :=
  (refl state).snoc step

theorem last (path : BusPath state (moves ++ [move]) state') :
    ∃ mid, BusPath state moves mid ∧ BusStep mid move state' := by
  generalize eq : moves ++ [move] = whole at path
  cases path with
  | refl => exact absurd eq (List.append_ne_nil_of_right_ne_nil _ nofun)
  | snoc before step =>
    obtain ⟨rfl, same⟩ := List.append_inj' eq rfl
    cases same
    exact ⟨_, before, step⟩

theorem of_prefix (path : BusPath state moves state') (h : more <+: moves) :
    ∃ mid, BusPath state more mid := by
  induction path with
  | refl =>
    cases List.prefix_nil.1 h
    exact ⟨_, refl _⟩
  | snoc before step ih =>
    obtain rfl | earlier := List.prefix_concat_iff.1 h
    · exact ⟨_, before.snoc step⟩
    · exact ih earlier

end BusPath

/-- Where a path leads is determined by its moves. -/
theorem BusPath.unique {state state' state'' : BusState κ} {moves : List (BusMove κ)}
    (path : BusPath state moves state') (other : BusPath state moves state'') : state' = state'' := by
  induction path generalizing state'' with
  | refl =>
    generalize none : ([] : List (BusMove κ)) = moves at other
    cases other with
    | refl => rfl
    | snoc => exact absurd none.symm (List.append_ne_nil_of_right_ne_nil _ nofun)
  | snoc before step ih =>
    obtain ⟨mid, before', step'⟩ := other.last
    cases ih before'
    exact step.unique step'

/-! ## What is done is a path -/

/-- Something is done on a path: given any record, it comes to its result with what was seen on the path
behind the record. -/
def Traced (state state' : BusState κ) (run : List (BusAct κ) → Checked α)
    (result : List (BusAct κ) → α) : Prop :=
  ∃ moves, BusPath state moves state' ∧ ∀ log, run log = .ok (result (log ++ BusMove.seen moves))

namespace Traced

variable {state mid state' : BusState κ} {move : BusMove κ} {run run' : List (BusAct κ) → Checked α}
  {result : List (BusAct κ) → α}

theorem done (state : BusState κ) (result : List (BusAct κ) → α) :
    Traced state state (fun log => .ok (result log)) result :=
  ⟨[], .refl state, fun log => by rw [BusMove.seen_nil, List.append_nil]⟩

theorem congr (h : Traced state state' run result) (same : ∀ log, run' log = run log) :
    Traced state state' run' result :=
  funext same ▸ h

theorem step (rest : Traced mid state' run result) (first : BusStep state move mid) :
    Traced state state' (fun log => run (log ++ move.act?.toList)) result := by
  obtain ⟨moves, path, runs⟩ := rest
  refine ⟨_, (BusPath.single first).trans path, fun log => ?_⟩
  rw [BusMove.seen_append, BusMove.seen_singleton, ← List.append_assoc]
  exact runs _

theorem step_unseen (rest : Traced mid state' run result) (first : BusStep state move mid)
    (unseen : move.act? = none) : Traced state state' run result := by
  refine (rest.step first).congr fun log => ?_
  rw [unseen, Option.toList_none, List.append_nil]

theorem bind {next : α → Checked β} {result' : List (BusAct κ) → β}
    (first : Traced state mid run result)
    (rest : Traced mid state' (fun log => next (result log)) result') :
    Traced state state' (fun log => run log >>= next) result' := by
  obtain ⟨moves, path, runs⟩ := first
  obtain ⟨more, path', runs'⟩ := rest
  refine ⟨_, path.trans path', fun log => Checked.bind_eq_ok.2 ⟨_, runs log, ?_⟩⟩
  rw [BusMove.seen_append, ← List.append_assoc]
  exact runs' _

end Traced

variable {callbacks : Callbacks κ σ} {bus bus' : EventBus κ} {s s' : σ} {event : Event}

theorem traced_run {reaction : Reaction κ α} {a : α} (finish : α → List (BusAct κ) → β)
    (h : reaction.run bus = .ok (a, bus')) :
    Traced (.rest bus) (.rest bus') (fun log => (reaction.recorded finish log).run bus)
      fun log => (finish a log, bus') := by
  induction reaction generalizing bus with
  | done result =>
    obtain ⟨a, rfl, eq⟩ := Checked.bind_eq_ok.1 h
    cases eq
    exact .done _ _
  | dispatch event next ih =>
    obtain ⟨⟨result, bus₁⟩, dispatch, rest⟩ := Checked.bind_eq_ok.1 h
    refine ((ih result rest).step (.dispatch rfl dispatch)).congr fun log => ?_
    rw [Reaction.recorded, Reaction.run, dispatch]
    rfl
  | subscribe kind listener extra next ih =>
    obtain ⟨⟨result, bus₁⟩, subscribe, rest⟩ := Checked.bind_eq_ok.1 h
    refine ((ih result rest).step (.subscribe subscribe)).congr fun log => ?_
    rw [Reaction.recorded, Reaction.run, subscribe]
    rfl
  | unsubscribe kind id next ih => exact (ih _ h).step (.unsubscribe rfl)

theorem traced_runHeld {reaction : Reaction κ α} {a : α} {queues queues' : Queues}
    (finish : α → List (BusAct κ) → β) (h : reaction.runHeld queues = .ok (a, queues'))
    (registry : Registry κ) (event : Event) (passed : List (Subscription κ)) (sub : Subscription κ)
    (due : List (Subscription κ)) :
    Traced ⟨⟨queues, registry⟩, .hearing event passed sub due⟩
      ⟨⟨queues', registry⟩, .hearing event passed sub due⟩
      (fun log => (reaction.recorded finish log).runHeld queues)
      fun log => (finish a log, queues') := by
  induction reaction generalizing queues with
  | done result =>
    obtain ⟨a, rfl, eq⟩ := Checked.bind_eq_ok.1 h
    cases eq
    exact .done _ _
  | dispatch other next ih =>
    obtain ⟨⟨result, queues₁⟩, dispatch, rest⟩ := Checked.bind_eq_ok.1 h
    have onBus : EventBus.dispatch ⟨queues, registry⟩ other = .ok (result, ⟨queues₁, registry⟩) :=
      Checked.bind_eq_ok.2 ⟨_, dispatch, rfl⟩
    refine ((ih result rest).step (.dispatch rfl onBus)).congr fun log => ?_
    rw [Reaction.recorded, Reaction.runHeld, dispatch]
    rfl
  | subscribe => cases h
  | unsubscribe => cases h

namespace EventBus

theorem traced_tell {due list : List (Subscription κ)} {queues queues' : Queues}
    (h : tell callbacks event due queues s = .ok (list, queues', s')) (registry : Registry κ)
    (passed : List (Subscription κ)) :
    Traced ⟨⟨queues, registry⟩, .telling event passed due⟩
      ⟨⟨queues', registry⟩, .telling event (passed ++ list) []⟩
      (fun log => tell callbacks.recorded event due queues (s, log))
      fun log => (list, queues', s', log) := by
  induction due generalizing queues s list passed with
  | nil =>
    cases h
    rw [List.append_nil]
    exact .done _ _
  | cons sub due ih =>
    obtain ⟨⟨⟨action, s₁⟩, queues₁⟩, heard, h⟩ := Checked.bind_eq_ok.1 h
    have hears := traced_runHeld
      (fun answer log => (answer.1, answer.2, log ++ [BusAct.answered answer.1])) heard registry event
      passed sub due
    have rest : Traced ⟨⟨queues₁, registry⟩, .answered event passed sub due action⟩
        ⟨⟨queues', registry⟩, .telling event (passed ++ list) []⟩
        (fun log =>
          if action.contains ListenerAction.stop then
            .ok (sub.after action ++ due, queues₁, s₁, log)
          else do
            let (rest, queues, s) ← tell callbacks.recorded event due queues₁ (s₁, log)
            return (sub.after action ++ rest, queues, s))
        fun log => (list, queues', s', log) := by
      unfold BusPhase.answered
      dsimp only at h
      split at h
      case isTrue stops =>
        cases h
        simp only [if_pos stops]
        exact .done _ _
      case isFalse goes =>
        obtain ⟨⟨list₁, queues₂, s₂⟩, others, eq⟩ := Checked.bind_eq_ok.1 h
        cases eq
        simp only [if_neg goes]
        have tells := ih others (passed ++ sub.after action)
        rw [List.append_assoc] at tells
        exact tells.bind (.done _ _)
    exact (hears.bind (rest.step (.answer action))).step .tell

theorem traced_deliver (h : deliver callbacks bus event s = .ok (bus', s')) :
    Traced (.offer bus event) (.rest bus')
      (fun log => deliver callbacks.recorded bus event (s, log)) fun log => (bus', s', log) := by
  obtain ⟨⟨list, queues, s₁⟩, told, h⟩ := Checked.bind_eq_ok.1 h
  obtain ⟨⟨s₂, bus₂⟩, released, eq⟩ := Checked.bind_eq_ok.1 h
  cases eq
  let registry := { bus.registry with lists := bus.registry.lists.set event.kind list }
  have tells := traced_tell told bus.registry []
  have release : BusStep ⟨⟨queues, bus.registry⟩, .telling event list []⟩ (.act (.released event))
      (.rest ⟨queues, registry⟩) := .release
  have releases : Traced (.rest ⟨queues, registry⟩) (.rest bus')
      (fun log => do
        let (s, bus) ← ((callbacks.release event s₁).recorded Prod.mk log).run ⟨queues, registry⟩
        return (bus, s))
      fun log => (bus', s', log) :=
    (traced_run Prod.mk released).bind (.done _ _)
  exact tells.bind (releases.step release)

theorem traced_drain {kind : EventKind} {fuel : Nat}
    (h : drain callbacks kind fuel bus s = .ok (bus', s')) :
    Traced (.rest bus) (.rest bus') (fun log => drain callbacks.recorded kind fuel bus (s, log))
      fun log => (bus', s', log) := by
  replace h := Drains.of_eq_ok h
  induction h with
  | done none =>
    simp only [drain_of_none none]
    exact .done _ _
  | next oldest delivered _ ih =>
    simp only [drain_of_taken oldest]
    refine .step_unseen ?_ (.take oldest) rfl
    exact (traced_deliver delivered).bind ih

theorem traced_drainAll {fuel : Nat} (h : drainAll callbacks fuel bus s = .ok (bus', s')) :
    Traced (.rest bus) (.rest bus') (fun log => drainAll callbacks.recorded fuel bus (s, log))
      fun log => (bus', s', log) := by
  obtain ⟨⟨bus₁, s₁⟩, device, h⟩ := Checked.bind_eq_ok.1 h
  obtain ⟨⟨bus₂, s₂⟩, task, file⟩ := Checked.bind_eq_ok.1 h
  exact (traced_drain device).bind ((traced_drain task).bind (traced_drain file))

theorem traced_refill {fuel : Nat} {moved moved' : Bool}
    (h : refill callbacks fuel moved bus s = .ok (moved', bus', s')) :
    Traced (.rest bus) (.rest bus') (fun log => refill callbacks.recorded fuel moved bus (s, log))
      fun log => (moved', bus', s', log) := by
  replace h := Refills.of_eq_ok h
  induction h with
  | done none =>
    simp only [refill_of_none none]
    exact .done _ _
  | put oldest put _ ih =>
    simp only [refill_of_put oldest put]
    exact ih.step_unseen (.refill oldest put) rfl
  | rush oldest full delivered _ ih =>
    simp only [refill_of_full oldest full]
    refine .step_unseen ?_ (.rush oldest full) rfl
    exact (traced_deliver delivered).bind ih

theorem traced_deliverAll {fuel : Nat} (h : deliverAll callbacks fuel bus s = .ok (bus', s')) :
    Traced (.rest bus) (.rest bus') (fun log => deliverAll callbacks.recorded fuel bus (s, log))
      fun log => (bus', s', log) := by
  obtain ⟨⟨bus₁, s₁⟩, first, h⟩ := Checked.bind_eq_ok.1 h
  obtain ⟨⟨moved, bus₂, s₂⟩, refilled, h⟩ := Checked.bind_eq_ok.1 h
  refine (traced_drainAll first).bind ((traced_refill refilled).bind ?_)
  cases moved with
  | false => cases h; exact .done _ _
  | true => exact traced_drainAll h

theorem traced_use {next : BusUse κ σ} (h : bus.use callbacks s next = .ok (bus', s')) :
    Traced (.rest bus) (.rest bus') (fun log => bus.use callbacks.recorded (s, log) next.recorded)
      fun log => (bus', s', log) := by
  cases next with
  | act reaction =>
    obtain ⟨⟨s₁, bus₁⟩, acted, eq⟩ := Checked.bind_eq_ok.1 h
    cases eq
    exact (traced_run Prod.mk acted).bind (.done _ _)
  | pass fuel => exact traced_deliverAll h

/-- Whatever is done with a bus is done on a path, and recording it changes nothing. -/
theorem traced_work {uses : List (BusUse κ σ)} (h : work callbacks uses bus s = .ok (bus', s')) :
    Traced (.rest bus) (.rest bus')
      (fun log => work callbacks.recorded (uses.map .recorded) bus (s, log))
      fun log => (bus', s', log) := by
  induction uses generalizing bus s with
  | nil => cases h; exact .done _ _
  | cons next uses ih =>
    obtain ⟨⟨bus₁, s₁⟩, used, rest⟩ := Checked.bind_eq_ok.1 h
    exact (traced_use used).bind (ih rest)

end EventBus

end Rtos

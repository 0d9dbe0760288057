import Rtos.EventBus.Queues
import Rtos.EventBus.Registry

/-!
# The event bus

Producers dispatch events, which never waits; a pass over the bus delivers what is queued. Each
event is told to the listeners of its kind and then released.

Callbacks run in the middle of a pass and may use the bus themselves. What a callback does is a
`Reaction`: the actions it takes on the bus, one after the other, and the answer it returns. A
listener runs while the lists of listeners are being walked, so it may dispatch but not register; a
release runs between deliveries and may do both.
-/

namespace Rtos

/-- A bus: its queues and its listeners. -/
structure EventBus (κ : Type) where
  /-- The events that wait for a pass. -/
  queues : Queues
  /-- The listeners. -/
  registry : Registry κ
deriving DecidableEq, Repr

/-- What a callback does to the bus before it answers with an `α`. -/
inductive Reaction (κ α : Type)
  /-- It answers, or it faults. -/
  | done (result : Checked α)
  /-- It dispatches an event and sees what became of it. -/
  | dispatch (event : Event) (next : Dispatched → Reaction κ α)
  /-- It registers a listener. -/
  | subscribe (kind : EventKind) (listener : κ) (extra : Nat)
    (next : Except Error ListenerId → Reaction κ α)
  /-- It takes a listener off its list. -/
  | unsubscribe (kind : EventKind) (id : ListenerId) (next : Bool → Reaction κ α)

/-- The callbacks of a bus, over states of type `σ`. -/
structure Callbacks (κ σ : Type) where
  /-- What a listener does when it is told of an event; it is also given its extra word. -/
  listen : κ → Event → Nat → σ → Reaction κ (ListenerAction × σ)
  /-- What is done with an event that has been told to its listeners. -/
  release : Event → σ → Reaction κ σ

variable {κ σ α : Type}

namespace EventBus

/-- A bus without events and listeners. -/
def empty : EventBus κ :=
  ⟨.empty, .empty⟩

/-- Dispatches an event. -/
def dispatch (bus : EventBus κ) (event : Event) : Checked (Dispatched × EventBus κ) := do
  let (result, queues) ← bus.queues.dispatch event
  return (result, { bus with queues })

/-- Registers a listener. -/
def subscribe (bus : EventBus κ) (kind : EventKind) (listener : κ) (extra : Nat) :
    Checked (Except Error ListenerId × EventBus κ) := do
  let (result, registry) ← bus.registry.subscribe kind listener extra
  return (result, { bus with registry })

/-- Takes a listener off its list, and tells whether it was there. -/
def unsubscribe (bus : EventBus κ) (kind : EventKind) (id : ListenerId) : Bool × EventBus κ :=
  let (found, registry) := bus.registry.unsubscribe kind id
  (found, { bus with registry })

end EventBus

namespace Reaction

/-- Runs a reaction on a bus. -/
def run : Reaction κ α → EventBus κ → Checked (α × EventBus κ)
  | done result, bus => return (← result, bus)
  | dispatch event next, bus => do
    let (result, bus) ← bus.dispatch event
    (next result).run bus
  | subscribe kind listener extra next, bus => do
    let (result, bus) ← bus.subscribe kind listener extra
    (next result).run bus
  | unsubscribe kind id next, bus =>
    let (found, bus) := bus.unsubscribe kind id
    (next found).run bus

/-- Runs a reaction while the lists of listeners are held: it may dispatch, and waits for ever if it
asks for the lists. -/
def runHeld : Reaction κ α → Queues → Checked (α × Queues)
  | done result, queues => return (← result, queues)
  | dispatch event next, queues => do
    let (result, queues) ← queues.dispatch event
    (next result).runHeld queues
  | subscribe .., _ => .error .endless
  | unsubscribe .., _ => .error .endless

end Reaction

namespace EventBus

/-! ## Delivery -/

/-- Tells listeners of an event, one after the other. A listener that answers `REMOVE` is taken off
the list, and one that answers `STOP` is the last. -/
def tell (callbacks : Callbacks κ σ) (event : Event) :
    List (Subscription κ) → Queues → σ → Checked (List (Subscription κ) × Queues × σ)
  | [], queues, s => return ([], queues, s)
  | sub :: rest, queues, s => do
    let ((action, s), queues) ← (callbacks.listen sub.listener event sub.extra s).runHeld queues
    let kept := if action.contains ListenerAction.remove then [] else [sub]
    if action.contains ListenerAction.stop then
      return (kept ++ rest, queues, s)
    else
      let (rest, queues, s) ← tell callbacks event rest queues s
      return (kept ++ rest, queues, s)

/-- Tells the listeners of its kind of an event, and releases it. -/
def deliver (callbacks : Callbacks κ σ) (bus : EventBus κ) (event : Event) (s : σ) :
    Checked (EventBus κ × σ) := do
  let (list, queues, s) ← tell callbacks event (bus.registry.lists.get event.kind) bus.queues s
  let registry := { bus.registry with lists := bus.registry.lists.set event.kind list }
  let (s, bus) ← (callbacks.release event s).run { queues, registry }
  return (bus, s)

/-- Delivers the events of a kind until its queue is empty, for at most `fuel` events. -/
def drain (callbacks : Callbacks κ σ) (kind : EventKind) (fuel : Nat) (bus : EventBus κ) (s : σ) :
    Checked (EventBus κ × σ) :=
  match bus.queues.dequeue? kind with
  | none => return (bus, s)
  | some (event, queues) =>
    match fuel with
    | 0 => .error .endless
    | fuel + 1 => do
      let (bus, s) ← deliver callbacks { bus with queues } event s
      drain callbacks kind fuel bus s

/-- Drains the queue of every kind in turn. -/
def drainAll (callbacks : Callbacks κ σ) (fuel : Nat) (bus : EventBus κ) (s : σ) :
    Checked (EventBus κ × σ) := do
  let (bus, s) ← drain callbacks .device fuel bus s
  let (bus, s) ← drain callbacks .task fuel bus s
  drain callbacks .file fuel bus s

/-- Moves the overflowed events to the queues of their kinds, for at most `fuel` events; one that
finds its queue full is delivered at once. The answer tells whether there was any. -/
def refill (callbacks : Callbacks κ σ) (fuel : Nat) (moved : Bool) (bus : EventBus κ) (s : σ) :
    Checked (Bool × EventBus κ × σ) :=
  match bus.queues.dequeueOverflow? with
  | none => return (moved, bus, s)
  | some (event, queues) =>
    match fuel with
    | 0 => .error .endless
    | fuel + 1 => do
      match queues.enqueue? event with
      | some queues => refill callbacks fuel true { bus with queues } s
      | none =>
        let (bus, s) ← deliver callbacks { bus with queues } event s
        refill callbacks fuel true bus s

/-- One pass over the bus: the queues are drained, the overflowed events, which are newer, take
their places, and the queues are drained again. No loop handles more than `fuel` events. -/
def deliverAll (callbacks : Callbacks κ σ) (fuel : Nat) (bus : EventBus κ) (s : σ) :
    Checked (EventBus κ × σ) := do
  let (bus, s) ← drainAll callbacks fuel bus s
  let (moved, bus, s) ← refill callbacks fuel false bus s
  if moved then drainAll callbacks fuel bus s else return (bus, s)

end EventBus

end Rtos

import Rtos.EventBus

/-!
# A bus with scripted callbacks

A bus whose listeners and whose release act out a script: which events they dispatch at each of
their calls, what they register, and what they answer. Everything they do is recorded.
-/

namespace Rtos.Bench

/-- What a listener does at one call. -/
structure Turn where
  /-- The events that it dispatches, in order. -/
  dispatches : List Payload
  /-- What it answers. -/
  action : ListenerAction
deriving DecidableEq, Repr

/-- What anyone but a listener may do to the bus. -/
inductive BusCommand
  /-- Dispatch an event a number of times. -/
  | dispatch (payload : Payload) (times : Nat)
  /-- Register a listener. -/
  | subscribe (kind : EventKind) (extra : Nat)
  /-- Take the listener of the given registration off a list. -/
  | unsubscribe (kind : EventKind) (registration : Nat)
deriving DecidableEq, Repr

/-- What came of a command. -/
inductive BusReply
  /-- What became of an event the last time it was dispatched. -/
  | dispatched (result : Option Dispatched)
  /-- The name that a listener got. -/
  | subscribed (result : Except Error ListenerId)
  /-- Whether a listener was there. -/
  | unsubscribed (found : Bool)

/-- Something that happened during a pass. -/
inductive BusRecord
  /-- A listener was told of an event. -/
  | told (extra : Nat) (payload : Payload)
  /-- A listener dispatched an event. -/
  | dispatched (result : Dispatched)
  /-- An event was released. -/
  | released (payload : Payload)
  /-- A release carried out a command. -/
  | commanded (reply : BusReply)

/-- The script of the callbacks. -/
structure BusScript where
  /-- The calls of the listeners, by their extra words. -/
  turns : List (Nat × List Turn)
  /-- The commands that each release carries out, by its number. -/
  releases : List (List BusCommand)
deriving DecidableEq, Repr

/-- The number of events that a command dispatches. -/
def BusCommand.dispatches : BusCommand → Nat
  | .dispatch _ times => times
  | .subscribe _ _ | .unsubscribe _ _ => 0

/-- The number of events that a script may dispatch. -/
def BusScript.dispatches (script : BusScript) : Nat :=
  let told := (script.turns.flatMap (·.2)).flatMap (·.dispatches)
  script.releases.flatten.foldl (fun count command => count + command.dispatches) told.length

/-- How far the script has been acted out, and what happened. -/
structure BusProgress where
  /-- The extra words of the listeners called so far. -/
  called : List Nat
  /-- The number of events released so far. -/
  released : Nat
  /-- The listeners registered so far, in order. -/
  registered : List ListenerId
  /-- What happened, in order. -/
  records : List BusRecord

namespace BusProgress

/-- Nothing has happened. -/
def start : BusProgress :=
  ⟨[], 0, [], []⟩

/-- Adds a record. -/
def add (p : BusProgress) (r : BusRecord) : BusProgress :=
  { p with records := p.records ++ [r] }

/-- Takes note of a registration. -/
def noteReply (p : BusProgress) : BusReply → BusProgress
  | .subscribed (.ok id) => { p with registered := p.registered ++ [id] }
  | _ => p

end BusProgress

variable {α : Type}

/-- Dispatches an event a number of times, then goes on with what became of it the last time. -/
def dispatchTimes (payload : Payload) :
    Nat → Option Dispatched → (Option Dispatched → Reaction Unit α) → Reaction Unit α
  | 0, last, next => next last
  | times + 1, _, next =>
    .dispatch ⟨.root, payload⟩ fun result => dispatchTimes payload times (some result) next

/-- Carries out a command, then goes on with its reply. -/
def BusCommand.act (registered : List ListenerId) (next : BusReply → Reaction Unit α) :
    BusCommand → Reaction Unit α
  | .dispatch payload times =>
    dispatchTimes payload times none fun result => next (.dispatched result)
  | .subscribe kind extra => .subscribe kind () extra fun result => next (.subscribed result)
  | .unsubscribe kind registration =>
    match registered[registration]? with
    | some id => .unsubscribe kind id fun found => next (.unsubscribed found)
    | none => next (.unsubscribed false)

namespace BusScript

/-- What a listener does when it is called. A listener that is not in the script, or has acted it
out, does nothing. -/
def turn (script : BusScript) (p : BusProgress) (extra : Nat) : Turn :=
  let turns := (script.turns.lookup extra).getD []
  turns.getD (p.called.count extra) ⟨[], .proceed⟩

/-- Acts out the rest of a turn. -/
def actTurn (action : ListenerAction) :
    List Payload → BusProgress → Reaction Unit (ListenerAction × BusProgress)
  | [], p => .done (.ok (action, p))
  | payload :: rest, p =>
    .dispatch ⟨.root, payload⟩ fun result =>
      actTurn action rest (p.add (.dispatched result))

/-- Acts out the rest of a release. -/
def actRelease : List BusCommand → BusProgress → Reaction Unit BusProgress
  | [], p => .done (.ok p)
  | command :: rest, p =>
    command.act p.registered fun reply =>
      actRelease rest ((p.noteReply reply).add (.commanded reply))

/-- The callbacks that act out a script. -/
def callbacks (script : BusScript) : Callbacks Unit BusProgress where
  listen _ event extra p :=
    let turn := script.turn p extra
    let p := { p with called := extra :: p.called }.add (.told extra event.payload)
    actTurn turn.action turn.dispatches p
  release event p :=
    let commands := script.releases.getD p.released []
    actRelease commands ({ p with released := p.released + 1 }.add (.released event.payload))

end BusScript

/-- A bus and the progress of its script. -/
structure ScriptedBus where
  /-- The script. -/
  script : BusScript
  /-- The bus. -/
  bus : EventBus Unit
  /-- How far the script has been acted out. -/
  progress : BusProgress

namespace ScriptedBus

/-- An empty bus before its script. -/
def start (script : BusScript) : ScriptedBus :=
  ⟨script, .empty, .start⟩

/-- Carries out a command from outside. -/
def command (b : ScriptedBus) (c : BusCommand) : Checked (BusReply × ScriptedBus) := do
  let action := c.act b.progress.registered fun reply => .done (.ok reply)
  let (reply, bus) ← action.run b.bus
  return (reply, { b with bus, progress := b.progress.noteReply reply })

/-- Runs a pass, and answers with what happened in it. No loop of the pass handles more events than
are queued and the script can still dispatch. -/
def process (b : ScriptedBus) : Checked (List BusRecord × ScriptedBus) := do
  let fuel := b.bus.queues.load + b.script.dispatches
  let (bus, progress) ← b.bus.deliverAll b.script.callbacks fuel b.progress
  return (progress.records, { b with bus, progress := { progress with records := [] } })

end ScriptedBus

end Rtos.Bench

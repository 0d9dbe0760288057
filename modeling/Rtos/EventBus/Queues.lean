import Rtos.Event
import Rtos.Fifo

/-!
# Event queues

Each kind of event has a bounded queue, and all kinds share an overflow queue. An event that fits
into neither is handed back to its producer: delivery is best effort.
-/

namespace Rtos

/-- What became of a dispatched event. -/
inductive Dispatched
  /-- It is in the queue of its kind. -/
  | queued
  /-- It is in the overflow queue. -/
  | overflowed
  /-- Both queues were full; the producer gets the event back. -/
  | refused (event : Event)
deriving DecidableEq, Repr

/-- The queues of a bus. -/
structure Queues where
  /-- The queue of each kind. -/
  pending : ByKind (Fifo queueDepth Event)
  /-- The events whose own queue was full. -/
  overflow : Fifo overflowDepth Event
  /-- The number of events refused. -/
  dropped : Counter
deriving DecidableEq, Repr

namespace Queues

/-- Queues without events. -/
def empty : Queues where
  pending := .replicate .empty
  overflow := .empty
  dropped := ⟨0⟩

/-- The number of events held. -/
def load (q : Queues) : Nat :=
  q.pending.device.length + q.pending.task.length + q.pending.file.length + q.overflow.length

/-- Puts an event into the queue of its kind, if there is a place. -/
def enqueue? (q : Queues) (event : Event) : Option Queues :=
  ((q.pending.get event.kind).push? event).map fun pending =>
    { q with pending := q.pending.set event.kind pending }

/-- Takes the oldest event of a kind. -/
def dequeue? (q : Queues) (kind : EventKind) : Option (Event × Queues) :=
  (q.pending.get kind).pop?.map fun (event, pending) =>
    (event, { q with pending := q.pending.set kind pending })

/-- Takes the oldest event of the overflow queue. -/
def dequeueOverflow? (q : Queues) : Option (Event × Queues) :=
  q.overflow.pop?.map fun (event, overflow) => (event, { q with overflow })

/-- Queues an event, or hands it back and counts the refusal. -/
def dispatch (q : Queues) (event : Event) : Checked (Dispatched × Queues) := do
  match q.enqueue? event with
  | some q => return (.queued, q)
  | none =>
    match q.overflow.push? event with
    | some overflow => return (.overflowed, { q with overflow })
    | none => return (.refused event, { q with dropped := ← q.dropped.increment })

/-- An event finds no place exactly if the queue of its kind is full. -/
theorem enqueue?_eq_none {q : Queues} {event : Event} :
    q.enqueue? event = none ↔ (q.pending.get event.kind).items.length = queueDepth := by
  simp [enqueue?, Fifo.push?_eq_none]

/-- An event that finds a place is the newest in the queue of its kind. -/
theorem items_of_enqueue? {q r : Queues} {event : Event} (h : q.enqueue? event = some r) :
    (r.pending.get event.kind).items = (q.pending.get event.kind).items ++ [event] := by
  obtain ⟨pending, pushed, rfl⟩ := Option.map_eq_some_iff.1 h
  simp [(Fifo.push?_eq_some.1 pushed).2]

/-- No event is taken exactly if the queue of the kind is empty. -/
theorem dequeue?_eq_none {q : Queues} {kind : EventKind} :
    q.dequeue? kind = none ↔ (q.pending.get kind).items = [] := by
  simp [dequeue?, Fifo.pop?_eq_none]

/-- The event taken is the oldest in the queue of its kind. -/
theorem items_of_dequeue? {q r : Queues} {kind : EventKind} {event : Event}
    (h : q.dequeue? kind = some (event, r)) :
    (q.pending.get kind).items = event :: (r.pending.get kind).items := by
  obtain ⟨⟨oldest, pending⟩, popped, eq⟩ := Option.map_eq_some_iff.1 h
  cases eq
  simp [Fifo.pop?_eq_some.1 popped]

end Queues

end Rtos

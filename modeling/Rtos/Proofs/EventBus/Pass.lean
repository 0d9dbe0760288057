import Rtos.EventBus
import Mathlib.Data.List.Basic

/-!
# Passes over the bus

`Queues.events` lists what the queues hold, and each queue operation is described by its effect on
that list, up to order.  A pass takes events out, delivers each one and refills the queues from the
overflow; `KeepsPass` collects what a property has to survive for that, and `deliverAll_keeps`
concludes that it survives the pass.  Callbacks that leave the bus alone, as the kernel's do, make
every pass end with empty queues (`events_deliverAll`), and if they come to an end, so does a pass
that is given as much fuel as there are events (`deliverAll_total`).
-/

namespace Rtos

variable {κ σ : Type}

namespace Queues

variable {q r : Queues} {event : Event} {kind : EventKind}

/-! ## What the queues hold -/

/-- The events held. -/
def events (q : Queues) : List Event :=
  q.pending.device.items ++ q.pending.task.items ++ q.pending.file.items ++ q.overflow.items

theorem length_events (q : Queues) : q.events.length = q.load := by
  simp only [events, List.length_append, load, Fifo.length]

theorem events_eq_nil (pending : ∀ kind, (q.pending.get kind).items = [])
    (overflow : q.overflow.items = []) : q.events = [] := by
  have device := pending .device
  have task := pending .task
  have file := pending .file
  change q.pending.device.items = [] at device
  change q.pending.task.items = [] at task
  change q.pending.file.items = [] at file
  rw [events, device, task, file, overflow]
  rfl

/-- An event is taken out of the queue of a kind or out of the overflow queue. -/
def Takes (q : Queues) (event : Event) (r : Queues) : Prop :=
  (∃ kind, q.dequeue? kind = some (event, r)) ∨ q.dequeueOverflow? = some (event, r)

/-- An event that finds a place is held from then on. -/
theorem events_enqueue? (h : q.enqueue? event = some r) : r.events.Perm (event :: q.events) := by
  obtain ⟨pending, pushed, rfl⟩ := Option.map_eq_some_iff.1 h
  have pushed := (Fifo.push?_eq_some.1 pushed).2
  rw [List.perm_iff_count]
  intro e
  cases hk : event.kind <;>
    simp only [hk, ByKind.get] at pushed <;>
    simp only [events, ByKind.set, pushed, List.count_append, List.count_cons, List.count_nil] <;>
    omega

/-- The event taken is the only one that is no longer held. -/
theorem events_dequeue? (h : q.dequeue? kind = some (event, r)) :
    q.events.Perm (event :: r.events) := by
  obtain ⟨⟨oldest, pending⟩, popped, eq⟩ := Option.map_eq_some_iff.1 h
  cases eq
  have popped := Fifo.pop?_eq_some.1 popped
  rw [List.perm_iff_count]
  intro e
  cases kind <;>
    simp only [ByKind.get] at popped <;>
    simp only [events, ByKind.set, popped, List.count_append, List.count_cons] <;>
    omega

theorem events_dequeueOverflow? (h : q.dequeueOverflow? = some (event, r)) :
    q.events.Perm (event :: r.events) := by
  obtain ⟨⟨oldest, overflow⟩, popped, eq⟩ := Option.map_eq_some_iff.1 h
  cases eq
  have popped := Fifo.pop?_eq_some.1 popped
  simp only [events, popped]
  exact List.perm_middle

/-- Whichever queue it comes from, the event taken is the only one that is no longer held. -/
theorem Takes.events (h : q.Takes event r) : q.events.Perm (event :: r.events) := by
  rcases h with ⟨kind, h⟩ | h
  · exact events_dequeue? h
  · exact events_dequeueOverflow? h

/-- Refilling a queue from the overflow loses and adds nothing. -/
theorem events_refill {s : Queues} (taken : q.dequeueOverflow? = some (event, r))
    (put : r.enqueue? event = some s) : s.events.Perm q.events :=
  (events_enqueue? put).trans (events_dequeueOverflow? taken).symm

/-- There is no place for an event of a kind: the queue of the kind is full, and so is the overflow
queue. -/
def Full (q : Queues) (kind : EventKind) : Prop :=
  (q.pending.get kind).items.length = queueDepth ∧ q.overflow.items.length = overflowDepth

/-- What a dispatch does with an event. -/
inductive DispatchStep (q : Queues) (event : Event) : Dispatched → Queues → Prop
  /-- The event goes into the queue of its kind. -/
  | queued {r : Queues} (put : q.enqueue? event = some r) : DispatchStep q event .queued r
  /-- The queue of its kind is full, and the event goes into the overflow queue. -/
  | overflowed {overflow : Fifo overflowDepth Event} (full : q.enqueue? event = none)
      (put : q.overflow.push? event = some overflow) :
      DispatchStep q event .overflowed { q with overflow }
  /-- Both are full; the event is handed back, and the refusal is counted. -/
  | refused {dropped : Counter} (full : q.enqueue? event = none)
      (packed : q.overflow.push? event = none) (counted : q.dropped.increment = .ok dropped) :
      DispatchStep q event (.refused event) { q with dropped }

theorem DispatchStep.of_eq_ok {result : Dispatched} (h : q.dispatch event = .ok (result, r)) :
    q.DispatchStep event result r := by
  unfold dispatch at h
  split at h
  case h_1 put => cases h; exact .queued put
  case h_2 full =>
    split at h
    case h_1 put => cases h; exact .overflowed full put
    case h_2 packed =>
      obtain ⟨dropped, counted, eq⟩ := Checked.bind_eq_ok.1 h
      cases eq
      exact .refused full packed counted

/-- The event is held behind a dispatch, or it is handed back and only the number of refusals changes. -/
theorem dispatch_eq_ok {result : Dispatched} (h : q.dispatch event = .ok (result, r)) :
    ((∀ handed, result ≠ .refused handed) ∧ r.events.Perm (event :: q.events) ∧
        r.dropped = q.dropped) ∨
      (result = .refused event ∧ ∃ dropped, r = { q with dropped }) := by
  cases DispatchStep.of_eq_ok h with
  | queued put =>
    refine .inl ⟨nofun, events_enqueue? put, ?_⟩
    obtain ⟨pending, -, rfl⟩ := Option.map_eq_some_iff.1 put
    rfl
  | overflowed _ put =>
    refine .inl ⟨nofun, ?_, rfl⟩
    simp only [events, (Fifo.push?_eq_some.1 put).2, ← List.append_assoc]
    exact List.perm_append_singleton event _
  | refused => exact .inr ⟨rfl, _, rfl⟩

/-- A dispatch hands an event back exactly if there is no place for its kind.  What is handed back is
the event that was dispatched; the refusal is counted, and nothing else changes. -/
theorem refused_iff {result : Dispatched} (h : q.dispatch event = .ok (result, r)) :
    ((∃ handed, result = .refused handed) ↔ q.Full event.kind) ∧
      ∀ handed, result = .refused handed →
        handed = event ∧ r = { q with dropped := ⟨q.dropped.value + 1⟩ } := by
  cases DispatchStep.of_eq_ok h with
  | queued put =>
    refine ⟨iff_of_false nofun fun full => ?_, nofun⟩
    cases (enqueue?_eq_none.2 full.1).symm.trans put
  | overflowed _ put =>
    refine ⟨iff_of_false nofun fun full => ?_, nofun⟩
    cases (Fifo.push?_eq_none.2 full.2).symm.trans put
  | @refused dropped full packed counted =>
    refine ⟨iff_of_true ⟨event, rfl⟩ ⟨enqueue?_eq_none.1 full, Fifo.push?_eq_none.1 packed⟩, ?_⟩
    rintro handed ⟨⟩
    obtain ⟨n⟩ := dropped
    obtain ⟨-, value⟩ := Counter.increment_eq_ok.1 counted
    cases value
    exact ⟨rfl, rfl⟩

/-- What is queued before a dispatch stays queued, in front of the event. -/
theorem queued_dispatch {result : Dispatched} (h : q.dispatch event = .ok (result, r)) :
    (∀ kind, (q.pending.get kind).items <+: (r.pending.get kind).items) ∧
      q.overflow.items <+: r.overflow.items := by
  cases DispatchStep.of_eq_ok h with
  | queued put =>
    have longer := items_of_enqueue? put
    obtain ⟨pending, -, rfl⟩ := Option.map_eq_some_iff.1 put
    refine ⟨fun kind => ?_, List.prefix_rfl⟩
    by_cases same : event.kind = kind
    · subst same
      rw [longer]
      exact List.prefix_append _ _
    · exact (ByKind.get_set_of_ne _ _ same).symm ▸ List.prefix_rfl
  | overflowed _ put =>
    refine ⟨fun _ => List.prefix_rfl, ?_⟩
    rw [(Fifo.push?_eq_some.1 put).2]
    exact List.prefix_append _ _
  | refused => exact ⟨fun _ => List.prefix_rfl, List.prefix_rfl⟩

end Queues

/-- Callbacks that neither dispatch nor register nor take anything off a list. -/
structure Callbacks.Quiet (callbacks : Callbacks κ σ) : Prop where
  /-- Listeners answer at once. -/
  listen : ∀ listener event extra s, ∃ result,
    callbacks.listen listener event extra s = .done result
  /-- Releases answer at once. -/
  release : ∀ event s, ∃ result, callbacks.release event s = .done result

namespace EventBus

variable {callbacks : Callbacks κ σ} {bus bus' : EventBus κ} {s s' : σ} {event : Event}
  {kind : EventKind}

theorem dispatch_eq_ok {result : Dispatched} (h : bus.dispatch event = .ok (result, bus')) :
    ∃ queues, bus.queues.dispatch event = .ok (result, queues) ∧ bus' = { bus with queues } := by
  obtain ⟨⟨_, queues⟩, dispatched, eq⟩ := Checked.bind_eq_ok.1 h
  cases eq
  exact ⟨queues, dispatched, rfl⟩

/-- Registering a listener uses up a name. It stands at the end of its list, or the list is full and
only the name is gone. -/
theorem subscribe_eq_ok {listener : κ} {extra : Nat} {result : Except Error ListenerId}
    (h : bus.subscribe kind listener extra = .ok (result, bus')) :
    ∃ issued : Counter, issued.value = bus.registry.issued.value + 1 ∧
      ((result = .ok ⟨issued.value⟩ ∧
        (bus.registry.lists.get kind).length < maxListeners ∧
        bus' = { bus with registry := {
          lists := bus.registry.lists.set kind
            (bus.registry.lists.get kind ++ [⟨⟨issued.value⟩, listener, extra⟩])
          issued } }) ∨
      ((∃ e, result = .error e) ∧
        bus' = { bus with registry := { bus.registry with issued } })) := by
  obtain ⟨⟨_, registry⟩, register, eq⟩ := Checked.bind_eq_ok.1 h
  cases eq
  obtain ⟨issued, counted, next⟩ := Checked.bind_eq_ok.1 register
  refine ⟨issued, (Counter.increment_eq_ok.1 counted).2, ?_⟩
  dsimp only at next
  split at next
  case isTrue room => cases next; exact .inl ⟨rfl, room, rfl⟩
  case isFalse => cases next; exact .inr ⟨⟨_, rfl⟩, rfl⟩

theorem queues_subscribe {listener : κ} {extra : Nat} {result : Except Error ListenerId}
    (h : bus.subscribe kind listener extra = .ok (result, bus')) : bus'.queues = bus.queues := by
  obtain ⟨issued, -, ⟨-, -, rfl⟩ | ⟨-, rfl⟩⟩ := subscribe_eq_ok h
  · rfl
  · rfl

/-! ## The loops of a pass -/

variable {fuel : Nat} {moved moved' : Bool} {taken queues : Queues}

theorem drain_of_none (none : bus.queues.dequeue? kind = none) :
    drain callbacks kind fuel bus s = .ok (bus, s) := by
  cases fuel with
  | zero => unfold drain; rw [none]; rfl
  | succ fuel => unfold drain; rw [none]; rfl

theorem drain_of_taken (oldest : bus.queues.dequeue? kind = some (event, queues)) :
    drain callbacks kind (fuel + 1) bus s = (do
      let (bus, s) ← deliver callbacks { bus with queues } event s
      drain callbacks kind fuel bus s) := by
  rw [drain, oldest]

theorem refill_of_none (none : bus.queues.dequeueOverflow? = none) :
    refill callbacks fuel moved bus s = .ok (moved, bus, s) := by
  cases fuel with
  | zero => unfold refill; rw [none]; rfl
  | succ fuel => unfold refill; rw [none]; rfl

theorem refill_of_put (oldest : bus.queues.dequeueOverflow? = some (event, taken))
    (put : taken.enqueue? event = some queues) :
    refill callbacks (fuel + 1) moved bus s = refill callbacks fuel true { bus with queues } s := by
  rw [refill, oldest]
  dsimp only
  rw [put]

theorem refill_of_full (oldest : bus.queues.dequeueOverflow? = some (event, taken))
    (full : taken.enqueue? event = none) :
    refill callbacks (fuel + 1) moved bus s = (do
      let (bus, s) ← deliver callbacks { bus with queues := taken } event s
      refill callbacks fuel true bus s) := by
  rw [refill, oldest]
  dsimp only
  rw [full]

/-- What draining a queue does. -/
inductive Drains (callbacks : Callbacks κ σ) (kind : EventKind) :
    Nat → EventBus κ → σ → EventBus κ → σ → Prop
  /-- No event is left. -/
  | done {fuel : Nat} {bus : EventBus κ} {s : σ} (none : bus.queues.dequeue? kind = none) :
      Drains callbacks kind fuel bus s bus s
  /-- The oldest event is delivered, and then the others. -/
  | next {fuel : Nat} {bus bus₁ bus' : EventBus κ} {s s₁ s' : σ} {event : Event} {queues : Queues}
      (oldest : bus.queues.dequeue? kind = some (event, queues))
      (delivered : deliver callbacks { bus with queues } event s = .ok (bus₁, s₁))
      (others : Drains callbacks kind fuel bus₁ s₁ bus' s') :
      Drains callbacks kind (fuel + 1) bus s bus' s'

theorem Drains.of_eq_ok (h : drain callbacks kind fuel bus s = .ok (bus', s')) :
    Drains callbacks kind fuel bus s bus' s' := by
  induction fuel generalizing bus s with
  | zero =>
    cases oldest : bus.queues.dequeue? kind with
    | none =>
      rw [drain_of_none oldest] at h
      cases h
      exact .done oldest
    | some =>
      rw [drain, oldest] at h
      cases h
  | succ fuel ih =>
    cases oldest : bus.queues.dequeue? kind with
    | none =>
      rw [drain_of_none oldest] at h
      cases h
      exact .done oldest
    | some =>
      rw [drain_of_taken oldest] at h
      obtain ⟨⟨bus₁, s₁⟩, delivered, rest⟩ := Checked.bind_eq_ok.1 h
      exact .next oldest delivered (ih rest)

/-- What refilling the queues from the overflow does. -/
inductive Refills (callbacks : Callbacks κ σ) :
    Nat → Bool → EventBus κ → σ → Bool → EventBus κ → σ → Prop
  /-- Nothing has overflowed. -/
  | done {fuel : Nat} {moved : Bool} {bus : EventBus κ} {s : σ}
      (none : bus.queues.dequeueOverflow? = none) : Refills callbacks fuel moved bus s moved bus s
  /-- The oldest event is moved to its queue, and then the others. -/
  | put {fuel : Nat} {moved moved' : Bool} {bus bus' : EventBus κ} {s s' : σ} {event : Event}
      {taken queues : Queues} (oldest : bus.queues.dequeueOverflow? = some (event, taken))
      (put : taken.enqueue? event = some queues)
      (others : Refills callbacks fuel true { bus with queues } s moved' bus' s') :
      Refills callbacks (fuel + 1) moved bus s moved' bus' s'
  /-- The queue of its kind is full, and the oldest overflowed event is delivered at once; then come the
  others. -/
  | rush {fuel : Nat} {moved moved' : Bool} {bus bus₁ bus' : EventBus κ} {s s₁ s' : σ}
      {event : Event} {taken : Queues} (oldest : bus.queues.dequeueOverflow? = some (event, taken))
      (full : taken.enqueue? event = none)
      (delivered : deliver callbacks { bus with queues := taken } event s = .ok (bus₁, s₁))
      (others : Refills callbacks fuel true bus₁ s₁ moved' bus' s') :
      Refills callbacks (fuel + 1) moved bus s moved' bus' s'

theorem Refills.of_eq_ok (h : refill callbacks fuel moved bus s = .ok (moved', bus', s')) :
    Refills callbacks fuel moved bus s moved' bus' s' := by
  induction fuel generalizing moved bus s with
  | zero =>
    cases oldest : bus.queues.dequeueOverflow? with
    | none =>
      rw [refill_of_none oldest] at h
      cases h
      exact .done oldest
    | some =>
      rw [refill, oldest] at h
      cases h
  | succ fuel ih =>
    cases oldest : bus.queues.dequeueOverflow? with
    | none =>
      rw [refill_of_none oldest] at h
      cases h
      exact .done oldest
    | some out =>
      obtain ⟨event, taken⟩ := out
      cases put : taken.enqueue? event with
      | some queues =>
        rw [refill_of_put oldest put] at h
        exact .put oldest put (ih h)
      | none =>
        rw [refill_of_full oldest put] at h
        obtain ⟨⟨bus₁, s₁⟩, delivered, rest⟩ := Checked.bind_eq_ok.1 h
        exact .rush oldest put delivered (ih rest)

/-! ## The rule for passes -/

/-- What a property has to survive to hold behind a pass. -/
structure KeepsPass (callbacks : Callbacks κ σ) (P : EventBus κ → σ → Prop) : Prop where
  /-- An event is taken out and delivered. -/
  delivered : ∀ {bus s event queues bus' s'}, P bus s → bus.queues.Takes event queues →
    deliver callbacks { bus with queues } event s = .ok (bus', s') → P bus' s'
  /-- An overflowed event takes a place in its own queue. -/
  refilled : ∀ {bus s event taken queues}, P bus s →
    bus.queues.dequeueOverflow? = some (event, taken) → taken.enqueue? event = some queues →
    P { bus with queues } s

theorem drain_keeps {P : EventBus κ → σ → Prop} (keeps : KeepsPass callbacks P)
    (h : drain callbacks kind fuel bus s = .ok (bus', s')) (start : P bus s) : P bus' s' := by
  replace h := Drains.of_eq_ok h
  induction h with
  | done => exact start
  | next oldest delivered others ih =>
    exact ih (keeps.delivered start (.inl ⟨kind, oldest⟩) delivered)

theorem drainAll_keeps {P : EventBus κ → σ → Prop} (keeps : KeepsPass callbacks P)
    (h : drainAll callbacks fuel bus s = .ok (bus', s')) (start : P bus s) : P bus' s' := by
  obtain ⟨⟨bus₁, s₁⟩, device, h⟩ := Checked.bind_eq_ok.1 h
  obtain ⟨⟨bus₂, s₂⟩, task, file⟩ := Checked.bind_eq_ok.1 h
  exact drain_keeps keeps file (drain_keeps keeps task (drain_keeps keeps device start))

theorem refill_keeps {P : EventBus κ → σ → Prop} (keeps : KeepsPass callbacks P)
    (h : refill callbacks fuel moved bus s = .ok (moved', bus', s')) (start : P bus s) :
    P bus' s' := by
  replace h := Refills.of_eq_ok h
  induction h with
  | done => exact start
  | put oldest put _ ih => exact ih (keeps.refilled start oldest put)
  | rush oldest _ delivered _ ih => exact ih (keeps.delivered start (.inr oldest) delivered)

/-- A property that survives each delivery and each refilled place survives the pass. -/
theorem deliverAll_keeps {P : EventBus κ → σ → Prop} (keeps : KeepsPass callbacks P)
    (h : deliverAll callbacks fuel bus s = .ok (bus', s')) (start : P bus s) : P bus' s' := by
  obtain ⟨⟨bus₁, s₁⟩, first, h⟩ := Checked.bind_eq_ok.1 h
  obtain ⟨⟨moved, bus₂, s₂⟩, refilled, h⟩ := Checked.bind_eq_ok.1 h
  have half := refill_keeps keeps refilled (drainAll_keeps keeps first start)
  cases moved with
  | false => cases h; exact half
  | true => exact drainAll_keeps keeps h half

/-! ## Callbacks that leave the bus alone -/

/-- A listener that leaves the bus alone leaves the queues as they are. -/
theorem tell_queues (quiet : callbacks.Quiet) {list list' : List (Subscription κ)}
    {queues queues' : Queues}
    (h : tell callbacks event list queues s = .ok (list', queues', s')) : queues' = queues := by
  induction list generalizing s list' with
  | nil => cases h; rfl
  | cons sub rest ih =>
    obtain ⟨⟨⟨action, s₁⟩, queues₁⟩, told, h⟩ := Checked.bind_eq_ok.1 h
    obtain ⟨result, done⟩ := quiet.listen sub.listener event sub.extra s
    rw [done] at told
    obtain ⟨_, -, eq⟩ := Checked.bind_eq_ok.1 told
    cases eq
    dsimp only at h
    split at h
    case isTrue => cases h; rfl
    case isFalse =>
      obtain ⟨⟨list₂, queues₂, s₂⟩, told, eq⟩ := Checked.bind_eq_ok.1 h
      cases eq
      exact ih told

/-- A delivery tells the listeners of its kind, whose list may shrink, and releases the event. -/
theorem deliver_eq_ok (quiet : callbacks.Quiet)
    (h : deliver callbacks bus event s = .ok (bus', s')) :
    ∃ list s₁, tell callbacks event (bus.registry.lists.get event.kind) bus.queues s =
        .ok (list, bus.queues, s₁) ∧
      callbacks.release event s₁ = .done (.ok s') ∧
      bus' = { bus with registry :=
        { bus.registry with lists := bus.registry.lists.set event.kind list } } := by
  obtain ⟨⟨list, queues, s₁⟩, told, h⟩ := Checked.bind_eq_ok.1 h
  cases tell_queues quiet told
  obtain ⟨⟨s₂, bus₂⟩, released, eq⟩ := Checked.bind_eq_ok.1 h
  cases eq
  obtain ⟨result, done⟩ := quiet.release event s₁
  rw [done] at released
  obtain ⟨s₂, rfl, eq⟩ := Checked.bind_eq_ok.1 released
  cases eq
  exact ⟨list, s₁, told, done, rfl⟩

theorem queues_deliver (quiet : callbacks.Quiet)
    (h : deliver callbacks bus event s = .ok (bus', s')) : bus'.queues = bus.queues := by
  obtain ⟨list, s₁, -, -, rfl⟩ := deliver_eq_ok quiet h
  rfl

theorem pending_of_dequeue? {q r : Queues} {other : EventKind}
    (h : q.dequeue? kind = some (event, r)) (ne : kind ≠ other) :
    r.pending.get other = q.pending.get other ∧ r.overflow = q.overflow := by
  obtain ⟨⟨oldest, pending⟩, -, eq⟩ := Option.map_eq_some_iff.1 h
  cases eq
  exact ⟨ByKind.get_set_of_ne _ _ ne, rfl⟩

/-- A drained queue is empty, and the other queues are as they were. -/
theorem drain_queues (quiet : callbacks.Quiet)
    (h : drain callbacks kind fuel bus s = .ok (bus', s')) :
    (bus'.queues.pending.get kind).items = [] ∧ bus'.queues.overflow = bus.queues.overflow ∧
      ∀ other, kind ≠ other → bus'.queues.pending.get other = bus.queues.pending.get other := by
  replace h := Drains.of_eq_ok h
  induction h with
  | done none => exact ⟨Queues.dequeue?_eq_none.1 none, rfl, fun _ _ => rfl⟩
  | next oldest delivered _ ih =>
    obtain ⟨list, -, -, -, rfl⟩ := deliver_eq_ok quiet delivered
    obtain ⟨empty, overflow, others⟩ := ih
    refine ⟨empty, overflow.trans ?_, fun other ne => (others other ne).trans ?_⟩
    · obtain ⟨⟨event, pending⟩, -, eq⟩ := Option.map_eq_some_iff.1 oldest
      cases eq
      rfl
    · exact (pending_of_dequeue? oldest ne).1

theorem drainAll_queues (quiet : callbacks.Quiet)
    (h : drainAll callbacks fuel bus s = .ok (bus', s')) :
    (∀ kind, (bus'.queues.pending.get kind).items = []) ∧
      bus'.queues.overflow = bus.queues.overflow := by
  obtain ⟨⟨bus₁, s₁⟩, device, h⟩ := Checked.bind_eq_ok.1 h
  obtain ⟨⟨bus₂, s₂⟩, task, file⟩ := Checked.bind_eq_ok.1 h
  obtain ⟨device, overflow₁, -⟩ := drain_queues quiet device
  obtain ⟨task, overflow₂, others₂⟩ := drain_queues quiet task
  obtain ⟨file, overflow₃, others₃⟩ := drain_queues quiet file
  refine ⟨fun kind => ?_, overflow₃.trans (overflow₂.trans overflow₁)⟩
  cases kind with
  | device => rw [others₃ .device (by decide), others₂ .device (by decide), device]
  | task => rw [others₃ .task (by decide), task]
  | file => exact file

/-- Refilling empties the overflow queue; if nothing was moved, it changed nothing. -/
theorem refill_queues (h : refill callbacks fuel moved bus s = .ok (moved', bus', s')) :
    bus'.queues.overflow.items = [] ∧ (moved' = false → bus' = bus ∧ moved = false) := by
  replace h := Refills.of_eq_ok h
  induction h with
  | done none =>
    exact ⟨Fifo.pop?_eq_none.1 (Option.map_eq_none_iff.1 none), fun unmoved => ⟨rfl, unmoved⟩⟩
  | put _ _ _ ih => exact ⟨ih.1, fun unmoved => absurd (ih.2 unmoved).2 (by decide)⟩
  | rush _ _ _ _ ih => exact ⟨ih.1, fun unmoved => absurd (ih.2 unmoved).2 (by decide)⟩

/-- A pass whose callbacks leave the bus alone leaves no event behind. -/
theorem events_deliverAll (quiet : callbacks.Quiet)
    (h : deliverAll callbacks fuel bus s = .ok (bus', s')) : bus'.queues.events = [] := by
  obtain ⟨⟨bus₁, s₁⟩, first, h⟩ := Checked.bind_eq_ok.1 h
  obtain ⟨⟨moved, bus₂, s₂⟩, refilled, h⟩ := Checked.bind_eq_ok.1 h
  obtain ⟨overflow, unmoved⟩ := refill_queues refilled
  cases moved with
  | false =>
    cases h
    obtain ⟨rfl, -⟩ := unmoved rfl
    exact Queues.events_eq_nil (drainAll_queues quiet first).1 overflow
  | true =>
    obtain ⟨pending, same⟩ := drainAll_queues quiet h
    exact Queues.events_eq_nil pending (by rw [same, overflow])

/-! ## Passes that come to an end -/

/-- What lets a pass come to an end: as long as the property holds, every delivery does and leaves the
queues as they are. -/
structure EndsPass (callbacks : Callbacks κ σ) (P : EventBus κ → σ → Prop) : Prop
    extends KeepsPass callbacks P where
  /-- An event that is taken out can be delivered. -/
  delivers : ∀ {bus s event queues}, P bus s → bus.queues.Takes event queues →
    ∃ out, deliver callbacks { bus with queues } event s = .ok out
  /-- Nothing is dispatched in the meantime. -/
  silent : ∀ {bus s event queues bus' s'}, P bus s → bus.queues.Takes event queues →
    deliver callbacks { bus with queues } event s = .ok (bus', s') → bus'.queues = queues

namespace EndsPass

variable {P : EventBus κ → σ → Prop}

/-- While a pass goes on, no more events are held than were at first. -/
theorem bounded (ends : EndsPass callbacks P) (n : Nat) :
    EndsPass callbacks fun bus s => P bus s ∧ bus.queues.events.length ≤ n where
  delivered start taken h := by
    obtain ⟨holds, few⟩ := start
    refine ⟨ends.delivered holds taken h, ?_⟩
    have fewer := taken.events.length_eq
    rw [List.length_cons] at fewer
    rw [ends.silent holds taken h]
    omega
  refilled start oldest put := by
    obtain ⟨holds, few⟩ := start
    refine ⟨ends.refilled holds oldest put, ?_⟩
    rw [(Queues.events_refill oldest put).length_eq]
    exact few
  delivers start taken := ends.delivers start.1 taken
  silent start taken := ends.silent start.1 taken

theorem drain_total (ends : EndsPass callbacks P) (start : P bus s)
    (enough : bus.queues.events.length ≤ fuel) :
    ∃ out, drain callbacks kind fuel bus s = .ok out := by
  induction fuel generalizing bus s with
  | zero =>
    cases oldest : bus.queues.dequeue? kind with
    | none => exact ⟨_, drain_of_none oldest⟩
    | some =>
      have held := (Queues.Takes.events (.inl ⟨kind, oldest⟩)).length_eq
      rw [List.length_cons] at held
      omega
  | succ fuel ih =>
    cases oldest : bus.queues.dequeue? kind with
    | none => exact ⟨_, drain_of_none oldest⟩
    | some out =>
      obtain ⟨event, queues⟩ := out
      have takes : bus.queues.Takes event queues := .inl ⟨kind, oldest⟩
      rw [drain_of_taken oldest]
      refine Checked.bind_total (ends.delivers start takes) fun ⟨bus₁, s₁⟩ delivered => ?_
      refine ih (ends.delivered start takes delivered) ?_
      have held := takes.events.length_eq
      rw [List.length_cons] at held
      rw [ends.silent start takes delivered]
      omega

theorem drainAll_total (ends : EndsPass callbacks P) (start : P bus s)
    (enough : bus.queues.events.length ≤ fuel) :
    ∃ out, drainAll callbacks fuel bus s = .ok out := by
  have bounded := ends.bounded fuel
  refine Checked.bind_total (ends.drain_total start enough) fun ⟨bus₁, s₁⟩ device => ?_
  obtain ⟨start₁, enough₁⟩ := drain_keeps bounded.toKeepsPass device ⟨start, enough⟩
  refine Checked.bind_total (ends.drain_total start₁ enough₁) fun ⟨bus₂, s₂⟩ task => ?_
  obtain ⟨start₂, enough₂⟩ := drain_keeps bounded.toKeepsPass task ⟨start₁, enough₁⟩
  exact ends.drain_total start₂ enough₂

theorem refill_total (ends : EndsPass callbacks P) (start : P bus s)
    (enough : bus.queues.overflow.items.length ≤ fuel) :
    ∃ out, refill callbacks fuel moved bus s = .ok out := by
  have fewer {queues queues' : Queues} {event : Event}
      (taken : queues.dequeueOverflow? = some (event, queues')) :
      queues.overflow.items.length = queues'.overflow.items.length + 1 := by
    obtain ⟨⟨oldest, overflow⟩, popped, eq⟩ := Option.map_eq_some_iff.1 taken
    cases eq
    rw [Fifo.pop?_eq_some.1 popped, List.length_cons]
  induction fuel generalizing bus s moved with
  | zero =>
    cases oldest : bus.queues.dequeueOverflow? with
    | none => exact ⟨_, refill_of_none oldest⟩
    | some =>
      have held := fewer oldest
      omega
  | succ fuel ih =>
    cases oldest : bus.queues.dequeueOverflow? with
    | none => exact ⟨_, refill_of_none oldest⟩
    | some out =>
      obtain ⟨event, taken⟩ := out
      have held := fewer oldest
      cases put : taken.enqueue? event with
      | some queues =>
        rw [refill_of_put oldest put]
        refine ih (ends.refilled start oldest put) ?_
        obtain ⟨pending, -, rfl⟩ := Option.map_eq_some_iff.1 put
        dsimp only
        omega
      | none =>
        rw [refill_of_full oldest put]
        refine Checked.bind_total (ends.delivers start (.inr oldest)) fun ⟨bus₁, s₁⟩ delivered => ?_
        refine ih (ends.delivered start (.inr oldest) delivered) ?_
        rw [ends.silent start (.inr oldest) delivered]
        omega

/-- A pass comes to an end if it is given as much fuel as there are events. -/
theorem deliverAll_total (ends : EndsPass callbacks P) (start : P bus s)
    (enough : bus.queues.events.length ≤ fuel) :
    ∃ out, deliverAll callbacks fuel bus s = .ok out := by
  have bounded := ends.bounded fuel
  refine Checked.bind_total (ends.drainAll_total start enough) fun ⟨bus₁, s₁⟩ first => ?_
  obtain ⟨start₁, enough₁⟩ := drainAll_keeps bounded.toKeepsPass first ⟨start, enough⟩
  have overflowed : bus₁.queues.overflow.items.length ≤ fuel := by
    refine Nat.le_trans ?_ enough₁
    rw [Queues.events, List.length_append]
    exact Nat.le_add_left _ _
  refine Checked.bind_total (ends.refill_total start₁ overflowed)
    fun ⟨moved, bus₂, s₂⟩ refilled => ?_
  obtain ⟨start₂, enough₂⟩ := refill_keeps bounded.toKeepsPass refilled ⟨start₁, enough₁⟩
  dsimp only
  split
  case isTrue => exact ends.drainAll_total start₂ enough₂
  case isFalse => exact ⟨_, rfl⟩

end EndsPass

end EventBus

end Rtos

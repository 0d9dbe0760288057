import Rtos.Proofs.Entity.Releases
import Rtos.Proofs.Kernel.Fit

/-!
# Passes come to an end

Nothing that operations on a fit kernel are made of stops with a fault, but for one: the counter of
refused events, or of names for listeners, may leave the words, and does so only when it stands at the
last word (`Checked.EndsOr`).  A pass needs neither, and comes to an end.
-/

namespace Rtos

/-! ## Counters that are full -/

/-- A computation comes to an end, or a sum leaves the words because a counter is full. -/
def Checked.EndsOr {α : Type} (x : Checked α) (full : Prop) : Prop :=
  (∃ a, x = .ok a) ∨ (x = .error .addOverflow ∧ full)

namespace Checked.EndsOr

variable {α β : Type} {x : Checked α} {f : α → Checked β} {full : Prop}

theorem of_total (h : ∃ a, x = .ok a) : x.EndsOr full :=
  .inl h

theorem mono {other : Prop} (le : full → other) (h : x.EndsOr full) : x.EndsOr other :=
  h.imp_right fun ⟨overflows, isFull⟩ => ⟨overflows, le isFull⟩

theorem bind (first : x.EndsOr full) (second : ∀ a, x = .ok a → (f a).EndsOr full) :
    (x >>= f).EndsOr full := by
  rcases first with ⟨a, ends⟩ | ⟨overflows, isFull⟩
  · rw [ends]
    exact second a ends
  · rw [overflows]
    exact .inr ⟨rfl, isFull⟩

theorem bind_total (first : x.EndsOr full) (second : ∀ a, x = .ok a → ∃ b, f a = .ok b) :
    (x >>= f).EndsOr full :=
  first.bind fun a ends => .of_total (second a ends)

end Checked.EndsOr

theorem Word.add_endsOr (a b : Nat) : (Word.add a b).EndsOr (Word.limit ≤ a + b) := by
  unfold add
  split
  case isTrue => exact .inl ⟨_, rfl⟩
  case isFalse full => exact .inr ⟨rfl, Nat.le_of_not_lt full⟩

theorem Counter.increment_endsOr (c : Counter) :
    c.increment.EndsOr (Word.limit ≤ c.value + 1) :=
  (Word.add_endsOr c.value 1).bind_total fun _ _ => ⟨_, rfl⟩

/-- There is no place for an event of a kind, and its refusal cannot be counted. -/
def Queues.Exhausted (queues : Queues) (kind : EventKind) : Prop :=
  queues.Full kind ∧ Word.limit ≤ queues.dropped.value + 1

/-- An event is queued or refused, unless its refusal cannot be counted. -/
theorem Queues.dispatch_endsOr (queues : Queues) (event : Event) :
    (queues.dispatch event).EndsOr (queues.Exhausted event.kind) := by
  unfold dispatch
  split
  case h_1 => exact .of_total ⟨_, rfl⟩
  case h_2 noPlace =>
    split
    case h_1 => exact .of_total ⟨_, rfl⟩
    case h_2 noOverflow =>
      refine (queues.dropped.increment_endsOr.bind_total fun _ _ => ⟨_, rfl⟩).mono fun full => ?_
      exact ⟨⟨enqueue?_eq_none.1 noPlace, Fifo.push?_eq_none.1 noOverflow⟩, full⟩

/-- A listener is registered or refused, unless the counter of names is full. -/
theorem EventBus.subscribe_endsOr {κ : Type} (bus : EventBus κ) (kind : EventKind) (listener : κ)
    (extra : Nat) : (bus.subscribe kind listener extra).EndsOr
      (Word.limit ≤ bus.registry.issued.value + 1) := by
  refine Checked.EndsOr.bind_total ?_ fun _ _ => ⟨_, rfl⟩
  refine bus.registry.issued.increment_endsOr.bind_total fun issued _ => ?_
  dsimp only
  split
  case isTrue => exact ⟨_, rfl⟩
  case isFalse => exact ⟨_, rfl⟩

/-! ## Entities -/

variable {π : Type} [Port π] [ReliablePort π]

namespace Kernel

variable {k k' : Kernel π} {held rest : List EntityId} {id : EntityId} {pid parent : Pid} {t : Task}

omit [Port π] [ReliablePort π] in
/-- No entity has so many references that another would leave the words. -/
theorem count_succ_lt {e : Entity Cleanup} (single : Moment.Single ⟨k, held, none⟩)
    (found : k.entities.get? id = some e) : e.count.value + 1 < Word.limit := by
  have refs := single.refs id
  have least := List.count_le_length (a := id) (l := k.entities.parents)
  have most := k.entities.length_parents_le
  rw [EntityTree.refs_of_get? found] at refs
  simp only [Option.toList_none, List.count_nil] at refs
  simp only [entityCapacity, maxTasks, maxDevices, eventKinds, queueDepth, overflowDepth] at most
  simp only [Word.limit]
  omega

omit [Port π] [ReliablePort π] in
theorem createEntity_total (single : Moment.Single ⟨k, held, none⟩) (above : Option EntityId)
    (owner : Owner) (cleanup : Cleanup) : ∃ out, k.createEntity above owner cleanup = .ok out := by
  refine Checked.bind_total
    (k.entities.create_total owner _ fun p e _ found => count_succ_lt single found)
    fun created _ => ?_
  cases created with
  | error e => exact ⟨_, rfl⟩
  | ok created => exact ⟨_, rfl⟩

omit [ReliablePort π] in
theorem bus_of_release (h : k.release id = .ok k') : k'.bus = k.bus := by
  obtain ⟨core, -, eq⟩ := Checked.bind_eq_ok.1 h
  cases eq
  rfl

/-- Dropping several references comes to an end, and leaves the bus alone. -/
theorem releaseAll_total {ids : List EntityId} (fit : Moment.Fit ⟨k, ids ++ held, none⟩) :
    ∃ k', k.releaseAll ids = .ok k' ∧ k'.bus = k.bus := by
  induction ids generalizing k with
  | nil => exact ⟨k, rfl, rfl⟩
  | cons id ids ih =>
    obtain ⟨k₁, released⟩ := release_total fit.sound fit.owns (.refl _)
    have fit₁ := (moves_release released (.refl _)).fit fit nofun
    obtain ⟨k', rest, bus⟩ := ih fit₁
    exact ⟨k', Checked.bind_eq_ok.2 ⟨k₁, released, rest⟩, bus.trans (bus_of_release released)⟩

/-! ## Events -/

omit [Port π] [ReliablePort π] in
theorem dispatch_endsOr (k : Kernel π) (event : Event) :
    (k.dispatch event).EndsOr (k.bus.queues.Exhausted event.kind) := by
  refine Checked.EndsOr.bind_total ?_ fun _ _ => ⟨_, rfl⟩
  exact (k.bus.queues.dispatch_endsOr event).bind_total fun _ _ => ⟨_, rfl⟩

/-- An event that is handed back can be released. -/
theorem release_refused_total {event handed : Event} (fit : Moment.Fit ⟨k, event.entity :: held, none⟩)
    (owner : k.entities.owner? event.entity = some .event)
    (refused : k.dispatch event = .ok (.refused handed, k')) :
    ∃ k₁, k'.release handed.entity = .ok k₁ := by
  obtain ⟨-, -, ⟨queued, -⟩ | ⟨same, -, moves⟩⟩ := moves_dispatch owner refused
  · exact absurd rfl (queued handed)
  · cases same
    have fit₁ := moves.fit fit nofun
    exact release_total fit₁.sound fit₁.owns (.refl _)

/-- Announcing comes to an end, unless a refusal cannot be counted. -/
theorem announce_endsOr (fit : Moment.Fit ⟨k, held, none⟩) {above : Option EntityId}
    (lasting : ∀ p e, above = some p → k.entities.get? p = some e → e.owner ≠ .event)
    (payload : Payload) :
    (k.announce above payload).EndsOr (k.bus.queues.Exhausted payload.kind) := by
  refine Checked.EndsOr.bind (.of_total (createEntity_total fit.single above .event .nothing))
    fun ⟨created, k₁⟩ create => ?_
  rcases moves_createEntity lasting create with ⟨e, rfl, rfl⟩ | ⟨id, rfl, owner, bus, -, moves⟩
  · exact .of_total ⟨_, rfl⟩
  · have created : Moves (· = .quiet) ⟨k, held, none⟩ ⟨k₁, id :: held, none⟩ := moves
    have fit₁ := created.fit fit nofun
    rw [← bus]
    refine (k₁.dispatch_endsOr ⟨id, payload⟩).bind_total fun ⟨dispatched, k₂⟩ dispatch => ?_
    cases dispatched with
    | queued | overflowed => exact ⟨_, rfl⟩
    | refused =>
      exact Checked.bind_total (release_refused_total fit₁ owner dispatch) fun _ _ => ⟨_, rfl⟩

end Kernel

/-! ## Passes -/

namespace Core

omit [Port π] [ReliablePort π]

theorem onEvent_total {c : Core π} {payload : Payload} {extra : Pid} {listener : KernelListener}
    (serves : listener.serves payload.kind = true) (seated : extra < maxTasks) :
    ∃ out, c.onEvent payload extra listener = .ok out := by
  cases listener with
  | childExit =>
    cases payload with
    | device | file => cases serves
    | task pid parent status =>
      refine Checked.bind_total (c.sched.task_total seated) fun t slot => ?_
      split
      case isTrue => exact ⟨_, rfl⟩
      case isFalse => exact Checked.bind_total (c.sched.modify_total seated _) fun _ _ => ⟨_, rfl⟩
  | deviceReady =>
    cases payload with
    | task | file => cases serves
    | device device flags =>
      refine Checked.bind_total (c.sched.task_total seated) fun t slot => ?_
      split
      case h_1 wait waiting =>
        split
        case isTrue => exact ⟨_, rfl⟩
        case isFalse => exact Checked.bind_total (c.sched.modify_total seated _) fun _ _ => ⟨_, rfl⟩
      case h_2 => exact ⟨_, rfl⟩
  | observer | waker => cases payload <;> cases serves

end Core

namespace Kernel

variable {k : Kernel π} {c : Core π} {bus : EventBus KernelListener}
  {devices : Vector (Option EntityId) maxDevices} {held : List EntityId} {event : Event}
  {queues : Queues} {list : List (Subscription KernelListener)}

omit [ReliablePort π] in
theorem tell_total (own : ∀ sub ∈ list, sub.listener.serves event.kind = true)
    (seated : ∀ sub ∈ list, sub.extra < maxTasks) :
    ∃ out, EventBus.tell Core.callbacks event list queues c = .ok out := by
  induction list generalizing c with
  | nil => exact ⟨_, rfl⟩
  | cons sub list ih =>
    have answers := Core.onEvent_total (c := c) (own sub List.mem_cons_self)
      (seated sub List.mem_cons_self)
    have others (c : Core π) : ∃ out, EventBus.tell Core.callbacks event list queues c = .ok out :=
      ih (fun other mem => own other (List.mem_cons_of_mem sub mem))
        (fun other mem => seated other (List.mem_cons_of_mem sub mem))
    refine Checked.bind_total (Checked.bind_total answers fun _ _ => ⟨_, rfl⟩)
      fun ⟨⟨action, c₁⟩, queues₁⟩ told => ?_
    obtain ⟨_, -, eq⟩ := Checked.bind_eq_ok.1 told
    cases eq
    dsimp only
    split
    case isTrue => exact ⟨_, rfl⟩
    case isFalse => exact Checked.bind_total (others c₁) fun _ _ => ⟨_, rfl⟩

theorem deliver_total (fit : Moment.Fit ⟨(⟨c, bus, devices⟩ : Kernel π), held, none⟩)
    (taken : bus.queues.Takes event queues) :
    ∃ out, EventBus.deliver Core.callbacks { bus with queues } event c = .ok out := by
  have own := fit.sound.listeners event.kind
  refine Checked.bind_total (tell_total own (fit.seated event.kind))
    fun ⟨list, queues', c₁⟩ told => ?_
  cases EventBus.tell_queues callbacks_quiet told
  have fetched : Move .delivers ⟨(⟨c, bus, devices⟩ : Kernel π), held, none⟩ _ := .fetch taken
  have tell := moves_tell { bus with queues } devices [] (event.entity :: held) none own told
  rw [List.nil_append, List.nil_append, setListeners_self ⟨c, { bus with queues }, devices⟩] at tell
  have fit₁ := tell.fit (fetched.fit fit nofun) (by simp [Label.InPass])
  obtain ⟨k', release⟩ := release_total fit₁.sound fit₁.owns (.refl _)
  obtain ⟨c₂, released, -⟩ := Checked.bind_eq_ok.1 release
  exact Checked.bind_total (Checked.bind_total ⟨c₂, released⟩ fun _ _ => ⟨_, rfl⟩)
    fun _ _ => ⟨_, rfl⟩

theorem deliverEvents_total (fit : Moment.Fit ⟨k, held, none⟩) :
    ∃ k', k.deliverEvents = .ok k' := by
  have ends : EventBus.EndsPass Core.callbacks fun bus c =>
      Moment.Fit ⟨(⟨c, bus, k.devices⟩ : Kernel π), held, none⟩ :=
    { delivered := fun fit taken delivered =>
        (moves_deliver fit.sound.listeners taken delivered).fit fit (by simp [Label.InPass])
      refilled := fun fit oldest put => (Move.shift oldest put).fit fit nofun
      delivers := deliver_total
      silent := fun _ _ delivered => EventBus.queues_deliver callbacks_quiet delivered }
  refine Checked.bind_total ?_ fun _ _ => ⟨_, rfl⟩
  exact ends.deliverAll_total fit (Nat.le_of_eq k.bus.queues.length_events)

omit [ReliablePort π] [Port π] in
theorem choose_total {s : Scheduler π} (current : s.current < maxTasks) :
    ∃ next s', s.choose = .ok ((s.current, next), s') ∧ next < maxTasks := by
  obtain ⟨s₁, demoted⟩ := s.modify_total current fun t =>
    if t.state = .running then { t with state := .ready } else t
  let next := ((Scheduler.scanOrder s.current).find? fun pid =>
    (s₁.task? pid).any (·.isRunnable s₁.tick)).getD idlePid
  have lt : next < maxTasks := by
    cases found : (Scheduler.scanOrder s.current).find? fun pid =>
      (s₁.task? pid).any (·.isRunnable s₁.tick) with
    | none =>
      simp only [next, found]
      exact Nat.zero_lt_succ _
    | some pid =>
      simp only [next, found]
      have runs := List.find?_some found
      obtain ⟨t, slot, -⟩ := (Option.any_eq_true _ _).1 runs
      exact Scheduler.lt_of_task? slot
  obtain ⟨s₂, promoted⟩ : ∃ s₂, s₁.promote next = .ok s₂ :=
    Checked.bind_total (s₁.modify_total lt _) fun _ _ => ⟨_, rfl⟩
  exact ⟨next, _, Checked.bind_eq_ok.2 ⟨s₁, demoted, Checked.bind_eq_ok.2 ⟨s₂, promoted, rfl⟩⟩, lt⟩

/-- A pass comes to an end. -/
theorem schedule_total (fit : Moment.Fit ⟨k, held, none⟩) : ∃ k', k.schedule = .ok k' := by
  unfold schedule
  split
  case isTrue => exact ⟨_, rfl⟩
  case isFalse =>
    refine Checked.bind_total (deliverEvents_total fit) fun k₁ delivered => ?_
    have fit₁ := (moves_deliverEvents fit.sound delivered).1.fit fit (by simp [Label.InPass])
    obtain ⟨next, s, chosen, lt⟩ := choose_total fit₁.current
    refine Checked.bind_total ⟨_, chosen⟩ fun _ eq => ?_
    cases chosen.symm.trans eq
    exact Checked.bind_total (Scheduler.switchTask_total _ fit₁.current lt) fun _ _ => ⟨_, rfl⟩

end Kernel

end Rtos

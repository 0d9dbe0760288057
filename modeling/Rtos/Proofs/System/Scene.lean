import Rtos.Proofs.Kernel.Exit
import Rtos.Proofs.Kernel.Stacks
import Rtos.Proofs.System.Runs

/-!
# Systems among other producers

Other producers may hold entities and queue events of their own, so that the arena and the queues
are full at any time; a `Scene` is a system among such.  Whatever they do, an exit reaches the
parent that waits for it: by its event, or, where the event was refused or had no entity, without
one.
-/

namespace Rtos

/-- A system, and the references that other producers have in hand. -/
structure Scene (π : Type) extends System π where
  /-- The references. -/
  held : List EntityId

/-- What happens in a scene. -/
inductive Deed
  /-- A call is made. -/
  | call (call : Call)
  /-- A producer creates the entity of an event. -/
  | create (parent : Option EntityId)
  /-- A producer takes another reference on an entity. -/
  | retain (id : EntityId)
  /-- A producer drops a reference that it has in hand. -/
  | letGo (id : EntityId)
  /-- A producer dispatches an event that it has in hand; one that is handed back stays there. -/
  | post (event : Event)
deriving DecidableEq, Repr

namespace Scene

variable {π : Type} [Port π]

/-- Carries out a deed. Nobody drops or dispatches what is not in hand. -/
def step (s : Scene π) : Deed → Checked (Reply × Scene π)
  | .call call => do
    let (reply, system) ← s.toSystem.step call
    return (reply, { s with toSystem := system })
  | .create parent => do
    match ← s.kernel.createEntity parent .event .nothing with
    | (.error e, kernel) => return (.refused e, { s with kernel })
    | (.ok id, kernel) => return (.number id, { s with kernel, held := id :: s.held })
  | .retain id => do
    let entities ← s.kernel.entities.retain id
    return (.done, { s with kernel := { s.kernel with entities }, held := id :: s.held })
  | .letGo id => do
    if id ∈ s.held then
      return (.done, { s with kernel := ← s.kernel.release id, held := s.held.erase id })
    else
      return (.refused .invalidArgument, s)
  | .post event => do
    if event.entity ∈ s.held ∧ s.kernel.entities.owner? event.entity = some .event then
      match ← s.kernel.dispatch event with
      | (.refused _, kernel) => return (.refused .outOfMemory, { s with kernel })
      | (_, kernel) => return (.done, { s with kernel, held := s.held.erase event.entity })
    else
      return (.refused .invalidArgument, s)

/-- A run of a scene, each of whose deeds is allowed where it happens. -/
inductive Run (P : Scene π → Deed → Prop) : Scene π → Scene π → Prop
  /-- Nothing has happened. -/
  | refl (s : Scene π) : Run P s s
  /-- A deed was done behind the others. -/
  | tail {s s₁ s₂ : Scene π} {deed : Deed} {reply : Reply} (first : Run P s s₁)
      (allowed : P s₁ deed) (last : s₁.step deed = .ok (reply, s₂)) : Run P s s₂

/-- Carries out deeds, one after the other. -/
def play (s : Scene π) : List Deed → Checked (Scene π)
  | [] => return s
  | deed :: deeds => do
    let (_, s) ← s.step deed
    s.play deeds

variable {s s' : Scene π} {deed : Deed} {reply : Reply}

theorem Run.of_play {start : Scene π} {deeds : List Deed} (before : Run (fun _ _ => True) start s)
    (h : s.play deeds = .ok s') : Run (fun _ _ => True) start s' := by
  induction deeds generalizing s with
  | nil => cases h; exact before
  | cons deed deeds ih =>
    obtain ⟨⟨reply, s₁⟩, step, next⟩ := Checked.bind_eq_ok.1 h
    exact ih (before.tail trivial step) next

/-! ## What every deed keeps -/

/-- What the other producers do is calm, but that they may take references. -/
theorem moves_outside (h : s.step deed = .ok (reply, s')) (outside : ∀ call, deed ≠ .call call) :
    Moves (fun label => label.Calm ∨ label = .shares) ⟨s.kernel, s.held, none⟩
      ⟨s'.kernel, s'.held, none⟩ := by
  cases deed with
  | call call => exact absurd rfl (outside call)
  | create parent =>
    obtain ⟨⟨result, k⟩, created, next⟩ := Checked.bind_eq_ok.1 h
    obtain ⟨inTree, create, eq⟩ := Checked.bind_eq_ok.1 created
    cases inTree with
    | error e => cases eq; cases next; exact .refl _
    | ok inTree =>
      obtain ⟨id, entities⟩ := inTree
      cases eq
      cases next
      obtain ⟨p, e, tag, above, cleanup, found, free, rfl⟩ := EntityTree.create_eq_ok create
      cases cleanup
      exact .single (.inr rfl) (.hold found free)
  | retain id =>
    obtain ⟨entities, retained, eq⟩ := Checked.bind_eq_ok.1 h
    cases eq
    obtain ⟨e, found, rfl⟩ := EntityTree.retain_eq_ok retained
    exact .single (.inr rfl) (.share found)
  | letGo id =>
    unfold step at h
    dsimp only at h
    split at h
    case isTrue mine =>
      obtain ⟨k, released, eq⟩ := Checked.bind_eq_ok.1 h
      cases eq
      exact .mono (fun _ quiet => .inl (.inl quiet))
        (Kernel.moves_release released (List.perm_cons_erase mine))
    case isFalse => cases h; exact .refl _
  | post event =>
    unfold step at h
    dsimp only at h
    split at h
    case isTrue mine =>
      obtain ⟨⟨result, k⟩, dispatch, next⟩ := Checked.bind_eq_ok.1 h
      obtain ⟨-, -, ⟨queued, -, post⟩ | ⟨rfl, -, post⟩⟩ := Kernel.moves_dispatch mine.2 dispatch
      · have moves := (post (List.perm_cons_erase mine.1)).mono Kernel.calm_posts
        cases result with
        | refused => exact absurd rfl (queued _)
        | queued | overflowed => cases next; exact moves.mono fun _ => .inl
      · cases next
        exact .mono (fun _ quiet => .inl (.inl quiet)) post
    case isFalse => cases h; exact .refl _

/-- Every deed is a sequence of moves, and leaves the current task running. -/
theorem moves_step (sound : Moment.Sound ⟨s.kernel, s.held, none⟩) (settled : s.kernel.Settled)
    (h : s.step deed = .ok (reply, s')) :
    Moves (fun _ => True) ⟨s.kernel, s.held, none⟩ ⟨s'.kernel, s'.held, none⟩ ∧
      s'.kernel.Settled := by
  by_cases inside : ∃ call, deed = .call call
  · obtain ⟨call, rfl⟩ := inside
    obtain ⟨⟨_, system⟩, step, eq⟩ := Checked.bind_eq_ok.1 h
    cases eq
    have operates := System.operates_step sound settled step
    exact ⟨(operates.moves sound).mono fun _ _ => trivial, operates.settled sound⟩
  · have moves := moves_outside h fun call eq => inside ⟨call, eq⟩
    refine ⟨moves.mono fun _ _ => trivial, moves.settled ?_ sound settled⟩
    rintro label ((rfl | ⟨payload, rfl⟩) | rfl) <;> rfl

theorem Run.moves {P : Scene π → Deed → Prop} (run : Run P s s')
    (sound : Moment.Sound ⟨s.kernel, s.held, none⟩) (settled : s.kernel.Settled) :
    Moves (fun _ => True) ⟨s.kernel, s.held, none⟩ ⟨s'.kernel, s'.held, none⟩ ∧
      s'.kernel.Settled := by
  induction run with
  | refl => exact ⟨.refl _, settled⟩
  | tail first allowed last ih =>
    obtain ⟨moves, settled₁⟩ := ih
    obtain ⟨move, settled₂⟩ := moves_step (moves.sound sound) settled₁ last
    exact ⟨moves.trans move, settled₂⟩

/-- The states between deeds. -/
structure Healthy [LawfulPort π] (s : Scene π) : Prop where
  /-- The kernel is sound. -/
  sound : Moment.Sound ⟨s.kernel, s.held, none⟩
  /-- The current task runs. -/
  settled : s.kernel.Settled
  /-- Parents that wait are listed. -/
  attended : s.kernel.Attended
  /-- They wait for something. -/
  expecting : s.kernel.Expecting fun _ _ => False
  /-- Tasks have their stacks to themselves. -/
  owns : s.kernel.OwnsStacks

end Scene

theorem System.exit_eq_ok {π : Type} [Port π] {s s' : System π} {status : Int} {reply : Reply}
    (h : s.step (.exit status) = .ok (reply, s')) :
    ∃ result, s.kernel.exit status = .ok (result, s'.kernel) := by
  obtain ⟨result, exit, -⟩ := request_eq_ok (f := (·.exit status)) h
  exact ⟨result, exit⟩

namespace Scene

variable {π : Type} [Port π] [LawfulPort π] {s s' : Scene π} {deed : Deed} {reply : Reply}

theorem healthy_boot {port : π} {k : Kernel π} (h : Kernel.boot port = .ok (.ok k))
    (mutexes : MutexId → Mutex) : Healthy ⟨⟨k, mutexes⟩, []⟩ :=
  ⟨Kernel.sound_boot h, Kernel.settled_boot h, Kernel.attended_boot h, Kernel.expecting_boot h,
    Kernel.ownsStacks_boot h⟩

theorem Healthy.step (healthy : s.Healthy) (h : s.step deed = .ok (reply, s')) : s'.Healthy := by
  obtain ⟨sound, settled, attended, expecting, owns⟩ := healthy
  by_cases inside : ∃ call, deed = .call call
  · obtain ⟨call, rfl⟩ := inside
    obtain ⟨⟨_, system⟩, step, eq⟩ := Checked.bind_eq_ok.1 h
    cases eq
    have operates := System.operates_step sound settled step
    have moves := operates.moves sound
    refine ⟨operates.sound sound, operates.settled sound, moves.attended sound attended, ?_,
      moves.ownsStacks owns⟩
    by_cases exits : ∃ status, call = .exit status
    · obtain ⟨status, rfl⟩ := exits
      obtain ⟨result, exit⟩ := System.exit_eq_ok step
      exact Kernel.expecting_exit sound settled attended expecting exit
    · refine moves.expecting sound expecting ?_
      rintro c p filter (body | (quiet | delivers) | switches) accepts
      · exact absurd (Call.exits_of_labels body).2 exits
      · cases quiet
      · cases delivers
      · cases switches
  · have moves := moves_outside h fun call eq => inside ⟨call, eq⟩
    refine ⟨moves.sound sound, moves.settled ?_ sound settled, moves.attended sound attended,
      moves.expecting sound expecting ?_, moves.ownsStacks owns⟩
    · rintro label ((rfl | ⟨payload, rfl⟩) | rfl) <;> rfl
    · rintro c p filter ((quiet | ⟨payload, posts⟩) | shares)
      · cases quiet
      · cases posts
      · cases shares

theorem Healthy.run {P : Scene π → Deed → Prop} (healthy : s.Healthy) (run : Run P s s') :
    s'.Healthy := by
  induction run with
  | refl => exact healthy
  | tail first allowed last ih => exact ih.step last

/-! ## Exits -/

/-- The task in slot `pid` takes no part in a deed as a parent: it neither waits for a child nor
exits. -/
def Spares (pid : Pid) (s : Scene π) : Deed → Prop
  | .call (.exit _) | .call (.waitChild _ _) => s.kernel.current ≠ pid
  | _ => True

/-- Until a parent waits again or exits, its oldest record of a kind stays the oldest. -/
theorem Healthy.records {pid child : Pid} {filter : ChildFilter} {status : Int}
    (healthy : s.Healthy) (run : Run (Spares pid) s s')
    (records : s.kernel.Records pid filter child status) :
    s'.kernel.Records pid filter child status := by
  induction run with
  | refl => exact records
  | @tail s₁ s₂ deed reply first allowed last ih =>
    have healthy := healthy.run first
    have records := ih
    by_cases inside : ∃ call, deed = .call call
    · obtain ⟨call, rfl⟩ := inside
      obtain ⟨⟨_, system⟩, step, eq⟩ := Checked.bind_eq_ok.1 last
      cases eq
      have moves := (System.operates_step healthy.sound healthy.settled step).moves healthy.sound
      refine moves.records healthy.sound records ?_ fun parent => ?_
      · rintro (body | (quiet | delivers) | switches)
        · obtain ⟨rfl, ⟨status, rfl⟩ | ⟨filter, options, rfl⟩⟩ := Call.reaps_of_labels body
          · exact allowed rfl
          · exact allowed rfl
        · cases quiet
        · cases delivers
        · cases switches
      · rintro (body | (quiet | delivers) | switches)
        · obtain ⟨rfl, status, rfl⟩ := Call.exits_of_labels body
          exact allowed rfl
        · cases quiet
        · cases delivers
        · cases switches
    · have moves := moves_outside last fun call eq => inside ⟨call, eq⟩
      exact moves.records healthy.sound records
        (by rintro ((eq | ⟨payload, eq⟩) | eq) <;> cases eq)
        (by rintro parent ((eq | ⟨payload, eq⟩) | eq) <;> cases eq)

/-- A parent that waits for a child has one to wait for, has no record of any, and is listed under
the name that it remembers.  When such a child exits, the parent waits no more and is not listed any
more, and its next wait for a child of the kind hands out that child. -/
theorem Run.exit_reaches_parent {port : π} {k : Kernel π} {mutexes : MutexId → Mutex} {pid : Pid}
    {t : Task} (booted : Kernel.boot port = .ok (.ok k))
    (run : Run (fun _ _ => True) ⟨⟨k, mutexes⟩, []⟩ s) (busy : pid ≠ idlePid)
    (slot : s.kernel.sched.task? pid = some t) (parked : t.state = .awaitingChild) :
    s.kernel.Expects pid t ∧
      (∃ id, t.exitListener = some id ∧
        s.kernel.bus.registry.lists.task.filter (·.extra = pid) = [⟨id, .childExit, pid⟩]) ∧
      ∀ {u status reply s₁}, s.kernel.sched.task? s.kernel.current = some u → u.parent = pid →
        t.childFilter.accepts s.kernel.current = true →
        s.step (.call (.exit status)) = .ok (reply, s₁) →
        (∃ t₁, s₁.kernel.sched.task? pid = some t₁ ∧ t₁.state ≠ .awaitingChild ∧
          t₁.exitListener = none) ∧
        s₁.kernel.bus.registry.lists.task.filter (·.extra = pid) = [] ∧
        ∀ {s₂ options}, Run (Spares pid) s₁ s₂ → s₂.kernel.current = pid →
          ∃ s₃, s₂.step (.call (.waitChild t.childFilter options)) =
            .ok (.child (.done (s.kernel.current, status)), s₃) := by
  have healthy := (healthy_boot booted mutexes).run run
  refine ⟨?_, (healthy.attended.listens busy slot).of_parked parked, ?_⟩
  · exact (healthy.expecting pid t busy slot parked).resolve_left id
  · rintro u status reply s₁ exiting rfl accepts h
    have healthy₁ := healthy.step h
    obtain ⟨⟨_, system⟩, step, eq⟩ := Checked.bind_eq_ok.1 h
    cases eq
    obtain ⟨result, exit⟩ := System.exit_eq_ok step
    obtain ⟨⟨t₁, slot₁, woken⟩, records⟩ := Kernel.wakes_exit healthy.sound healthy.settled
      healthy.attended healthy.expecting exiting busy slot parked accepts exit
    obtain ⟨unnamed, unlisted⟩ := (healthy₁.attended.listens busy slot₁).of_other woken
    refine ⟨⟨t₁, slot₁, woken, unnamed⟩, unlisted, fun {s₂ options} run current => ?_⟩
    have healthy₂ := healthy₁.run run
    have records := current.symm ▸ healthy₁.records run records
    obtain ⟨k₃, waited⟩ := Kernel.waitChild_done options healthy₂.sound healthy₂.owns records
    have replied : s₂.toSystem.step (.waitChild t.childFilter options) =
        .ok (.child (.done (s.kernel.current, status)), { s₂.toSystem with kernel := k₃ }) :=
      Checked.bind_eq_ok.2 ⟨_, waited, rfl⟩
    exact ⟨{ s₂ with kernel := k₃ }, Checked.bind_eq_ok.2 ⟨_, replied, rfl⟩⟩

/-- An exit behind an event of another producer, which holds one more entity. -/
theorem exit_reaches_parent_host : ∃ k s t reply s₁,
    Kernel.boot (HostPort.new false) = .ok (.ok k) ∧
    Run (fun _ _ => True) ⟨⟨k, fun _ => .free⟩, []⟩ s ∧ s.kernel.sched.task? 1 = some t ∧
    t.state = .awaitingChild ∧ s.held = [5] ∧
    s.step (.call (.exit 9)) = .ok (reply, s₁) ∧
    ∃ s₂, s₁.step (.call (.waitChild t.childFilter WaitOptions.noHang)) =
      .ok (.child (.done (2, 9)), s₂) := by
  have runs : (((Kernel.boot (HostPort.new false)).toOption.bind Except.toOption).any fun k =>
        (play ⟨⟨k, fun _ => .free⟩, []⟩ [.call (.spawn (.program 0)), .call .schedule,
            .call (.spawn (.program 1)), .create (some .root), .create (some .root),
            .post ⟨4, .task 8 8 0⟩, .call (.waitChild .any ⟨0⟩)]).toOption.any fun s =>
          (s.kernel.sched.task? 1).any fun t =>
            (s.kernel.sched.task? s.kernel.current).any fun u =>
              (s.step (.call (.exit 9))).toOption.any fun out =>
                t.state = .awaitingChild ∧ t.childFilter.accepts s.kernel.current = true ∧
                  u.parent = 1 ∧ s.kernel.current = 2 ∧ s.held = [5] ∧
                  out.2.kernel.current = 1) = true := by decide +kernel
  obtain ⟨k, booted, runs⟩ := Kernel.exists_of_boot runs
  obtain ⟨s, played, runs⟩ := Checked.exists_of_any runs
  obtain ⟨t, slot, runs⟩ := (Option.any_eq_true _ _).1 runs
  obtain ⟨u, exiting, runs⟩ := (Option.any_eq_true _ _).1 runs
  obtain ⟨⟨reply, s₁⟩, step, runs⟩ := Checked.exists_of_any runs
  obtain ⟨parked, accepts, parent, current, held, next⟩ := of_decide_eq_true runs
  have run := Run.of_play (.refl _) played
  obtain ⟨-, -, exits⟩ := run.exit_reaches_parent booted (by decide) slot parked
  obtain ⟨-, -, waits⟩ := exits exiting parent accepts step
  rw [current] at waits
  obtain ⟨s₂, waited⟩ := waits (.refl s₁) next
  exact ⟨k, s, t, reply, s₁, booted, run, slot, parked, held, step, s₂, waited⟩

end Scene

end Rtos

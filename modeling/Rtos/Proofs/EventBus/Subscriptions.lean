import Rtos.Proofs.EventBus.Sequence
import Mathlib.Data.List.Induction
import Mathlib.Data.List.Nodup

/-!
# Listeners and their names

A name is used up by each registration that is asked for, whether it is granted or not, so the names of
all listeners of a bus increase in the order in which they were registered, and two listeners never have
the same.  What stands on the lists is what was granted, without those who were taken off
(`Enrolled`).  In the middle of a delivery the list of its kind is in the hands of the delivery:
`BusState.standing` puts it together, and `BusStep.standing` says what each move does to it.

A delivery tells the listeners of a kind one after the other, up to the first that answers `STOP`, and
takes those off that answer `REMOVE` (`Heard`).  Who was taken off is told of nothing any more
(`Absent.path`).
-/

namespace Rtos

variable {κ σ : Type}

/-! ## Registrations and calls -/

namespace BusAct

/-- Whether a registration is asked for. -/
def isRegistration : BusAct κ → Bool
  | .subscribed _ _ _ _ => true
  | _ => false

/-- The listener of a registration that is granted, and its kind. -/
def granted? : BusAct κ → Option (EventKind × Subscription κ)
  | .subscribed kind listener extra (.ok id) => some (kind, ⟨id, listener, extra⟩)
  | _ => none

/-- The callback of a listener that is told of an event, what it is given, and the event. -/
def call? : BusAct κ → Option (κ × Nat × Event)
  | .told listener extra event => some (listener, extra, event)
  | _ => none

/-- The answer of a listener. -/
def answer? : BusAct κ → Option ListenerAction
  | .answered action => some action
  | _ => none

end BusAct

/-- The registrations that were asked for, in order. -/
def registrations (log : List (BusAct κ)) : List (BusAct κ) :=
  log.filter BusAct.isRegistration

/-- The listeners that were registered, in order, with their kinds. -/
def granted (log : List (BusAct κ)) : List (EventKind × Subscription κ) :=
  log.filterMap BusAct.granted?

/-- The listeners that were registered for a kind, in order. -/
def grantedTo (kind : EventKind) (log : List (BusAct κ)) : List (Subscription κ) :=
  ((granted log).filter fun grant => grant.1 = kind).map Prod.snd

/-- The calls of listeners, in order. -/
def calls (log : List (BusAct κ)) : List (κ × Nat × Event) :=
  log.filterMap BusAct.call?

/-- The answers of listeners, in order. -/
def answers (log : List (BusAct κ)) : List ListenerAction :=
  log.filterMap BusAct.answer?

/-- The listeners that stay when they have given these answers. -/
def staying (called : List (Subscription κ)) (actions : List ListenerAction) : List (Subscription κ) :=
  (called.zip actions).flatMap fun told => told.1.after told.2

/-- The lists of listeners as they stand: in a delivery, the list of its kind is what was passed and what
is still due. -/
def BusState.standing (state : BusState κ) : Listeners κ :=
  match state.phase with
  | .resting => state.bus.registry.lists
  | .telling event passed due => state.bus.registry.lists.set event.kind (passed ++ due)
  | .hearing event passed sub due => state.bus.registry.lists.set event.kind (passed ++ sub :: due)

/-- A move takes a listener off its list. -/
inductive Removes : BusState κ → BusMove κ → ListenerId → Prop
  /-- The listener is named, and found. -/
  | named {state : BusState κ} {kind : EventKind} {id : ListenerId} :
      Removes state (.act (.unsubscribed kind id true)) id
  /-- The listener answers `REMOVE`. -/
  | answered {bus : EventBus κ} {event : Event} {passed due : List (Subscription κ)}
      {sub : Subscription κ} {action : ListenerAction}
      (remove : action.contains ListenerAction.remove = true) :
      Removes ⟨bus, .hearing event passed sub due⟩ (.act (.answered action)) sub.id

/-- What was seen since a bus was empty, and the lists of listeners as they stand. -/
structure Enrolled (log : List (BusAct κ)) (state : BusState κ) : Prop where
  /-- Each registration that was asked for has used up a name. -/
  issued : state.bus.registry.issued.value = (registrations log).length
  /-- The names that were given out increase. -/
  increasing : ((granted log).map (·.2.id.number)).Pairwise (· < ·)
  /-- Names that were given out are among those that were used up. -/
  bounded : ∀ grant ∈ granted log, grant.2.id.number ≤ (registrations log).length
  /-- Each list has listeners that were registered for its kind, in that order. -/
  listed : ∀ kind, (state.standing.get kind).Sublist (grantedTo kind log)

/-- Nobody of this name stands on a list, and the name is used up. -/
structure Absent (id : ListenerId) (state : BusState κ) : Prop where
  /-- The name is used up. -/
  used : id.number ≤ state.bus.registry.issued.value
  /-- Nobody has it. -/
  gone : ∀ kind, ∀ sub ∈ state.standing.get kind, sub.id ≠ id

section Lists

variable {log more : List (BusAct κ)}

theorem registrations_append : registrations (log ++ more) = registrations log ++ registrations more :=
  List.filter_append ..

theorem granted_append : granted (log ++ more) = granted log ++ granted more :=
  List.filterMap_append

theorem granted_seen {move : BusMove κ} :
    granted (BusMove.seen [move]) = (move.act?.bind BusAct.granted?).toList := by
  rw [BusMove.seen_singleton]
  cases move.act? with
  | none => rfl
  | some act => cases given : act.granted? <;> simp [granted, given]

theorem calls_append : calls (log ++ more) = calls log ++ calls more :=
  List.filterMap_append

theorem answers_append : answers (log ++ more) = answers log ++ answers more :=
  List.filterMap_append

end Lists

/-! ## What moves do to the lists -/

section Steps

variable {state state' : BusState κ} {move : BusMove κ}

/-- What a move does to the lists: a registration that is granted appends, a listener that is named or
that answers `REMOVE` is taken off, and nothing else changes them. -/
theorem BusStep.standing (step : BusStep state move state') :
    match move with
    | .act (.subscribed kind listener extra (.ok id)) => state'.standing =
        state.standing.set kind (state.standing.get kind ++ [⟨id, listener, extra⟩])
    | .act (.unsubscribed kind id _) => state'.standing =
        state.standing.set kind ((state.standing.get kind).eraseP (·.id == id))
    | .act (.answered action) => ∃ event passed sub due, state.phase = .hearing event passed sub due ∧
        state'.standing = state.standing.set event.kind (passed ++ (sub.after action ++ due))
    | _ => state'.standing = state.standing := by
  cases step with
  | dispatch free dispatch =>
    obtain ⟨_, -, eq⟩ := Checked.bind_eq_ok.1 dispatch
    cases eq
    rfl
  | subscribe subscribe =>
    obtain ⟨issued, -, ⟨rfl, -, rfl⟩ | ⟨⟨error, rfl⟩, rfl⟩⟩ := EventBus.subscribe_eq_ok subscribe
    · rfl
    · rfl
  | unsubscribe unsubscribe =>
    cases unsubscribe
    rfl
  | take => exact ByKind.set_get _ _
  | refill => rfl
  | rush => exact ByKind.set_get _ _
  | tell => rfl
  | @answer bus event passed due sub action =>
    refine ⟨event, passed, sub, due, rfl, ?_⟩
    -- a listener that stops the others has them put back behind itself
    change BusState.standing ⟨bus, .answered event passed sub due action⟩ =
      (bus.registry.lists.set event.kind _).set event.kind _
    rw [ByKind.set_set]
    unfold BusPhase.answered
    split
    · change bus.registry.lists.set event.kind ((passed ++ (sub.after action ++ due)) ++ []) = _
      rw [List.append_nil]
    · change bus.registry.lists.set event.kind ((passed ++ sub.after action) ++ due) = _
      rw [List.append_assoc]
  | @release bus event passed =>
    change bus.registry.lists.set event.kind passed =
      bus.registry.lists.set event.kind (passed ++ [])
    rw [List.append_nil]

/-- In a delivery the list of its kind is in the hands of the delivery. -/
theorem standing_of_hearing {event : Event} {passed due : List (Subscription κ)} {sub : Subscription κ}
    (phase : state.phase = .hearing event passed sub due) :
    state.standing.get event.kind = passed ++ sub :: due := by
  obtain ⟨bus, _⟩ := state
  cases phase
  exact ByKind.get_set_self _ _ _

theorem Subscription.after_sublist (sub : Subscription κ) (action : ListenerAction) :
    (sub.after action).Sublist [sub] := by
  unfold Subscription.after
  split
  · exact List.nil_sublist _
  · exact .refl _

theorem grantedTo_subscribed {kind : EventKind} {listener : κ} {extra : Nat} {id : ListenerId} :
    grantedTo kind [.subscribed kind listener extra (.ok id)] = [⟨id, listener, extra⟩] := by
  simp [grantedTo, granted, BusAct.granted?]

/-- A list gets the listeners that are registered for it, and loses others. -/
theorem BusStep.listed (step : BusStep state move state') (kind : EventKind) :
    (state'.standing.get kind).Sublist
      (state.standing.get kind ++ grantedTo kind (BusMove.seen [move])) := by
  have stands := step.standing
  have same (eq : state'.standing = state.standing) : (state'.standing.get kind).Sublist
      (state.standing.get kind ++ grantedTo kind (BusMove.seen [move])) := by
    rw [eq]
    exact List.sublist_append_left _ _
  have set {other : EventKind} {list : List (Subscription κ)}
      (eq : state'.standing = state.standing.set other list)
      (sub : list.Sublist (state.standing.get other ++ grantedTo other (BusMove.seen [move]))) :
      (state'.standing.get kind).Sublist
        (state.standing.get kind ++ grantedTo kind (BusMove.seen [move])) := by
    rw [eq]
    by_cases own : other = kind
    · subst own
      rwa [ByKind.get_set_self]
    · rw [ByKind.get_set_of_ne _ _ own]
      exact List.sublist_append_left _ _
  cases move with
  | act a =>
    cases a with
    | subscribed other listener extra result =>
      cases result with
      | ok id =>
        refine set stands ?_
        rw [show BusMove.seen _ = [BusAct.subscribed other listener extra (.ok id)] from rfl,
          grantedTo_subscribed]
      | error => exact same stands
    | unsubscribed other id found =>
      exact set stands (List.eraseP_sublist.trans (List.sublist_append_left _ _))
    | answered action =>
      obtain ⟨event, passed, sub, due, phase, stands⟩ := stands
      refine set stands (.trans ?_ (List.sublist_append_left _ _))
      rw [standing_of_hearing phase]
      exact ((sub.after_sublist action).append_right due).append_left passed
    | dispatched | told | released => exact same stands
  | taken | refilled | rushed => exact same stands

/-- Only a registration uses up a name, and it gets that name if it is granted. -/
theorem BusStep.issued (step : BusStep state move state') :
    state'.bus.registry.issued.value =
        state.bus.registry.issued.value + (registrations (BusMove.seen [move])).length ∧
      ∀ grant ∈ granted (BusMove.seen [move]),
        grant.2.id.number = state.bus.registry.issued.value + 1 ∧
          grant.2.id.number = state'.bus.registry.issued.value := by
  cases step with
  | dispatch free dispatch =>
    obtain ⟨_, -, eq⟩ := Checked.bind_eq_ok.1 dispatch
    cases eq
    exact ⟨rfl, nofun⟩
  | subscribe subscribe =>
    obtain ⟨issued, counted, ⟨rfl, -, rfl⟩ | ⟨⟨error, rfl⟩, rfl⟩⟩ :=
      EventBus.subscribe_eq_ok subscribe
    · refine ⟨counted, fun grant mem => ?_⟩
      cases List.mem_singleton.1 mem
      exact ⟨counted, rfl⟩
    · exact ⟨counted, nofun⟩
  | unsubscribe unsubscribe =>
    cases unsubscribe
    exact ⟨rfl, nofun⟩
  | take => exact ⟨rfl, nofun⟩
  | refill => exact ⟨rfl, nofun⟩
  | rush => exact ⟨rfl, nofun⟩
  | tell => exact ⟨rfl, nofun⟩
  | answer => exact ⟨rfl, nofun⟩
  | release => exact ⟨rfl, nofun⟩

end Steps

/-! ## Names -/

namespace Enrolled

variable {log : List (BusAct κ)} {state state' : BusState κ} {move : BusMove κ} {kind other : EventKind}
  {sub sub' : Subscription κ} {id : ListenerId}

/-- Who stands on a list was registered for its kind. -/
theorem granted_of_mem (enrolled : Enrolled log state) (mem : sub ∈ state.standing.get kind) :
    (kind, sub) ∈ granted log := by
  obtain ⟨⟨own, sub⟩, filtered, rfl⟩ := List.mem_map.1 ((enrolled.listed kind).subset mem)
  obtain ⟨grant, same⟩ := List.mem_filter.1 filtered
  obtain rfl : own = kind := of_decide_eq_true same
  exact grant

theorem sorted (enrolled : Enrolled log state) (kind : EventKind) :
    ((state.standing.get kind).map (·.id.number)).Pairwise (· < ·) := by
  refine enrolled.increasing.sublist (((enrolled.listed kind).map _).trans ?_)
  rw [grantedTo, List.map_map]
  exact List.filter_sublist.map _

/-- Nobody else has the name of a listener, on whatever list. -/
theorem unique (enrolled : Enrolled log state) (mem : sub ∈ state.standing.get kind)
    (mem' : sub' ∈ state.standing.get other) (same : sub.id = sub'.id) :
    kind = other ∧ sub = sub' := by
  have distinct : ((granted log).map (·.2.id.number)).Nodup :=
    enrolled.increasing.imp Nat.ne_of_lt
  have eq := List.inj_on_of_nodup_map distinct (enrolled.granted_of_mem mem)
    (enrolled.granted_of_mem mem') (congrArg ListenerId.number same)
  exact Prod.mk.inj eq

theorem step (enrolled : Enrolled log state) (step : BusStep state move state') :
    Enrolled (log ++ BusMove.seen [move]) state' := by
  obtain ⟨issued, names⟩ := step.issued
  have bounded : ∀ grant ∈ granted log, grant.2.id.number ≤ state.bus.registry.issued.value :=
    fun grant mem => enrolled.issued ▸ enrolled.bounded grant mem
  have total : state'.bus.registry.issued.value =
      (registrations (log ++ BusMove.seen [move])).length := by
    rw [issued, enrolled.issued, registrations_append, List.length_append]
  refine ⟨total, ?_, ?_, fun kind => ?_⟩
  · rw [granted_append, List.map_append]
    refine List.pairwise_append.2 ⟨enrolled.increasing, ?_, ?_⟩
    · rw [granted_seen]
      cases move.act?.bind BusAct.granted? with
      | none => exact .nil
      | some grant => exact List.pairwise_singleton _ _
    · -- a name that is given out now is greater than all that are used up
      intro old mem new mem'
      obtain ⟨grant, given, rfl⟩ := List.mem_map.1 mem
      obtain ⟨grant', given', rfl⟩ := List.mem_map.1 mem'
      have := bounded grant given
      have := (names grant' given').1
      omega
  · intro grant mem
    rw [granted_append] at mem
    rw [← total]
    obtain old | new := List.mem_append.1 mem
    · have := bounded grant old
      omega
    · exact Nat.le_of_eq (names grant new).2
  · have parts : grantedTo kind (log ++ BusMove.seen [move]) =
        grantedTo kind log ++ grantedTo kind (BusMove.seen [move]) := by
      rw [grantedTo, granted_append, List.filter_append, List.map_append]
      rfl
    rw [parts]
    exact (step.listed kind).trans ((enrolled.listed kind).append_right _)

end Enrolled

/-! ## Who is gone stays away -/

section Absence

variable {log : List (BusAct κ)} {state state' : BusState κ} {move : BusMove κ} {moves : List (BusMove κ)}
  {id : ListenerId}

/-- Names that are used up are not given out again, so whoever is gone stays away. -/
theorem Absent.step (absent : Absent id state) (step : BusStep state move state') : Absent id state' := by
  obtain ⟨issued, names⟩ := step.issued
  refine ⟨issued ▸ Nat.le_trans absent.used (Nat.le_add_right _ _), fun kind sub mem same => ?_⟩
  obtain old | new := List.mem_append.1 ((step.listed kind).subset mem)
  · exact absent.gone kind sub old same
  · obtain ⟨grant, filtered, rfl⟩ := List.mem_map.1 new
    have fresh := (names grant (List.mem_filter.1 filtered).1).1
    have used := absent.used
    rw [same] at fresh
    omega

theorem Absent.path (absent : Absent id state) (path : BusPath state moves state') :
    Absent id state' := by
  induction path with
  | refl => exact absent
  | snoc _ step ih => exact ih.step step

/-- Nobody who is gone is told of anything. -/
theorem Absent.unheard {event : Event} {passed due : List (Subscription κ)} {sub : Subscription κ}
    (absent : Absent id state) (phase : state.phase = .hearing event passed sub due) : sub.id ≠ id :=
  absent.gone event.kind sub (standing_of_hearing phase ▸ List.mem_append_right _ List.mem_cons_self)

/-- Where names increase, the only listener of a name is taken off. -/
theorem eraseP_of_sorted {list : List (Subscription κ)}
    (sorted : (list.map (·.id.number)).Pairwise (· < ·)) :
    list.eraseP (·.id == id) = list.filter (·.id != id) := by
  induction list with
  | nil => rfl
  | cons sub rest ih =>
    obtain ⟨below, sorted⟩ := List.pairwise_cons.1 sorted
    by_cases same : sub.id = id
    · subst same
      have others : rest.filter (·.id != sub.id) = rest := by
        refine List.filter_eq_self.2 fun other mem => bne_iff_ne.2 fun same => ?_
        have := below _ (List.mem_map_of_mem mem)
        rw [same] at this
        exact Nat.lt_irrefl _ this
      rw [List.eraseP_cons_of_pos (by simp), List.filter_cons_of_neg (by simp), others]
    · rw [List.eraseP_cons_of_neg (by simpa), List.filter_cons_of_pos (by simpa), ih sorted]

/-- A listener that is no longer on its own list is on none, because nobody else has its name. -/
theorem Enrolled.gone_of_set {kind : EventKind} {sub : Subscription κ} {list : List (Subscription κ)}
    (enrolled : Enrolled log state) (mem : sub ∈ state.standing.get kind)
    (off : ∀ other ∈ list, other.id ≠ sub.id) (other : EventKind) :
    ∀ sub' ∈ (state.standing.set kind list).get other, sub'.id ≠ sub.id := by
  intro sub' mem' same
  by_cases own : kind = other
  · subst own
    rw [ByKind.get_set_self] at mem'
    exact off sub' mem' same
  · rw [ByKind.get_set_of_ne _ _ own] at mem'
    exact own (enrolled.unique mem mem' same.symm).1

theorem Enrolled.absent (enrolled : Enrolled log state) (step : BusStep state move state')
    (removes : Removes state move id) : Absent id state' := by
  have stands := step.standing
  have used {kind : EventKind} {sub : Subscription κ} (mem : sub ∈ state.standing.get kind) :
      sub.id.number ≤ state'.bus.registry.issued.value := by
    rw [step.issued.1, enrolled.issued]
    exact Nat.le_trans (enrolled.bounded _ (enrolled.granted_of_mem mem)) (Nat.le_add_right _ _)
  -- whoever is taken off its own list is on none, and its name is used up
  cases removes with
  | @named _ kind =>
    have found : ∃ sub ∈ state.standing.get kind, sub.id = id := by
      cases step with
      | unsubscribe unsubscribe => exact Registry.unsubscribe_fst.1 (congrArg Prod.fst unsubscribe)
    obtain ⟨sub, mem, rfl⟩ := found
    refine ⟨used mem, fun other => ?_⟩
    rw [stands, eraseP_of_sorted (enrolled.sorted kind)]
    exact enrolled.gone_of_set mem (fun sub' mem' => bne_iff_ne.1 (List.mem_filter.1 mem').2) other
  | @answered bus event passed due sub action remove =>
    obtain ⟨_, _, _, _, phase, stands⟩ := stands
    cases phase
    have list : (BusState.standing ⟨bus, .hearing event passed sub due⟩).get event.kind =
        passed ++ sub :: due := standing_of_hearing rfl
    have mem : sub ∈ (BusState.standing ⟨bus, .hearing event passed sub due⟩).get event.kind :=
      list ▸ List.mem_append_right _ List.mem_cons_self
    have none : sub.after action = [] := if_pos remove
    refine ⟨used mem, fun other => ?_⟩
    rw [stands, none, List.nil_append]
    refine enrolled.gone_of_set mem (fun sub' mem' same => ?_) other
    have distinct := (enrolled.sorted event.kind).imp Nat.ne_of_lt
    rw [list, List.map_append, List.map_cons, ← List.nodup_iff_pairwise_ne, List.nodup_middle,
      ← List.map_append] at distinct
    exact (List.nodup_cons.1 distinct).1 (List.mem_map.2 ⟨sub', mem', congrArg _ same⟩)

/-- On a path from an empty bus, names increase. -/
theorem BusPath.enrolled (path : BusPath (.rest .empty) moves state) :
    Enrolled (BusMove.seen moves) state := by
  induction path with
  | refl =>
    refine ⟨rfl, .nil, nofun, fun kind => ?_⟩
    cases kind <;> exact List.nil_sublist _
  | snoc _ step ih => exact BusMove.seen_append ▸ ih.step step

/-- On a path from an empty bus, the listener of each registration gets the number of the registration as
its name. -/
theorem BusPath.named (path : BusPath (.rest .empty) moves state) {moment : List (BusAct κ)}
    {kind : EventKind} {listener : κ} {extra : Nat}
    (seen : moment ++ [.subscribed kind listener extra (.ok id)] <+: BusMove.seen moves) :
    id.number = (registrations moment).length + 1 := by
  induction path with
  | refl => exact absurd (List.prefix_nil.1 seen) (List.append_ne_nil_of_right_ne_nil _ nofun)
  | @snoc mid state' moves move before step ih =>
    rw [BusMove.seen_append, BusMove.seen_singleton] at seen
    cases shown : move.act? with
    | none =>
      rw [shown, Option.toList_none, List.append_nil] at seen
      exact ih seen
    | some last =>
      rw [shown, Option.toList_some] at seen
      -- the registration is the last thing seen, or was seen before the last move
      obtain whole | earlier := List.prefix_concat_iff.1 seen
      case inr => exact ih earlier
      obtain ⟨rfl, same⟩ := List.append_inj' whole rfl
      cases same
      have grant : (kind, ⟨id, listener, extra⟩) ∈ granted (BusMove.seen [move]) := by
        rw [granted_seen, shown]
        exact List.mem_singleton_self _
      rw [← before.enrolled.issued]
      exact (step.issued.2 _ grant).1

theorem BusPath.split {start : BusState κ} {more : List (BusMove κ)}
    (path : BusPath start (moves ++ more) state) :
    ∃ mid, BusPath start moves mid ∧ BusPath mid more state := by
  induction more using List.reverseRecOn generalizing state with
  | nil => exact ⟨state, List.append_nil moves ▸ path, .refl state⟩
  | append_singleton more move ih =>
    rw [← List.append_assoc] at path
    obtain ⟨late, before, step⟩ := path.last
    obtain ⟨mid, first, rest⟩ := ih before
    exact ⟨mid, first, rest.snoc step⟩

/-- Whoever is taken off a list is not told of anything later on a path from an empty bus. -/
theorem BusPath.unheard {before later : List (BusMove κ)} {mid : BusState κ}
    {event : Event} {passed due : List (Subscription κ)} {sub : Subscription κ}
    (first : BusPath (.rest .empty) before mid) (removes : Removes mid move id)
    (path : BusPath (.rest .empty) (before ++ move :: later) state)
    (phase : state.phase = .hearing event passed sub due) : sub.id ≠ id := by
  rw [← List.singleton_append, ← List.append_assoc] at path
  obtain ⟨next, longer, rest⟩ := path.split
  obtain ⟨mid', first', step⟩ := longer.last
  cases first.unique first'
  exact ((first.enrolled.absent step removes).path rest).unheard phase

end Absence

/-! ## A delivery -/

/-- In a delivery of an event some listeners were called, one after the other and once each, and the
others were not. -/
structure Heard (event : Event) (called uncalled : List (Subscription κ)) (acts : List (BusAct κ))
    (kept : List (Subscription κ)) : Prop where
  /-- The listeners were called with the event, in order. -/
  calls : calls acts = called.map fun sub => (sub.listener, sub.extra, event)
  /-- Each one answered. -/
  answered : (answers acts).length = called.length
  /-- Before the last one nobody answered `STOP`. -/
  goes : ∀ action ∈ (answers acts).dropLast, action.contains ListenerAction.stop = false
  /-- The last one did, if there are others. -/
  stops : uncalled ≠ [] → ∃ action ∈ (answers acts).getLast?,
    action.contains ListenerAction.stop = true
  /-- Those called that did not answer `REMOVE` stay, and so do those that were not called. -/
  kept : kept = staying called (answers acts) ++ uncalled

section Delivery

variable {event : Event} {due kept : List (Subscription κ)} {acts : List (BusAct κ)}

theorem calls_of_isUse (use : ∀ act ∈ acts, act.isUse = true) : calls acts = [] ∧ answers acts = [] := by
  constructor
  · refine List.filterMap_eq_nil_iff.2 fun act mem => ?_
    cases act with
    | told => cases use _ mem
    | dispatched | subscribed | unsubscribed | answered | released => rfl
  · refine List.filterMap_eq_nil_iff.2 fun act mem => ?_
    cases act with
    | answered => cases use _ mem
    | dispatched | subscribed | unsubscribed | told | released => rfl

theorem BusAct.isUse_of_isDispatch {act : BusAct κ} (dispatch : act.isDispatch = true) :
    act.isUse = true := by
  cases act with
  | dispatched => rfl
  | subscribed | unsubscribed | told | answered | released => cases dispatch

/-- What is seen when a listener is told and answers, and dispatches in the meantime. -/
theorem calls_told {sub : Subscription κ} {own : List (BusAct κ)} {action : ListenerAction}
    (dispatches : ∀ act ∈ own, act.isDispatch = true) (event : Event) (acts : List (BusAct κ)) :
    calls (.told sub.listener sub.extra event :: own ++ [.answered action] ++ acts) =
        (sub.listener, sub.extra, event) :: calls acts ∧
      answers (.told sub.listener sub.extra event :: own ++ [.answered action] ++ acts) =
        action :: answers acts := by
  obtain ⟨uncalling, unanswering⟩ := calls_of_isUse fun act mem =>
    act.isUse_of_isDispatch (dispatches act mem)
  constructor
  · rw [calls_append, calls_append]
    change (_ :: calls own ++ []) ++ calls acts = _
    rw [uncalling]
    rfl
  · rw [answers_append, answers_append]
    change (answers own ++ [action]) ++ answers acts = _
    rw [unanswering]
    rfl

/-- An offer calls the listeners that are due, in order, up to the first that answers `STOP`. -/
theorem Offers.heard (offers : Offers event due acts kept) :
    ∃ called uncalled, due = called ++ uncalled ∧ Heard event called uncalled acts kept := by
  induction offers with
  | nil => exact ⟨[], [], rfl, rfl, rfl, nofun, fun some => absurd rfl some, rfl⟩
  | @next sub due kept own acts action dispatches goes _ ih =>
    obtain ⟨called, uncalled, rfl, heard⟩ := ih
    obtain ⟨told, answered⟩ := calls_told dispatches event acts
    refine ⟨sub :: called, uncalled, rfl, ?_, ?_, ?_, fun others => ?_, ?_⟩
    · rw [told, heard.calls]
      rfl
    · rw [answered, List.length_cons, heard.answered]
      rfl
    · rw [answered]
      cases rest : answers acts with
      | nil => exact nofun
      | cons next later =>
        rw [List.dropLast_cons_cons, ← rest]
        exact List.forall_mem_cons.2 ⟨goes, heard.goes⟩
    · obtain ⟨last, mem, stops⟩ := heard.stops others
      refine ⟨last, ?_, stops⟩
      rw [answered, List.getLast?_cons, mem]
      rfl
    · rw [answered, heard.kept]
      exact (List.append_assoc ..).symm
  | @stop sub due own action dispatches stops =>
    obtain ⟨told, answered⟩ := calls_told dispatches event []
    rw [List.append_nil] at told answered
    refine ⟨[sub], due, rfl, told, ?_, ?_, fun _ => ⟨action, ?_, stops⟩, ?_⟩
    · rw [answered]
      rfl
    · rw [answered]
      exact nofun
    · rw [answered]
      rfl
    · rw [answered]
      exact congrArg (· ++ due) (List.append_nil _).symm

/-- What a delivery comes to: some listeners are called, and then the event is released, on a bus whose
list has those that stay. -/
theorem EventBus.deliver_heard {callbacks : Callbacks κ σ} {bus bus' : EventBus κ} {s s' : σ}
    {log log' : List (BusAct κ)}
    (h : EventBus.deliver callbacks.recorded bus event (s, log) = .ok (bus', s', log')) :
    ∃ called uncalled acts kept queues told,
      bus.registry.lists.get event.kind = called ++ uncalled ∧
      log' = log ++ acts ∧ Heard event called uncalled acts kept ∧
      (callbacks.recorded.release event told).run
        ⟨queues, { bus.registry with lists := bus.registry.lists.set event.kind kept }⟩ =
          .ok ((s', log'), bus') := by
  obtain ⟨⟨kept, queues, s₁, log₁⟩, told, h⟩ := Checked.bind_eq_ok.1 h
  obtain ⟨⟨s₂, bus₂⟩, released, eq⟩ := Checked.bind_eq_ok.1 h
  cases eq
  obtain ⟨offered, rfl, offers, -⟩ := tell_recorded told
  obtain ⟨called, uncalled, list, heard⟩ := offers.heard
  have run := released
  obtain ⟨answer, after, answered, use, -⟩ := run_recorded released
  cases answered
  obtain ⟨uncalling, unanswering⟩ := calls_of_isUse use
  have calls_all : calls (offered ++ .released event :: after) = calls offered := by
    rw [calls_append]
    change calls offered ++ calls after = _
    rw [uncalling, List.append_nil]
  have answers_all : answers (offered ++ .released event :: after) = answers offered := by
    rw [answers_append]
    change answers offered ++ answers after = _
    rw [unanswering, List.append_nil]
  refine ⟨called, uncalled, offered ++ .released event :: after, kept, queues, _, list, ?_, ?_, run⟩
  · simp only [List.append_assoc, List.cons_append, List.nil_append]
  · exact ⟨calls_all ▸ heard.calls, answers_all ▸ heard.answered, answers_all ▸ heard.goes,
      answers_all ▸ heard.stops, answers_all ▸ heard.kept⟩

end Delivery

/-! ## Everything that can be done with a bus -/

/-- Callbacks that answer with their own names. -/
def Callbacks.outspoken : Callbacks ListenerAction Unit where
  listen action _ _ s := .done (.ok (action, s))
  release _ s := .done (.ok s)

namespace EventBus

/-- Whatever is done with an empty bus is a path of moves on which these things hold.
- Each registration uses up a name, whether it is granted or not, and no name is given out twice.
- At every moment each list has listeners of its kind in the order of their registration, and their names
  increase.
- A listener that is taken off its list, by name or by its own answer, is told of nothing later.
- Between deliveries, taking a listener off finds it exactly if it stands on the list of the kind, and
  takes nobody else off.

Every delivery calls the listeners of the kind of its event, in order and once each, up to the first that
answers `STOP`; then the event is released, on a bus on whose list exactly those called are missing that
answered `REMOVE`.  If callbacks do nothing but answer, every delivery comes to an end. -/
theorem listeners_of_work {callbacks : Callbacks κ σ} {uses : List (BusUse κ σ)} {bus : EventBus κ}
    {s s' : σ} (h : work callbacks uses .empty s = .ok (bus, s')) :
    (∃ moves, BusPath (.rest .empty) moves (.rest bus) ∧
      work callbacks.recorded (uses.map .recorded) .empty (s, []) =
        .ok (bus, s', BusMove.seen moves) ∧
      (∀ moment kind listener extra id,
        moment ++ [.subscribed kind listener extra (.ok id)] <+: BusMove.seen moves →
        id.number = (registrations moment).length + 1) ∧
      (∀ before state, before <+: moves → BusPath (.rest .empty) before state → ∀ kind,
        (state.standing.get kind).Sublist (grantedTo kind (BusMove.seen before)) ∧
        ((state.standing.get kind).map (·.id.number)).Pairwise (· < ·)) ∧
      (∀ before move later mid state id event passed sub due, before ++ move :: later <+: moves →
        BusPath (.rest .empty) before mid → Removes mid move id →
        BusPath (.rest .empty) (before ++ move :: later) state →
        state.phase = .hearing event passed sub due → sub.id ≠ id) ∧
      ∀ before mid, before <+: moves → BusPath (.rest .empty) before (.rest mid) →
        ∀ kind id found mid', mid.unsubscribe kind id = (found, mid') →
          (found = true ↔ ∃ sub ∈ mid.registry.lists.get kind, sub.id = id) ∧
          mid'.registry.lists =
            mid.registry.lists.set kind ((mid.registry.lists.get kind).filter (·.id != id)) ∧
          mid'.registry.issued = mid.registry.issued ∧ mid'.queues = mid.queues) ∧
    (∀ {bus bus' : EventBus κ} {event : Event} {s s' : σ} {log log' : List (BusAct κ)},
      deliver callbacks.recorded bus event (s, log) = .ok (bus', s', log') →
      ∃ called uncalled acts kept queues told,
        bus.registry.lists.get event.kind = called ++ uncalled ∧
        log' = log ++ acts ∧ Heard event called uncalled acts kept ∧
        (callbacks.recorded.release event told).run
          ⟨queues, { bus.registry with lists := bus.registry.lists.set event.kind kept }⟩ =
            .ok ((s', log'), bus')) ∧
    ((∀ listener event extra s, ∃ out,
        callbacks.listen listener event extra s = .done (.ok out)) →
      (∀ event s, ∃ out, callbacks.release event s = .done (.ok out)) →
      ∀ (bus : EventBus κ) (event : Event) (s : σ) (log : List (BusAct κ)),
        ∃ out, deliver callbacks.recorded bus event (s, log) = .ok out) := by
  refine ⟨?_, fun delivered => deliver_heard delivered, fun listen release bus event s log => ?_⟩
  case refine_2 =>
    obtain ⟨_, _, _, delivered, -⟩ :=
      serves_of_done listen release bus.queues bus.registry event s log trivial
    exact ⟨_, delivered⟩
  obtain ⟨moves, path, recorded⟩ := traced_work h
  refine ⟨moves, path, recorded [], fun _ _ _ _ _ seen => path.named seen, ?_, ?_, ?_⟩
  · exact fun before state _ first kind => ⟨first.enrolled.listed kind, first.enrolled.sorted kind⟩
  · exact fun _ _ _ _ _ _ _ _ _ _ _ first removes longer => first.unheard removes longer
  · intro before mid _ first kind id found mid' unsubscribe
    cases unsubscribe
    refine ⟨Registry.unsubscribe_fst, ?_, rfl, rfl⟩
    exact congrArg (mid.registry.lists.set kind) (eraseP_of_sorted (first.enrolled.sorted kind))

/-- Listeners of devices that stay, leave, leave and stop the others, or stay without being called, and one
of files between them; then one of them is taken off by name. -/
def chatter : List (BusUse ListenerAction Unit) :=
  [.subscribing .device .proceed 0, .subscribing .device .remove 1, .subscribing .file .proceed 2,
    .subscribing .device ⟨3⟩ 3, .subscribing .device .proceed 4, .dispatching (.ofDevice 7), .pass 1,
    .act fun s => .unsubscribe .device ⟨1⟩ fun _ => .done (.ok s), .dispatching (.ofDevice 8), .pass 1]

/-- The first event is told to three listeners, of whom one stays, and the second to the one that is left
in the end. -/
theorem listeners_of_chatter : ∃ bus moves, BusPath (.rest .empty) moves (.rest bus) ∧
    work Callbacks.outspoken.recorded (chatter.map .recorded) .empty ((), []) =
      .ok (bus, (), BusMove.seen moves) ∧
    calls (BusMove.seen moves) = [(.proceed, 0, .ofDevice 7), (.remove, 1, .ofDevice 7),
      (⟨3⟩, 3, .ofDevice 7), (.proceed, 4, .ofDevice 8)] ∧
    bus.registry.lists = ⟨[⟨⟨5⟩, .proceed, 4⟩], [], [⟨⟨3⟩, .proceed, 2⟩]⟩ ∧
    ∀ kind, (bus.registry.lists.get kind).Sublist (grantedTo kind (BusMove.seen moves)) := by
  have run : (work Callbacks.outspoken chatter .empty ()).toOption.any (fun out =>
      decide (out.1.registry.lists = ⟨[⟨⟨5⟩, .proceed, 4⟩], [], [⟨⟨3⟩, .proceed, 2⟩]⟩)) = true := by
    decide +kernel
  have record : (work Callbacks.outspoken.recorded (chatter.map .recorded) .empty
      ((), [])).toOption.any (fun out => decide (calls out.2.2 =
        [(.proceed, 0, .ofDevice 7), (.remove, 1, .ofDevice 7), (⟨3⟩, 3, .ofDevice 7),
          (.proceed, 4, .ofDevice 8)])) = true := by
    decide +kernel
  obtain ⟨⟨bus, s⟩, run, lists⟩ := Checked.exists_of_any run
  obtain ⟨⟨moves, path, recorded, -, order, -⟩, -⟩ := listeners_of_work run
  rw [recorded] at record
  exact ⟨bus, moves, path, recorded, of_decide_eq_true record, of_decide_eq_true lists,
    fun kind => (order moves _ List.prefix_rfl path kind).1⟩

end EventBus

end Rtos

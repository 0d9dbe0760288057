import Rtos.Proofs.Entity.Clients

/-!
# Misuse of an arena

A client may drop references that it does not have, and name slots whose entities are gone or have been
followed by others.  Then parents can go before their children, and children of what came into the
slot of a parent can be its parents, so that the way up leads round in a circle.

The arena withstands it (`Client.unshaken_of_insist`).  Live entities are referenced, the occupied slots are
counted, and the root stays, since none of this depends on who stands under whom
(`EntityTree.Intact`).  And a release comes to an end, on a circle too: every round but its last
removes an entity, so there are no more rounds than there are live entities
(`EntityTree.Intact.release_climbs`).
-/

namespace Rtos

namespace EntityTree

variable {δ σ : Type} {t r : EntityTree δ} {id : EntityId} {e : Entity δ}
  {clean : δ → Owner → σ → Checked σ} {s s' : σ} {next : Option EntityId} {n m fuel : Nat}
  {fault : Fault} {result result' : Checked (EntityTree δ × σ)}

/-! ## Releases that are not cut short -/

/-- A release that goes on for as long as a reference is to be dropped next: after `n` rounds it comes
to the result. -/
inductive Climbs (clean : δ → Owner → σ → Checked σ) :
    Nat → EntityTree δ → Option EntityId → σ → Checked (EntityTree δ × σ) → Prop
  /-- No reference is next. -/
  | ends {t : EntityTree δ} {s : σ} : Climbs clean 0 t none s (.ok (t, s))
  /-- The round faults. -/
  | faults {t : EntityTree δ} {id : EntityId} {s : σ} {fault : Fault}
      (round : t.releaseRound clean id s = .error fault) :
      Climbs clean 1 t (some id) s (.error fault)
  /-- After the round comes what comes next. -/
  | goesOn {n : Nat} {t t' : EntityTree δ} {id : EntityId} {next : Option EntityId} {s s' : σ}
      {result : Checked (EntityTree δ × σ)}
      (round : t.releaseRound clean id s = .ok (t', s', next))
      (rest : Climbs clean n t' next s' result) : Climbs clean (n + 1) t (some id) s result

/-- A release determines its number of rounds and its result. -/
theorem Climbs.unique (h : Climbs clean n t next s result) (h' : Climbs clean m t next s result') :
    m = n ∧ result' = result := by
  induction h generalizing m result' with
  | ends => cases h'; exact ⟨rfl, rfl⟩
  | faults round =>
    cases h' with
    | faults round' => cases round.symm.trans round'; exact ⟨rfl, rfl⟩
    | goesOn round' => cases round.symm.trans round'
  | goesOn round rest ih =>
    cases h' with
    | faults round' => cases round.symm.trans round'
    | goesOn round' rest' =>
      cases round.symm.trans round'
      obtain ⟨rfl, rfl⟩ := ih rest'
      exact ⟨rfl, rfl⟩

/-! ## Rounds in an intact arena -/

theorem releaseRound_of_free (free : t.get? id = none) :
    t.releaseRound clean id s = .error (.freedEntity id) := by
  simp only [releaseRound, entity, free, bind, Except.bind]

theorem releaseRound_of_root (found : t.get? .root = some e) (last : e.count.value = 1) :
    t.releaseRound clean .root s = .error .rootReleased := by
  have counted : e.count.decrement = .ok ⟨0⟩ := Counter.decrement_eq_ok.2 ⟨by omega, by simp [last]⟩
  simp only [releaseRound, entity_eq_ok.2 found, counted, bind, Except.bind, ne_eq,
    not_true_eq_false, if_false, if_true]

/-- The clean-up of an entity that loses its last reference may fault. -/
theorem releaseRound_of_fault (found : t.get? id = some e) (last : e.count.value = 1)
    (below : id ≠ .root) (live : 0 < t.live) (faults : e.runCleanup clean s = .error fault) :
    t.releaseRound clean id s = .error fault := by
  have counted : e.count.decrement = .ok ⟨0⟩ := Counter.decrement_eq_ok.2 ⟨by omega, by simp [last]⟩
  have fewer : Word.sub t.live 1 = .ok (t.live - 1) := Word.sub_eq_ok.2 ⟨live, rfl⟩
  simp only [releaseRound, entity_eq_ok.2 found, counted, fewer, faults, bind, Except.bind, ne_eq,
    not_true_eq_false, if_false, below]

namespace Intact

theorem new : (new : EntityTree δ).Intact :=
  proper_new.intact

/-- A round leaves the arena intact, and with fewer entities if there is to be another. -/
theorem round (h : t.Intact) (step : t.RoundStep clean id s r s' next) :
    r.Intact ∧ (next ≠ none → r.live < t.live) := by
  cases step with
  | settles found others =>
    exact ⟨h.setCount found (Nat.sub_pos_of_lt others), fun more => absurd rfl more⟩
  | falls found last below counted cleaned =>
    exact ⟨h.remove found below, fun _ => Nat.sub_lt counted Nat.one_pos⟩

/-- What makes a round fault: the slot is free, the root would go, or the clean-up faults. -/
theorem round_fault (h : t.Intact) (round : t.releaseRound clean id s = .error fault) :
    (fault = .freedEntity id ∧ t.get? id = none) ∨ (fault = .rootReleased ∧ id = .root) ∨
      ∃ e, t.get? id = some e ∧ e.runCleanup clean s = .error fault := by
  cases found : t.get? id with
  | none =>
    cases round.symm.trans (releaseRound_of_free found)
    exact .inl ⟨rfl, rfl⟩
  | some e =>
  have positive := h.positive found
  by_cases last : e.count.value = 1
  · have counted := h.live_pos found
    by_cases root : id = .root
    · subst root
      cases round.symm.trans (releaseRound_of_root found last)
      exact .inr (.inl ⟨rfl, rfl⟩)
    · cases cleaned : e.runCleanup clean s with
      | ok s' =>
        cases round.symm.trans (releaseRound_eq_ok.2 (.falls found last root counted cleaned))
      | error fault' =>
        cases round.symm.trans (releaseRound_of_fault found last root counted cleaned)
        exact .inr (.inr ⟨e, rfl, cleaned⟩)
  · have others : 1 < e.count.value := by omega
    cases round.symm.trans (releaseRound_eq_ok.2 (.settles found others))

/-! ## Releases in an intact arena -/

/-- In an intact arena a release is over after as many rounds as there are live entities, if not
before. -/
theorem climbs (h : t.Intact) (enough : t.live ≤ fuel) :
    ∃ n ≤ fuel, Climbs clean n t (some id) s (releaseUp clean fuel t id s) := by
  induction fuel generalizing t id s with
  | zero =>
    obtain ⟨e, root⟩ := Option.isSome_iff_exists.1 h.root
    exact absurd enough (Nat.not_le.2 (h.live_pos root))
  | succ fuel ih =>
    rw [releaseUp]
    cases round : t.releaseRound clean id s with
    | error fault => exact ⟨1, Nat.succ_le_succ (Nat.zero_le _), .faults round⟩
    | ok out =>
      obtain ⟨t', s', next⟩ := out
      cases next with
      | none => exact ⟨1, Nat.succ_le_succ (Nat.zero_le _), .goesOn round .ends⟩
      | some parent =>
        obtain ⟨intact, fewer⟩ := h.round (releaseRound_eq_ok.1 round)
        have fewer := fewer (Option.some_ne_none parent)
        have above : ∃ n ≤ fuel, Climbs clean n t' (some parent) s'
            (releaseUp clean fuel t' parent s') := ih intact (by omega)
        obtain ⟨n, le, rest⟩ := above
        exact ⟨n + 1, Nat.succ_le_succ le, .goesOn round rest⟩

/-- The release of any reference, be there one or not, is over after at most as many rounds as there are
live entities. -/
theorem release_climbs (h : t.Intact) (clean : δ → Owner → σ → Checked σ) (id : EntityId) (s : σ) :
    ∃ n ≤ t.live, Climbs clean n t (some id) s (t.release clean id s) :=
  h.climbs (Nat.le_refl _)

end Intact

theorem Climbs.intact (h : Climbs clean n t next s result) (intact : t.Intact)
    (ends : result = .ok (r, s')) : r.Intact := by
  induction h with
  | ends => cases ends; exact intact
  | faults => cases ends
  | goesOn round rest ih => exact ih (intact.round (releaseRound_eq_ok.1 round)).1 ends

/-- A release in an intact arena whose clean-ups do not fault stops at a free slot, or at the root, if
it stops at all. -/
theorem Climbs.stops (h : Climbs clean n t next s result) (intact : t.Intact)
    (total : ∀ tag owner s, ∃ s', clean tag owner s = .ok s') (ends : result = .error fault) :
    (∃ slot, fault = .freedEntity slot) ∨ fault = .rootReleased := by
  induction h with
  | ends => cases ends
  | goesOn round rest ih => exact ih (intact.round (releaseRound_eq_ok.1 round)).1 ends
  | faults round =>
    cases ends
    rcases intact.round_fault round with ⟨rfl, -⟩ | ⟨rfl, -⟩ | ⟨e, -, faults⟩
    · exact .inl ⟨_, rfl⟩
    · exact .inr rfl
    · unfold Entity.runCleanup at faults
      split at faults
      case h_1 tag _ =>
        obtain ⟨s', cleaned⟩ := total tag e.owner _
        cases cleaned.symm.trans faults
      case h_2 => cases faults

end EntityTree

namespace Client

variable {δ σ : Type} {destroy : δ → Owner → σ → σ} {c c' : Client δ σ} {request : Request δ}
  {requests : List (Request δ)} {result : Except Error EntityId} {id : EntityId} {fault : Fault}
  {s : σ}

/-! ## Clients without manners -/

/-- A client that heeds no rule makes all its requests, one after the other. -/
def insist (destroy : δ → Owner → σ → σ) (c : Client δ σ) : List (Request δ) → Checked (Client δ σ)
  | [] => .ok c
  | request :: requests => do
    let (_, c) ← c.step destroy request
    insist destroy c requests

/-- What a client that heeds no rule can still rely on. -/
structure Unshaken (destroy : δ → Owner → σ → σ) (c : Client δ σ) : Prop where
  /-- Live entities are referenced. -/
  referenced : ∀ {id e}, c.tree.get? id = some e → 1 ≤ e.count.value
  /-- The occupied slots are counted. -/
  counted : c.tree.live = c.tree.occupied
  /-- The root is live. -/
  rooted : c.tree.isLive .root = true
  /-- Whatever reference is dropped next, the release is over after no more rounds than there are live
  entities. -/
  halts : ∀ id, ∃ n ≤ c.tree.live, ∀ m result,
    EntityTree.Climbs (fun tag owner s => .ok (destroy tag owner s)) m c.tree (some id) c.state
      result ↔
    m = n ∧ result = c.tree.release (fun tag owner s => .ok (destroy tag owner s)) id c.state
  /-- A request stops the client only at a free slot, where the root would go, or where a reference is
  one too many to be counted. -/
  faults : ∀ {request fault}, c.step destroy request = .error fault →
    (∃ slot, fault = .freedEntity slot) ∨ fault = .rootReleased ∨
      (fault = .addOverflow ∧ ∃ id e, request.subject? = some id ∧ c.tree.get? id = some e ∧
        Word.limit ≤ e.count.value + 1)

theorem intact_step (h : c.tree.Intact) (step : c.step destroy request = .ok (result, c')) :
    c'.tree.Intact := by
  cases request with
  | create | retain =>
    cases grows_of_step (by nofun) step with
    | refused => exact h
    | created found free => exact h.addChild found free
    | retained found => exact h.setCount found (Nat.succ_pos _)
  | release id =>
    obtain ⟨⟨tree, state⟩, released, eq⟩ := Checked.bind_eq_ok.1 step
    cases eq
    obtain ⟨n, -, climbs⟩ := h.release_climbs (fun tag owner s => .ok (destroy tag owner s)) id c.state
    exact climbs.intact h released

/-- Any number of requests leave the arena intact. -/
theorem intact_insist (h : c.tree.Intact) (run : c.insist destroy requests = .ok c') :
    c'.tree.Intact := by
  induction requests generalizing c with
  | nil => cases run; exact h
  | cons request requests ih =>
    obtain ⟨⟨result, c₁⟩, step, run⟩ := Checked.bind_eq_ok.1 run
    exact ih (intact_step h step) run

/-- Taking a reference stops the client at a free slot, or if it is one too many. -/
theorem stops_of_growth (kind : ∀ id, request ≠ .release id)
    (stops : c.step destroy request = .error fault) :
    (∃ slot, fault = .freedEntity slot) ∨
      (fault = .addOverflow ∧ ∃ id e, request.subject? = some id ∧ c.tree.get? id = some e ∧
        Word.limit ≤ e.count.value + 1) := by
  have answer : (∃ out, c.step destroy request = .ok out) ∨ _ := step_ends kind
  rcases answer with ⟨out, ends⟩ | ⟨id, -, -, freed⟩ | ⟨id, e, is, found, full, overflows⟩
  · cases stops.symm.trans ends
  · cases stops.symm.trans freed
    exact .inl ⟨_, rfl⟩
  · cases stops.symm.trans overflows
    exact .inr ⟨rfl, id, e, is, found, full⟩

/-- A release stops the client at a free slot, or where the root would go. -/
theorem stops_of_release (h : c.tree.Intact)
    (stops : c.step destroy (.release id) = .error fault) :
    (∃ slot, fault = .freedEntity slot) ∨ fault = .rootReleased := by
  obtain ⟨n, -, climbs⟩ := h.release_climbs (fun tag owner s => .ok (destroy tag owner s)) id c.state
  refine climbs.stops h (fun tag owner s => ⟨_, rfl⟩) ?_
  rw [step] at stops
  cases released : c.tree.release (fun tag owner s => .ok (destroy tag owner s)) id c.state with
  | ok out => rw [released] at stops; cases stops
  | error fault' => rw [released] at stops; cases stops; rfl

theorem unshaken (h : c.tree.Intact) : c.Unshaken destroy where
  referenced := h.positive
  counted := h.census
  rooted := h.root
  halts id := by
    obtain ⟨n, le, climbs⟩ := h.release_climbs (fun tag owner s => .ok (destroy tag owner s)) id c.state
    refine ⟨n, le, fun m result => ⟨fun other => climbs.unique other, ?_⟩⟩
    rintro ⟨rfl, rfl⟩
    exact climbs
  faults {request fault} stops := by
    cases request with
    | create | retain =>
      exact (stops_of_growth (by nofun) stops).imp_right .inr
    | release id => exact (stops_of_release h stops).imp_right .inl

/-- Whatever a client that heeds no rule has asked for, it can rely on `Unshaken`. -/
theorem unshaken_of_insist (run : (new s).insist destroy requests = .ok c) : c.Unshaken destroy :=
  unshaken (intact_insist EntityTree.Intact.new run)

/-- A client drops the first of two entities once too often, and the child that it then creates under
the second comes into the slot of the first: each stands under the other.  The release of the second
goes round the circle, and stops where it began. -/
theorem unshaken_of_insist_circle : ∃ c : Client Unit (List Owner),
    (new []).insist (fun _ o log => log ++ [o])
      [.create (some .root) (.task 1) (some ()), .create (some 1) (.task 2) (some ()),
        .release 1, .release 1, .create (some 2) .event (some ()), .release 2] = .ok c ∧
    (c.tree.parent? 1 = some 2 ∧ c.tree.parent? 2 = some 1 ∧ c.tree.live = 3 ∧
      c.step (fun _ o log => log ++ [o]) (.release 2) = .error (.freedEntity 2)) ∧
    c.Unshaken (fun _ o log => log ++ [o]) := by
  have seen : ((new []).insist (fun _ o log => log ++ [o])
      [.create (some .root) (.task 1) (some ()), .create (some 1) (.task 2) (some ()),
        .release 1, .release 1, .create (some 2) .event (some ()), .release 2]).toOption.any
      (fun c : Client Unit (List Owner) =>
        decide (c.tree.parent? 1 = some 2 ∧ c.tree.parent? 2 = some 1 ∧ c.tree.live = 3) &&
        match c.step (fun _ o log => log ++ [o]) (.release 2) with
        | .ok _ => false
        | .error fault => fault = .freedEntity 2) = true := by
    decide +kernel
  obtain ⟨c, run, seen⟩ := Checked.exists_of_any seen
  obtain ⟨circle, stops⟩ := Bool.and_eq_true_iff.1 seen
  obtain ⟨up, down, live⟩ := of_decide_eq_true circle
  refine ⟨c, run, ⟨up, down, live, ?_⟩, unshaken_of_insist run⟩
  split at stops
  case h_1 => cases stops
  case h_2 stopped => rw [stopped, of_decide_eq_true stops]

end Client

end Rtos

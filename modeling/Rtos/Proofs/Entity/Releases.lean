import Rtos.Proofs.Entity.References

/-!
# Creations and releases

When a reference can be taken and when a creation comes to an end, and what each step of a release
does: it ends at an entity that keeps a reference, and removes one that loses its last.  A release is
the inverse of a creation (`EntityTree.release_addChild`).
-/

namespace Rtos.EntityTree

variable {δ σ : Type} {t r : EntityTree δ} {id p : EntityId} {e : Entity δ} {owner : Owner}
  {tag : δ} {clean : δ → Owner → σ → Checked σ} {s s' : σ} {fuel : Nat}

/-! ## References that are taken -/

/-- Another reference on a live entity is taken, if it can be counted. -/
theorem retain_of_fits (found : t.get? id = some e) (fits : e.count.value + 1 < Word.limit) :
    t.retain id = .ok (t.setCount id e (e.count.value + 1)) := by
  have counted : e.count.increment = .ok ⟨e.count.value + 1⟩ :=
    Counter.increment_eq_ok.2 ⟨fits, rfl⟩
  simp only [retain, entity_eq_ok.2 found, counted, bind, Except.bind]
  rfl

theorem retain_of_full (found : t.get? id = some e) (full : Word.limit ≤ e.count.value + 1) :
    t.retain id = .error .addOverflow := by
  have overflows : e.count.increment = .error .addOverflow := by
    unfold Counter.increment Word.add
    rw [if_neg (Nat.not_lt.2 full)]
    rfl
  simp only [retain, entity_eq_ok.2 found, overflows, bind, Except.bind]

theorem retain_of_free (free : t.get? id = none) : t.retain id = .error (.freedEntity id) := by
  simp only [retain, entity, free, bind, Except.bind]

/-! ## Creations -/

/-- Creating an entity comes to an end, unless its parent has as many references as can be
counted. -/
theorem create_ends (t : EntityTree δ) (above : Option EntityId) (owner : Owner)
    (cleanup : Option δ) :
    (∃ out, t.create above owner cleanup = .ok out) ∨
      ∃ p e, above = some p ∧ t.get? p = some e ∧ Word.limit ≤ e.count.value + 1 ∧
        t.create above owner cleanup = .error .addOverflow := by
  unfold create
  cases above with
  | none => exact .inl ⟨_, rfl⟩
  | some p =>
  cases cleanup with
  | none => exact .inl ⟨_, rfl⟩
  | some tag =>
  dsimp only
  split
  case isTrue => exact .inl ⟨_, rfl⟩
  case isFalse live =>
  have live : t.isLive p = true := by simpa using live
  obtain ⟨e, found⟩ := Option.isSome_iff_exists.1 live
  split
  case h_2 => exact .inl ⟨_, rfl⟩
  case h_1 =>
  rcases Nat.lt_or_ge (e.count.value + 1) Word.limit with fits | full
  · rw [retain_of_fits found fits]
    exact .inl ⟨_, rfl⟩
  · rw [retain_of_full found full]
    exact .inr ⟨p, e, rfl, found, full, rfl⟩

/-- A creation comes to an end if another reference can be counted on its parent. -/
theorem create_total (t : EntityTree δ) {above : Option EntityId}
    (owner : Owner) (cleanup : δ) (few : ∀ p e, above = some p → t.get? p = some e →
      e.count.value + 1 < Word.limit) : ∃ out, t.create above owner (some cleanup) = .ok out := by
  refine (t.create_ends above owner (some cleanup)).resolve_right ?_
  rintro ⟨p, e, is, found, full, -⟩
  exact Nat.not_lt.2 full (few p e is found)

theorem freeSlot?_eq_none : t.freeSlot? = none ↔ t.occupied = entityCapacity := by
  have all := List.countP_eq_length (l := t.slots.toList) (p := (·.isSome))
  rw [Vector.length_toList] at all
  rw [occupied, all, freeSlot?, Vector.findFinIdx?_eq_none_iff]
  simp [Option.isSome_iff_ne_none]

/-- Under a live parent an entity is created, unless no slot is free. -/
theorem create_of_live {result : Except Error (EntityId × EntityTree δ)} (live : t.isLive p = true)
    (h : t.create (some p) owner (some tag) = .ok result) :
    (t.freeSlot? = none ∧ result = .error .outOfMemory) ∨
      (t.freeSlot? ≠ none ∧ ∃ created, result = .ok created) := by
  unfold create at h
  simp only [live, Bool.not_true, Bool.false_eq_true, if_false] at h
  split at h
  case h_1 slot free =>
    obtain ⟨r, -, eq⟩ := Checked.bind_eq_ok.1 h
    cases eq
    exact .inr ⟨by rw [free]; exact Option.some_ne_none slot, _, rfl⟩
  case h_2 full =>
    cases h
    exact .inl ⟨Option.eq_none_iff_forall_ne_some.2 full, rfl⟩

/-- A creation finds memory short only if every slot is occupied. -/
theorem live_of_outOfMemory {cleanup : Option δ} {above : Option EntityId}
    (h : t.create above owner cleanup = .ok (.error .outOfMemory)) (id : EntityId) :
    t.isLive id = true := by
  cases above with
  | none => cases h
  | some p =>
  cases cleanup with
  | none => cases h
  | some tag =>
  cases live : t.isLive p with
  | false =>
    simp only [create, live, Bool.not_false, if_true] at h
    cases h
  | true =>
    rcases create_of_live live h with ⟨full, -⟩ | ⟨-, created, eq⟩
    · have occupied := Vector.findFinIdx?_eq_none_iff.1 full _ (Vector.getElem_mem id.isLt)
      simpa [isLive, get?, Option.isSome_iff_ne_none] using occupied
    · cases eq

/-! ## Releases -/

/-- A release ends at an entity that keeps other references. -/
theorem releaseUp_of_others (found : t.get? id = some e) (others : 1 < e.count.value) :
    releaseUp clean (fuel + 1) t id s = .ok (t.setCount id e (e.count.value - 1), s) := by
  rw [releaseUp, releaseRound_eq_ok.2 (.settles found others)]
  rfl

/-- A release removes an entity that loses its last reference, and goes on with the parent. -/
theorem releaseUp_of_last (found : t.get? id = some e) (last : e.count.value = 1)
    (below : id ≠ .root) (live : 0 < t.live) (above : e.parent = some p)
    (cleaned : e.runCleanup clean s = .ok s') :
    releaseUp clean (fuel + 1) t id s = releaseUp clean fuel (t.remove id) p s' := by
  rw [releaseUp, releaseRound_eq_ok.2 (.falls found last below live cleaned), above]
  rfl

/-- An arena is what its slots hold, and the recorded number of entities. -/
theorem ext_get? (slots : ∀ id, t.get? id = r.get? id) (live : t.live = r.live) : t = r := by
  have same : t.slots = r.slots := by
    ext1 i lt
    exact slots ⟨i, lt⟩
  cases t
  cases r
  cases same
  cases live
  rfl

/-- The release of a child that was just created undoes its creation, up to the child's clean-up. -/
theorem release_addChild (proper : t.Proper) (found : t.get? p = some e) (free : t.get? id = none)
    (cleans : clean tag owner s = .ok s') :
    (t.addChild p e id owner tag).release clean id s = .ok (t, s') := by
  have ne : p ≠ id := by
    rintro rfl
    cases found.symm.trans free
  have below : id ≠ .root := by
    rintro rfl
    obtain ⟨_, root, -⟩ := owner?_eq_some.1 proper.root
    cases free.symm.trans root
  have child : (t.addChild p e id owner tag).get? id = some ⟨some p, ⟨1⟩, owner, some tag⟩ := by
    rw [get?_addChild, if_pos rfl]
  have parent : ((t.addChild p e id owner tag).remove id).get? p =
      some { e with count := ⟨e.count.value + 1⟩ } := by
    rw [get?_remove, if_neg ne, get?_addChild, if_neg ne, if_pos rfl]
  have positive := proper.positive found
  obtain ⟨n, live⟩ := Nat.exists_eq_succ_of_ne_zero (Nat.ne_of_gt (proper.live_pos found))
  have fuel : (t.addChild p e id owner tag).live = n + 1 + 1 := congrArg (· + 1) live
  unfold release
  rw [fuel, releaseUp_of_last child rfl below (Nat.succ_pos _) rfl cleans,
    releaseUp_of_others parent (Nat.lt_add_of_pos_left positive)]
  congr 2
  refine ext_get? (fun x => ?_) rfl
  rw [get?_setCount, get?_remove, get?_addChild]
  split
  case isTrue eq => rw [eq, found]; rfl
  case isFalse other =>
    split
    case isTrue eq => rw [eq, free]
    case isFalse old => rfl

end Rtos.EntityTree

import Rtos.Proofs.Entity.Ancestry
import Rtos.Proofs.Entity.Releases

/-!
# What releases leave

A release takes entities away and changes counts; what it leaves is otherwise what it was
(`EntityTree.Prunes`).  If all references that are left are known, this settles which entities are
left: those on which one stands, and those that stand above such ones (`EntityTree.Prunes.isLive_iff`).
So it does not matter in which order references were dropped (`EntityTree.Prunes.eq`).
-/

namespace Rtos.EntityTree

variable {δ σ : Type} {t r r' : EntityTree δ} {id p x y : EntityId} {e : Entity δ}
  {held held' : List EntityId} {clean : δ → Owner → σ → Checked σ} {s s' : σ} {n fuel : Nat}

/-- What is live in `r` is live in `t`, and the same but for its count. -/
def Prunes (t r : EntityTree δ) : Prop :=
  ∀ id e, r.get? id = some e → ∃ e', t.get? id = some e' ∧ e = { e' with count := e.count }

namespace Prunes

@[refl] theorem refl (t : EntityTree δ) : t.Prunes t :=
  fun _ e found => ⟨e, found, rfl⟩

theorem trans (first : t.Prunes r) (rest : r.Prunes r') : t.Prunes r' := by
  intro id e found
  obtain ⟨e₁, found₁, eq₁⟩ := rest id e found
  obtain ⟨e₂, found₂, eq₂⟩ := first id e₁ found₁
  refine ⟨e₂, found₂, ?_⟩
  rw [eq₁, eq₂]

theorem setCount (found : t.get? id = some e) (n : Nat) : t.Prunes (t.setCount id e n) := by
  intro x e' found'
  rw [get?_setCount] at found'
  split at found'
  case isTrue eq =>
    cases found'
    exact ⟨e, eq ▸ found, rfl⟩
  case isFalse => exact ⟨e', found', rfl⟩

theorem remove (t : EntityTree δ) (id : EntityId) : t.Prunes (t.remove id) :=
  fun _ e found => ⟨e, (get?_of_remove found).2, rfl⟩

theorem releaseUp (h : releaseUp clean fuel t id s = .ok (r, s')) : t.Prunes r := by
  induction fuel generalizing t id s with
  | zero => cases h
  | succ fuel ih =>
    obtain ⟨⟨t₁, s₁, next⟩, round, h⟩ := Checked.bind_eq_ok.1 h
    have first : t.Prunes t₁ := by
      cases releaseRound_eq_ok.1 round with
      | settles found => exact setCount found _
      | falls => exact remove t id
    cases next with
    | none => cases h; exact first
    | some parent => exact first.trans (ih h)

/-- Dropping a reference adds nothing to an arena. -/
theorem release (h : t.release clean id s = .ok (r, s')) : t.Prunes r :=
  releaseUp h

theorem owner? {o : Owner} (h : t.Prunes r) (owned : r.owner? id = some o) :
    t.owner? id = some o := by
  obtain ⟨e, found, owner⟩ := owner?_eq_some.1 owned
  obtain ⟨e', found', eq⟩ := h id e found
  refine owner?_eq_some.2 ⟨e', found', ?_⟩
  rw [← owner, eq]

theorem parent? (h : t.Prunes r) (live : r.isLive id = true) : r.parent? id = t.parent? id := by
  obtain ⟨e, found⟩ := Option.isSome_iff_exists.1 live
  obtain ⟨e', found', eq⟩ := h id e found
  rw [EntityTree.parent?, EntityTree.parent?, found, found', Option.bind_some, Option.bind_some, eq]

theorem live_of_parent (parent : r.parent? id = some p) : r.isLive id = true := by
  obtain ⟨e, found, -⟩ := parent?_eq_some.1 parent
  exact Option.isSome_iff_exists.2 ⟨e, found⟩

/-- Nothing comes to stand under another entity than before. -/
theorem within (h : t.Prunes r) (within : r.Within x y) : t.Within x y := by
  induction within with
  | refl => exact .refl
  | tail _ parent ih =>
    rw [h.parent? (live_of_parent parent)] at parent
    exact .tail ih parent

theorem ranked (h : t.Prunes r) (ranked : t.Ranked) : r.Ranked := by
  obtain ⟨rank, below⟩ := ranked
  refine ⟨rank, fun parent => below ?_⟩
  rw [← h.parent? (live_of_parent parent)]
  exact parent

end Prunes

/-! ## What is left -/

/-- The references in an arena are those of children on their parents, and these. -/
structure Tallied (t : EntityTree δ) (held : List EntityId) : Prop where
  /-- There are no others. -/
  counted : ∀ id, t.refs id = held.count id + t.parents.count id
  /-- Live entities are referenced. -/
  positive : ∀ {id e}, t.get? id = some e → 0 < e.count.value
  /-- Nothing stands under itself. -/
  ranked : t.Ranked
  /-- The occupied slots are counted. -/
  census : t.live = t.occupied

theorem Tallied.live (h : t.Tallied held) (called : 0 < held.count id + t.parents.count id) :
    t.isLive id = true := by
  by_contra free
  have counted := h.counted id
  rw [refs_of_free (Option.not_isSome_iff_eq_none.1 free)] at counted
  omega

/-- What is left is what a reference is left on, and what that stands under. -/
theorem Prunes.isLive_iff (h : t.Prunes r) (tallied : r.Tallied held) :
    r.isLive x = true ↔ ∃ y ∈ held, t.Within y x := by
  constructor
  · intro live
    -- at the bottom of the branch nothing but a reference in `held` is left
    obtain ⟨leaf, within, childless⟩ := tallied.ranked.exists_leaf x
    refine ⟨leaf, ?_, h.within within⟩
    have live : r.isLive leaf = true := by
      rcases Relation.ReflTransGen.cases_head within with rfl | ⟨p, parent, -⟩
      · exact live
      · exact live_of_parent parent
    obtain ⟨e, found⟩ := Option.isSome_iff_exists.1 live
    have counted := tallied.counted leaf
    have positive := tallied.positive found
    rw [refs_of_get? found, List.count_eq_zero.2 childless] at counted
    exact List.count_pos_iff.1 (by omega)
  · -- a reference keeps its entity, and a child its parent
    rintro ⟨y, mem, within⟩
    have live : r.isLive y = true :=
      tallied.live (Nat.add_pos_left (List.count_pos_iff.2 mem) _)
    clear mem
    induction within using Relation.ReflTransGen.head_induction_on with
    | refl => exact live
    | head parent _ ih =>
      refine ih (tallied.live (Nat.add_pos_right _ (List.count_pos_iff.2 ?_)))
      exact mem_parents.2 ⟨_, (h.parent? live).trans parent⟩

theorem parents_congr (h : ∀ id, r.parent? id = r'.parent? id) : r.parents = r'.parents := by
  have same : r.slots.toList.map upward = r'.slots.toList.map upward := by
    refine List.ext_getElem (by simp) fun i lt lt' => ?_
    have lt : i < entityCapacity := by simpa using lt
    have here := congrArg Option.toList (h ⟨i, lt⟩)
    simpa [upward, EntityTree.parent?, get?] using here
  rw [parents, parents, List.flatMap, List.flatMap, same]

/-- What is left is settled by what was there, and by the references that are left. -/
theorem Prunes.eq (h : t.Prunes r) (h' : t.Prunes r') (tallied : r.Tallied held)
    (tallied' : r'.Tallied held') (same : held.Perm held') : r = r' := by
  have live (x : EntityId) : r.isLive x = r'.isLive x := by
    rw [Bool.eq_iff_iff, h.isLive_iff tallied, h'.isLive_iff tallied']
    simp only [same.mem_iff]
  have gone {t : EntityTree δ} {x : EntityId} (dead : t.isLive x = false) : t.get? x = none :=
    Option.not_isSome_iff_eq_none.1 (Bool.eq_false_iff.1 dead)
  have parent (x : EntityId) : r.parent? x = r'.parent? x := by
    cases alive : r.isLive x with
    | true => rw [h.parent? alive, h'.parent? ((live x).symm.trans alive)]
    | false =>
      rw [EntityTree.parent?, EntityTree.parent?, gone alive, gone ((live x).symm.trans alive)]
  have slots (x : EntityId) : r.get? x = r'.get? x := by
    cases alive : r.isLive x with
    | true =>
      -- both are what was there but for their counts, and these are settled by the references
      obtain ⟨e, found⟩ := Option.isSome_iff_exists.1 alive
      obtain ⟨e', found'⟩ := Option.isSome_iff_exists.1 ((live x).symm.trans alive)
      have refs : r.refs x = r'.refs x := by
        rw [tallied.counted, tallied'.counted, same.count_eq, parents_congr parent]
      rw [refs_of_get? found, refs_of_get? found'] at refs
      obtain ⟨u, before, eq⟩ := h x e found
      obtain ⟨u', before', eq'⟩ := h' x e' found'
      cases before.symm.trans before'
      have count : e.count = e'.count := congrArg Counter.mk refs
      rw [found, found', eq, eq', count]
    | false => rw [gone alive, gone ((live x).symm.trans alive)]
  have arena : r.slots = r'.slots := by
    ext1 i lt
    exact slots ⟨i, lt⟩
  refine ext_get? slots ?_
  rw [tallied.census, tallied'.census, occupied, occupied, arena]

end Rtos.EntityTree

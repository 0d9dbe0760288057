import Rtos.Proofs.Entity.References
import Mathlib.Logic.Function.Basic
import Mathlib.Logic.Relation
import Mathlib.Data.Set.Finite.Lemmas

/-!
# Ancestry in the arena

Who stands under whom, by way of parents.  Creation puts an entity under one that was there, so
nothing ever stands under itself (`EntityTree.Ranked`), and where all but the root have live parents,
everything that is live stands under the root (`EntityTree.Ranked.within_root`).
-/

namespace Rtos.EntityTree

variable {δ : Type} {t r : EntityTree δ} {id p x y : EntityId} {e : Entity δ} {owner : Owner}
  {tag : δ} {n : Nat}

/-! ## What stands below what -/

/-- An entity stands under another, or is the other. -/
def Within (t : EntityTree δ) : EntityId → EntityId → Prop :=
  Relation.ReflTransGen fun id p => t.parent? id = some p

/-- An entity stands under another, be it by way of others. -/
def Below (t : EntityTree δ) : EntityId → EntityId → Prop :=
  Relation.TransGen fun id p => t.parent? id = some p

/-- The parent of what stands below an entity stands within it. -/
theorem Below.parent (h : t.Below x y) : ∃ p, t.parent? x = some p ∧ t.Within p y :=
  Relation.TransGen.head'_iff.1 h

theorem Within.below (h : t.Within x y) (ne : x ≠ y) : t.Below x y :=
  (Relation.reflTransGen_iff_eq_or_transGen.1 h).resolve_left (Ne.symm ne)

theorem Below.live (h : t.Below x y) : ∃ o, t.owner? x = some o := by
  obtain ⟨p, parent, -⟩ := h.parent
  obtain ⟨e, live, -⟩ := parent?_eq_some.1 parent
  exact ⟨e.owner, owner?_eq_some.2 ⟨e, live, rfl⟩⟩

/-- No entity stands below one that nothing stands under. -/
theorem Below.of_childless (h : t.Below y x) (childless : ∀ z, t.parent? z ≠ some id) :
    y = id ∨ (t.remove id).Below y x := by
  induction h using Relation.TransGen.head_induction_on with
  | @single y parent =>
    by_cases same : y = id
    · exact .inl same
    · refine .inr (.single ?_)
      rw [parent?_remove, if_neg same]
      exact parent
  | @head y z parent _ ih =>
    by_cases same : y = id
    · exact .inl same
    · rcases ih with rfl | below
      · exact absurd parent (childless y)
      · refine .inr (.head ?_ below)
        rw [parent?_remove, if_neg same]
        exact parent

/-! ## Ranks -/

/-- Nothing stands under itself, be it by way of others. -/
def Ranked (t : EntityTree δ) : Prop :=
  ∃ rank : EntityId → Nat, ∀ {id p}, t.parent? id = some p → rank p < rank id

namespace Ranked

theorem of_eq (h : t.Ranked) (parent : r.parent? = t.parent?) : r.Ranked := by
  obtain ⟨rank, below⟩ := h
  exact ⟨rank, fun above => below (parent ▸ above)⟩

theorem setCount (h : t.Ranked) (found : t.get? id = some e) (n : Nat) :
    (t.setCount id e n).Ranked :=
  h.of_eq (funext (parent?_setCount found n))

/-- A new child is below its parent, and nothing is below the child. -/
theorem addChild (h : t.Ranked) (found : t.get? p = some e) (free : t.get? id = none)
    (childless : ∀ x, t.parent? x ≠ some id) : (t.addChild p e id owner tag).Ranked := by
  obtain ⟨rank, below⟩ := h
  refine ⟨Function.update rank id (rank p + 1), fun {x q} parent => ?_⟩
  rw [parent?_addChild found] at parent
  split at parent
  case isTrue new =>
    cases parent
    have old : p ≠ id := by
      rintro rfl
      cases free.symm.trans found
    rw [new, Function.update_self, Function.update_of_ne old]
    exact Nat.lt_succ_self _
  case isFalse other =>
    have old : q ≠ id := by
      rintro rfl
      exact childless x parent
    rw [Function.update_of_ne other, Function.update_of_ne old]
    exact below parent

theorem remove (h : t.Ranked) (id : EntityId) : (t.remove id).Ranked := by
  obtain ⟨rank, below⟩ := h
  refine ⟨rank, fun {x q} parent => ?_⟩
  rw [parent?_remove] at parent
  split at parent
  case isTrue => cases parent
  case isFalse => exact below parent

/-- If all that is live has a live parent, but for the root, then the way up leads to the root. -/
theorem within_root (h : t.Ranked)
    (above : ∀ {x}, t.isLive x = true → x ≠ .root →
      ∃ p, t.parent? x = some p ∧ t.isLive p = true)
    (live : t.isLive x = true) : t.Within x .root := by
  obtain ⟨rank, below⟩ := h
  induction height : rank x using Nat.strongRecOn generalizing x with
  | ind height' ih =>
    by_cases root : x = .root
    · rw [root]
      exact .refl
    · obtain ⟨p, parent, live⟩ := above live root
      exact .head parent (ih (rank p) (height ▸ below parent) live rfl)

/-- At the bottom of every branch is an entity under which nothing stands. -/
theorem exists_leaf (h : t.Ranked) (id : EntityId) :
    ∃ leaf, t.Within leaf id ∧ leaf ∉ t.parents := by
  obtain ⟨rank, below⟩ := h
  -- the entity of the highest rank has no child, whose rank would be higher
  obtain ⟨leaf, within, most⟩ :=
    Set.exists_max_image {x | t.Within x id} rank (Set.toFinite _) ⟨id, .refl⟩
  refine ⟨leaf, within, fun mem => ?_⟩
  obtain ⟨child, parent⟩ := mem_parents.1 mem
  have higher := below parent
  have bound := most child (.head parent within)
  omega

end Ranked

end Rtos.EntityTree

import Rtos.Proofs.Entity.Ancestry
import Rtos.Proofs.Entity.Releases

/-!
# Entities that topple

In an arena whose references are all accounted for (`EntityTree.Upheld`), dropping one topples a row
of entities: the one that it was on, if it was the last, then its parent, if that was the only child
and nobody else refers to it, and so on up to the first that keeps a reference
(`EntityTree.Topples`).  The release of the reference removes exactly those, bottom first, and runs
the clean-up of each once (`EntityTree.Upheld.release`).

The account holds in the middle of the walk too: the reference that a removed entity had on its
parent is the one that is dropped next (`EntityTree.Upheld.fall`).
-/

namespace Rtos

/-- An entity that has toppled: its slot, what runs for it, and what it stood for. -/
structure Fallen (δ : Type) where
  /-- The slot. -/
  id : EntityId
  /-- The tag of its clean-up. -/
  tag : δ
  /-- What it stood for. -/
  owner : Owner

namespace EntityTree

variable {δ σ : Type} {t r : EntityTree δ} {id p x y kept : EntityId} {e : Entity δ} {owner : Owner}
  {tag : δ} {held rest : List EntityId} {gone : List (Fallen δ)}

/-! ## References that are accounted for -/

/-- Every reference is one of those in `held`, or that of a child on its parent. -/
structure Upheld (t : EntityTree δ) (held : List EntityId) : Prop where
  /-- The references are these. -/
  counted : ∀ id, t.refs id = held.count id + t.parents.count id
  /-- Live entities are referenced. -/
  positive : ∀ {id e}, t.get? id = some e → 0 < e.count.value
  /-- The root is live, and stands under nothing. -/
  root : ∃ e, t.get? .root = some e ∧ e.parent = none
  /-- All others stand under an entity, and have a clean-up. -/
  inner : ∀ {id e}, t.get? id = some e → id ≠ .root →
    (∃ p, e.parent = some p) ∧ ∃ tag, e.cleanup = some tag
  /-- Nothing stands under itself. -/
  ranked : t.Ranked
  /-- The occupied slots are counted. -/
  census : t.live = t.occupied

theorem upheld_new : (new : EntityTree δ).Upheld [.root] where
  counted id := by rw [refs_new, parents_new, List.count_nil, Nat.add_zero]
  positive := proper_new.positive
  root := ⟨_, rfl, rfl⟩
  inner {id e} found below := by
    rw [get?_new, if_neg below] at found
    cases found
  ranked := by
    refine ⟨fun _ => 0, fun {id p} parent => ?_⟩
    rw [parent?, get?_new] at parent
    split at parent <;> cases parent
  census := proper_new.census

namespace Upheld

theorem perm (h : t.Upheld held) (perm : held.Perm rest) : t.Upheld rest :=
  { h with counted := fun id => by rw [← perm.count_eq]; exact h.counted id }

/-- What is referred to is live. -/
theorem live (h : t.Upheld held) (called : 0 < held.count id + t.parents.count id) :
    ∃ e, t.get? id = some e := by
  apply Option.ne_none_iff_exists'.1
  intro free
  have counted := h.counted id
  rw [refs_of_free free] at counted
  omega

theorem live_of_mem (h : t.Upheld held) (mem : id ∈ held) : ∃ e, t.get? id = some e :=
  h.live (Nat.add_pos_left (List.count_pos_iff.2 mem) _)

theorem live_of_parent (h : t.Upheld held) (parent : t.parent? x = some p) :
    ∃ e, t.get? p = some e :=
  h.live (Nat.add_pos_right _ (List.count_pos_iff.2 (mem_parents.2 ⟨x, parent⟩)))

/-- A count tells the references in `held` and the children. -/
theorem count (h : t.Upheld held) (found : t.get? id = some e) :
    e.count.value = held.count id + t.childCount id := by
  rw [← refs_of_get? found, childCount_eq]
  exact h.counted id

theorem not_mem (h : t.Upheld held) (free : t.get? id = none) : id ∉ held := by
  intro mem
  obtain ⟨e, found⟩ := h.live_of_mem mem
  cases free.symm.trans found

theorem childless (h : t.Upheld held) (free : t.get? id = none) (x : EntityId) :
    t.parent? x ≠ some id := by
  intro parent
  obtain ⟨e, found⟩ := h.live_of_parent parent
  cases free.symm.trans found

/-- If the reference in hand is the last one, nobody else refers to the entity. -/
theorem sole (h : t.Upheld (id :: held)) (found : t.get? id = some e) (last : e.count.value = 1) :
    id ∉ held ∧ ∀ x, t.parent? x ≠ some id := by
  have counted := h.counted id
  rw [refs_of_get? found, last, List.count_cons_self] at counted
  constructor
  · intro mem
    have called := List.count_pos_iff.2 mem
    omega
  · intro x parent
    have called := List.count_pos_iff.2 (mem_parents.2 ⟨x, parent⟩)
    omega

theorem intact (h : t.Upheld held) : t.Intact := by
  obtain ⟨e, root, -⟩ := h.root
  exact ⟨h.positive, Option.isSome_iff_exists.2 ⟨e, root⟩, h.census⟩

/-- All that is live stands under the root. -/
theorem within_root (h : t.Upheld held) (live : t.isLive id = true) : t.Within id .root := by
  refine h.ranked.within_root (fun {x} live below => ?_) live
  obtain ⟨e, found⟩ := Option.isSome_iff_exists.1 live
  obtain ⟨⟨p, above⟩, -⟩ := h.inner found below
  have parent : t.parent? x = some p := parent?_eq_some.2 ⟨e, found, above⟩
  obtain ⟨e', found'⟩ := h.live_of_parent parent
  exact ⟨p, parent, Option.isSome_iff_exists.2 ⟨e', found'⟩⟩

/-! ## Changes -/

theorem setCount {n : Nat} (h : t.Upheld held) (found : t.get? id = some e) (pos : 0 < n)
    (counted : n = rest.count id + t.parents.count id)
    (others : ∀ x, x ≠ id → rest.count x = held.count x) : (t.setCount id e n).Upheld rest where
  counted x := by
    rw [refs_setCount, count_parents_setCount found]
    split
    case isTrue eq => rw [eq, counted]
    case isFalse ne => rw [others x ne, h.counted x]
  positive := (h.intact.setCount found pos).positive
  root := by
    obtain ⟨e', root, top⟩ := h.root
    rw [get?_setCount]
    split
    case isTrue eq =>
      rw [eq, found] at root
      cases root
      exact ⟨_, rfl, top⟩
    case isFalse => exact ⟨e', root, top⟩
  inner {x e'} found' below := by
    rw [get?_setCount] at found'
    split at found'
    case isTrue eq =>
      have known := h.inner found (eq ▸ below)
      cases found'
      exact known
    case isFalse => exact h.inner found' below
  ranked := h.ranked.setCount found n
  census := (h.intact.setCount found pos).census

theorem retain (h : t.Upheld held) (found : t.get? id = some e) :
    (t.setCount id e (e.count.value + 1)).Upheld (id :: held) := by
  refine h.setCount found (Nat.succ_pos _) ?_ fun x ne => List.count_cons_of_ne (Ne.symm ne)
  have counted := h.counted id
  rw [refs_of_get? found] at counted
  rw [List.count_cons_self]
  omega

theorem settle (h : t.Upheld (id :: held)) (found : t.get? id = some e)
    (others : 1 < e.count.value) : (t.setCount id e (e.count.value - 1)).Upheld held := by
  refine h.setCount found (Nat.sub_pos_of_lt others) ?_
    fun x ne => (List.count_cons_of_ne (Ne.symm ne)).symm
  have counted := h.counted id
  rw [refs_of_get? found, List.count_cons_self] at counted
  omega

theorem addChild (h : t.Upheld held) (found : t.get? p = some e) (free : t.get? id = none) :
    (t.addChild p e id owner tag).Upheld (id :: held) where
  counted x := by
    rw [refs_addChild found free, count_parents_addChild found free, h.counted x]
    simp only [List.count_cons, List.count_nil]
    omega
  positive := (h.intact.addChild found free).positive
  root := by
    obtain ⟨e', root, top⟩ := h.root
    rw [get?_addChild, if_neg ?_]
    · split
      case isTrue eq =>
        rw [eq, found] at root
        cases root
        exact ⟨_, rfl, top⟩
      case isFalse => exact ⟨e', root, top⟩
    · rintro rfl
      cases free.symm.trans root
  inner {x e'} found' below := by
    rw [get?_addChild] at found'
    split at found'
    case isTrue => cases found'; exact ⟨⟨p, rfl⟩, tag, rfl⟩
    case isFalse =>
      split at found'
      case isTrue eq =>
        have known := h.inner found (eq ▸ below)
        cases found'
        exact known
      case isFalse => exact h.inner found' below
  ranked := h.ranked.addChild found free (h.childless free)
  census := (h.intact.addChild found free).census

/-- The last reference is dropped: the entity goes, and the reference that it had on its parent is
the next to be dropped. -/
theorem fall (h : t.Upheld (id :: held)) (found : t.get? id = some e) (last : e.count.value = 1)
    (below : id ≠ .root) (above : e.parent = some p) : (t.remove id).Upheld (p :: held) where
  counted x := by
    have counted := h.counted x
    have exchange := count_parents_remove found x
    rw [above, Option.toList_some] at exchange
    rw [refs_remove]
    split
    case isTrue eq =>
      subst eq
      rw [refs_of_get? found, last, List.count_cons_self] at counted
      simp only [List.count_cons, List.count_nil] at exchange ⊢
      omega
    case isFalse ne =>
      rw [List.count_cons_of_ne (Ne.symm ne)] at counted
      simp only [List.count_cons, List.count_nil] at exchange ⊢
      omega
  positive := (h.intact.remove found below).positive
  root := by
    obtain ⟨e', root, top⟩ := h.root
    rw [get?_remove, if_neg (Ne.symm below)]
    exact ⟨e', root, top⟩
  inner live below := h.inner (get?_of_remove live).2 below
  ranked := h.ranked.remove id
  census := (h.intact.remove found below).census

end Upheld

/-! ## The row of those that go -/

/-- Dropping a reference on `id` topples the entities in `gone`, from the bottom up, and ends at
`kept`: each of them loses its last reference, the next one by the end of the one before. -/
inductive Topples (t : EntityTree δ) : EntityId → List (Fallen δ) → EntityId → Prop
  /-- The entity keeps a reference. -/
  | stands {id : EntityId} {e : Entity δ} (found : t.get? id = some e)
      (others : 1 < e.count.value) : Topples t id [] id
  /-- The entity loses its last one. -/
  | falls {id p kept : EntityId} {e : Entity δ} {tag : δ} {gone : List (Fallen δ)}
      (found : t.get? id = some e) (last : e.count.value = 1) (above : e.parent = some p)
      (tagged : e.cleanup = some tag) (rest : Topples t p gone kept) :
      Topples t id (⟨id, tag, e.owner⟩ :: gone) kept

namespace Topples

theorem mono (h : r.Topples id gone kept) (le : ∀ {x e}, r.get? x = some e → t.get? x = some e) :
    t.Topples id gone kept := by
  induction h with
  | stands found others => exact .stands (le found) others
  | falls found last above tagged rest ih => exact .falls (le found) last above tagged ih

theorem live (h : t.Topples id gone kept) : ∀ f ∈ gone, ∃ e, t.get? f.id = some e := by
  induction h with
  | stands => nofun
  | falls found last above tagged rest ih =>
    intro f mem
    rcases List.mem_cons.1 mem with rfl | mem
    · exact ⟨_, found⟩
    · exact ih f mem

theorem not_mem (h : (t.remove id).Topples p gone kept) : id ∉ gone.map (·.id) := by
  intro mem
  obtain ⟨f, mem, same⟩ := List.mem_map.1 mem
  obtain ⟨e, found⟩ := h.live f mem
  exact (get?_of_remove found).1 same

end Topples

/-- The arena without those that have gone, with a reference less on the one that stays. -/
structure Toppled (t : EntityTree δ) (gone : List (Fallen δ)) (kept : EntityId)
    (r : EntityTree δ) : Prop where
  /-- Each of them goes once. -/
  distinct : (gone.map (·.id)).Nodup
  /-- What has toppled is no longer there. -/
  removed : ∀ f ∈ gone, r.get? f.id = none
  /-- The one that stays has a reference less. -/
  settled : ∃ e, t.get? kept = some e ∧
    r.get? kept = some { e with count := ⟨e.count.value - 1⟩ }
  /-- Nothing else has changed. -/
  others : ∀ x, x ∉ gone.map (·.id) → x ≠ kept → r.get? x = t.get? x
  /-- The number of live entities falls by those that have gone. -/
  live : r.live + gone.length = t.live
  /-- What stood below an entity has gone before it. -/
  bottomUp : ∀ {before f after}, gone = before ++ f :: after →
    ∀ y, t.Below y f.id → y ∈ before.map (·.id)

namespace Toppled

/-- An entity that keeps a reference is the only one that changes. -/
theorem stands (found : t.get? id = some e) :
    t.Toppled [] id (t.setCount id e (e.count.value - 1)) where
  distinct := .nil
  removed := nofun
  settled := ⟨e, found, by rw [get?_setCount, if_pos rfl]⟩
  others x _ other := by rw [get?_setCount, if_neg other]
  live := rfl
  bottomUp {before f after} split := by
    cases before <;> cases split

/-- An entity under which nothing stands goes before those that go next. -/
theorem falls (h : (t.remove id).Toppled gone kept r) (rest : (t.remove id).Topples p gone kept)
    (childless : ∀ x, t.parent? x ≠ some id) (live : 0 < t.live) :
    t.Toppled (⟨id, tag, owner⟩ :: gone) kept r where
  distinct := List.nodup_cons.2 ⟨rest.not_mem, h.distinct⟩
  removed f mem := by
    rcases List.mem_cons.1 mem with rfl | mem
    · -- the slot is free from here on, and the walk does not stop at a free slot
      obtain ⟨e, found, -⟩ := h.settled
      rw [h.others id rest.not_mem (get?_of_remove found).1.symm, get?_remove, if_pos rfl]
    · exact h.removed f mem
  settled := by
    obtain ⟨e, found, left⟩ := h.settled
    exact ⟨e, (get?_of_remove found).2, left⟩
  others x unmoved other := by
    obtain ⟨ne, unmoved⟩ := not_or.1 (List.mem_cons.not.1 unmoved)
    rw [h.others x unmoved other, get?_remove, if_neg ne]
  live := (congrArg (· + 1) h.live).trans (Nat.sub_add_cancel live)
  bottomUp {before f after} split y below := by
    cases before with
    | nil =>
      cases split
      obtain ⟨z, -, parent⟩ := Relation.TransGen.tail'_iff.1 below
      exact absurd parent (childless z)
    | cons first before =>
      cases split
      rcases below.of_childless childless with rfl | below
      · exact List.mem_cons_self
      · exact List.mem_cons_of_mem _ (h.bottomUp rfl y below)

end Toppled

/-! ## Releases -/

/-- Dropping a reference, while the root keeps one, removes the entities that it topples, bottom
first, and runs the clean-up of each. -/
theorem Upheld.releaseUp {destroy : δ → Owner → σ → σ} {s : σ} {fuel : Nat}
    (h : t.Upheld (id :: held)) (own : .root ∈ held) (enough : t.live ≤ fuel) :
    ∃ gone kept r, t.Topples id gone kept ∧ t.Toppled gone kept r ∧ r.Upheld held ∧
      releaseUp (fun tag owner s => .ok (destroy tag owner s)) fuel t id s =
        .ok (r, gone.foldl (fun s f => destroy f.tag f.owner s) s) := by
  induction fuel generalizing t id s with
  | zero =>
    obtain ⟨e, found⟩ := h.live_of_mem List.mem_cons_self
    exact absurd enough (Nat.not_le.2 (h.intact.live_pos found))
  | succ fuel ih =>
    obtain ⟨e, found⟩ := h.live_of_mem List.mem_cons_self
    by_cases others : 1 < e.count.value
    · exact ⟨[], id, _, .stands found others, .stands found, h.settle found others,
        releaseUp_of_others found others⟩
    · have last : e.count.value = 1 := by
        have positive := h.positive found
        omega
      obtain ⟨unheld, childless⟩ := h.sole found last
      have below : id ≠ .root := (ne_of_mem_of_not_mem own unheld).symm
      obtain ⟨⟨p, above⟩, tag, tagged⟩ := h.inner found below
      have fewer : (t.remove id).live ≤ fuel := Nat.sub_le_of_le_add enough
      obtain ⟨gone, kept, r, topples, toppled, upheld, next⟩ :=
        ih (s := destroy tag e.owner s) (h.fall found last below above) fewer
      refine ⟨⟨id, tag, e.owner⟩ :: gone, kept, r,
        .falls found last above tagged (topples.mono fun live => (get?_of_remove live).2),
        toppled.falls topples childless (h.intact.live_pos found), upheld, ?_⟩
      have cleaned : e.runCleanup (fun tag owner s => .ok (destroy tag owner s)) s =
          .ok (destroy tag e.owner s) := by
        rw [Entity.runCleanup, tagged]
      rw [releaseUp_of_last found last below (h.intact.live_pos found) above cleaned, next]
      rfl

/-- A release has fuel enough to visit every entity that it topples. -/
theorem Upheld.release (destroy : δ → Owner → σ → σ) (s : σ) (h : t.Upheld (id :: held))
    (own : .root ∈ held) :
    ∃ gone kept r, t.Topples id gone kept ∧ t.Toppled gone kept r ∧ r.Upheld held ∧
      t.release (fun tag owner s => .ok (destroy tag owner s)) id s =
        .ok (r, gone.foldl (fun s f => destroy f.tag f.owner s) s) :=
  h.releaseUp own (Nat.le_refl _)

end EntityTree

end Rtos

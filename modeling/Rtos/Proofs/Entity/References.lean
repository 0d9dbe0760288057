import Rtos.Entity
import Rtos.Proofs.Table

/-!
# References in the arena

What the arena says about references: `EntityTree.refs` is the number recorded on a slot, and
`EntityTree.parents` lists the references that children hold on their parents. Creation and each
step of a release change both, and the lemmas here say how.
-/

namespace Rtos

namespace EntityTree

variable {δ σ : Type} {t r : EntityTree δ} {id x : EntityId}

/-! ## Slots -/

theorem get?_setSlot (t : EntityTree δ) (id x : EntityId) (e : Option (Entity δ)) :
    (t.setSlot id e).get? x = if x = id then e else t.get? x := by
  split
  case isTrue h => rw [h, get?_setSlot_self]
  case isFalse h => exact t.get?_setSlot_of_ne e (Ne.symm h)

@[simp] theorem get?_withLive (t : EntityTree δ) (n : Nat) (id : EntityId) :
    ({ t with live := n } : EntityTree δ).get? id = t.get? id := rfl

theorem entity_eq_ok {e : Entity δ} : t.entity id = .ok e ↔ t.get? id = some e := by
  unfold entity
  split
  case h_1 found => simp [found]
  case h_2 missing => simp [missing]

theorem owner?_eq_some {o : Owner} :
    t.owner? id = some o ↔ ∃ e, t.get? id = some e ∧ e.owner = o := by
  simp [owner?]

theorem isLive_iff : t.isLive id = true ↔ ∃ o, t.owner? id = some o := by
  rw [isLive, owner?]
  cases t.get? id <;> simp

theorem parent?_eq_some {p : EntityId} :
    t.parent? id = some p ↔ ∃ e, t.get? id = some e ∧ e.parent = some p := by
  simp [parent?, Option.bind_eq_some_iff]

/-! ## Recorded and held references -/

/-- The number of references recorded on a slot; a free slot has none. -/
def refs (t : EntityTree δ) (id : EntityId) : Nat :=
  (t.count? id).getD 0

/-- The references that a slot's occupant holds: one on its parent. -/
def upward (e : Option (Entity δ)) : List EntityId :=
  (e.bind (·.parent)).toList

/-- The references that all entities hold on their parents. -/
def parents (t : EntityTree δ) : List EntityId :=
  t.slots.toList.flatMap upward

/-- The number of live entities with a given parent. -/
def childCount (t : EntityTree δ) (id : EntityId) : Nat :=
  t.slots.toList.countP fun e => e.any (·.parent = some id)

/-- There are no more references on parents than entities. -/
theorem length_parents_le (t : EntityTree δ) :
    t.parents.length ≤ entityCapacity := by
  have bound (l : List (Option (Entity δ))) : (l.flatMap upward).length ≤ l.length := by
    induction l with
    | nil => exact Nat.le_refl _
    | cons e rest ih =>
      have one : (upward e).length ≤ 1 := by
        unfold upward
        cases e.bind (·.parent) <;> simp
      rw [List.flatMap_cons, List.length_append, List.length_cons]
      omega
  have slots : t.slots.toList.length = entityCapacity := Vector.length_toList
  exact slots ▸ bound t.slots.toList

theorem refs_of_get? {e : Entity δ} (h : t.get? id = some e) : t.refs id = e.count.value := by
  simp [refs, count?, h]

theorem refs_of_free (h : t.get? id = none) : t.refs id = 0 := by
  simp [refs, count?, h]

theorem refs_setSlot (t : EntityTree δ) (id x : EntityId) (e : Option (Entity δ)) :
    (t.setSlot id e).refs x = if x = id then (e.map (·.count.value)).getD 0 else t.refs x := by
  simp only [refs, count?, get?_setSlot]
  split <;> rfl

@[simp] theorem refs_withLive (t : EntityTree δ) (n : Nat) (x : EntityId) :
    ({ t with live := n } : EntityTree δ).refs x = t.refs x := rfl

/-- Storing into a slot exchanges what its occupants hold. -/
theorem count_parents_setSlot (t : EntityTree δ) (id x : EntityId) (e : Option (Entity δ)) :
    (t.setSlot id e).parents.count x + (upward (t.get? id)).count x =
      t.parents.count x + (upward e).count x := by
  have found : t.slots.toList[id.val]? = some (t.get? id) := by simp [get?]
  simp only [parents, setSlot, Vector.toList_set]
  exact Table.count_flatMap_set found e upward x

/-- The children of an entity are the references that they hold on it. -/
theorem childCount_eq (t : EntityTree δ) (id : EntityId) :
    t.childCount id = t.parents.count id := by
  unfold childCount parents
  induction t.slots.toList with
  | nil => rfl
  | cons e rest ih =>
    rw [List.flatMap_cons, List.count_append, List.countP_cons, ih, Nat.add_comm]
    congr 1
    cases e with
    | none => rfl
    | some e =>
      cases h : e.parent with
      | none => simp [upward, h]
      | some p => simp [upward, h, List.count_cons]

theorem mem_parents {p : EntityId} : p ∈ t.parents ↔ ∃ id, t.parent? id = some p := by
  simp only [parents, List.mem_flatMap, Vector.mem_toList_iff]
  constructor
  · rintro ⟨e, mem, held⟩
    obtain ⟨i, lt, rfl⟩ := Vector.mem_iff_getElem.1 mem
    have held : p ∈ (t.parent? ⟨i, lt⟩).toList := held
    exact ⟨⟨i, lt⟩, Option.mem_toList.1 held⟩
  · rintro ⟨id, h⟩
    exact ⟨t.get? id, Vector.getElem_mem id.isLt, Option.mem_toList.2 h⟩

/-! ## Changes

Every operation changes the arena in one of three ways: a slot's count is changed, a free slot is
taken by a child of a live entity, or an occupied slot is freed.
-/

/-- The arena with another count on the entity `e` in a slot. -/
def setCount (t : EntityTree δ) (id : EntityId) (e : Entity δ) (n : Nat) : EntityTree δ :=
  t.setSlot id (some { e with count := ⟨n⟩ })

/-- The arena in which a slot was taken by a child of the entity `e` in slot `p`. -/
def addChild (t : EntityTree δ) (p : EntityId) (e : Entity δ) (id : EntityId) (owner : Owner)
    (tag : δ) : EntityTree δ :=
  { (t.setCount p e (e.count.value + 1)).setSlot id (some ⟨some p, ⟨1⟩, owner, some tag⟩) with
    live := t.live + 1 }

/-- The arena in which a slot was freed. -/
def remove (t : EntityTree δ) (id : EntityId) : EntityTree δ :=
  { t.setSlot id none with live := t.live - 1 }

variable {p : EntityId} {e : Entity δ} {owner o : Owner} {tag : δ} {n : Nat}

theorem get?_setCount (t : EntityTree δ) (id x : EntityId) (e : Entity δ) (n : Nat) :
    (t.setCount id e n).get? x = if x = id then some { e with count := ⟨n⟩ } else t.get? x :=
  t.get?_setSlot id x _

theorem get?_addChild (t : EntityTree δ) (p : EntityId) (e : Entity δ) (id : EntityId)
    (owner : Owner) (tag : δ) (x : EntityId) :
    (t.addChild p e id owner tag).get? x =
      if x = id then some ⟨some p, ⟨1⟩, owner, some tag⟩
      else if x = p then some { e with count := ⟨e.count.value + 1⟩ }
      else t.get? x := by
  simp only [addChild, get?_withLive, get?_setSlot, get?_setCount]

theorem get?_remove (t : EntityTree δ) (id x : EntityId) :
    (t.remove id).get? x = if x = id then none else t.get? x :=
  t.get?_setSlot id x none

/-- What is live without an entity was live with it, and is another. -/
theorem get?_of_remove (h : (t.remove id).get? x = some e) : x ≠ id ∧ t.get? x = some e := by
  rw [get?_remove] at h
  split at h
  case isTrue => cases h
  case isFalse other => exact ⟨other, h⟩

theorem refs_setCount (t : EntityTree δ) (id x : EntityId) (e : Entity δ) (n : Nat) :
    (t.setCount id e n).refs x = if x = id then n else t.refs x :=
  t.refs_setSlot id x _

/-- A new child has one reference, and its parent one more. -/
theorem refs_addChild (found : t.get? p = some e) (free : t.get? id = none) (x : EntityId) :
    (t.addChild p e id owner tag).refs x = t.refs x + [id, p].count x := by
  have ne : id ≠ p := by
    rintro rfl
    rw [free] at found
    cases found
  simp only [addChild, refs_withLive, refs_setSlot, refs_setCount, List.count_cons,
    List.count_nil, beq_iff_eq]
  by_cases hid : x = id
  · subst hid
    simp [refs_of_free free, ne.symm]
  · by_cases hp : x = p
    · subst hp
      simp [refs_of_get? found, hid, ne]
    · simp [hid, hp, Ne.symm hid, Ne.symm hp]

theorem refs_remove (t : EntityTree δ) (id x : EntityId) :
    (t.remove id).refs x = if x = id then 0 else t.refs x :=
  t.refs_setSlot id x none

theorem count_parents_setCount (found : t.get? id = some e) (n : Nat) (x : EntityId) :
    (t.setCount id e n).parents.count x = t.parents.count x := by
  have exchange := t.count_parents_setSlot id x (some { e with count := ⟨n⟩ })
  have same : upward (some { e with count := ⟨n⟩ }) = upward (t.get? id) := by rw [found]; rfl
  rw [same] at exchange
  exact Nat.add_right_cancel exchange

theorem count_parents_addChild (found : t.get? p = some e) (free : t.get? id = none)
    (x : EntityId) :
    (t.addChild p e id owner tag).parents.count x = t.parents.count x + [p].count x := by
  have ne : id ≠ p := by
    rintro rfl
    rw [free] at found
    cases found
  have exchange := (t.setCount p e (e.count.value + 1)).count_parents_setSlot id x
    (some ⟨some p, ⟨1⟩, owner, some tag⟩)
  rw [get?_setCount, if_neg ne, free, count_parents_setCount found] at exchange
  exact exchange

theorem count_parents_remove (found : t.get? id = some e) (x : EntityId) :
    (t.remove id).parents.count x + e.parent.toList.count x = t.parents.count x := by
  have exchange := t.count_parents_setSlot id x none
  rw [found] at exchange
  exact exchange

theorem owner?_setCount (found : t.get? id = some e) (n : Nat) (x : EntityId) :
    (t.setCount id e n).owner? x = t.owner? x := by
  simp only [owner?, get?_setCount]
  split
  case isTrue eq => rw [eq, found]; rfl
  case isFalse => rfl

theorem owner?_addChild (found : t.get? p = some e) (x : EntityId) :
    (t.addChild p e id owner tag).owner? x = if x = id then some owner else t.owner? x := by
  simp only [owner?, get?_addChild]
  split
  case isTrue => rfl
  case isFalse =>
    split
    case isTrue eq => rw [eq, found]; rfl
    case isFalse => rfl

theorem owner?_addChild_of_some {o : Owner} (found : t.get? p = some e) (free : t.get? id = none)
    (owned : t.owner? x = some o) : (t.addChild p e id owner tag).owner? x = some o := by
  rw [owner?_addChild found, if_neg ?_, owned]
  rintro rfl
  obtain ⟨_, live, -⟩ := owner?_eq_some.1 owned
  cases free.symm.trans live

theorem owner?_remove (t : EntityTree δ) (id x : EntityId) :
    (t.remove id).owner? x = if x = id then none else t.owner? x := by
  simp only [owner?, get?_remove]
  split <;> rfl

theorem parent?_setCount (found : t.get? id = some e) (n : Nat) (x : EntityId) :
    (t.setCount id e n).parent? x = t.parent? x := by
  simp only [parent?, get?_setCount]
  split
  case isTrue eq => rw [eq, found]; rfl
  case isFalse => rfl

theorem parent?_addChild (found : t.get? p = some e) (x : EntityId) :
    (t.addChild p e id owner tag).parent? x = if x = id then some p else t.parent? x := by
  simp only [parent?, get?_addChild]
  split
  case isTrue => rfl
  case isFalse =>
    split
    case isTrue eq => rw [eq, found]; rfl
    case isFalse => rfl

theorem parent?_remove (t : EntityTree δ) (id x : EntityId) :
    (t.remove id).parent? x = if x = id then none else t.parent? x := by
  simp only [parent?, get?_remove]
  split <;> rfl

/-- What taking a reference finds and leaves: a live entity gains one. -/
theorem retain_eq_ok (h : t.retain id = .ok r) :
    ∃ e, t.get? id = some e ∧ r = t.setCount id e (e.count.value + 1) := by
  obtain ⟨e, found, h⟩ := Checked.bind_eq_ok.1 h
  obtain ⟨⟨n⟩, counted, eq⟩ := Checked.bind_eq_ok.1 h
  obtain ⟨-, rfl⟩ := Counter.increment_eq_ok.1 counted
  cases eq
  exact ⟨e, entity_eq_ok.1 found, rfl⟩

/-- What a creation finds and leaves: a live parent gains a reference, and a free slot is taken by
an entity with one. -/
theorem create_eq_ok {parent : Option EntityId} {cleanup : Option δ}
    (h : t.create parent owner cleanup = .ok (.ok (id, r))) :
    ∃ p e tag, parent = some p ∧ cleanup = some tag ∧ t.get? p = some e ∧ t.get? id = none ∧
      r = t.addChild p e id owner tag := by
  cases parent with
  | none => cases h
  | some p =>
  cases cleanup with
  | none => cases h
  | some tag =>
  simp only [create] at h
  split at h
  case isTrue => cases h
  case isFalse =>
  split at h
  case h_2 => cases h
  case h_1 slot free =>
  simp only [retain, Checked.bind_eq_ok, entity_eq_ok, Counter.increment_eq_ok] at h
  obtain ⟨_, ⟨e, found, count, ⟨-, counted⟩, eq⟩, eq'⟩ := h
  cases eq
  cases eq'
  refine ⟨p, e, tag, rfl, rfl, found, ?_, ?_⟩
  · simpa [get?] using Table.of_findFinIdx? free
  · obtain ⟨n⟩ := count
    subst counted
    rfl

/-! ## Rounds of a release -/

theorem runCleanup_eq_ok {clean : δ → Owner → σ → Checked σ} {s s' : σ} :
    e.runCleanup clean s = .ok s' ↔
      (∀ tag, e.cleanup = some tag → clean tag e.owner s = .ok s') ∧
        (e.cleanup = none → s' = s) := by
  unfold Entity.runCleanup
  cases e.cleanup with
  | none => simp [eq_comm]
  | some tag => simp

/-- What a round of a release does. -/
inductive RoundStep (clean : δ → Owner → σ → Checked σ) (t : EntityTree δ) (id : EntityId) (s : σ) :
    EntityTree δ → σ → Option EntityId → Prop
  /-- The entity keeps a reference. -/
  | settles {e : Entity δ} (found : t.get? id = some e) (others : 1 < e.count.value) :
      RoundStep clean t id s (t.setCount id e (e.count.value - 1)) s none
  /-- The entity loses its last one, and goes. -/
  | falls {e : Entity δ} {s' : σ} (found : t.get? id = some e) (last : e.count.value = 1)
      (below : id ≠ .root) (counted : 0 < t.live) (cleaned : e.runCleanup clean s = .ok s') :
      RoundStep clean t id s (t.remove id) s' e.parent

/-- A round succeeds exactly with what `RoundStep` says. -/
theorem releaseRound_eq_ok {clean : δ → Owner → σ → Checked σ} {s s' : σ}
    {next : Option EntityId} :
    t.releaseRound clean id s = .ok (r, s', next) ↔ t.RoundStep clean id s r s' next := by
  constructor
  · intro h
    obtain ⟨e, found, h⟩ := Checked.bind_eq_ok.1 h
    have found := entity_eq_ok.1 found
    obtain ⟨⟨n⟩, counted, h⟩ := Checked.bind_eq_ok.1 h
    obtain ⟨positive, rfl⟩ := Counter.decrement_eq_ok.1 counted
    dsimp only at h
    split at h
    case isTrue others =>
      cases h
      exact .settles found (by omega)
    case isFalse last =>
    split at h
    case isTrue => cases h
    case isFalse below =>
    obtain ⟨live, fewer, h⟩ := Checked.bind_eq_ok.1 h
    obtain ⟨counted, rfl⟩ := Word.sub_eq_ok.1 fewer
    obtain ⟨s₁, cleaned, eq⟩ := Checked.bind_eq_ok.1 h
    cases eq
    exact .falls found (by omega) below counted cleaned
  · intro step
    cases step with
    | @settles e found others =>
      refine Checked.bind_eq_ok.2 ⟨e, entity_eq_ok.2 found, Checked.bind_eq_ok.2
        ⟨⟨e.count.value - 1⟩, Counter.decrement_eq_ok.2 ⟨by omega, rfl⟩, ?_⟩⟩
      rw [if_pos (by dsimp only; omega)]
      rfl
    | @falls e _ found last below counted cleaned =>
      refine Checked.bind_eq_ok.2 ⟨e, entity_eq_ok.2 found, Checked.bind_eq_ok.2
        ⟨⟨0⟩, Counter.decrement_eq_ok.2 ⟨by omega, by dsimp only; omega⟩, ?_⟩⟩
      rw [if_neg (by simp), if_neg below]
      exact Checked.bind_eq_ok.2 ⟨t.live - 1, Word.sub_eq_ok.2 ⟨counted, rfl⟩,
        Checked.bind_eq_ok.2 ⟨s', cleaned, rfl⟩⟩

/-- What every clean-up keeps, the release of a reference keeps. -/
theorem release_keeps {clean : δ → Owner → σ → Checked σ} {I : σ → Prop} {s s' : σ}
    (kept : ∀ {tag owner s s'}, I s → clean tag owner s = .ok s' → I s')
    (h : t.release clean id s = .ok (r, s')) (start : I s) : I s' := by
  have up (fuel : Nat) : ∀ {t id s}, releaseUp clean fuel t id s = .ok (r, s') → I s → I s' := by
    induction fuel with
    | zero => nofun
    | succ fuel ih =>
      intro t id s h start
      obtain ⟨⟨t₁, s₁, next⟩, round, h⟩ := Checked.bind_eq_ok.1 h
      have start : I s₁ := by
        cases releaseRound_eq_ok.1 round with
        | settles => exact start
        | @falls e _ found last below counted cleaned =>
          obtain ⟨ran, bare⟩ := runCleanup_eq_ok.1 cleaned
          cases cleanup : e.cleanup with
          | none => rwa [bare cleanup]
          | some tag => exact kept start (ran tag cleanup)
      cases next with
      | none => cases h; exact start
      | some parent => exact ih h start
  exact up t.live h start

/-! ## Well-formed arenas -/

/-- The number of occupied slots. -/
def occupied (t : EntityTree δ) : Nat :=
  t.slots.toList.countP (·.isSome)

/-- Storing into a slot changes the number of occupied ones by the difference in that slot. -/
theorem occupied_setSlot (t : EntityTree δ) (id : EntityId) (e : Option (Entity δ)) :
    (t.setSlot id e).occupied + (t.get? id).toList.length = t.occupied + e.toList.length := by
  have lt : id.val < t.slots.toList.length := by simp
  have here : t.slots.toList[id.val] = t.get? id := by simp [get?]
  have counted : (if (t.get? id).isSome = true then 1 else 0) ≤ t.occupied := by
    rw [← here]
    exact List.boole_getElem_le_countP lt
  simp only [occupied, setSlot, Vector.toList_set, List.countP_set lt, here] at counted ⊢
  cases occupant : t.get? id with
  | none => cases e <;> simp
  | some _ =>
    rw [occupant, Option.isSome_some, if_pos rfl] at counted
    cases e <;>
      simp only [Option.isSome_some, Option.isSome_none, Bool.false_eq_true, if_true, if_false,
        Option.toList_some, Option.toList_none, List.length_singleton, List.length_nil] <;>
      omega

theorem occupied_setCount (found : t.get? id = some e) (n : Nat) :
    (t.setCount id e n).occupied = t.occupied := by
  have exchange := t.occupied_setSlot id (some { e with count := ⟨n⟩ })
  rw [found] at exchange
  exact Nat.add_right_cancel exchange

theorem occupied_addChild (found : t.get? p = some e) (free : t.get? id = none) :
    (t.addChild p e id owner tag).occupied = t.occupied + 1 := by
  have ne : id ≠ p := by
    rintro rfl
    rw [free] at found
    cases found
  have exchange := (t.setCount p e (e.count.value + 1)).occupied_setSlot id
    (some ⟨some p, ⟨1⟩, owner, some tag⟩)
  rw [get?_setCount, if_neg ne, free, occupied_setCount found] at exchange
  exact exchange

theorem occupied_remove (found : t.get? id = some e) :
    (t.remove id).occupied + 1 = t.occupied := by
  have exchange := t.occupied_setSlot id none
  rw [found] at exchange
  exact exchange

/-- What holds of the arena by itself, however it is used. -/
structure Intact (t : EntityTree δ) : Prop where
  /-- Live entities are referenced. -/
  positive : ∀ {id e}, t.get? id = some e → 0 < e.count.value
  /-- The root is live. -/
  root : t.isLive .root = true
  /-- The occupied slots are counted. -/
  census : t.live = t.occupied

namespace Intact

theorem live_pos (h : t.Intact) (found : t.get? id = some e) : 0 < t.live := by
  have census := h.census
  have counted := occupied_remove found
  omega

/-- Changing a count that stays positive leaves the arena intact. -/
theorem setCount (h : t.Intact) (found : t.get? id = some e) (pos : 0 < n) :
    (t.setCount id e n).Intact where
  positive {x e'} found' := by
    rw [get?_setCount] at found'
    split at found'
    case isTrue => cases found'; exact pos
    case isFalse => exact h.positive found'
  root := by
    rw [isLive_iff, owner?_setCount found, ← isLive_iff]
    exact h.root
  census := h.census.trans (occupied_setCount found n).symm

theorem addChild (h : t.Intact) (found : t.get? p = some e) (free : t.get? id = none) :
    (t.addChild p e id owner tag).Intact where
  positive {x e'} found' := by
    rw [get?_addChild] at found'
    split at found'
    case isTrue => cases found'; exact Nat.one_pos
    case isFalse =>
      split at found'
      case isTrue => cases found'; exact Nat.succ_pos _
      case isFalse => exact h.positive found'
  root := by
    obtain ⟨o, owned⟩ := isLive_iff.1 h.root
    exact isLive_iff.2 ⟨o, owner?_addChild_of_some found free owned⟩
  census := (congrArg (· + 1) h.census).trans (occupied_addChild found free).symm

/-- The end of an entity that is not the root leaves the arena intact, whatever stands under it. -/
theorem remove (h : t.Intact) (found : t.get? id = some e) (below : id ≠ .root) :
    (t.remove id).Intact where
  positive live := h.positive (get?_of_remove live).2
  root := by
    rw [isLive_iff, owner?_remove, if_neg (Ne.symm below), ← isLive_iff]
    exact h.root
  census := Nat.sub_eq_of_eq_add (h.census.trans (occupied_remove found).symm)

end Intact

/-- What holds of the arena if parents outlive their children. -/
structure Proper (t : EntityTree δ) : Prop where
  /-- Live entities are referenced. -/
  positive : ∀ {id e}, t.get? id = some e → 0 < e.count.value
  /-- The root is live. -/
  root : t.owner? .root = some .root
  /-- No other slot stands for the root. -/
  root_unique : ∀ {id}, t.owner? id = some .root → id = .root
  /-- Parents are live. -/
  lasting : ∀ {id p}, t.parent? id = some p → ∃ o, t.owner? p = some o
  /-- The occupied slots are counted. -/
  census : t.live = t.occupied

namespace Proper

/-- A well-formed arena is intact. -/
theorem intact (h : t.Proper) : t.Intact :=
  ⟨h.positive, isLive_iff.2 ⟨_, h.root⟩, h.census⟩

theorem live_pos (h : t.Proper) (found : t.get? id = some e) : 0 < t.live :=
  h.intact.live_pos found

theorem childless_of_free (h : t.Proper) (free : t.get? id = none) (x : EntityId) :
    t.parent? x ≠ some id := by
  intro parent
  obtain ⟨_, owned⟩ := h.lasting parent
  obtain ⟨_, live, -⟩ := owner?_eq_some.1 owned
  cases free.symm.trans live

theorem setCount (h : t.Proper) (found : t.get? id = some e) (pos : 0 < n) :
    (t.setCount id e n).Proper where
  positive := (h.intact.setCount found pos).positive
  root := by rw [owner?_setCount found]; exact h.root
  root_unique {x} root := h.root_unique (by rwa [owner?_setCount found] at root)
  lasting {x p} parent := by
    rw [parent?_setCount found] at parent
    rw [owner?_setCount found]
    exact h.lasting parent
  census := (h.intact.setCount found pos).census

/-- Adding a child that is no root leaves the arena well-formed. -/
theorem addChild (h : t.Proper) (found : t.get? p = some e) (free : t.get? id = none)
    (below : owner ≠ .root) : (t.addChild p e id owner tag).Proper where
  positive := (h.intact.addChild found free).positive
  root := owner?_addChild_of_some found free h.root
  root_unique {x} root := by
    rw [owner?_addChild found] at root
    split at root
    case isTrue => exact absurd (Option.some.inj root) below
    case isFalse => exact h.root_unique root
  lasting {x q} parent := by
    rw [parent?_addChild found] at parent
    split at parent
    case isTrue =>
      cases parent
      exact ⟨e.owner, owner?_addChild_of_some found free (owner?_eq_some.2 ⟨e, found, rfl⟩)⟩
    case isFalse =>
      obtain ⟨o, owned⟩ := h.lasting parent
      exact ⟨o, owner?_addChild_of_some found free owned⟩
  census := (h.intact.addChild found free).census

/-- Freeing a slot that is not the root's and has no children leaves the arena well-formed. -/
theorem remove (h : t.Proper) (found : t.get? id = some e) (below : id ≠ .root)
    (childless : ∀ x, t.parent? x ≠ some id) : (t.remove id).Proper where
  positive := (h.intact.remove found below).positive
  root := by rw [owner?_remove, if_neg (Ne.symm below)]; exact h.root
  root_unique {x} root := by
    rw [owner?_remove] at root
    split at root
    case isTrue => cases root
    case isFalse => exact h.root_unique root
  lasting {x q} parent := by
    rw [parent?_remove] at parent
    split at parent
    case isTrue => cases parent
    case isFalse =>
      rw [owner?_remove, if_neg (by rintro rfl; exact childless x parent)]
      exact h.lasting parent
  census := (h.intact.remove found below).census

end Proper

/-! ## The first arena -/

theorem get?_new (id : EntityId) :
    (new : EntityTree δ).get? id =
      if id = .root then some ⟨none, ⟨1⟩, .root, none⟩ else none := by
  by_cases eq : id = .root
  · subst eq
    rfl
  · have ne : 0 ≠ id.val := fun zero => eq (Fin.ext zero.symm)
    simp [get?, new, ne, eq]

theorem refs_new (id : EntityId) : (new : EntityTree δ).refs id = [EntityId.root].count id := by
  simp only [refs, count?, get?_new, List.count_singleton]
  split
  case isTrue eq => simp [eq]
  case isFalse ne => simp [Ne.symm ne]

theorem parents_new : (new : EntityTree δ).parents = [] := by
  simp only [parents, new, Vector.toList_set, Vector.toList_replicate]
  rfl

theorem proper_new : (new : EntityTree δ).Proper where
  positive {id e} found := by
    rw [get?_new] at found
    split at found
    case isTrue => cases found; exact Nat.one_pos
    case isFalse => cases found
  root := by rw [owner?, get?_new, if_pos rfl]; rfl
  root_unique {id} root := by
    rw [owner?, get?_new] at root
    split at root
    case isTrue eq => exact eq
    case isFalse => cases root
  lasting {id p} parent := by
    rw [parent?, get?_new] at parent
    split at parent <;> cases parent
  census := by
    simp only [occupied, new, Vector.toList_set, Vector.toList_replicate]
    rfl

end EntityTree

end Rtos

import Rtos.Proofs.Entity.Ancestry
import Rtos.Proofs.Kernel.Accounting
import Rtos.Proofs.Kernel.Families

/-!
# Descent

Entities stand under each other without cycles.  The root, the devices and the idle task stand at the
top: under nothing, or under the root alone (`EntityTree.Grounded`).  So an entity that stands below
another than the root is that of an event or of some other task, and at the bottom of every branch is
an entity under which nothing stands (`EntityTree.Ranked.exists_leaf`).

With the account of references this settles what keeps an entity live (`Kernel.Arranged`).
-/

namespace Rtos

/-- Who stands at the top of the tree. -/
def Owner.Top : Owner → Prop
  | .root | .device _ => True
  | .task pid => pid = idlePid
  | .event => False

namespace EntityTree

variable {δ : Type} {t r : EntityTree δ} {id p x y : EntityId} {e : Entity δ} {o owner : Owner}
  {tag : δ} {n : Nat}

/-! ## The top of the tree -/

/-- Entities stand under each other without cycles, and some of them at the top. -/
structure Grounded (t : EntityTree δ) : Prop where
  /-- The root stands under nothing. -/
  root : t.parent? .root = none
  /-- Who stands at the top stands under the root, if under anything. -/
  top : ∀ {id p o}, t.owner? id = some o → o.Top → t.parent? id = some p → p = .root
  /-- Nothing stands under itself, be it by way of others. -/
  ranked : ∃ rank : EntityId → Nat, ∀ {id p}, t.parent? id = some p → rank p < rank id

namespace Grounded

theorem of_eq (h : t.Grounded) (parent : r.parent? = t.parent?) (owner : r.owner? = t.owner?) :
    r.Grounded :=
  ⟨parent ▸ h.root, parent ▸ owner ▸ h.top, parent ▸ h.ranked⟩

theorem setCount (h : t.Grounded) (found : t.get? id = some e) (n : Nat) :
    (t.setCount id e n).Grounded :=
  h.of_eq (funext (parent?_setCount found n)) (funext (owner?_setCount found n))

/-- A new child is below its parent; at the top it has to be a child of the root. -/
theorem addChild (h : t.Grounded) (proper : t.Proper) (found : t.get? p = some e)
    (free : t.get? id = none) (top : owner.Top → p = .root) :
    (t.addChild p e id owner tag).Grounded where
  root := by
    rw [parent?_addChild found, if_neg ?_]
    · exact h.root
    · rintro rfl
      obtain ⟨_, live, -⟩ := owner?_eq_some.1 proper.root
      cases free.symm.trans live
  top {x q o} owned above parent := by
    rw [owner?_addChild found] at owned
    rw [parent?_addChild found] at parent
    split at owned
    case isTrue new =>
      rw [if_pos new] at parent
      cases owned
      cases parent
      exact top above
    case isFalse old =>
      rw [if_neg old] at parent
      exact h.top owned above parent
  ranked := Ranked.addChild h.ranked found free (proper.childless_of_free free)

theorem remove (h : t.Grounded) (id : EntityId) : (t.remove id).Grounded where
  root := by
    rw [parent?_remove]
    split
    case isTrue => rfl
    case isFalse => exact h.root
  top {x q o} owned above parent := by
    rw [owner?_remove] at owned
    rw [parent?_remove] at parent
    split at owned
    case isTrue => cases owned
    case isFalse other =>
      rw [if_neg other] at parent
      exact h.top owned above parent
  ranked := Ranked.remove h.ranked id

end Grounded

namespace Grounded

theorem eq_root (h : t.Grounded) (within : t.Within .root x) : x = .root := by
  by_contra ne
  obtain ⟨p, parent, -⟩ := (within.below (Ne.symm ne)).parent
  cases h.root.symm.trans parent

/-- Who stands below another than the root does not stand at the top. -/
theorem not_top (h : t.Grounded) (below : t.Below x y) (ne : y ≠ .root)
    (owned : t.owner? x = some o) : ¬o.Top := by
  intro top
  obtain ⟨p, parent, within⟩ := below.parent
  obtain rfl := h.top owned top parent
  exact ne (h.eq_root within)

end Grounded

end EntityTree

/-! ## Moves -/

variable {π : Type} [Port π]

/-- Moves keep the tree grounded. -/
theorem Move.grounded {label : Label} {m m' : Moment π} (move : Move label m m') (sound : m.Sound)
    (h : m.kernel.entities.Grounded) : m'.kernel.entities.Grounded := by
  cases move with
  | book | hardware | change | promote | awaitChild | awaitDevice | wake | wakeDirect | drop | post
  | fetch | shift | reap | exitRecorded | exitForgotten | unregister => exact h
  | createEvent found lasting free => exact h.addChild sound.tree found free False.elim
  | hold found free => exact h.addChild sound.tree found free False.elim
  | share found | settle found => exact h.setCount found _
  | destroy | destroyTask => exact h.remove _
  | spawn found free busy spawner above live lasting unused =>
    exact h.addChild sound.tree live unused fun idle => absurd idle busy
  | register slot vacant root unused => exact h.addChild sound.tree root unused fun _ => rfl

theorem Moves.grounded {P : Label → Prop} {m m' : Moment π} (moves : Moves P m m')
    (sound : m.Sound) (h : m.kernel.entities.Grounded) : m'.kernel.entities.Grounded :=
  (moves.keeps (I := fun m => m.Sound ∧ m.kernel.entities.Grounded) ⟨sound, h⟩
    fun _ move ⟨sound, grounded⟩ => ⟨move.sound sound, move.grounded sound grounded⟩).2

theorem Kernel.grounded_boot {port : π} {k : Kernel π} (h : boot port = .ok (.ok k)) :
    k.entities.Grounded := by
  have new : (EntityTree.new : EntityTree Cleanup).parent? = fun _ => none := by
    funext id
    rw [EntityTree.parent?, EntityTree.get?_new]
    split <;> rfl
  obtain ⟨_, _, -, _, _, _, -, -, root, unused, -, rfl⟩ := boot_eq_ok h
  refine EntityTree.Grounded.addChild ?_ EntityTree.proper_new root unused fun _ => rfl
  refine ⟨congrFun new _, fun _ _ parent => ?_, fun _ => 0, fun parent => ?_⟩
  · cases (congrFun new _).symm.trans parent
  · cases (congrFun new _).symm.trans parent

/-! ## What keeps an entity live -/

/-- A kernel between operations, whose references are accounted for and whose entities stand in
order. -/
structure Kernel.Arranged (k : Kernel π) : Prop where
  /-- The kernel is sound. -/
  sound : Moment.Sound ⟨k, [], none⟩
  /-- References are single. -/
  single : Moment.Single ⟨k, [], none⟩
  /-- Tasks stand under their parents. -/
  rooted : k.Rooted
  /-- Entities stand under each other without cycles. -/
  grounded : k.entities.Grounded

theorem Kernel.arranged_boot {port : π} {k : Kernel π} (h : boot port = .ok (.ok k)) : k.Arranged :=
  ⟨sound_boot h, single_boot h, rooted_boot h, grounded_boot h⟩

namespace Kernel.Arranged

variable {k k' : Kernel π} {id x : EntityId} {o : Owner}

theorem operates {P : Label → Prop} (h : k.Arranged) (operates : Operates P [] [] k k')
    (inside : ∀ label, P label → label ≠ .shares) : k'.Arranged := by
  have moves := operates.moves h.sound
  refine ⟨operates.sound h.sound, h.single.moves h.sound moves ?_, moves.rooted h.sound h.rooted,
    moves.grounded h.sound h.grounded⟩
  rintro label (body | (rfl | rfl) | rfl)
  · exact inside label body
  · intro shares; cases shares
  · intro shares; cases shares
  · intro shares; cases shares

omit [Port π] in
theorem queued (h : k.Arranged) (owned : k.entities.owner? id = some .event) :
    ∃ event ∈ k.bus.queues.events, event.entity = id := by
  have once := (h.sound.accounted h.single).once owned
  exact List.mem_map.1 (List.count_pos_iff.1 (Nat.lt_of_lt_of_eq Nat.one_pos once.symm))

omit [Port π] in
theorem ne_root (h : k.Arranged) (owned : k.entities.owner? id = some o) (other : o ≠ .root) :
    id ≠ .root := by
  rintro rfl
  cases owned.symm.trans h.sound.tree.root
  exact other rfl

omit [Port π] in
/-- What stands below an entity other than the root is a queued event, or a task other than the idle
one. -/
theorem of_below (h : k.Arranged) (below : k.entities.Below x id) (ne : id ≠ .root) :
    (∃ event ∈ k.bus.queues.events, event.entity = x) ∨
      ∃ pid, k.entities.owner? x = some (.task pid) ∧ pid ≠ idlePid := by
  obtain ⟨o, owned⟩ := below.live
  have deep := h.grounded.not_top below ne owned
  cases o with
  | root => exact absurd trivial deep
  | device => exact absurd trivial deep
  | event => exact .inl (h.queued owned)
  | task pid => exact .inr ⟨pid, owned, deep⟩

omit [Port π] in
/-- An entity that its owner does not call for has a child. -/
theorem exists_child (h : k.Arranged) (owned : k.entities.owner? id = some o)
    (uncalled : k.standing id o = 0) : ∃ child, k.entities.parent? child = some id := by
  obtain ⟨e, live, owner⟩ := EntityTree.owner?_eq_some.1 owned
  have count := (h.sound.accounted h.single).count live
  have positive := h.sound.tree.positive live
  rw [owner, uncalled, EntityTree.childCount_eq] at count
  exact EntityTree.mem_parents.1 (List.count_pos_iff.1 (by omega))

omit [Port π] in
/-- Below an entity other than the root that its owner does not call for is a queued event, or a task
other than the idle one whose entity is called for. -/
theorem kept_by (h : k.Arranged) (owned : k.entities.owner? id = some o) (other : o ≠ .root)
    (uncalled : k.standing id o = 0) :
    (∃ event ∈ k.bus.queues.events, k.entities.Below event.entity id) ∨
      ∃ leaf pid, k.entities.Below leaf id ∧ k.entities.owner? leaf = some (.task pid) ∧
        pid ≠ idlePid ∧ k.standing leaf (.task pid) ≠ 0 := by
  -- at the bottom of the branch stands an entity without children
  obtain ⟨child, stands⟩ := h.exists_child owned uncalled
  obtain ⟨leaf, within, childless⟩ := EntityTree.Ranked.exists_leaf h.grounded.ranked child
  have below : k.entities.Below leaf id := .tail' within stands
  rcases h.of_below below (h.ne_root owned other) with ⟨event, queued, rfl⟩ | ⟨pid, task, busy⟩
  · exact .inl ⟨event, queued, below⟩
  · refine .inr ⟨leaf, pid, below, task, busy, fun uncalled => ?_⟩
    exact childless (EntityTree.mem_parents.2 (h.exists_child task uncalled))

end Kernel.Arranged

end Rtos

import Rtos.Counter
import Rtos.Error
import Rtos.Limits
import Rtos.Task.State

/-!
# Entities

A fixed arena of reference-counted entities. Every task, every device and every event in flight owns
one. An entity holds a counted reference on its parent, so no parent goes before its children; the
root, in slot 0, has no parent and is never destroyed.

An entity that loses its last reference is destroyed: its slot is freed, its clean-up runs, and the
reference on its parent is dropped in turn.
-/

namespace Rtos

/-- An entity is named by its slot in the arena. -/
abbrev EntityId := Fin entityCapacity

/-- The root entity. -/
def EntityId.root : EntityId := 0

/-- What an entity stands for. -/
inductive Owner
  /-- The root of the tree. -/
  | root
  /-- The task of that number. -/
  | task (pid : Pid)
  /-- The device of that number. -/
  | device (slot : Nat)
  /-- An event in flight. -/
  | event
deriving DecidableEq, Repr

/-- An entity; clean-ups are named by tags of type `δ`. -/
structure Entity (δ : Type) where
  /-- The entity this one keeps alive, for all but the root. -/
  parent : Option EntityId
  /-- The number of references. -/
  count : Counter
  /-- What the entity stands for. -/
  owner : Owner
  /-- What runs when the entity is destroyed; nothing for the root. -/
  cleanup : Option δ
deriving DecidableEq, Repr

/-- Runs what is to run when an entity is destroyed. -/
def Entity.runCleanup {δ σ : Type} (clean : δ → Owner → σ → Checked σ) (e : Entity δ) (s : σ) :
    Checked σ :=
  match e.cleanup with
  | some tag => clean tag e.owner s
  | none => .ok s

/-- The arena. -/
structure EntityTree (δ : Type) where
  /-- The slots; a free slot holds nothing. -/
  slots : Vector (Option (Entity δ)) entityCapacity
  /-- The number of occupied slots. -/
  live : Nat
deriving DecidableEq, Repr

namespace EntityTree

variable {δ σ : Type}

/-- The arena that holds the root alone. -/
def new : EntityTree δ where
  slots := (Vector.replicate entityCapacity none).set 0 (some ⟨none, ⟨1⟩, .root, none⟩)
  live := 1

/-- The entity in a slot, if there is one. -/
def get? (t : EntityTree δ) (id : EntityId) : Option (Entity δ) :=
  t.slots[id]

/-- The arena with another occupant of a slot. -/
def setSlot (t : EntityTree δ) (id : EntityId) (entity : Option (Entity δ)) : EntityTree δ :=
  { t with slots := t.slots.set id.val entity id.isLt }

/-- Whether a slot is occupied. -/
def isLive (t : EntityTree δ) (id : EntityId) : Bool :=
  (t.get? id).isSome

/-- The number of references on the entity in a slot. -/
def count? (t : EntityTree δ) (id : EntityId) : Option Nat :=
  (t.get? id).map (·.count.value)

/-- The parent of the entity in a slot. -/
def parent? (t : EntityTree δ) (id : EntityId) : Option EntityId :=
  (t.get? id).bind (·.parent)

/-- What the entity in a slot stands for. -/
def owner? (t : EntityTree δ) (id : EntityId) : Option Owner :=
  (t.get? id).map (·.owner)

/-- The first free slot. -/
def freeSlot? (t : EntityTree δ) : Option EntityId :=
  t.slots.findFinIdx? (·.isNone)

/-- The entity in a slot that must be occupied. -/
def entity (t : EntityTree δ) (id : EntityId) : Checked (Entity δ) :=
  match t.get? id with
  | some e => .ok e
  | none => .error (.freedEntity id)

/-- Takes another reference. -/
def retain (t : EntityTree δ) (id : EntityId) : Checked (EntityTree δ) := do
  let e ← t.entity id
  return t.setSlot id (some { e with count := ← e.count.increment })

/-- Creates an entity with one reference, in the first free slot, and takes a reference on its
parent. It is refused without a parent, without a clean-up, under a parent that is not live, and
when no slot is free. -/
def create (t : EntityTree δ) (parent : Option EntityId) (owner : Owner) (cleanup : Option δ) :
    Checked (Except Error (EntityId × EntityTree δ)) := do
  let some parent := parent | return .error .invalidArgument
  let some cleanup := cleanup | return .error .invalidArgument
  if !t.isLive parent then return .error .invalidArgument
  let some slot := t.freeSlot? | return .error .outOfMemory
  let t ← t.retain parent
  let t := t.setSlot slot (some ⟨some parent, ⟨1⟩, owner, some cleanup⟩)
  return .ok (slot, { t with live := t.live + 1 })

/-- One round of a release. An entity that keeps a reference ends it; one that loses its last is
removed, its clean-up runs on the state, and its parent, if it has one, is next. -/
def releaseRound (clean : δ → Owner → σ → Checked σ) (t : EntityTree δ) (id : EntityId) (s : σ) :
    Checked (EntityTree δ × σ × Option EntityId) := do
  let e ← t.entity id
  let count ← e.count.decrement
  if count.value ≠ 0 then
    return (t.setSlot id (some { e with count }), s, none)
  else if id = EntityId.root then
    .error .rootReleased
  else
    let live ← Word.sub t.live 1
    let s ← e.runCleanup clean s
    return ({ t.setSlot id none with live }, s, e.parent)

/-- Drops references up the tree, in at most `fuel` rounds. -/
def releaseUp (clean : δ → Owner → σ → Checked σ) :
    (fuel : Nat) → EntityTree δ → EntityId → σ → Checked (EntityTree δ × σ)
  | 0, _, _, _ => .error .endless
  | fuel + 1, t, id, s => do
    let (t, s, next) ← t.releaseRound clean id s
    match next with
    | some parent => releaseUp clean fuel t parent s
    | none => return (t, s)

/-- Drops a reference. Every entity on the way up but the last is removed, so the walk visits no
more entities than are live. -/
def release (clean : δ → Owner → σ → Checked σ) (t : EntityTree δ) (id : EntityId) (s : σ) :
    Checked (EntityTree δ × σ) :=
  releaseUp clean t.live t id s

/-- A slot holds what was stored there last. -/
@[simp] theorem get?_setSlot_self (t : EntityTree δ) (id : EntityId) (e : Option (Entity δ)) :
    (t.setSlot id e).get? id = e := by
  simp [get?, setSlot]

/-- Storing into one slot leaves the others alone. -/
theorem get?_setSlot_of_ne (t : EntityTree δ) {id other : EntityId} (e : Option (Entity δ))
    (h : id ≠ other) : (t.setSlot id e).get? other = t.get? other := by
  have : id.val ≠ other.val := fun hv => h (Fin.ext hv)
  simp [get?, setSlot, this]

end EntityTree

end Rtos

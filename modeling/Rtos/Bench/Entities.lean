import Rtos.Entity

/-!
# Entities under observation

An arena with an outsider who remembers every entity it created and may take and drop references as
it likes. A remembered handle goes on naming its slot when the entity is gone, so references may be
dropped too often, or on the next occupant of the slot.
-/

namespace Rtos.Bench

/-- What an outsider's clean-up writes down. -/
inductive Mark
  /-- The owner of the destroyed entity. -/
  | plain
  /-- The owner, marked as different. -/
  | marked
deriving DecidableEq, Repr

/-- An arena and what the outsider remembers. -/
structure ObservedTree where
  /-- The arena. -/
  tree : EntityTree Mark
  /-- The root and the entities created so far, in order. -/
  handles : List EntityId
  /-- What clean-ups wrote down, newest first. -/
  destroyed : List (Mark × Owner)
deriving DecidableEq, Repr

namespace ObservedTree

/-- The arena that holds the root alone, whose handle is the first. -/
def start : ObservedTree :=
  ⟨.new, [.root], []⟩

/-- Forgets what clean-ups wrote down. -/
def forget (o : ObservedTree) : ObservedTree :=
  { o with destroyed := [] }

/-- Creates an entity and remembers it. The answer is its handle and its slot. -/
def create (o : ObservedTree) (parent : Option EntityId) (owner : Owner) (cleanup : Option Mark) :
    Checked (Except Error (Nat × EntityId) × ObservedTree) := do
  match ← o.tree.create parent owner cleanup with
  | .error e => return (.error e, o)
  | .ok (id, tree) =>
    return (.ok (o.handles.length, id), { o with tree, handles := o.handles ++ [id] })

/-- Creates entities of one sort a number of times, and answers with the result of the last. -/
def createTimes (o : ObservedTree) (parent : Option EntityId) (owner : Owner)
    (cleanup : Option Mark) :
    (times : Nat) → Checked (Option (Except Error (Nat × EntityId)) × ObservedTree)
  | 0 => return (none, o)
  | times + 1 => do
    let (result, o) ← o.create parent owner cleanup
    if times = 0 then
      return (some result, o)
    else
      o.createTimes parent owner cleanup times

/-- Takes a reference. -/
def retain (o : ObservedTree) (id : EntityId) : Checked ObservedTree := do
  return { o with tree := ← o.tree.retain id }

/-- Drops a reference, and writes down what is destroyed. -/
def release (o : ObservedTree) (id : EntityId) : Checked ObservedTree := do
  let note := fun mark owner destroyed => .ok ((mark, owner) :: destroyed)
  let (tree, destroyed) ← o.tree.release note id o.destroyed
  return { o with tree, destroyed }

end ObservedTree

end Rtos.Bench

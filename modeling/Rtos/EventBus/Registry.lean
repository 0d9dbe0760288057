import Rtos.Event

/-!
# Listeners

The listeners of a bus, in one bounded list for each kind of event. Listeners are told of events in
the order in which they registered.
-/

namespace Rtos

/-- A registered listener; callbacks are named by tags of type `κ`. -/
structure Subscription (κ : Type) where
  /-- The listener's name. -/
  id : ListenerId
  /-- The callback. -/
  listener : κ
  /-- A word that the callback is given with every event. -/
  extra : Nat
deriving DecidableEq, Repr

/-- The lists of listeners. -/
structure Registry (κ : Type) where
  /-- The listeners of each kind, in the order of registration. -/
  lists : ByKind (List (Subscription κ))
  /-- How many names were given out. -/
  issued : Counter
deriving DecidableEq, Repr

namespace Registry

variable {κ : Type}

/-- A registry without listeners. -/
def empty : Registry κ where
  lists := .replicate []
  issued := ⟨0⟩

/-- The number of listeners of a kind. -/
def count (r : Registry κ) (kind : EventKind) : Nat :=
  (r.lists.get kind).length

/-- Registers a listener at the end of its list. A full list refuses it; the name it would have had
is used up all the same. -/
def subscribe (r : Registry κ) (kind : EventKind) (listener : κ) (extra : Nat) :
    Checked (Except Error ListenerId × Registry κ) := do
  let issued ← r.issued.increment
  let r := { r with issued }
  let list := r.lists.get kind
  if list.length < maxListeners then
    let id := ⟨issued.value⟩
    return (.ok id, { r with lists := r.lists.set kind (list ++ [⟨id, listener, extra⟩]) })
  else
    return (.error .outOfMemory, r)

/-- Takes a listener off the list of its kind, and tells whether it was there. -/
def unsubscribe (r : Registry κ) (kind : EventKind) (id : ListenerId) : Bool × Registry κ :=
  let list := r.lists.get kind
  let named := fun (s : Subscription κ) => s.id == id
  (list.any named, { r with lists := r.lists.set kind (list.eraseP named) })

/-- A listener is found exactly if it stands on the list of the kind. -/
theorem unsubscribe_fst {r : Registry κ} {kind : EventKind} {id : ListenerId} :
    (r.unsubscribe kind id).1 = true ↔ ∃ s ∈ r.lists.get kind, s.id = id := by
  simp [unsubscribe]

end Registry

end Rtos

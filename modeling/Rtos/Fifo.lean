/-!
# Bounded queues

A first-in first-out queue with a fixed number of places. `Fifo.items` is the queue itself, oldest
item first; the bound is part of the type.
-/

namespace Rtos

/-- A queue of at most `capacity` items. -/
structure Fifo (capacity : Nat) (α : Type) where
  /-- The items, oldest first. -/
  items : List α
  /-- The items fit. -/
  length_le : items.length ≤ capacity
deriving DecidableEq, Repr

namespace Fifo

variable {capacity : Nat} {α : Type}

/-- The queue without items. -/
def empty : Fifo capacity α :=
  ⟨[], Nat.zero_le _⟩

instance : Inhabited (Fifo capacity α) := ⟨empty⟩

/-- The number of items. -/
def length (q : Fifo capacity α) : Nat :=
  q.items.length

/-- Puts an item behind the others, if there is a place. -/
def push? (q : Fifo capacity α) (a : α) : Option (Fifo capacity α) :=
  if h : q.items.length < capacity then
    some ⟨q.items ++ [a], by rw [List.length_append]; exact h⟩
  else
    none

/-- Takes the oldest item, if there is one. -/
def pop? (q : Fifo capacity α) : Option (α × Fifo capacity α) :=
  match q with
  | ⟨[], _⟩ => none
  | ⟨a :: rest, h⟩ => some (a, ⟨rest, Nat.le_of_succ_le h⟩)

/-- Turns the queue by `n` items: each is taken from the front and put at the back, but for the first
that satisfies `p`, which is kept apart unless one is already. An item that found no place at the back
would be lost. -/
def turn (p : α → Bool) : (n : Nat) → Option α → Fifo capacity α → Option α × Fifo capacity α
  | 0, found, q => (found, q)
  | n + 1, found, q =>
    match q.pop? with
    | none => (found, q)
    | some (a, q) =>
      if found.isNone && p a then turn p n (some a) q
      else turn p n found ((q.push? a).getD q)

/-- Takes the oldest item that satisfies `p`, if there is one, by a whole turn of the queue. -/
def extract (q : Fifo capacity α) (p : α → Bool) : Option α × Fifo capacity α :=
  turn p q.length none q

/-- The empty queue has no items. -/
@[simp] theorem items_empty : (empty : Fifo capacity α).items = [] := rfl

/-- A push succeeds exactly below the bound, and appends. -/
theorem push?_eq_some {q r : Fifo capacity α} {a : α} :
    q.push? a = some r ↔ q.items.length < capacity ∧ r.items = q.items ++ [a] := by
  unfold push?
  split
  case isTrue h =>
    cases r
    simp [h, eq_comm]
  case isFalse h => simp [h]

/-- A push fails exactly at the bound. -/
theorem push?_eq_none {q : Fifo capacity α} {a : α} :
    q.push? a = none ↔ q.items.length = capacity := by
  have := q.length_le
  unfold push?
  split
  case isTrue h => simp; omega
  case isFalse h => simp; omega

/-- A pop takes the head of the items. -/
theorem pop?_eq_some {q r : Fifo capacity α} {a : α} :
    q.pop? = some (a, r) ↔ q.items = a :: r.items := by
  obtain ⟨items, h⟩ := q
  obtain ⟨items', h'⟩ := r
  cases items with
  | nil => simp [pop?]
  | cons b rest => simp [pop?]

/-- A pop fails exactly on the empty queue. -/
theorem pop?_eq_none {q : Fifo capacity α} : q.pop? = none ↔ q.items = [] := by
  obtain ⟨items, h⟩ := q
  cases items with
  | nil => simp [pop?]
  | cons b rest => simp [pop?]

/-- Where an item was taken there is a place for another. -/
theorem push?_of_pop? {q r : Fifo capacity α} {a : α} (h : q.pop? = some (a, r)) (b : α) :
    ∃ s, r.push? b = some s ∧ s.items = r.items ++ [b] := by
  have fits : r.items.length < capacity := by
    have bound := q.length_le
    rw [pop?_eq_some.1 h, List.length_cons] at bound
    exact bound
  refine ⟨⟨r.items ++ [b], by rw [List.length_append]; exact fits⟩, ?_, rfl⟩
  exact push?_eq_some.2 ⟨fits, rfl⟩

/-- A turn by the first items leaves them behind the others, in their order, without the item that
was kept apart from them. -/
theorem turn_eq (p : α → Bool) (found : Option α) {first rest : List α} {q : Fifo capacity α}
    (items : q.items = first ++ rest) :
    (turn p first.length found q).1 = found.or (first.find? p) ∧
      (turn p first.length found q).2.items =
        rest ++ if found.isSome then first else first.eraseP p := by
  induction first generalizing rest found q with
  | nil => simpa [turn] using items
  | cons a first ih =>
    obtain ⟨q', popped, items'⟩ : ∃ q', q.pop? = some (a, q') ∧ q'.items = first ++ rest := by
      have bound := q.length_le
      rw [items] at bound
      exact ⟨⟨first ++ rest, Nat.le_of_succ_le bound⟩, pop?_eq_some.2 items, rfl⟩
    rw [List.length_cons, turn, popped]
    dsimp only
    split
    case isTrue first_found =>
      obtain ⟨rfl, satisfies⟩ : found = none ∧ p a = true := by simpa using first_found
      obtain ⟨kept, left⟩ := ih (some a) items'
      rw [kept, left]
      simp [satisfies]
    case isFalse other =>
      obtain ⟨q'', pushed, items''⟩ := push?_of_pop? popped a
      rw [items', List.append_assoc] at items''
      obtain ⟨kept, left⟩ := ih found items''
      rw [pushed, Option.getD_some, kept, left]
      cases found with
      | some b => simp
      | none => simp [show p a = false by simpa using other]

/-- An extraction finds the first item that satisfies the predicate, if there is one, and removes it
alone. -/
theorem extract_eq (q : Fifo capacity α) (p : α → Bool) :
    (q.extract p).1 = q.items.find? p ∧ (q.extract p).2.items = q.items.eraseP p := by
  simpa [extract, length] using turn_eq p none (List.append_nil q.items).symm

end Fifo

end Rtos

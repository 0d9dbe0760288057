import Rtos.Word

/-!
# Counters

A word that is counted up and down by one. Counting below zero, or out of the words, is a fault.
-/

namespace Rtos

/-- A counter. -/
structure Counter where
  /-- The present count. -/
  value : Nat
deriving DecidableEq, Repr

namespace Counter

/-- The counter one higher. -/
def increment (c : Counter) : Checked Counter := do
  return ⟨← Word.add c.value 1⟩

/-- The counter one lower. -/
def decrement (c : Counter) : Checked Counter :=
  if c.value = 0 then .error .counterUnderflow else .ok ⟨c.value - 1⟩

/-- The text of a counter. -/
def describe (c : Counter) : String :=
  s!"AtomicCounter({c.value})"

/-- An increment succeeds exactly below the last word, and adds one. -/
theorem increment_eq_ok {c r : Counter} :
    c.increment = .ok r ↔ c.value + 1 < Word.limit ∧ r.value = c.value + 1 := by
  obtain ⟨n⟩ := r
  simp only [increment, Checked.bind_eq_ok, Word.add_eq_ok]
  constructor
  · rintro ⟨_, ⟨lt, rfl⟩, eq⟩
    cases eq
    exact ⟨lt, rfl⟩
  · rintro ⟨lt, rfl⟩
    exact ⟨_, ⟨lt, rfl⟩, rfl⟩

/-- A decrement succeeds exactly above zero, and takes one. -/
theorem decrement_eq_ok {c r : Counter} :
    c.decrement = .ok r ↔ 0 < c.value ∧ r.value = c.value - 1 := by
  obtain ⟨n⟩ := r
  unfold decrement
  split
  case isTrue zero => simp [zero]
  case isFalse pos => simp [Nat.pos_of_ne_zero pos, eq_comm]

end Counter

end Rtos

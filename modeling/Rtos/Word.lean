import Rtos.Fault

/-!
# Machine words

Sizes, addresses and counts are 64-bit words. They are kept as natural numbers; a sum that leaves
the words, or a difference that would be negative, is a fault.
-/

namespace Rtos.Word

/-- The first number that is not a word: two to the power of 64. -/
abbrev limit : Nat := 0x10000000000000000

/-- The sum of two words, if it is one. -/
def add (a b : Nat) : Checked Nat :=
  if a + b < limit then .ok (a + b) else .error .addOverflow

/-- The difference of two words, if it is one. -/
def sub (a b : Nat) : Checked Nat :=
  if b ≤ a then .ok (a - b) else .error .subOverflow

/-- The quotient of two words, if there is one. -/
def div (a b : Nat) : Checked Nat :=
  if b = 0 then .error .divideByZero else .ok (a / b)

/-- The remainder of two words, if there is one. -/
def rem (a b : Nat) : Checked Nat :=
  if b = 0 then .error .divideByZero else .ok (a % b)

/-- A sum of words is the sum of the numbers. -/
theorem add_eq_ok {a b c : Nat} : add a b = .ok c ↔ a + b < limit ∧ c = a + b := by
  unfold add
  split
  case isTrue h => simp [h, eq_comm]
  case isFalse h => simp [h]

/-- A difference of words is the difference of the numbers. -/
theorem sub_eq_ok {a b c : Nat} : sub a b = .ok c ↔ b ≤ a ∧ c = a - b := by
  unfold sub
  split
  case isTrue h => simp [h, eq_comm]
  case isFalse h => simp [h]

end Rtos.Word

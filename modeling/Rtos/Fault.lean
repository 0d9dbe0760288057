import Rtos.Task.State

/-!
# Faults

The broken promises that stop the kernel. A fault differs from a refusal (`Rtos.Error`): nothing is
handed back to the caller, and there is no state to go on from.
-/

namespace Rtos

/-- Why the kernel stopped. -/
inductive Fault
  /-- A counter at zero was decremented. -/
  | counterUnderflow
  /-- A sum left the 64-bit words. -/
  | addOverflow
  /-- A difference fell below zero. -/
  | subOverflow
  /-- A number was divided by zero. -/
  | divideByZero
  /-- The last reference to the root entity was dropped. -/
  | rootReleased
  /-- An entity was used after its slot had been freed. -/
  | freedEntity (slot : Nat)
  /-- A list of dead children was full. -/
  | unreapedOverflow
  /-- An atomic section was left that had not been entered. -/
  | unbalancedEnable
  /-- A mutex was unlocked that was not locked. -/
  | unlockUnlocked
  /-- A stack was returned that was not in use. -/
  | doubleFree (slot : Nat)
  /-- A table of `length` entries was asked for entry `index`. -/
  | indexOutOfRange (length index : Nat)
  /-- The task at the head of a wait queue was not parked there. -/
  | waiterNotParked (found : Option TaskState)
  /-- A wait began that nothing can end. -/
  | endless
deriving DecidableEq, Repr

/-- A computation that a fault may stop. -/
abbrev Checked (α : Type) := Except Fault α

/-- A sequence comes to an end without a fault exactly if both its parts do. -/
theorem Checked.bind_eq_ok {α β : Type} {x : Checked α} {f : α → Checked β} {b : β} :
    x >>= f = .ok b ↔ ∃ a, x = .ok a ∧ f a = .ok b := by
  cases x with
  | error e => simp [bind, Except.bind]
  | ok a => simp [bind, Except.bind]

/-- What a first part comes to is handed to the second. -/
theorem Checked.ok_bind {α β : Type} (a : α) (f : α → Checked β) :
    (Except.ok a : Checked α) >>= f = f a := rfl

/-- A sequence comes to an end if its first part does, and its second part does then. -/
theorem Checked.bind_total {α β : Type} {x : Checked α} {f : α → Checked β}
    (first : ∃ a, x = .ok a) (second : ∀ a, x = .ok a → ∃ b, f a = .ok b) :
    ∃ b, x >>= f = .ok b := by
  obtain ⟨a, ends⟩ := first
  obtain ⟨b, next⟩ := second a ends
  exact ⟨b, bind_eq_ok.2 ⟨a, ends, next⟩⟩

/-- A result that something was found of is there. -/
theorem Checked.exists_of_any {ε α : Type} {x : Except ε α} {p : α → Bool}
    (h : x.toOption.any p = true) : ∃ a, x = .ok a ∧ p a = true := by
  cases x with
  | error e => cases h
  | ok a => exact ⟨a, rfl, h⟩

namespace Fault

/-- The words with which the kernel stops. -/
def message : Fault → String
  | counterUnderflow => "atomic counter underflow"
  | addOverflow => "attempt to add with overflow"
  | subOverflow => "attempt to subtract with overflow"
  | divideByZero => "attempt to divide by zero"
  | rootReleased => "root kent released"
  | freedEntity slot => s!"use of freed kent {slot}"
  | unreapedOverflow => "dead-child list overflow"
  | unbalancedEnable => "unbalanced preempt_enable"
  | unlockUnlocked => "unlock of an unlocked mutex"
  | doubleFree slot => s!"double free of stack {slot}"
  | indexOutOfRange length index =>
    s!"index out of bounds: the len is {length} but the index is {index}"
  | waiterNotParked found =>
    let left := match found with
      | none => "None"
      | some state => s!"Some({state.name})"
    s!"assertion `left == right` failed\n  left: {left}\n right: Some(LockWait)"
  | endless => "endless wait"

end Fault

end Rtos

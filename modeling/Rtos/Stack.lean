import Rtos.Word

/-!
# Task stacks

The memory that a task runs on: a region of addresses, used from its top downwards.
-/

namespace Rtos

/-- The addresses from `base` up to, and without, `base + size`. -/
structure Stack where
  /-- The lowest address. -/
  base : Nat
  /-- The number of bytes. -/
  size : Nat
deriving DecidableEq, Repr

/-- The first address above a region. -/
def Stack.top (stack : Stack) : Checked Nat :=
  Word.add stack.base stack.size

end Rtos

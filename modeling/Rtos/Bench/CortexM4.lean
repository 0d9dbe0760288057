import Rtos.Kernel.CortexM4
import Rtos.System

/-!
# A Cortex-M4 under observation

A kernel on a board, and a second port on the same board that hands out the same stacks without
knowing of the first. Addresses are told as offsets from the start of the stack pool.
-/

namespace Rtos.Bench

/-- A kernel, its mutexes, and a second port; the board is the kernel's. -/
structure ObservedBoard where
  /-- The kernel and its mutexes. -/
  system : System CortexM4
  /-- The second port. Its own board is not looked at. -/
  spare : CortexM4

namespace ObservedBoard

/-- The address of the stack pool: far from either end of the address space, so that offsets of
either sign are addresses. -/
abbrev poolBase : Nat := 0x555555560000

/-- The address at an offset from the start of the pool. -/
def address (offset : Int) : Nat :=
  ((poolBase + offset) % Word.limit).toNat

/-- The offset of an address from the start of the pool: of the numbers that lead there, modulo the
words, the one in the signed range. -/
def offset (address : Nat) : Int :=
  ((address : Int) - poolBase).bmod Word.limit

/-- Builds a kernel on a board that was reset. -/
def boot : Checked (Except Error ObservedBoard) := do
  let port := CortexM4.new poolBase .reset
  match ← Kernel.boot port with
  | .error e => return .error e
  | .ok kernel => return .ok ⟨⟨kernel, fun _ => .free⟩, port⟩

/-- The kernel. -/
def kernel (b : ObservedBoard) : Kernel CortexM4 :=
  b.system.kernel

/-- The same bench with another kernel. -/
def withKernel (b : ObservedBoard) (kernel : Kernel CortexM4) : ObservedBoard :=
  { b with system := { b.system with kernel } }

/-- Forgets what was logged. -/
def forget (b : ObservedBoard) : ObservedBoard :=
  b.withKernel { b.kernel with sched := { b.kernel.sched with journal := [] } }

/-- The board. -/
def board (b : ObservedBoard) : Board :=
  b.kernel.sched.port.board

/-- Changes the board. -/
def withBoard (b : ObservedBoard) (f : Board → Board) : ObservedBoard :=
  b.withKernel (b.kernel.withBoard f)

/-- The second port, with the board lent to it. -/
def secondPort (b : ObservedBoard) : CortexM4 :=
  { b.spare with board := b.board }

/-- Takes the second port and the board back. -/
def withSecondPort (b : ObservedBoard) (p : CortexM4) : ObservedBoard :=
  { b.withBoard fun _ => p.board with spare := p }

/-- Makes a call. -/
def call (b : ObservedBoard) (c : Call) : Checked (Reply × ObservedBoard) := do
  let (reply, system) ← b.system.step c
  return (reply, { b with system })

end ObservedBoard

end Rtos.Bench

import Rtos.Port

/-!
# The Cortex-M4 port

Stacks come from a pool of memory, and a switch is only asked for: it pends the switch interrupt,
which runs when no atomic section is open any more. By then several passes may have run, so the port
keeps the task whose registers are really on the processor.

An initial frame is the sixteen words that the switch interrupt and the processor restore: R4 to
R11, then R0 to R3, R12, LR, PC and xPSR.
-/

namespace Rtos

/-- A word in the stack pool. Addresses of code are kept as what they point to. -/
inductive MemoryWord
  /-- A number. -/
  | value (n : UInt32)
  /-- Where a task starts. -/
  | entry (e : EntryPoint)
  /-- Where a task goes when its entry function returns. -/
  | taskExit
deriving DecidableEq, Repr

/-- The periodic timer. -/
structure SysTick where
  /-- The value from which it counts down, once it is set. -/
  reload : Option Nat
  /-- How often the present count was cleared. -/
  clears : Nat
  /-- Whether it counts the processor clock. -/
  coreClock : Bool
  /-- Whether it counts. -/
  counting : Bool
  /-- Whether it interrupts. -/
  interrupting : Bool
deriving DecidableEq, Repr

/-- What the port finds on the board: registers and the memory of the stack pool. -/
structure Board where
  /-- Whether the switch interrupt is pending. -/
  switchPending : Bool
  /-- The priorities of the switch interrupt and the timer, in the two highest bytes. -/
  priorities : UInt32
  /-- Whether interrupts are masked. -/
  masked : Bool
  /-- The timer. -/
  sysTick : SysTick
  /-- The stack pool, word by word. -/
  pool : Vector MemoryWord (maxTasks * stackSize / 4)
deriving DecidableEq, Repr

namespace Board

/-- A board after a reset. -/
def reset : Board where
  switchPending := false
  priorities := 0
  masked := false
  sysTick := ⟨none, 0, false, false, false⟩
  pool := .replicate _ (.value 0)

/-- Pends the switch interrupt. -/
def pendSwitch (b : Board) : Board :=
  { b with switchPending := true }

/-- Gives the switch interrupt and the timer the lowest priority. -/
def lowerPriorities (b : Board) : Board :=
  { b with priorities := b.priorities ||| 0xFFFF0000 }

/-- Lets the timer interrupt `hz` times a second, counting the processor clock. -/
def startSysTick (b : Board) (hz : Nat) : Checked Board := do
  let reload ← Word.sub (← Word.div systemClockHz hz) 1
  return { b with sysTick := ⟨some reload, b.sysTick.clears + 1, true, true, true⟩ }

end Board

/-- The bytes of a frame. -/
abbrev frameSize : Nat := 64

/-- The frame from which a first switch starts a task, lowest address first. -/
def initialFrame (entry : EntryPoint) : List MemoryWord :=
  List.replicate 13 (.value 0) ++ [.taskExit, .entry entry, .value 0x01000000]

/-- The state of the Cortex-M4 port. -/
structure CortexM4 where
  /-- The address of the stack pool, a multiple of eight. -/
  poolBase : Nat
  /-- Which stacks are in use. -/
  used : Vector Bool maxTasks
  /-- The task whose registers are on the processor. -/
  onCpu : Pid
  /-- The board. -/
  board : Board
deriving DecidableEq, Repr

namespace CortexM4

/-- A port with no stack in use. -/
def new (poolBase : Nat) (board : Board) : CortexM4 where
  poolBase := poolBase
  used := .replicate maxTasks false
  onCpu := idlePid
  board := board

/-- The stack in a slot of the pool. -/
def stackAt (p : CortexM4) (slot : Nat) : Stack :=
  ⟨p.poolBase + slot * stackSize, stackSize⟩

/-- The word of the pool that lies at an address. -/
def wordIndex? (p : CortexM4) (address : Nat) : Option Nat :=
  if p.poolBase ≤ address ∧ (address - p.poolBase) % 4 = 0 then
    some ((address - p.poolBase) / 4)
  else
    none

/-- Writes words upwards from an address. Nothing is written outside the pool. -/
def store (p : CortexM4) (address : Nat) : List MemoryWord → CortexM4
  | [] => p
  | word :: words =>
    let p := match p.wordIndex? address with
      | some i => { p with board := { p.board with pool := p.board.pool.setIfInBounds i word } }
      | none => p
    p.store (address + 4) words

/-- The frame at an address, if it lies in the pool. -/
def frame? (p : CortexM4) (address : Nat) : Option (List MemoryWord) := do
  let first ← p.wordIndex? address
  (List.range (frameSize / 4)).mapM fun i => p.board.pool[first + i]?

/-- Takes the first stack that is not in use. -/
def allocate (p : CortexM4) : Option (Stack × CortexM4) :=
  (firstUnused p.used).map fun (slot : Fin maxTasks) =>
    (p.stackAt slot, { p with used := p.used.set slot true slot.isLt })

/-- Gives a stack back; the slot follows from the address, and one above the pool is ignored. -/
def free (stack : Stack) (p : CortexM4) : Checked CortexM4 := do
  let slot := (← Word.sub stack.base p.poolBase) / stackSize
  return { p with used := p.used.setIfInBounds slot false }

/-- Lays out the initial frame at the top of a stack, below an address that is a multiple of
eight. -/
def layOut (stack : Stack) (entry : EntryPoint) (p : CortexM4) :
    Checked (Nat × CortexM4) := do
  let top := (← stack.top) / 8 * 8
  let stackPointer ← Word.sub top frameSize
  return (stackPointer, p.store stackPointer (initialFrame entry))

instance : Port CortexM4 where
  takeStack := allocate
  returnStack := free
  layOutStack := layOut
  switchTask _ saved _ _ p := (saved, { p with board := p.board.pendSwitch })
  startTimer hz p := do return { p with board := ← p.board.startSysTick hz }

end CortexM4

end Rtos

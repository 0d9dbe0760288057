import Rtos.Port

/-!
# The host port

A port without hardware: it hands out made-up stack addresses, keeps count of which stacks are in
use, and records context switches instead of performing them.
-/

namespace Rtos

/-- The state of the host port. -/
structure HostPort where
  /-- The first switches that were asked for, oldest first. -/
  switches : List (Pid × Pid)
  /-- Which stacks are in use. -/
  used : Vector Bool maxTasks
  /-- Makes every further request for a stack fail. -/
  refuseStacks : Bool
  /-- The rate of the timer, once it was started. -/
  timerHz : Option Nat
deriving DecidableEq, Repr

namespace HostPort

/-- The address of the first stack. -/
abbrev stackBase : Nat := 0x20000000

/-- How many switches are recorded; later ones are forgotten. -/
abbrev recordedSwitches : Nat := 256

/-- A port with no stack in use. -/
def new (refuseStacks : Bool) : HostPort where
  switches := []
  used := .replicate maxTasks false
  refuseStacks := refuseStacks
  timerHz := none

/-- The number of stacks in use. -/
def stacksUsed (p : HostPort) : Nat :=
  p.used.count true

/-- The newest recorded switch. -/
def lastSwitch (p : HostPort) : Option (Pid × Pid) :=
  p.switches.getLast?

/-- The stack in a slot of the pool. -/
def stackAt (slot : Nat) : Stack :=
  ⟨stackBase + slot * stackSize, stackSize⟩

/-- Takes the first stack that is not in use. -/
def allocate (p : HostPort) : Option (Stack × HostPort) :=
  if p.refuseStacks then
    none
  else
    (firstUnused p.used).map fun (slot : Fin maxTasks) =>
      (stackAt slot, { p with used := p.used.set slot true slot.isLt })

/-- Gives a stack back; the slot follows from the address. -/
def free (stack : Stack) (p : HostPort) : Checked HostPort := do
  let slot := (← Word.sub stack.base stackBase) / stackSize
  if h : slot < maxTasks then
    if p.used[slot] then
      return { p with used := p.used.set slot false }
    else
      .error (.doubleFree slot)
  else
    .error (.indexOutOfRange maxTasks slot)

/-- Records a switch, as long as there is room. -/
def recordSwitch (source target : Pid) (p : HostPort) : HostPort :=
  if p.switches.length < recordedSwitches then
    { p with switches := p.switches ++ [(source, target)] }
  else
    p

instance : Port HostPort where
  takeStack := allocate
  returnStack := free
  layOutStack stack _ p := do return (← Word.sub (← stack.top) 64, p)
  switchTask source saved target _ p := (saved, p.recordSwitch source target)
  startTimer hz p := .ok { p with timerHz := some hz }

end HostPort

end Rtos

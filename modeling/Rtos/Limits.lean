/-!
# Limits

The fixed sizes and rates of the kernel. Every table has its capacity here; nothing grows at run
time.
-/

namespace Rtos

/-- Slots of the task table, the idle task in slot 0 included. -/
abbrev maxTasks : Nat := 8

/-- Ticks per second; one tick is one scheduler pass. -/
abbrev tickHz : Nat := 1000

/-- Bytes of one task stack. -/
abbrev stackSize : Nat := 1024

/-- Frequency of the processor clock. -/
abbrev systemClockHz : Nat := 16000000

/-- Depth of the event queue of each kind. -/
abbrev queueDepth : Nat := 16

/-- Depth of the overflow queue that all kinds share. -/
abbrev overflowDepth : Nat := 8

/-- Number of event kinds. -/
abbrev eventKinds : Nat := 3

/-- Listener slots of each event kind. -/
abbrev maxListeners : Nat := 8

/-- Slots of the device registry. -/
abbrev maxDevices : Nat := 4

/-- Places in the wait queue of a mutex. -/
abbrev mutexWaiters : Nat := maxTasks

/-- Slots of the entity arena: the root, every task, every device, and every event that the queues
can hold at once. -/
abbrev entityCapacity : Nat :=
  1 + maxTasks + maxDevices + eventKinds * queueDepth + overflowDepth

/-- Bytes of each direction's buffer in a character device of the usual size. -/
abbrev deviceBufferSize : Nat := 64

/-- The ticks in a number of milliseconds, rounded down. -/
def ticksOfMillis (millis : UInt32) : UInt64 :=
  millis.toUInt64 * UInt64.ofNat tickHz / 1000

end Rtos

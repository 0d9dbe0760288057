import Rtos.Proofs.Port.Services

/-!
# Ports that record switches

A recording port keeps the switches that it was asked for, all of them or the first ones, and nothing
else it is asked for changes the record.  The host port is one.  Any other port becomes one by writing
down what it is asked for (`TracedPort`).
-/

namespace Rtos

/-- The first items of a list, as many as there is room for. -/
def fitting {α : Type} : Option Nat → List α → List α
  | none, items => items
  | some room, items => items.take room

@[simp] theorem fitting_nil {α : Type} (room : Option Nat) : fitting room ([] : List α) = [] := by
  cases room with
  | none => rfl
  | some room => exact List.take_nil

/-- A port that keeps a record of the switches it was asked for. -/
class RecordingPort (π : Type) [Port π] where
  /-- How many switches are kept, if not all are. -/
  room : Option Nat
  /-- The switches that are kept, oldest first. -/
  recorded : π → List (Pid × Pid)
  /-- Taking a stack is not recorded. -/
  recorded_take : ∀ {port port' : π} {stack}, Port.takeStack port = some (stack, port') →
    recorded port' = recorded port
  /-- Returning a stack is not recorded. -/
  recorded_return : ∀ {port port' : π} {stack}, Port.returnStack stack port = .ok port' →
    recorded port' = recorded port
  /-- Laying out a frame is not recorded. -/
  recorded_layOut : ∀ {port port' : π} {stack entry stackPointer},
    Port.layOutStack stack entry port = .ok (stackPointer, port') → recorded port' = recorded port
  /-- Starting the timer is not recorded. -/
  recorded_timer : ∀ {port port' : π} {hz}, Port.startTimer hz port = .ok port' →
    recorded port' = recorded port
  /-- A record of the first switches is one still behind another switch. -/
  recorded_switch : ∀ {port : π} {asked} (source saved target resumed),
    recorded port = fitting room asked →
      recorded (Port.switchTask source saved target resumed port).2 =
        fitting room (asked ++ [(source, target)])

/-- The record grows by the switches that a port is asked for. -/
theorem RecordingPort.recorded_of_serves {π : Type} [Port π] [RecordingPort π]
    {switches asked : List (Pid × Pid)} {port p : π} (h : Port.Serves switches port p)
    (start : recorded port = fitting (room π) asked) :
    recorded p = fitting (room π) (asked ++ switches) := by
  induction h with
  | refl => rwa [List.append_nil]
  | take _ take ih => exact (recorded_take take).trans (ih start)
  | giveBack _ back ih => exact (recorded_return back).trans (ih start)
  | layOut _ out ih => exact (recorded_layOut out).trans (ih start)
  | switch _ source saved target resumed ih =>
    rw [← List.append_assoc]
    exact recorded_switch source saved target resumed (ih start)

namespace HostPort

/-- The host port keeps the first switches. -/
instance : RecordingPort HostPort where
  room := some recordedSwitches
  recorded := switches
  recorded_take {p p' stack} take := by
    change allocate p = _ at take
    unfold allocate at take
    split at take
    case isTrue => cases take
    case isFalse =>
      obtain ⟨slot, -, eq⟩ := Option.map_eq_some_iff.1 take
      cases eq
      rfl
  recorded_return {p p' stack} back := by
    obtain ⟨offset, -, back⟩ := Checked.bind_eq_ok.1 back
    dsimp only at back
    split at back
    case isTrue =>
      split at back
      case isTrue => cases back; rfl
      case isFalse => cases back
    case isFalse => cases back
  recorded_layOut {p p' stack entry stackPointer} out := by
    obtain ⟨_, -, out⟩ := Checked.bind_eq_ok.1 out
    obtain ⟨_, -, eq⟩ := Checked.bind_eq_ok.1 out
    cases eq
    rfl
  recorded_timer started := by cases started; rfl
  recorded_switch {p asked} source saved target resumed start := by
    change (p.recordSwitch source target).switches = (asked ++ _).take recordedSwitches
    change p.switches = asked.take recordedSwitches at start
    unfold recordSwitch
    rw [start, List.length_take]
    split
    case isTrue room =>
      have short : asked.length < recordedSwitches := by omega
      rw [List.take_of_length_le (Nat.le_of_lt short), List.take_of_length_le]
      rw [List.length_append, List.length_singleton]
      exact short
    case isFalse full =>
      have long : recordedSwitches ≤ asked.length := by omega
      rw [start, List.take_append_of_le_length long]

end HostPort

/-- A port that writes down the switches that another port is asked for. -/
structure TracedPort (π : Type) where
  /-- The other port. -/
  port : π
  /-- The switches it was asked for, oldest first. -/
  asked : List (Pid × Pid)

namespace TracedPort

variable {π : Type} [Port π]

instance : Port (TracedPort π) where
  takeStack p := (Port.takeStack p.port).map fun (stack, port) => (stack, { p with port })
  returnStack stack p := do return { p with port := ← Port.returnStack stack p.port }
  layOutStack stack entry p := do
    let (stackPointer, port) ← Port.layOutStack stack entry p.port
    return (stackPointer, { p with port })
  switchTask source saved target resumed p :=
    let (stackPointer, port) := Port.switchTask source saved target resumed p.port
    (stackPointer, ⟨port, p.asked ++ [(source, target)]⟩)
  startTimer hz p := do return { p with port := ← Port.startTimer hz p.port }

/-- A traced port keeps all switches. -/
instance : RecordingPort (TracedPort π) where
  room := none
  recorded := asked
  recorded_take take := by
    obtain ⟨_, -, eq⟩ := Option.map_eq_some_iff.1 take
    cases eq
    rfl
  recorded_return back := by
    obtain ⟨_, -, eq⟩ := Checked.bind_eq_ok.1 back
    cases eq
    rfl
  recorded_layOut out := by
    obtain ⟨_, -, eq⟩ := Checked.bind_eq_ok.1 out
    cases eq
    rfl
  recorded_timer started := by
    obtain ⟨_, -, eq⟩ := Checked.bind_eq_ok.1 started
    cases eq
    rfl
  recorded_switch source _ target _ start := congrArg (· ++ [(source, target)]) start

end TracedPort

end Rtos

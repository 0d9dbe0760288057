import Rtos.Port.CortexM4
import Rtos.Port.Host

/-!
# What a port is asked for

Between two states of a port it was asked for stacks and frames, and for switches.  The switches are
listed in the order in which they were asked for; an empty list says that there was none.
-/

namespace Rtos

variable {π : Type} [Port π]

/-- A port gets from one state to another by its services, among them the switches of a list. -/
inductive Port.Serves : List (Pid × Pid) → π → π → Prop
  /-- It is asked for nothing. -/
  | refl (port : π) : Serves [] port port
  /-- It lends a stack. -/
  | take {switches : List (Pid × Pid)} {port p p' : π} {stack : Stack}
      (before : Serves switches port p) (take : Port.takeStack p = some (stack, p')) :
      Serves switches port p'
  /-- A stack comes back. -/
  | giveBack {switches : List (Pid × Pid)} {port p p' : π} {stack : Stack}
      (before : Serves switches port p) (back : Port.returnStack stack p = .ok p') :
      Serves switches port p'
  /-- It lays out a frame. -/
  | layOut {switches : List (Pid × Pid)} {port p p' : π} {stack : Stack} {entry : EntryPoint}
      {stackPointer : Nat} (before : Serves switches port p)
      (out : Port.layOutStack stack entry p = .ok (stackPointer, p')) : Serves switches port p'
  /-- It is asked for a switch. -/
  | switch {switches : List (Pid × Pid)} {port p : π} (before : Serves switches port p)
      (source : Pid) (saved : Nat) (target : Pid) (resumed : Nat) :
      Serves (switches ++ [(source, target)]) port
        (Port.switchTask source saved target resumed p).2

namespace Port.Serves

variable {switches more : List (Pid × Pid)} {port p p' : π}

theorem trans (first : Serves switches port p) (rest : Serves more p p') :
    Serves (switches ++ more) port p' := by
  induction rest with
  | refl => rw [List.append_nil]; exact first
  | take _ take ih => exact (ih first).take take
  | giveBack _ back ih => exact (ih first).giveBack back
  | layOut _ out ih => exact (ih first).layOut out
  | switch _ source saved target resumed ih =>
    rw [← List.append_assoc]
    exact (ih first).switch source saved target resumed

theorem single (port : π) (source : Pid) (saved : Nat) (target : Pid) (resumed : Nat) :
    Serves [(source, target)] port (Port.switchTask source saved target resumed port).2 :=
  (refl port).switch source saved target resumed

end Port.Serves

namespace CortexM4

variable {switches : List (Pid × Pid)} {port p p' : CortexM4}

theorem store_processor (p : CortexM4) (address : Nat) (words : List MemoryWord) :
    (p.store address words).onCpu = p.onCpu ∧
      (p.store address words).board.switchPending = p.board.switchPending := by
  induction words generalizing p address with
  | nil => exact ⟨rfl, rfl⟩
  | cons word words ih =>
    unfold store
    dsimp only
    split
    case h_1 i => exact ih { p with board := _ } (address + 4)
    case h_2 => exact ih p (address + 4)

/-- No service puts another task on the processor, and a switch is pended exactly by asking for
one. -/
theorem processor_of_serves (h : Port.Serves switches port p) :
    p.onCpu = port.onCpu ∧
      p.board.switchPending = (port.board.switchPending || !switches.isEmpty) := by
  induction h with
  | refl => exact ⟨rfl, by simp⟩
  | take before take ih =>
    obtain ⟨slot, -, eq⟩ := Option.map_eq_some_iff.1 take
    cases eq
    exact ih
  | giveBack before back ih =>
    obtain ⟨slot, -, eq⟩ := Checked.bind_eq_ok.1 back
    cases eq
    exact ih
  | @layOut switches port p p' stack entry stackPointer before out ih =>
    obtain ⟨_, -, out⟩ := Checked.bind_eq_ok.1 out
    obtain ⟨_, -, eq⟩ := Checked.bind_eq_ok.1 out
    cases eq
    obtain ⟨onCpu, pending⟩ := store_processor p stackPointer (initialFrame entry)
    rw [onCpu, pending]
    exact ih
  | @switch switches port p before source saved target resumed ih =>
    have listed : (switches ++ [(source, target)]).isEmpty = false := by simp
    rw [listed, Bool.not_false, Bool.or_true]
    exact ⟨ih.1, rfl⟩

end CortexM4

end Rtos

import Rtos.Port.CortexM4
import Rtos.Port.Host
import Rtos.Proofs.Table
import Mathlib.Data.List.FinRange

/-!
# Lawful ports

A port lends stacks, and takes back every stack that it has lent.  Nothing else changes what is
lent. Both ports keep to this, and both leave what a switch saves to be saved later.  A stack that is
returned as soon as it was taken leaves nothing behind.  As long as the pool lies within the address
space, a frame finds its place on every stack that is lent.
-/

namespace Rtos

/-- A port that takes back what it lends. -/
class LawfulPort (π : Type) [Port π] where
  /-- The stacks that are lent. -/
  lent : π → List Stack
  /-- A stack that is taken is lent. -/
  lent_take : ∀ {port port' : π} {stack}, Port.takeStack port = some (stack, port') →
    (lent port').Perm (stack :: lent port)
  /-- A stack that is lent can be returned. -/
  returns : ∀ {port : π} {stack}, stack ∈ lent port →
    ∃ port', Port.returnStack stack port = .ok port' ∧ (lent port).Perm (stack :: lent port')
  /-- Laying out a frame changes nothing of that. -/
  lent_layOut : ∀ {port port' : π} {stack entry stackPointer},
    Port.layOutStack stack entry port = .ok (stackPointer, port') → (lent port').Perm (lent port)
  /-- A switch lends and returns nothing. -/
  lent_switch : ∀ (port : π) (source saved target resumed),
    (lent (Port.switchTask source saved target resumed port).2).Perm (lent port)

/-- A port that is as it was behind a stack that it took and returned. -/
class RestoringPort (π : Type) [Port π] : Prop where
  /-- Returning a stack undoes the taking of it. -/
  restores : ∀ {port port' : π} {stack}, Port.takeStack port = some (stack, port') →
    Port.returnStack stack port' = .ok port

/-- A port that answers a switch with the stack pointer it was given: what it saves itself, it saves
later. -/
class DeferringPort (π : Type) [Port π] : Prop where
  /-- The pointer to save is the one that was saved. -/
  keeps : ∀ (source : Pid) (saved : Nat) (target : Pid) (resumed : Nat) (port : π),
    (Port.switchTask source saved target resumed port).1 = saved

/-- A lawful port that finds a place for a frame on every stack that it has lent. -/
class ReliablePort (π : Type) [Port π] extends LawfulPort π where
  /-- The pool of stacks lies within the address space. -/
  Placed : π → Prop
  /-- Taking a stack leaves the pool in its place. -/
  placed_take : ∀ {port port' : π} {stack}, Port.takeStack port = some (stack, port') →
    Placed port → Placed port'
  /-- Returning a stack leaves the pool in its place. -/
  placed_return : ∀ {port port' : π} {stack}, Port.returnStack stack port = .ok port' →
    Placed port → Placed port'
  /-- Laying out a frame leaves the pool in its place. -/
  placed_layOut : ∀ {port port' : π} {stack entry stackPointer},
    Port.layOutStack stack entry port = .ok (stackPointer, port') → Placed port → Placed port'
  /-- A switch leaves the pool in its place. -/
  placed_switch : ∀ {port : π} (source saved target resumed), Placed port →
    Placed (Port.switchTask source saved target resumed port).2
  /-- A frame finds its place. -/
  lays : ∀ {port : π} {stack} (entry : EntryPoint), Placed port → stack ∈ lent port →
    ∃ out, Port.layOutStack stack entry port = .ok out
  /-- The timer of the kernel can be started. -/
  starts : ∀ port : π, ∃ port', Port.startTimer tickHz port = .ok port'

/-! ## Pools of slots -/

/-- The slots in use. -/
def slotsUsed {n : Nat} (used : Vector Bool n) : List (Fin n) :=
  (List.finRange n).filter used.get

namespace slotsUsed

variable {n : Nat} {used : Vector Bool n} {slot : Fin n}

theorem nodup (used : Vector Bool n) : (slotsUsed used).Nodup :=
  (List.nodup_finRange n).filter _

theorem mem {i : Fin n} : i ∈ slotsUsed used ↔ used.get i = true := by
  simp [slotsUsed]

theorem take (free : used.get slot = false) :
    (slotsUsed (used.set slot true slot.isLt)).Perm (slot :: slotsUsed used) := by
  refine (List.perm_ext_iff_of_nodup (nodup _) ?_).2 fun i => ?_
  · rw [List.nodup_cons]
    exact ⟨fun taken => (by cases free.symm.trans (mem.1 taken)), nodup _⟩
  · rw [List.mem_cons, mem, mem]
    rw [Table.get_set]
    by_cases eq : slot = i
    · simp [eq]
    · simp [eq, Ne.symm eq]

theorem giveBack (taken : used.get slot = true) :
    (slotsUsed used).Perm (slot :: slotsUsed (used.set slot false slot.isLt)) := by
  have same : (used.set slot false slot.isLt).set slot true slot.isLt = used := by
    rw [Vector.set_set]
    ext i lt
    rw [Vector.getElem_set]
    split
    case isTrue eq => subst eq; exact taken.symm
    case isFalse => rfl
  have free : (used.set slot false slot.isLt).get slot = false := by
    rw [Table.get_set, if_pos rfl]
  simpa only [same] using take free

/-- Giving back what was taken undoes the taking. -/
theorem giveBack_take (free : used.get slot = false) :
    (used.set slot true slot.isLt).set slot false slot.isLt = used := by
  rw [Vector.set_set]
  ext i lt
  rw [Vector.getElem_set]
  split
  case isTrue eq => subst eq; exact free.symm
  case isFalse => rfl

end slotsUsed

theorem unused_of_firstUnused {used : Vector Bool maxTasks} {slot : Fin maxTasks}
    (h : firstUnused used = some slot) : used.get slot = false := by
  have unused : (!used.get slot) = true := Table.of_findFinIdx? h
  simpa using unused

/-! ## The ports -/

namespace HostPort

theorem free_stackAt {p : HostPort} {slot : Fin maxTasks} (taken : p.used.get slot = true) :
    free (stackAt slot) p = .ok { p with used := p.used.set slot false } := by
  have offset : Word.sub (stackAt slot).base stackBase = .ok (slot * stackSize) :=
    Word.sub_eq_ok.2 ⟨by simp [stackAt], by simp [stackAt]⟩
  have index : (slot * stackSize) / stackSize = slot.val := Nat.mul_div_cancel _ (by decide)
  simp only [free, offset, bind, Except.bind, index, slot.isLt, dite_true]
  exact if_pos taken

/-- The host port lends a stack for each slot in use. -/
instance : LawfulPort HostPort where
  lent p := (slotsUsed p.used).map fun slot : Fin maxTasks => stackAt slot
  lent_take {p p' stack} take := by
    change allocate p = _ at take
    unfold allocate at take
    split at take
    case isTrue => cases take
    case isFalse =>
      obtain ⟨slot, free, eq⟩ := Option.map_eq_some_iff.1 take
      cases eq
      exact (slotsUsed.take (unused_of_firstUnused free)).map _
  returns {p stack} lent := by
    obtain ⟨slot, used, rfl⟩ := List.mem_map.1 lent
    have taken := slotsUsed.mem.1 used
    exact ⟨_, free_stackAt taken, (slotsUsed.giveBack taken).map _⟩
  lent_layOut {p p' stack entry stackPointer} h := by
    obtain ⟨_, -, h⟩ := Checked.bind_eq_ok.1 h
    obtain ⟨_, -, eq⟩ := Checked.bind_eq_ok.1 h
    cases eq
    rfl
  lent_switch p source saved target resumed := by
    have same : (p.recordSwitch source target).used = p.used := by
      unfold recordSwitch
      split <;> rfl
    change ((slotsUsed (p.recordSwitch source target).used).map _).Perm _
    rw [same]

instance : RestoringPort HostPort where
  restores {p p' stack} take := by
    change allocate p = _ at take
    unfold allocate at take
    split at take
    case isTrue => cases take
    case isFalse =>
      obtain ⟨slot, unused, eq⟩ := Option.map_eq_some_iff.1 take
      cases eq
      have vacant := unused_of_firstUnused unused
      have taken : (p.used.set slot true slot.isLt).get slot = true := by
        rw [Table.get_set, if_pos rfl]
      have back := free_stackAt (p := { p with used := p.used.set slot true slot.isLt }) taken
      rw [slotsUsed.giveBack_take vacant] at back
      exact back

instance : DeferringPort HostPort where
  keeps _ _ _ _ _ := rfl

/-- The made-up addresses of the host port are low enough for a frame. -/
instance : ReliablePort HostPort where
  Placed _ := True
  placed_take _ := id
  placed_return _ := id
  placed_layOut _ := id
  placed_switch _ _ _ _ := id
  lays {p stack} entry _ lent := by
    obtain ⟨slot, -, rfl⟩ := List.mem_map.1 lent
    have lt : slot.val < 8 := slot.isLt
    have top : (stackAt slot).top = .ok (stackBase + slot * stackSize + stackSize) :=
      Word.add_eq_ok.2 ⟨by simp only [stackAt, stackBase, stackSize, Word.limit]; omega, rfl⟩
    have frame : Word.sub (stackBase + slot * stackSize + stackSize) 64 =
        .ok (stackBase + slot * stackSize + stackSize - 64) :=
      Word.sub_eq_ok.2 ⟨by simp only [stackBase, stackSize]; omega, rfl⟩
    refine Checked.bind_total ⟨_, top⟩ fun _ eq => ?_
    cases top.symm.trans eq
    exact Checked.bind_total ⟨_, frame⟩ fun _ _ => ⟨_, rfl⟩
  starts _ := ⟨_, rfl⟩

end HostPort

namespace CortexM4

theorem store_pool (p : CortexM4) (address : Nat) (words : List MemoryWord) :
    (p.store address words).poolBase = p.poolBase ∧ (p.store address words).used = p.used := by
  induction words generalizing p address with
  | nil => exact ⟨rfl, rfl⟩
  | cons word words ih =>
    unfold store
    dsimp only
    split
    case h_1 i => exact ih { p with board := _ } (address + 4)
    case h_2 => exact ih p (address + 4)

theorem free_stackAt (p : CortexM4) (slot : Fin maxTasks) :
    free (p.stackAt slot) p = .ok { p with used := p.used.set slot false } := by
  have offset : Word.sub (p.stackAt slot).base p.poolBase = .ok (slot * stackSize) :=
    Word.sub_eq_ok.2 ⟨by simp [stackAt], by simp [stackAt]⟩
  have index : (slot * stackSize) / stackSize = slot.val := Nat.mul_div_cancel _ (by decide)
  have inPool : p.used.setIfInBounds slot false = p.used.set slot false := by
    ext i lt
    rw [Vector.getElem_setIfInBounds, Vector.getElem_set]
  simp only [free, offset, bind, Except.bind, index, inPool]
  rfl

/-- The Cortex-M4 port lends a stack for each slot in use. -/
instance : LawfulPort CortexM4 where
  lent p := (slotsUsed p.used).map fun slot : Fin maxTasks => p.stackAt slot
  lent_take {p p' stack} take := by
    obtain ⟨slot, free, eq⟩ := Option.map_eq_some_iff.1 take
    cases eq
    exact (slotsUsed.take (unused_of_firstUnused free)).map _
  returns {p stack} lent := by
    obtain ⟨slot, used, rfl⟩ := List.mem_map.1 lent
    have taken := slotsUsed.mem.1 used
    exact ⟨_, free_stackAt p slot, (slotsUsed.giveBack taken).map _⟩
  lent_layOut {p p' stack entry stackPointer} h := by
    obtain ⟨_, -, h⟩ := Checked.bind_eq_ok.1 h
    obtain ⟨_, -, eq⟩ := Checked.bind_eq_ok.1 h
    cases eq
    obtain ⟨base, used⟩ := store_pool p stackPointer (initialFrame entry)
    simp only [stackAt, base, used]
    rfl
  lent_switch p source saved target resumed := .refl _

instance : RestoringPort CortexM4 where
  restores {p p' stack} take := by
    obtain ⟨slot, unused, eq⟩ := Option.map_eq_some_iff.1 take
    cases eq
    have back := free_stackAt { p with used := p.used.set slot true slot.isLt } slot
    rw [slotsUsed.giveBack_take (unused_of_firstUnused unused)] at back
    exact back

instance : DeferringPort CortexM4 where
  keeps _ _ _ _ _ := rfl

/-- The addresses of the pool are words, so a frame finds a place. -/
instance : ReliablePort CortexM4 where
  Placed p := p.poolBase + maxTasks * stackSize < Word.limit
  placed_take {p p' stack} take placed := by
    obtain ⟨slot, -, eq⟩ := Option.map_eq_some_iff.1 take
    cases eq
    exact placed
  placed_return {p p' stack} back placed := by
    obtain ⟨slot, -, eq⟩ := Checked.bind_eq_ok.1 back
    cases eq
    exact placed
  placed_layOut {p p' stack entry stackPointer} h placed := by
    obtain ⟨_, -, h⟩ := Checked.bind_eq_ok.1 h
    obtain ⟨_, -, eq⟩ := Checked.bind_eq_ok.1 h
    cases eq
    obtain ⟨base, -⟩ := store_pool p stackPointer (initialFrame entry)
    rw [base]
    exact placed
  placed_switch _ _ _ _ := id
  lays {p stack} entry placed lent := by
    obtain ⟨slot, -, rfl⟩ := List.mem_map.1 lent
    have lt : slot.val < 8 := slot.isLt
    simp only [maxTasks, stackSize, Word.limit] at placed
    obtain ⟨high, top, room⟩ : ∃ high, (p.stackAt slot).top = .ok high ∧ 64 ≤ high / 8 * 8 :=
      ⟨_, Word.add_eq_ok.2 ⟨by simp only [stackAt, stackSize, Word.limit]; omega, rfl⟩,
        by simp only [stackAt, stackSize]; omega⟩
    have frame : Word.sub (high / 8 * 8) frameSize = .ok (high / 8 * 8 - frameSize) :=
      Word.sub_eq_ok.2 ⟨room, rfl⟩
    change ∃ out, layOut (p.stackAt slot) entry p = .ok out
    unfold layOut
    refine Checked.bind_total ⟨_, top⟩ fun _ eq => ?_
    cases top.symm.trans eq
    exact Checked.bind_total ⟨_, frame⟩ fun _ _ => ⟨_, rfl⟩
  starts p := by
    have rate : Word.div systemClockHz tickHz = .ok (systemClockHz / tickHz) := if_neg nofun
    have reload : Word.sub (systemClockHz / tickHz) 1 = .ok (systemClockHz / tickHz - 1) :=
      Word.sub_eq_ok.2 ⟨by decide, rfl⟩
    refine Checked.bind_total (Checked.bind_total ⟨_, rate⟩ fun _ eq => ?_) fun _ _ => ⟨_, rfl⟩
    cases rate.symm.trans eq
    exact Checked.bind_total ⟨_, reload⟩ fun _ _ => ⟨_, rfl⟩

end CortexM4

end Rtos

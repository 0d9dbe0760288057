import Rtos.Proofs.System.FifoLock
import Rtos.Proofs.Table
import Mathlib.Data.List.Nodup
import Mathlib.Logic.Function.Basic

/-!
# Exits as parents see them

The number of a task is used again once the task is reaped, so a task is told apart from others by
its birth as well (`Life`).  A ledger keeps who lives, who created whom, and the exits that each task
was not told of yet, oldest first.  It is read off the calls that were made and their answers
(`Ledger.of`).  No exit stands in it twice, and who is told of an exit is the one who created the task
that exited (`Ledger.Orderly`).
-/

namespace Rtos

/-- A task, told apart from those that had its number before. -/
structure Life where
  /-- Its number. -/
  pid : Pid
  /-- How many tasks there were before it. -/
  birth : Nat
deriving DecidableEq, Repr

/-- The idle task was there first. -/
def Life.idle : Life :=
  ⟨idlePid, 0⟩

/-- The exit of a task. -/
structure Passing where
  /-- Who exited. -/
  child : Life
  /-- With which status. -/
  status : Int
deriving DecidableEq, Repr

/-- What a parent is told of it. -/
def Passing.exit (p : Passing) : Pid × Int :=
  (p.child.pid, p.status)

/-- What happens in a family. -/
inductive FamilyEvent
  /-- The caller creates a child. -/
  | bears (child : Pid)
  /-- The caller exits. -/
  | dies (status : Int)
  /-- The caller, who waits for a child that the filter accepts, is told of an exit. -/
  | learns (filter : ChildFilter) (exit : Pid × Int)
deriving DecidableEq, Repr

/-- What an observation says of the caller's family. -/
def Observation.family? (o : Observation) : Option FamilyEvent :=
  match o.call, o.reply with
  | .spawn _, .number child => some (.bears child)
  | .exit status, .done => some (.dies status)
  | .waitChild filter _, .child (.done exit) => some (.learns filter exit)
  | _, _ => none

/-- Who is told of an exit, and of which. -/
def FamilyEvent.answer? (caller : Pid) : FamilyEvent → Option (Pid × (Pid × Int))
  | learns _ exit => some (caller, exit)
  | _ => none

/-- What an observation says of exits that are told. -/
def Observation.answer? (o : Observation) : Option (Pid × (Pid × Int)) :=
  o.family?.bind (·.answer? o.caller)

/-! ## The ledger -/

/-- Who lives, and which exits nobody was told of. -/
structure Ledger where
  /-- How many tasks there have been. -/
  births : Nat
  /-- Those that have not exited. -/
  living : List Life
  /-- Who created a task. -/
  parent : Life → Life
  /-- The exits of the children of a task that it was not told of, oldest first. -/
  pending : Life → List Passing
  /-- Who was told of which exit. -/
  told : List (Life × Passing)

namespace Ledger

/-- At first there is the idle task. -/
def start : Ledger where
  births := 1
  living := [.idle]
  parent _ := .idle
  pending _ := []
  told := []

/-- Who has a number now. -/
def holder? (l : Ledger) (pid : Pid) : Option Life :=
  l.living.find? (·.pid = pid)

/-- A task gets a child. -/
def bear (l : Ledger) (life : Life) (pid : Pid) : Ledger :=
  { l with
    births := l.births + 1
    living := ⟨pid, l.births⟩ :: l.living
    parent := Function.update l.parent ⟨pid, l.births⟩ life }

/-- A task exits. The exits that it was not told of are forgotten. Its own is the newest that its
parent was not told of, if the parent lives and is not the idle task; else nobody is ever told. -/
def bury (l : Ledger) (life : Life) (status : Int) : Ledger :=
  { l with
    living := l.living.erase life
    pending := fun other =>
      if other = life then []
      else if other = l.parent life ∧ other ≠ .idle ∧ other ∈ l.living then
        l.pending other ++ [⟨life, status⟩]
      else l.pending other }

/-- A task is told of the oldest exit of a child that the filter accepts. -/
def tell (l : Ledger) (life : Life) (filter : ChildFilter) : Ledger :=
  { l with
    pending := Function.update l.pending life
      ((l.pending life).eraseP (filter.accepts ·.child.pid))
    told :=
      match (l.pending life).find? (filter.accepts ·.child.pid) with
      | some passing => (life, passing) :: l.told
      | none => l.told }

/-- What the ledger becomes when something happens, or nothing, in the family of the task that has the
number `caller`. -/
def next (l : Ledger) (caller : Pid) (event : Option FamilyEvent) : Ledger :=
  match l.holder? caller, event with
  | some life, some (.bears child) => l.bear life child
  | some life, some (.dies status) => l.bury life status
  | some life, some (.learns filter _) => l.tell life filter
  | _, _ => l

/-- The ledger that a log of observations, newest first, tells of. -/
def of : List Observation → Ledger
  | [] => start
  | o :: log => (of log).next o.caller o.family?

/-- Who was told of which exit, by numbers, newest first. -/
def answers (l : Ledger) : List (Pid × (Pid × Int)) :=
  l.told.map fun entry => (entry.1.pid, entry.2.exit)

section Changes

variable {l : Ledger} {life other : Life} {pid : Pid} {filter : ChildFilter} {passing : Passing}

theorem next_none (caller : Pid) : l.next caller none = l := by
  unfold next
  split <;> trivial

@[simp] theorem parent_bear_self : (l.bear life pid).parent ⟨pid, l.births⟩ = life :=
  Function.update_self _ _ _

theorem parent_bear_of_ne (old : other ≠ ⟨pid, l.births⟩) :
    (l.bear life pid).parent other = l.parent other :=
  Function.update_of_ne old _ _

/-- What is kept behind an exit was kept before, or is that exit. -/
theorem mem_pending_bury {status : Int} (mem : passing ∈ (l.bury life status).pending other) :
    passing ∈ l.pending other ∨ passing = ⟨life, status⟩ ∧ other = l.parent life := by
  simp only [bury] at mem
  split at mem
  case isTrue => cases mem
  case isFalse =>
    split at mem
    case isTrue heir =>
      rcases List.mem_append.1 mem with mem | mem
      · exact .inl mem
      · exact .inr ⟨List.mem_singleton.1 mem, heir.1⟩
    case isFalse => exact .inl mem

@[simp] theorem pending_tell_self : (l.tell life filter).pending life =
    (l.pending life).eraseP (filter.accepts ·.child.pid) :=
  Function.update_self _ _ _

theorem pending_tell_of_ne (ne : other ≠ life) :
    (l.tell life filter).pending other = l.pending other :=
  Function.update_of_ne ne _ _

/-- What is kept behind the telling was kept before, in that order. -/
theorem pending_tell_sublist : ((l.tell life filter).pending other).Sublist (l.pending other) := by
  by_cases self : other = life
  · rw [self, pending_tell_self]
    exact List.eraseP_sublist
  · rw [pending_tell_of_ne self]

theorem told_tell (found : (l.pending life).find? (filter.accepts ·.child.pid) = some passing) :
    (l.tell life filter).told = (life, passing) :: l.told := by
  simp only [tell, found]

theorem mem_told_tell {entry : Life × Passing} (mem : entry ∈ (l.tell life filter).told) :
    entry ∈ l.told ∨ entry.1 = life ∧
      (l.pending life).find? (filter.accepts ·.child.pid) = some entry.2 := by
  simp only [tell] at mem
  split at mem
  case h_1 passing found =>
    rcases List.mem_cons.1 mem with rfl | mem
    · exact .inr ⟨rfl, found⟩
    · exact .inl mem
  case h_2 => exact .inl mem

end Changes

/-! ## Exits stand once -/

/-- No exit stands twice, and each is kept for the task that created the one that exited. -/
structure Orderly (l : Ledger) : Prop where
  /-- Who lives was born. -/
  born : ∀ life ∈ l.living, life.birth < l.births
  /-- Nobody lives twice. -/
  nodup : l.living.Nodup
  /-- Nothing is kept for those who do not live. -/
  dropped : ∀ life, life ∉ l.living → l.pending life = []
  /-- Who exited lives no more, and was a child of the one for whom the exit is kept. -/
  kept : ∀ life, ∀ p ∈ l.pending life,
    p.child ∉ l.living ∧ p.child.birth < l.births ∧ l.parent p.child = life
  /-- An exit is kept once. -/
  once : ∀ life, ((l.pending life).map (·.child)).Nodup
  /-- Who is told of an exit created the one that exited, who lives no more. -/
  learnt : ∀ entry ∈ l.told,
    entry.2.child ∉ l.living ∧ entry.2.child.birth < l.births ∧ l.parent entry.2.child = entry.1
  /-- Nobody is told twice of an exit. -/
  unique : (l.told.map (·.2.child)).Nodup
  /-- An exit that somebody was told of is kept no more. -/
  apart : ∀ life, ∀ p ∈ l.pending life, p.child ∉ l.told.map (·.2.child)

namespace Orderly

variable {l : Ledger} {life : Life}

theorem start : start.Orderly where
  born life mem := by cases List.mem_singleton.1 mem; exact Nat.one_pos
  nodup := List.nodup_singleton _
  dropped _ _ := rfl
  kept := nofun
  once _ := List.nodup_nil
  learnt := nofun
  unique := List.nodup_nil
  apart := nofun

theorem bear (h : l.Orderly) (life : Life) (pid : Pid) : (l.bear life pid).Orderly := by
  -- whoever was born before is not the newborn
  have old {other : Life} (born : other.birth < l.births) : other ≠ ⟨pid, l.births⟩ := by
    rintro rfl
    exact Nat.lt_irrefl _ born
  have stays {other above : Life} (is : other ∉ l.living ∧ other.birth < l.births ∧
      l.parent other = above) : other ∉ (l.bear life pid).living ∧
        other.birth < (l.bear life pid).births ∧ (l.bear life pid).parent other = above := by
    obtain ⟨gone, born, parent⟩ := is
    refine ⟨?_, Nat.lt_succ_of_lt born, ?_⟩
    · rw [Ledger.bear, List.mem_cons, not_or]
      exact ⟨old born, gone⟩
    · exact (parent_bear_of_ne (old born)).trans parent
  constructor
  case born =>
    intro other mem
    rcases List.mem_cons.1 mem with rfl | mem
    · exact Nat.lt_succ_self _
    · exact Nat.lt_succ_of_lt (h.born other mem)
  case nodup => exact List.nodup_cons.2 ⟨fun mem => old (h.born _ mem) rfl, h.nodup⟩
  case dropped =>
    intro other gone
    exact h.dropped other fun mem => gone (List.mem_cons_of_mem _ mem)
  case kept =>
    intro other p mem
    exact stays (h.kept other p mem)
  case once => exact h.once
  case learnt =>
    intro entry mem
    exact stays (h.learnt entry mem)
  case unique => exact h.unique
  case apart => exact h.apart

theorem bury (h : l.Orderly) (lives : life ∈ l.living) (status : Int) :
    (l.bury life status).Orderly := by
  have stays {other above : Life} (is : other ∉ l.living ∧ other.birth < l.births ∧
      l.parent other = above) : other ∉ (l.bury life status).living ∧
        other.birth < (l.bury life status).births ∧ (l.bury life status).parent other = above :=
    ⟨fun mem => is.1 (List.mem_of_mem_erase mem), is.2⟩
  have gone : life ∉ l.living.erase life := by
    rw [h.nodup.mem_erase_iff]
    exact fun mem => mem.1 rfl
  constructor
  case born =>
    intro other mem
    exact h.born other (List.mem_of_mem_erase mem)
  case nodup => exact h.nodup.erase life
  case dropped =>
    intro other gone
    simp only [Ledger.bury]
    split
    case isTrue => rfl
    case isFalse self =>
      have gone : other ∉ l.living := fun mem => gone ((List.mem_erase_of_ne self).2 mem)
      rw [if_neg fun heir => gone heir.2.2]
      exact h.dropped other gone
  case kept =>
    intro other p mem
    rcases mem_pending_bury mem with mem | ⟨rfl, rfl⟩
    · exact stays (h.kept other p mem)
    · exact ⟨gone, h.born life lives, rfl⟩
  case once =>
    intro other
    simp only [Ledger.bury]
    split
    case isTrue => exact List.nodup_nil
    case isFalse =>
      split
      case isFalse => exact h.once other
      case isTrue =>
        rw [List.map_append, List.nodup_append]
        refine ⟨h.once other, List.nodup_singleton _, ?_⟩
        intro child kept newest mem same
        obtain ⟨p, queued, is⟩ := List.mem_map.1 kept
        rw [List.map_singleton, List.mem_singleton] at mem
        exact (h.kept other p queued).1 (by rw [is, same, mem]; exact lives)
  case learnt =>
    intro entry mem
    exact stays (h.learnt entry mem)
  case unique => exact h.unique
  case apart =>
    intro other p mem
    rcases mem_pending_bury mem with mem | ⟨rfl, -⟩
    · exact h.apart other p mem
    · intro told
      obtain ⟨entry, mem, is⟩ := List.mem_map.1 told
      exact (h.learnt entry mem).1 (is ▸ lives)

theorem tell (h : l.Orderly) (life : Life) (filter : ChildFilter) :
    (l.tell life filter).Orderly := by
  -- what is kept is another exit than the one that is told
  have apart {other : Life} {p passing : Passing}
      (found : (l.pending life).find? (filter.accepts ·.child.pid) = some passing)
      (mem : p ∈ (l.tell life filter).pending other) : p.child ≠ passing.child := by
    have kept := List.mem_of_find?_eq_some found
    intro same
    by_cases self : other = life
    · rw [self, pending_tell_self] at mem
      have perm := (Table.perm_cons_eraseP found).map (·.child)
      have distinct := perm.nodup (h.once life)
      rw [List.map_cons, List.nodup_cons] at distinct
      exact distinct.1 (same ▸ List.mem_map_of_mem mem)
    · refine self ?_
      rw [← (h.kept other p (pending_tell_sublist.subset mem)).2.2, same]
      exact (h.kept life passing kept).2.2
  constructor
  case born => exact h.born
  case nodup => exact h.nodup
  case dropped =>
    intro other gone
    exact List.sublist_nil.1 (h.dropped other gone ▸ pending_tell_sublist)
  case kept =>
    intro other p mem
    exact h.kept other p (pending_tell_sublist.subset mem)
  case once =>
    intro other
    exact (h.once other).sublist (pending_tell_sublist.map _)
  case learnt =>
    intro entry mem
    rcases mem_told_tell mem with mem | ⟨rfl, found⟩
    · exact h.learnt entry mem
    · exact h.kept entry.1 entry.2 (List.mem_of_find?_eq_some found)
  case unique =>
    simp only [Ledger.tell]
    split
    case h_1 passing found =>
      exact List.nodup_cons.2 ⟨h.apart life passing (List.mem_of_find?_eq_some found), h.unique⟩
    case h_2 => exact h.unique
  case apart =>
    intro other p mem told
    obtain ⟨entry, mem', same⟩ := List.mem_map.1 told
    rcases mem_told_tell mem' with mem' | ⟨rfl, found⟩
    · exact h.apart other p (pending_tell_sublist.subset mem) (same ▸ List.mem_map_of_mem mem')
    · exact apart found mem same.symm

/-- Whatever happens, a ledger stays in order. -/
theorem next (h : l.Orderly) (caller : Pid) (event : Option FamilyEvent) :
    (l.next caller event).Orderly := by
  unfold Ledger.next
  split
  case h_1 _ life child _ => exact h.bear life child
  case h_2 _ life status found => exact h.bury (List.mem_of_find?_eq_some found) status
  case h_3 _ life filter _ _ => exact h.tell life filter
  case h_4 => exact h

end Orderly

/-- The ledger of a log is in order. -/
theorem orderly_of (log : List Observation) : (of log).Orderly := by
  induction log with
  | nil => exact .start
  | cons o log ih => exact ih.next o.caller o.family?

end Ledger

end Rtos

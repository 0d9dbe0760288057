import Rtos.Task
import Rtos.Proofs.Table

/-!
# Reaping dead children

A task keeps the records of its dead children in a bounded queue, oldest first, and looks for one of
them by turning the whole queue.  Whatever the filter, that takes the oldest record that it accepts and
leaves the others as they were (`Task.reap_takes_oldest`): each finds a place again at the back, also
in a full queue, and when all have come by they stand in their old order.
-/

namespace Rtos.Task

variable {t t' : Task} {filter : ChildFilter} {child : ExitRecord}

/-! ## What is reaped -/

/-- Reaping searches the list, and changes nothing else. -/
theorem reap_eq (t : Task) (filter : ChildFilter) :
    ∃ unreaped, t.reap filter =
        (t.unreaped.items.find? fun r => filter.accepts r.pid, { t with unreaped }) ∧
      unreaped.items = t.unreaped.items.eraseP fun r => filter.accepts r.pid := by
  obtain ⟨found, rest⟩ := t.unreaped.extract_eq fun r => filter.accepts r.pid
  exact ⟨_, congrArg (·, _) found, rest⟩

theorem reap_of_refused (refused : ∀ r ∈ t.unreaped.items, filter.accepts r.pid = false) :
    t.reap filter = (none, t) := by
  have refused : ∀ r ∈ t.unreaped.items, ¬filter.accepts r.pid = true :=
    fun r mem => Bool.not_eq_true _ ▸ refused r mem
  obtain ⟨⟨items, bound⟩, eq, rest⟩ := t.reap_eq filter
  cases (rest.trans (List.eraseP_of_forall_not refused) : items = t.unreaped.items)
  rw [eq, List.find?_eq_none.2 refused]

theorem reap_of_reap? (h : t.reap? filter = some (child, t')) :
    t.reap filter = (some child, t') := by
  obtain ⟨_, found, eq⟩ := Option.map_eq_some_iff.1 h
  cases eq
  exact Prod.ext found rfl

theorem reap?_eq_some (h : t.reap? filter = some (child, t')) :
    ∃ unreaped, t' = { t with unreaped } ∧
      t.unreaped.items.find? (fun r => filter.accepts r.pid) = some child ∧
      unreaped.items = t.unreaped.items.eraseP (fun r => filter.accepts r.pid) ∧
      t.unreaped.items.Perm (child :: unreaped.items) := by
  obtain ⟨unreaped, eq, rest⟩ := t.reap_eq filter
  obtain ⟨found, rfl⟩ := Prod.mk.inj (eq.symm.trans (reap_of_reap? h))
  exact ⟨unreaped, rfl, found, rest, rest ▸ Table.perm_cons_eraseP found⟩

theorem reap?_eq_none :
    t.reap? filter = none ↔ ∀ r ∈ t.unreaped.items, filter.accepts r.pid = false := by
  obtain ⟨unreaped, eq, -⟩ := t.reap_eq filter
  simp [reap?, eq]

/-! ## What is left -/

/-- What reaping hands out, and how it leaves the task. -/
structure Reaped (t : Task) (filter : ChildFilter) (found : Option ExitRecord) (t' : Task) :
    Prop where
  /-- Nothing is handed out exactly if the filter accepts no record. -/
  none_iff : found = none ↔ ∀ r ∈ t.unreaped.items, filter.accepts r.pid = false
  /-- If nothing is handed out, nothing has changed. -/
  unchanged : found = none → t' = t
  /-- A record that is handed out is the oldest that the filter accepts, and it alone is gone. -/
  oldest : ∀ r, found = some r → filter.accepts r.pid = true ∧ ∃ older newer,
    (∀ r' ∈ older, filter.accepts r'.pid = false) ∧ t.unreaped.items = older ++ r :: newer ∧
      t'.unreaped.items = older ++ newer ∧ t' = { t with unreaped := t'.unreaped }
  /-- On the way, the records that have come by stand behind the others, but for the one that was
  found among them. -/
  turned : ∀ n ≤ t.unreaped.length, ∃ unreaped,
    t.unreaped.turn (fun r => filter.accepts r.pid) n none =
        ((t.unreaped.items.take n).find? fun r => filter.accepts r.pid, unreaped) ∧
      unreaped.items = t.unreaped.items.drop n ++
        (t.unreaped.items.take n).eraseP fun r => filter.accepts r.pid

/-- Reaping takes the oldest record that the filter accepts, if there is one, and leaves the others in
their order, however full the list is. -/
theorem reap_takes_oldest (t : Task) (filter : ChildFilter) :
    t.Reaped filter (t.reap filter).1 (t.reap filter).2 := by
  obtain ⟨unreaped, eq, rest⟩ := t.reap_eq filter
  have none_iff : (t.reap filter).1 = none ↔
      ∀ r ∈ t.unreaped.items, filter.accepts r.pid = false := by
    simp [eq]
  refine ⟨none_iff, fun none => ?_, fun r found => ?_, fun n le => ?_⟩
  · rw [reap_of_refused (none_iff.1 none)]
  · rw [eq] at found ⊢
    obtain ⟨accepted, older, newer, refused, split, left⟩ := Table.split_of_find? found
    exact ⟨accepted, older, newer, refused, split, rest.trans left, rfl⟩
  · have half : t.unreaped.items = t.unreaped.items.take n ++ t.unreaped.items.drop n :=
      (List.take_append_drop n _).symm
    obtain ⟨found, left⟩ := Fifo.turn_eq (fun r => filter.accepts r.pid) none half
    rw [List.length_take_of_le le] at found left
    exact ⟨_, Prod.ext found rfl, left⟩

/-- Out of a full list the third record is taken, and the last stays the last. -/
example : let records : List ExitRecord :=
      [⟨2, 0, 0⟩, ⟨5, 1, 0⟩, ⟨3, 2, 0⟩, ⟨4, 3, 0⟩, ⟨3, 4, 0⟩, ⟨6, 5, 0⟩, ⟨7, 6, 0⟩, ⟨1, 7, 0⟩]
    let (found, t) := reap { empty with unreaped := ⟨records, by decide⟩ } (.pid 3)
    found = some ⟨3, 2, 0⟩ ∧ t.unreaped.items.map (·.status) = [0, 1, 3, 4, 5, 6, 7] := by
  decide

end Rtos.Task

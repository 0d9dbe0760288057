import Mathlib.Data.List.Basic

/-!
# Fixed tables

The kernel keeps its tasks, entities and devices in tables of fixed size, and in the tables are
lists. Six facts about such tables and lists: a search answers with an entry of the kind that was
looked for, a change of one entry changes what the whole table contributes by the difference of that
entry, what one entry alone contributes is all, entries that are not vacant can be counted by what
they contribute, what a search finds parts a list, and without it the list is the rest.
-/

namespace Rtos.Table

variable {α β : Type} {n : Nat}

theorem of_findFinIdx? {v : Vector α n} {p : α → Bool} {i : Fin n}
    (h : v.findFinIdx? p = some i) : p v[i] = true := by
  obtain ⟨xs, rfl⟩ := v
  simp only [Vector.findFinIdx?_mk, Option.map_eq_some_iff] at h
  obtain ⟨j, found, rfl⟩ := h
  exact (Array.findFinIdx?_eq_some_iff.1 found).1

theorem get_set (v : Vector α n) (i j : Fin n) (a : α) :
    (v.set i a i.isLt).get j = if i = j then a else v.get j := by
  have replaced : (v.set i a i.isLt).get j = if i.val = j.val then a else v.get j :=
    Vector.getElem_set i.isLt j.isLt
  simpa only [Fin.ext_iff] using replaced

/-- Replacing an entry exchanges what the old entry contributed for what the new one contributes. -/
theorem count_flatMap_set [BEq β] {l : List α} {i : Nat} {old : α} (found : l[i]? = some old)
    (a : α) (f : α → List β) (b : β) :
    ((l.set i a).flatMap f).count b + (f old).count b =
      (l.flatMap f).count b + (f a).count b := by
  obtain ⟨lt, eq⟩ := List.getElem?_eq_some_iff.1 found
  have split : l = l.take i ++ old :: l.drop (i + 1) := by
    rw [← eq, List.getElem_cons_drop, List.take_append_drop]
  rw [List.set_eq_take_append_cons_drop, if_pos lt]
  conv => enter [2, 1, 2]; rw [split]
  simp only [List.flatMap_append, List.flatMap_cons, List.count_append]
  omega

/-- What one entry alone contributes, the whole table contributes as often. -/
theorem count_flatMap_of_unique [BEq β] [LawfulBEq β] {l : List α} {i : Nat} {a : α}
    (found : l[i]? = some a) (f : α → List β) (b : β)
    (others : ∀ j x, l[j]? = some x → b ∈ f x → j = i) :
    (l.flatMap f).count b = (f a).count b := by
  induction l generalizing i with
  | nil => cases found
  | cons x rest ih =>
    rw [List.flatMap_cons, List.count_append]
    cases i with
    | zero =>
      cases found
      have none : (rest.flatMap f).count b = 0 := by
        refine List.count_eq_zero.2 fun mem => ?_
        obtain ⟨y, mem, contributes⟩ := List.mem_flatMap.1 mem
        obtain ⟨j, found⟩ := List.mem_iff_getElem?.1 mem
        cases others (j + 1) y found contributes
      rw [none, Nat.add_zero]
    | succ i =>
      have none : (f x).count b = 0 := List.count_eq_zero.2 fun mem => by
        cases others 0 x rfl mem
      rw [none, Nat.zero_add]
      refine ih found fun j y found mem => ?_
      exact Nat.succ.inj (others (j + 1) y found mem)

/-- If every entry either contributes one item or is vacant, the items and the vacancies are as many
as the entries. -/
theorem length_flatMap_add_countP {l : List α} {f : α → List β} {vacant : α → Bool}
    (one : ∀ a ∈ l, (f a).length + (if vacant a then 1 else 0) = 1) :
    (l.flatMap f).length + l.countP vacant = l.length := by
  induction l with
  | nil => rfl
  | cons a rest ih =>
    have first := one a List.mem_cons_self
    have others := ih fun b mem => one b (List.mem_cons_of_mem a mem)
    rw [List.flatMap_cons, List.length_append, List.countP_cons, List.length_cons]
    omega

/-- What is found first parts the list: nothing before it is of the kind, and the list without it is
what comes before it and behind it. -/
theorem split_of_find? {l : List α} {p : α → Bool} {a : α} (found : l.find? p = some a) :
    p a = true ∧ ∃ before behind, (∀ b ∈ before, p b = false) ∧ l = before ++ a :: behind ∧
      l.eraseP p = before ++ behind := by
  obtain ⟨accepted, before, behind, rfl, refused⟩ := List.find?_eq_some_iff_append.1 found
  have refused : ∀ b ∈ before, p b = false := by simpa using refused
  refine ⟨accepted, before, behind, refused, rfl, ?_⟩
  rw [List.eraseP_append_right _ fun b mem => Bool.not_eq_true _ ▸ refused b mem,
    List.eraseP_cons_of_pos accepted]

theorem perm_cons_eraseP {l : List α} {p : α → Bool} {a : α} (found : l.find? p = some a) :
    l.Perm (a :: l.eraseP p) := by
  obtain ⟨-, before, behind, -, split, rest⟩ := split_of_find? found
  rw [rest, split]
  exact List.perm_middle

end Rtos.Table

import Rtos.Proofs.Kernel.Passes

/-!
# The first state

A kernel that was just built is sound and settled: the idle task runs, and its entity is the only
one besides the root.
-/

namespace Rtos

variable {π : Type}

theorem Scheduler.eq_empty_of_new {port : π} {p : Pid} {t : Task}
    (slot : (Scheduler.new port).task? p = some t) : t = .empty := by
  obtain ⟨lt, eq⟩ := Vector.getElem?_eq_some_iff.1 slot
  simpa [new] using eq.symm

namespace Kernel

variable [Port π] {port : π} {k : Kernel π}

/-- What building a kernel leaves. -/
theorem boot_eq_ok (h : boot port = .ok (.ok k)) :
    ∃ stack stackPointer taken laid e id, Port.takeStack port = some (stack, taken) ∧
      Port.layOutStack stack .idle taken = .ok (stackPointer, laid) ∧
      (EntityTree.new : EntityTree Cleanup).get? .root = some e ∧
      (EntityTree.new : EntityTree Cleanup).get? id = none ∧ e.owner = .root ∧
      k = {
        sched := ((Scheduler.new laid).setTask idlePid
          { Task.spawned idlePid idlePid id stack stackPointer with
            state := .running }).note .booted
        entities := EntityTree.new.addChild .root e id (.task idlePid) .releaseTask
        heard := []
        bus := .empty
        devices := .replicate maxDevices none } := by
  unfold boot at h
  split at h
  case h_2 => cases h
  case h_1 stack taken take =>
  obtain ⟨⟨stackPointer, laid⟩, layOut, next⟩ := Checked.bind_eq_ok.1 h
  obtain ⟨created, create, next⟩ := Checked.bind_eq_ok.1 next
  cases created with
  | error e => cases next
  | ok created =>
    obtain ⟨id, entities⟩ := created
    obtain ⟨s, install, eq⟩ := Checked.bind_eq_ok.1 next
    cases eq
    obtain ⟨-, -, rfl⟩ := Scheduler.modify_eq_ok.1 install
    obtain ⟨p, e, tag, above, cleanup, found, unused, rfl⟩ := EntityTree.create_eq_ok create
    cases above
    cases cleanup
    refine ⟨stack, stackPointer, taken, laid, e, id, take, layOut, found, unused, ?_, rfl⟩
    rw [EntityTree.get?_new, if_pos rfl] at found
    cases found
    rfl

omit [Port π] in
theorem exists_of_boot {built : Checked (Except Error (Kernel π))} {p : Kernel π → Bool}
    (h : (built.toOption.bind Except.toOption).any p = true) :
    ∃ k, built = .ok (.ok k) ∧ p k = true := by
  obtain ⟨k, found, holds⟩ := (Option.any_eq_true _ _).1 h
  obtain ⟨answer, ended, found⟩ := Option.bind_eq_some_iff.1 found
  cases built with
  | error => cases ended
  | ok =>
    cases ended
    cases answer with
    | error => cases found
    | ok => cases found; exact ⟨k, rfl, holds⟩

/-- A kernel that was just built is sound. -/
theorem sound_boot (h : boot port = .ok (.ok k)) : Moment.Sound ⟨k, [], none⟩ := by
  obtain ⟨stack, stackPointer, -, laid, e, id, -, -, root, unused, owner, rfl⟩ := boot_eq_ok h
  have vacant : (Scheduler.new laid).task? idlePid = some .empty := rfl
  let idle := { Task.spawned idlePid idlePid id stack stackPointer with state := .running }
  have slots {p u} (slot : ((Scheduler.new laid).setTask idlePid idle).task? p = some u) :
      (p = idlePid ∧ u = idle) ∨ u = .empty := by
    rw [Scheduler.task?_setTask vacant] at slot
    split at slot
    case isTrue eq => cases slot; exact .inl ⟨eq, rfl⟩
    case isFalse => exact .inr (Scheduler.eq_empty_of_new slot)
  have tasks : ((Scheduler.new laid).setTask idlePid idle).Proper :=
    { free := fun slot inactive => by
        rcases slots slot with ⟨-, rfl⟩ | rfl
        · cases inactive
        · exact ⟨rfl, rfl⟩
      numbered := fun slot active => by
        rcases slots slot with ⟨rfl, rfl⟩ | rfl
        · rfl
        · cases active
      cleared := fun slot _ => by
        rcases slots slot with ⟨-, rfl⟩ | rfl <;> rfl
      recorded := fun slot record => by
        rcases slots slot with ⟨-, rfl⟩ | rfl <;> cases record
      idle := ⟨idle, Scheduler.task?_setTask_self vacant idle, rfl⟩ }
  exact
    { tree := EntityTree.proper_new.addChild root unused nofun
      tasks := tasks.of_eq rfl
      linked :=
        { task := fun {p u} slot active => by
            rcases slots slot with ⟨rfl, rfl⟩ | rfl
            · refine ⟨id, rfl, ?_⟩
              rw [EntityTree.owner?_addChild root, if_pos rfl]
            · cases active
          owner := fun {x e' p} live owned => by
            rw [EntityTree.get?_addChild] at live
            split at live
            case isTrue eq =>
              cases live
              cases owned
              exact ⟨rfl, idle, Scheduler.task?_setTask_self vacant idle, rfl, eq ▸ rfl⟩
            case isFalse =>
              split at live
              case isTrue =>
                cases live
                cases owner.symm.trans owned
              case isFalse ne =>
                rw [EntityTree.get?_new, if_neg ne] at live
                cases live
          device := fun registered => by
            obtain ⟨lt, eq⟩ := Vector.getElem?_eq_some_iff.1 (Option.join_eq_some_iff.1 registered)
            rw [Vector.getElem_replicate] at eq
            cases eq
          event := nofun }
      listeners := fun kind sub mem => by cases kind <;> cases mem
      balance := fun x => by
        have standing : Kernel.references {
            Core.mk (((Scheduler.new laid).setTask idlePid idle).note .booted)
              (EntityTree.new.addChild .root e id (.task idlePid) .releaseTask) [] with
            bus := .empty, devices := .replicate maxDevices none } = [EntityId.root, id] := rfl
        rw [EntityTree.refs_addChild root unused, EntityTree.count_parents_addChild root unused,
          EntityTree.refs_new, EntityTree.parents_new, standing]
        simp only [List.count_append, List.count_cons, List.count_nil, Option.toList_none]
        omega }

theorem empty_of_boot (h : boot port = .ok (.ok k)) {pid : Pid} {t : Task} (busy : pid ≠ idlePid)
    (slot : k.sched.task? pid = some t) : t = .empty := by
  obtain ⟨stack, stackPointer, -, laid, e, id, -, -, root, unused, owner, rfl⟩ := boot_eq_ok h
  have slot : ((Scheduler.new laid).setTask idlePid _).task? pid = some t := slot
  rw [Scheduler.task?_setTask_of_ne _ _ busy] at slot
  exact Scheduler.eq_empty_of_new slot

theorem settled_boot (h : boot port = .ok (.ok k)) : k.Settled := by
  obtain ⟨stack, stackPointer, -, laid, e, id, -, -, root, unused, owner, rfl⟩ := boot_eq_ok h
  exact ⟨_, rfl, rfl⟩

end Kernel

end Rtos

import Rtos.Proofs.Kernel.Tasks
import Rtos.Proofs.Kernel.Waiting

/-!
# Exits and the parents that wait for them

Behind an exit no parent waits for the task that exited: the event of the exit woke it in the pass,
or, where there was none, it was woken directly.  Its record is then the oldest of its kind.
-/

namespace Rtos.Kernel

variable {π : Type} [Port π] {k k' : Kernel π} {held : List EntityId} {status : Int}
  {result : Except Error Unit} {pid : Pid} {t : Task}

/-- A pass outside atomic sections wakes a listed parent if the exit that it waits for is queued. -/
theorem woken_of_queued {child : Pid} (sound : Moment.Sound ⟨k, held, none⟩) (attended : k.Attended)
    (busy : pid ≠ idlePid) (outside : k.sched.sectionDepth = 0) (h : k.schedule = .ok k')
    {event : Event} (queued : event ∈ k.bus.queues.events)
    (told : event.payload = .task child pid status) {t' : Task}
    (slot' : k'.sched.task? pid = some t') :
    ¬(t'.state = .awaitingChild ∧ t'.childFilter.accepts child = true) := by
  rintro ⟨parked, accepts⟩
  obtain ⟨t, slot, waits, same, deaf⟩ :=
    waits_back_of_schedule sound outside h slot' parked (.inr (.inr rfl))
  obtain ⟨id, -, listed⟩ := (attended.listens busy slot).of_parked waits
  have wakes : event.payload.Wakes pid t := by
    rw [told]
    exact ⟨rfl, waits, same.filter ▸ accepts⟩
  have mem : ⟨id, .childExit, pid⟩ ∈ k.bus.registry.lists.task :=
    List.mem_of_mem_filter (listed ▸ List.mem_singleton_self _)
  have kind : event.kind = .task := by rw [Event.kind, told]; rfl
  exact deaf event queued wakes _ (by rw [kind]; exact mem) rfl

omit [Port π] in
theorem bus_closeSections (k : Kernel π) (pid : Pid) : (k.closeSections pid).bus = k.bus := by
  unfold closeSections
  split <;> rfl

theorem closes_exit (sound : Moment.Sound ⟨k, held, none⟩)
    (pass : (k.closeSections pid).schedule = .ok k') :
    Moves Label.InSchedule ⟨k, held, none⟩ ⟨k', held, none⟩ :=
  have close := (moves_closeSections k pid held).1
  .trans (close.mono fun _ quiet => .inl (.inl quiet)) (moves_schedule (close.sound sound) pass)

/-- Behind an exit the parent does not wait for the task that exited. -/
theorem not_awaiting_of_exit {k₂ : Kernel π} {child : Pid} {entity : EntityId}
    (sound : Moment.Sound ⟨k, held, none⟩) (attended : k.Attended)
    (slot : k.sched.task? child = some t) (running : t.state = .running) (notIdle : child ≠ idlePid)
    (owns : t.entity = some entity) (cleared : t.unreaped.items = [])
    (passes : Passes k child t status entity k₂) (pass : (k₂.closeSections child).schedule = .ok k')
    (busy : t.parent ≠ idlePid) {p' : Task} (slot' : k'.sched.task? t.parent = some p') :
    ¬(p'.state = .awaitingChild ∧ p'.childFilter.accepts child = true) := by
  rintro ⟨parked, accepts⟩
  obtain ⟨moves, told⟩ := moves_passes sound slot running notIdle owns cleared passes
  obtain ⟨close, outside⟩ := moves_closeSections k₂ child held
  have sound₂ := moves.sound sound
  have sound₃ := close.sound sound₂
  obtain ⟨p₂, slot₂, parked₂, same⟩ := (closes_exit sound₂ pass).waits_back sound₂ slot'
    parked (.inr (.inr rfl)) nofun
  obtain ⟨p, slot₁, parked₁, -⟩ := moves.waits_back sound slot₂ parked₂ (.inr (.inr rfl)) nofun
  have other : t.parent ≠ child := by
    intro eq
    rw [eq] at slot₁
    cases slot.symm.trans slot₁
    cases running.symm.trans parked₁
  have alive := sound.tasks.alive slot₁ (by rw [parked₁]; nofun)
  rcases told busy other p slot₁ alive with ⟨event, queued, payload⟩ | ⟨p₂', slot₂', unaware⟩
  · have attended₃ := close.attended sound₂ (moves.attended sound attended)
    rw [← bus_closeSections k₂ child] at queued
    exact woken_of_queued sound₃ attended₃ busy outside pass queued payload slot' ⟨parked, accepts⟩
  · cases slot₂.symm.trans slot₂'
    exact unaware ⟨parked₂, same.filter ▸ accepts⟩

theorem expecting_exit (sound : Moment.Sound ⟨k, held, none⟩) (settled : k.Settled)
    (attended : k.Attended) (expecting : k.Expecting fun _ _ => False)
    (h : k.exit status = .ok (result, k')) : k'.Expecting fun _ _ => False := by
  rcases exit_eq_ok sound settled h with ⟨-, -, rfl⟩ |
    ⟨-, t, entity, k₁, k₂, rfl, -, -, notIdle, running, owns, cleared, reap, slot, passes, pass⟩
  · exact expecting
  · have sound₁ := reap.sound sound
    have passed := (moves_passes sound₁ slot running notIdle owns cleared passes).1
    have sound₂ := passed.sound sound₁
    -- meanwhile the parent of the task may wait for nothing else
    let excused := fun (p : Pid) (filter : ChildFilter) =>
      p = t.parent ∧ filter.accepts k.current = true
    have expecting₁ : k₁.Expecting excused :=
      reap.expecting sound
        (fun p t busy slot parked => (expecting p t busy slot parked).imp_left False.elim) nofun
    have expecting₂ : k₂.Expecting excused := by
      refine passed.expecting sound₁ expecting₁ ?_
      rintro c p filter (eq | eq | eq | eq) accepts <;> cases eq
      exact ⟨rfl, accepts⟩
    have expecting₃ : k'.Expecting excused :=
      (closes_exit sound₂ pass).expecting sound₂ expecting₂ nofun
    intro p t' busy slot' parked
    refine (expecting₃ p t' busy slot' parked).imp_left ?_
    rintro ⟨rfl, accepts⟩
    exact not_awaiting_of_exit sound₁ (reap.attended sound attended) slot running notIdle owns
      cleared passes pass busy slot' ⟨parked, accepts⟩

/-- A parent that waits for a task is woken by the exit of the task, and keeps its record as the
oldest of its kind. -/
theorem wakes_exit {u : Task} (sound : Moment.Sound ⟨k, held, none⟩) (settled : k.Settled)
    (attended : k.Attended) (expecting : k.Expecting fun _ _ => False)
    (exiting : k.sched.task? k.current = some u) (busy : u.parent ≠ idlePid)
    (slot : k.sched.task? u.parent = some t) (parked : t.state = .awaitingChild)
    (accepts : t.childFilter.accepts k.current = true) (h : k.exit status = .ok (result, k')) :
    (∃ t', k'.sched.task? u.parent = some t' ∧ t'.state ≠ .awaitingChild) ∧
      k'.Records u.parent t.childFilter k.current status := by
  have alive := sound.tasks.alive slot (by rw [parked]; nofun)
  have other : k.current ≠ u.parent := by
    intro eq
    obtain ⟨u', slot', running⟩ := settled
    rw [eq] at slot'
    cases slot.symm.trans slot'
    cases parked.symm.trans running
  rcases exit_eq_ok sound settled h with ⟨idle, -⟩ |
    ⟨u', c, entity, k₁, k₂, rfl, exiting', parent, notIdle, running, owns, cleared, reap, slotC,
      passes, pass⟩
  · obtain ⟨u', exiting', own⟩ := attended.idle
    rw [← idle] at exiting'
    cases exiting.symm.trans exiting'
    exact absurd own busy
  cases exiting.symm.trans exiting'
  have sound₁ := reap.sound sound
  have slot₁ := reap.slot_reaps sound slot alive other
  have passed := (moves_passes sound₁ slotC running notIdle owns cleared passes).1
  have sound₂ := passed.sound sound₁
  have rest := closes_exit sound₂ pass
  have records : k'.Records u.parent t.childFilter k.current status := by
    rw [← parent] at busy slot₁ other ⊢
    cases passes with
    | forgotten orphan =>
      rcases orphan with idle | self | ⟨p, slot₁', dead⟩
      · exact absurd idle busy
      · exact absurd self.symm other
      · cases slot₁.symm.trans slot₁'
        cases alive.symm.trans dead
    | @told p unreaped slot₁' other' alive' busy' put tell =>
      cases slot₁.symm.trans slot₁'
      obtain ⟨exits, told, -⟩ := moves_told sound₁ slotC running notIdle owns cleared
        slot₁' other' alive' busy' put tell
      refine rest.records sound₂ (told.records (exits.sound sound₁) ?_ nofun nofun) nofun nofun
      refine ⟨{ t with unreaped }, entity, ?_, alive, ?_⟩
      · exact Scheduler.task?_setTask_self
          ((Scheduler.task?_setTask_of_ne _ (c.exited status) other').trans slot₁') _
      · have unrecorded : ∀ r ∈ t.unreaped.items, t.childFilter.accepts r.pid = false := by
          have expecting₁ := reap.expecting sound expecting nofun
          rcases expecting₁ _ t busy slot₁ parked with none | expects
          · exact none.elim
          · exact expects.unrecorded
        rw [(Fifo.push?_eq_some.1 put).2, List.find?_append, List.find?_eq_none.2]
        · simp [accepts]
        · simpa using unrecorded
  refine ⟨?_, records⟩
  obtain ⟨t', entity', slot', -⟩ := records
  refine ⟨t', slot', fun parked' => ?_⟩
  obtain ⟨t₁, slot₁', -, same⟩ := ((passed.mono (Q := fun label => label ≠ .parks u.parent
    .awaitingChild) (by rintro label (rfl | rfl | rfl | rfl) <;> nofun)).trans (rest.mono
    (by rintro label ((rfl | rfl) | rfl) <;> nofun))).waits_back sound₁ slot' parked'
    (.inr (.inr rfl)) (fun none => none rfl)
  cases slot₁.symm.trans slot₁'
  rw [← parent] at slot' busy
  exact not_awaiting_of_exit sound₁ (reap.attended sound attended) slotC running notIdle owns
    cleared passes pass busy slot' ⟨parked', same.filter ▸ accepts⟩

end Rtos.Kernel

import Rtos.Proofs.Kernel.Boot
import Mathlib.Data.List.Nodup

/-!
# Waiting for children

A parent that waits for a child stands on the list of listeners for exits, once and under the name
that it remembers (`Kernel.Attended`), and it waits for something: a live child that its filter
accepts, of which no record is kept yet (`Kernel.Expecting`).  The first holds in every moment.  The
second fails for a moment when the child exits, until the parent has been told.
-/

namespace Rtos

variable {π : Type}

/-! ## Listeners for exits -/

/-- The task in slot `pid` is listed exactly while it waits for a child. -/
def Task.Listens (t : Task) (pid : Pid) (list : List (Subscription KernelListener)) : Prop :=
  if t.state = .awaitingChild then
    ∃ id, t.exitListener = some id ∧ list.filter (·.extra = pid) = [⟨id, .childExit, pid⟩]
  else
    t.exitListener = none ∧ list.filter (·.extra = pid) = []

namespace Task.Listens

variable {t : Task} {pid : Pid} {list pre post : List (Subscription KernelListener)}
  {sub : Subscription KernelListener}

theorem of_parked (h : t.Listens pid list) (parked : t.state = .awaitingChild) :
    ∃ id, t.exitListener = some id ∧ list.filter (·.extra = pid) = [⟨id, .childExit, pid⟩] := by
  rwa [Listens, if_pos parked] at h

theorem of_other (h : t.Listens pid list) (other : t.state ≠ .awaitingChild) :
    t.exitListener = none ∧ list.filter (·.extra = pid) = [] := by
  rwa [Listens, if_neg other] at h

theorem stay {t' : Task} (h : t.Listens pid list) (before : t.state ≠ .awaitingChild)
    (behind : t'.state ≠ .awaitingChild)
    (listener : t'.exitListener = none ∨ t'.exitListener = t.exitListener) :
    t'.Listens pid list := by
  obtain ⟨unnamed, unlisted⟩ := h.of_other before
  rw [Listens, if_neg behind]
  exact ⟨listener.elim id (·.trans unnamed), unlisted⟩

theorem remove {t' : Task} (h : t.Listens sub.extra (pre ++ sub :: post))
    (parked : t.state = .awaitingChild) (woken : t'.state = .ready)
    (unnamed : t'.exitListener = none) : t'.Listens sub.extra (pre ++ post) := by
  obtain ⟨id, -, listed⟩ := h.of_parked parked
  rw [List.filter_append, List.filter_cons_of_pos (by simp)] at listed
  rw [Listens, if_neg (by rw [woken]; nofun)]
  refine ⟨unnamed, ?_⟩
  rw [List.filter_append]
  rcases List.append_eq_cons_iff.1 listed with ⟨before, behind⟩ | ⟨_, -, behind⟩
  · rw [before, (List.cons.inj behind).2]
    rfl
  · have := (List.append_eq_nil_iff.1 behind.symm).2
    cases this

theorem remove_other (h : t.Listens pid (pre ++ sub :: post)) (other : sub.extra ≠ pid) :
    t.Listens pid (pre ++ post) := by
  have same : (pre ++ sub :: post).filter (·.extra = pid) =
      (pre ++ post).filter (·.extra = pid) := by
    rw [List.filter_append, List.filter_append, List.filter_cons_of_neg (by simpa using other)]
  rwa [Listens, same] at h

end Task.Listens

/-- Parents that wait for children are listed for exits, each name is used once, and the idle task
is its own parent. -/
structure Kernel.Attended (k : Kernel π) : Prop where
  /-- Every task but the idle one is listed exactly while it waits. -/
  listens : ∀ {pid t}, pid ≠ idlePid → k.sched.task? pid = some t →
    t.Listens pid k.bus.registry.lists.task
  /-- Names are not shared. -/
  distinct : (k.bus.registry.lists.task.map (·.id)).Nodup
  /-- Names were given out. -/
  issued : ∀ sub ∈ k.bus.registry.lists.task, sub.id.number ≤ k.bus.registry.issued.value
  /-- The idle task has no other parent. -/
  idle : ∃ t, k.sched.task? idlePid = some t ∧ t.parent = idlePid

/-- Unless it begins to wait for a child, or is woken from that, a task is listed as before. -/
theorem SlotStep.listens {label : Label} {pid : Pid} {t t' : Task}
    {list : List (Subscription KernelListener)} (step : SlotStep pid label t t')
    (h : t.Listens pid list) (free : t.active = false → t.state = .dead) (busy : pid ≠ idlePid)
    (parks : label ≠ .parks pid .awaitingChild) (delivers : label ≠ .delivers)
    (wakes : ∀ child, label ≠ .wakes pid child) : t'.Listens pid list := by
  cases step with
  | same | reap | record => exact h
  | change change =>
    cases change with
    | demote running => exact h.stay (by rw [running]; nofun) nofun (.inr rfl)
    | save => exact h
    | sleep running => exact h.stay (by rw [running]; nofun) nofun (.inr rfl)
    | awaitMutex running => exact h.stay (by rw [running]; nofun) nofun (.inr rfl)
    | grant parked => exact h.stay (by rw [parked]; nofun) nofun (.inr rfl)
  | promote alive runnable =>
    refine h.stay ?_ nofun (.inr rfl)
    rcases runnable with idle | ready | running | sleeping
    · exact absurd idle busy
    · rw [ready]; nofun
    · rw [running]; nofun
    · rw [sleeping]; nofun
  | awaitChild => exact absurd rfl parks
  | awaitDevice running => exact h.stay (by rw [running]; nofun) nofun (.inr rfl)
  | wake => exact absurd rfl delivers
  | wakeDirect => exact absurd rfl (wakes _)
  | freed dead => exact h.stay (by rw [dead]; nofun) nofun (.inl rfl)
  | die running => exact h.stay (by rw [running]; nofun) nofun (.inr rfl)
  | spawned inactive => exact h.stay (by rw [free inactive]; nofun) nofun (.inl rfl)

theorem SlotStep.parent {label : Label} {pid : Pid} {t t' : Task} (step : SlotStep pid label t t')
    (alive : t.isAlive = true) : t'.parent = t.parent := by
  cases step with
  | change change => cases change <;> rfl
  | wake wakes => rename_i payload; cases payload <;> rfl
  | freed dead => simp [Task.isAlive, dead] at alive
  | spawned free => simp [Task.isAlive, free] at alive
  | same | promote | awaitChild | awaitDevice | wakeDirect | reap | record | die => rfl

namespace Kernel.Attended

variable {k : Kernel π} {pid : Pid} {t t' : Task} {pre post : List (Subscription KernelListener)}
  {sub : Subscription KernelListener}

theorem unlist (h : k.Attended) (listed : k.bus.registry.lists.task = pre ++ sub :: post)
    (found : k.sched.task? sub.extra = some t) (parked : t.state = .awaitingChild)
    (woken : t'.state = .ready) (unnamed : t'.exitListener = none) (parent : t'.parent = t.parent) :
    ((k.setTask sub.extra t').setListeners .task (pre ++ post)).Attended where
  listens {p u} busy slot := by
    change u.Listens p (pre ++ post)
    have slot : (k.sched.setTask sub.extra t').task? p = some u := slot
    rcases Scheduler.of_task?_setTask found slot with ⟨rfl, rfl⟩ | ⟨other, slot⟩
    · exact (listed ▸ h.listens busy found).remove parked woken unnamed
    · exact (listed ▸ h.listens busy slot).remove_other (Ne.symm other)
  distinct := by
    have distinct := h.distinct
    rw [listed, List.map_append, List.map_cons, List.nodup_middle] at distinct
    change ((pre ++ post).map _).Nodup
    rw [List.map_append]
    exact distinct.of_cons
  issued other mem := by
    refine h.issued other ?_
    rw [listed, List.mem_append, List.mem_cons]
    exact (List.mem_append.1 mem).imp_right .inr
  idle := by
    obtain ⟨u, slot, own⟩ := h.idle
    change ∃ t, (k.sched.setTask sub.extra t').task? idlePid = some t ∧ _
    rw [Scheduler.task?_setTask found]
    split
    case isTrue eq =>
      rw [← eq] at found
      cases slot.symm.trans found
      exact ⟨t', rfl, parent.trans own⟩
    case isFalse => exact ⟨u, slot, own⟩

/-- A name that is used stands for one listener. -/
theorem eraseP_eq (h : k.Attended) (listed : k.bus.registry.lists.task = pre ++ sub :: post) :
    k.bus.registry.lists.task.eraseP (·.id == sub.id) = pre ++ post := by
  have distinct := h.distinct
  rw [listed, List.map_append, List.map_cons, List.nodup_middle, List.nodup_cons] at distinct
  rw [listed, List.eraseP_append_right, List.eraseP_cons_of_pos (by simp)]
  intro other mem same
  refine distinct.1 (List.mem_append_left _ ?_)
  rw [← eq_of_beq same]
  exact List.mem_map_of_mem mem

theorem list (h : k.Attended) (found : k.sched.task? pid = some t) (running : t.state = .running)
    {filter : ChildFilter} {id : ListenerId}
    (fresh : id.number = k.bus.registry.issued.value + 1) :
    (((k.setTask pid { t with
        childFilter := filter, exitListener := some id, state := .awaitingChild }).setListeners
      .task (k.bus.registry.lists.task ++ [⟨id, .childExit, pid⟩])).setBooks
      { k.books with issued := ⟨id.number⟩ }).Attended where
  listens {p u} busy slot := by
    change u.Listens p (k.bus.registry.lists.task ++ [⟨id, .childExit, pid⟩])
    have slot : (k.sched.setTask pid _).task? p = some u := slot
    rcases Scheduler.of_task?_setTask found slot with ⟨rfl, rfl⟩ | ⟨other, slot⟩
    · obtain ⟨-, unlisted⟩ := (h.listens busy found).of_other (by rw [running]; nofun)
      rw [Task.Listens, if_pos rfl, List.filter_append, unlisted]
      exact ⟨id, rfl, by simp⟩
    · have listens := h.listens busy slot
      have same (sub : Subscription KernelListener) (eq : sub.extra = pid) :
          (k.bus.registry.lists.task ++ [sub]).filter (·.extra = p) =
            k.bus.registry.lists.task.filter (·.extra = p) := by
        rw [List.filter_append, List.filter_cons_of_neg (by simp [eq, Ne.symm other]),
          List.filter_nil, List.append_nil]
      rw [Task.Listens, same _ rfl]
      exact listens
  distinct := by
    change ((k.bus.registry.lists.task ++ _).map _).Nodup
    rw [List.map_append, List.nodup_append]
    refine ⟨h.distinct, List.pairwise_singleton _ id, ?_⟩
    rintro _ mem _ new rfl
    obtain ⟨sub, listed, rfl⟩ := List.mem_map.1 mem
    have old := h.issued sub listed
    rw [List.mem_singleton.1 new] at old
    have named : id.number ≤ k.bus.registry.issued.value := old
    omega
  issued sub mem := by
    change sub.id.number ≤ id.number
    rcases List.mem_append.1 mem with old | new
    · have old := h.issued sub old
      omega
    · cases List.mem_singleton.1 new
      exact Nat.le_refl _
  idle := by
    obtain ⟨u, slot, own⟩ := h.idle
    change ∃ t, (k.sched.setTask pid _).task? idlePid = some t ∧ _
    rw [Scheduler.task?_setTask found]
    split
    case isTrue eq =>
      rw [← eq] at found
      cases slot.symm.trans found
      exact ⟨_, rfl, own⟩
    case isFalse => exact ⟨u, slot, own⟩

end Kernel.Attended

namespace Move

variable [Port π] {label : Label} {m m' : Moment π}

/-- Moves that leave the listeners for exits alone keep waiting parents listed. -/
theorem attended_of_same (move : Move label m m') (sound : m.Sound) (h : m.kernel.Attended)
    (lists : m'.kernel.bus.registry.lists.task = m.kernel.bus.registry.lists.task)
    (later : m.kernel.bus.registry.issued.value ≤ m'.kernel.bus.registry.issued.value)
    (slots : ∀ {pid t t'}, pid ≠ idlePid → m.kernel.sched.task? pid = some t →
      SlotStep pid label t t' → m'.kernel.sched.task? pid = some t' →
      t.Listens pid m.kernel.bus.registry.lists.task →
      t'.Listens pid m.kernel.bus.registry.lists.task) :
    m'.kernel.Attended where
  listens {pid t'} busy slot' := by
    obtain ⟨t, slot, step⟩ := move.slotStep_back sound slot'
    rw [lists]
    exact slots busy slot step slot' (h.listens busy slot)
  distinct := lists ▸ h.distinct
  issued sub mem := Nat.le_trans (h.issued sub (lists ▸ mem)) later
  idle := by
    obtain ⟨t, slot, parent⟩ := h.idle
    obtain ⟨t', slot', step⟩ := move.slotStep sound slot
    obtain ⟨u, slot₁, alive⟩ := sound.tasks.idle
    cases slot.symm.trans slot₁
    exact ⟨t', slot', (step.parent alive).trans parent⟩

theorem attended (move : Move label m m') (sound : m.Sound) (h : m.kernel.Attended) :
    m'.kernel.Attended := by
  have ordinary (parks : ∀ pid, label ≠ .parks pid .awaitingChild) (delivers : label ≠ .delivers)
      (wakes : ∀ pid child, label ≠ .wakes pid child)
      (lists : m'.kernel.bus.registry.lists.task = m.kernel.bus.registry.lists.task)
      (later : m.kernel.bus.registry.issued.value ≤ m'.kernel.bus.registry.issued.value) :
      m'.kernel.Attended :=
    move.attended_of_same sound h lists later fun busy slot step _ listens =>
      step.listens listens (fun free => (sound.tasks.free slot free).1) busy (parks _) delivers
        (wakes _)
  cases move with
  | book b later => exact ordinary nofun nofun nofun rfl later
  | fetch | shift => exact ⟨h.listens, h.distinct, h.issued, h.idle⟩
  | change found change =>
    have parks pid : label ≠ .parks pid .awaitingChild := by rintro rfl; cases change
    have delivers : label ≠ .delivers := by rintro rfl; cases change
    have wakes pid child : label ≠ .wakes pid child := by rintro rfl; cases change
    exact ordinary parks delivers wakes rfl (Nat.le_refl _)
  | hardware | promote | awaitDevice | createEvent | hold | share | drop | settle | destroy
  | destroyTask | post | reap | exitRecorded | exitForgotten | spawn | register | unregister =>
    exact ordinary nofun nofun nofun rfl (Nat.le_refl _)
  | awaitChild found running unrecorded child fresh => exact h.list found running fresh
  | @wake k held falling payload pre sub post t listed found wakes =>
    cases payload with
    | task => exact h.unlist listed found wakes.2.1 rfl rfl rfl
    | file => exact wakes.elim
    | device number flags =>
      have move : Move .delivers ⟨k, held, falling⟩ _ := .wake listed found wakes
      refine move.attended_of_same sound h rfl (Nat.le_refl _)
        fun busy slot step slot' listens => ?_
      rcases Scheduler.of_task?_setTask found slot' with ⟨rfl, rfl⟩ | ⟨-, slot'⟩
      · cases found.symm.trans slot
        exact listens.stay (by rw [wakes.1]; nofun) nofun (.inr rfl)
      · cases slot.symm.trans slot'
        exact listens
  | @wakeDirect k held falling pid t child found parked accepts busy =>
    obtain ⟨id, name, listed⟩ := (h.listens busy found).of_parked parked
    have mem : ⟨id, .childExit, pid⟩ ∈ k.bus.registry.lists.task :=
      List.mem_of_mem_filter (listed ▸ List.mem_singleton_self _)
    obtain ⟨pre, post, listed⟩ := List.append_of_mem mem
    rw [name]
    change ((k.setTask pid _).setListeners .task
      (k.bus.registry.lists.task.eraseP (·.id == id))).Attended
    rw [h.eraseP_eq listed]
    exact h.unlist listed found parked rfl rfl rfl

end Move

theorem Moves.attended [Port π] {P : Label → Prop} {m m' : Moment π} (moves : Moves P m m')
    (sound : m.Sound) (h : m.kernel.Attended) : m'.kernel.Attended :=
  (moves.keeps (I := fun m => m.Sound ∧ m.kernel.Attended) ⟨sound, h⟩
    fun _ move ⟨sound, h⟩ => ⟨move.sound sound, move.attended sound h⟩).2

theorem Kernel.attended_boot [Port π] {port : π} {k : Kernel π} (h : boot port = .ok (.ok k)) :
    k.Attended := by
  have empty {pid t} (busy : pid ≠ idlePid) (slot : k.sched.task? pid = some t) : t = .empty :=
    empty_of_boot h busy slot
  obtain ⟨stack, stackPointer, -, laid, e, id, -, -, root, unused, owner, rfl⟩ := boot_eq_ok h
  refine ⟨fun {pid t} busy slot => ?_, List.nodup_nil, nofun, _, rfl, rfl⟩
  cases empty busy slot
  exact ⟨rfl, rfl⟩

/-! ## What a parent waits for -/

/-- The parent in slot `pid` waits for something that will come to pass. -/
structure Kernel.Expects (k : Kernel π) (pid : Pid) (t : Task) : Prop where
  /-- It has a live child of the kind that it waits for. -/
  child : ∃ c u, k.sched.task? c = some u ∧ u.isAlive = true ∧ u.parent = pid ∧ c ≠ pid ∧
    t.childFilter.accepts c = true
  /-- It keeps no record of such a child. -/
  unrecorded : ∀ r ∈ t.unreaped.items, t.childFilter.accepts r.pid = false

/-- Every parent that waits for a child waits for something, but for those that are excused. -/
def Kernel.Expecting (excused : Pid → ChildFilter → Prop) (k : Kernel π) : Prop :=
  ∀ pid t, pid ≠ idlePid → k.sched.task? pid = some t → t.state = .awaitingChild →
    excused pid t.childFilter ∨ k.Expects pid t

theorem Kernel.expecting_boot [Port π] {port : π} {k : Kernel π}
    {excused : Pid → ChildFilter → Prop} (h : boot port = .ok (.ok k)) : k.Expecting excused := by
  intro pid t busy slot parked
  cases empty_of_boot h busy slot
  cases parked

/-- A live child is a live task with that parent. -/
theorem Scheduler.Proper.exists_child {s : Scheduler π} (h : s.Proper) {pid : Pid}
    {accepts : Pid → Bool} (child : (s.liveChildren pid).any accepts = true) :
    ∃ c u, s.task? c = some u ∧ u.isAlive = true ∧ u.parent = pid ∧ c ≠ pid ∧ accepts c = true := by
  obtain ⟨c, mem, accepted⟩ := List.any_eq_true.1 child
  obtain ⟨u, kept, rfl⟩ := List.mem_map.1 mem
  obtain ⟨listed, is⟩ := List.mem_filter.1 kept
  simp only [Bool.and_eq_true, beq_iff_eq, bne_iff_ne, ne_eq] at is
  obtain ⟨i, slot⟩ := Scheduler.mem_tasks.1 listed
  have number := h.numbered slot (Task.active_of_alive is.1.1)
  exact ⟨i, _, slot, is.1.1, is.1.2, number ▸ is.2, number ▸ accepted⟩

namespace SlotStep

variable {label : Label} {pid : Pid} {t t' : Task}

/-- What is new on a list of dead children exits with this step. -/
theorem records_back (step : SlotStep pid label t t') {r : ExitRecord}
    (mem : r ∈ t'.unreaped.items) : r ∈ t.unreaped.items ∨ label = .exits r.pid pid := by
  cases step with
  | same | promote | awaitChild | awaitDevice | wakeDirect | die => exact .inl mem
  | change change => exact .inl (change.keeps.unreaped ▸ mem)
  | wake wakes => exact .inl (wakes.keeps.unreaped ▸ mem)
  | freed | spawned => cases mem
  | reap split => exact .inl (split.symm.subset (List.mem_append_right _ mem))
  | record alive busy put =>
    rw [(Fifo.push?_eq_some.1 put).2, List.mem_append, List.mem_singleton] at mem
    exact mem.imp_right fun eq => by rw [eq]

/-- A live task exits with this step, or it stays alive and the child of its parent. -/
theorem survives (step : SlotStep pid label t t') (alive : t.isAlive = true) :
    label = .exits pid t.parent ∨ (t'.isAlive = true ∧ t'.parent = t.parent) := by
  have parent := step.parent alive
  cases step with
  | die => exact .inl rfl
  | same | reap | record => exact .inr ⟨alive, parent⟩
  | change change => exact .inr ⟨change.keeps.isAlive.trans alive, parent⟩
  | wake wakes => exact .inr ⟨wakes.keeps.isAlive.trans alive, parent⟩
  | freed dead => simp [Task.isAlive, dead] at alive
  | spawned free => simp [Task.isAlive, free] at alive
  | promote | awaitChild | awaitDevice | wakeDirect =>
    exact .inr ⟨by simp [Task.isAlive, Task.active_of_alive alive], parent⟩

end SlotStep

namespace Move

variable [Port π] {label : Label} {m m' : Moment π} {excused : Pid → ChildFilter → Prop}

theorem child (move : Move label m m') (sound : m.Sound) {c pid : Pid} {u : Task}
    (slot : m.kernel.sched.task? c = some u) (alive : u.isAlive = true) (parent : u.parent = pid) :
    label = .exits c pid ∨
      ∃ u', m'.kernel.sched.task? c = some u' ∧ u'.isAlive = true ∧ u'.parent = pid := by
  obtain ⟨u', slot', step⟩ := move.slotStep sound slot
  rcases step.survives alive with exits | ⟨alive', parent'⟩
  · exact .inl (parent ▸ exits)
  · exact .inr ⟨u', slot', alive', parent'.trans parent⟩

/-- Moves keep parents expecting, as long as those are excused whose children exit. -/
theorem expecting (move : Move label m m') (sound : m.Sound) (h : m.kernel.Expecting excused)
    (exits : ∀ {c p filter}, label = .exits c p → ChildFilter.accepts filter c = true →
      excused p filter) : m'.kernel.Expecting excused := by
  intro pid t' busy slot' parked
  obtain ⟨t, slot, step⟩ := move.slotStep_back sound slot'
  rcases step.parked_back parked (.inr (.inr rfl)) with rfl | same
  · cases move with
    | change found change => cases change
    | @awaitChild k held falling p u filter id found running unrecorded child fresh =>
      have slot' : (k.sched.setTask pid _).task? pid = some t' := slot'
      rw [Scheduler.task?_setTask_self found] at slot'
      cases slot'
      obtain ⟨c, v, slot, alive, parent, other, accepts⟩ := sound.tasks.exists_child child
      exact .inr ⟨⟨c, v, (Scheduler.task?_setTask_of_ne k.sched _ other).trans slot, alive, parent,
        other, accepts⟩, unrecorded⟩
  · rw [same.filter]
    rcases h pid t busy slot (same.state.symm.trans parked) with excused | expects
    · exact .inl excused
    · obtain ⟨c, u, child, alive, parent, other, accepts⟩ := expects.child
      rcases move.child sound child alive parent with gone | ⟨u', child', alive', parent'⟩
      · exact .inl (exits gone accepts)
      · by_cases excused : excused pid t.childFilter
        · exact .inl excused
        · refine .inr ⟨⟨c, u', child', alive', parent', other, same.filter ▸ accepts⟩, ?_⟩
          intro r mem
          rw [same.filter]
          rcases step.records_back mem with old | gone
          · exact expects.unrecorded r old
          · exact Bool.eq_false_iff.2 fun accepts => excused (exits gone accepts)

end Move

theorem Moves.expecting [Port π] {P : Label → Prop} {m m' : Moment π}
    {excused : Pid → ChildFilter → Prop} (moves : Moves P m m') (sound : m.Sound)
    (h : m.kernel.Expecting excused)
    (exits : ∀ {c p filter}, P (.exits c p) → ChildFilter.accepts filter c = true →
      excused p filter) : m'.kernel.Expecting excused :=
  (moves.keeps (I := fun m => m.Sound ∧ m.kernel.Expecting excused) ⟨sound, h⟩
    fun allowed move ⟨sound, h⟩ => ⟨move.sound sound, move.expecting sound h
      fun eq accepts => exits (eq ▸ allowed) accepts⟩).2

/-! ## The oldest record -/

/-- The oldest record that a parent keeps of children of a kind is that of `child`, which exited
with this status. -/
def Kernel.Records (k : Kernel π) (pid : Pid) (filter : ChildFilter) (child : Pid) (status : Int) :
    Prop :=
  ∃ t entity, k.sched.task? pid = some t ∧ t.isAlive = true ∧
    t.unreaped.items.find? (fun r => filter.accepts r.pid) = some ⟨child, status, entity⟩

/-- The oldest record of a parent stays the oldest until the parent reaps, or exits. -/
theorem Moves.records [Port π] {P : Label → Prop} {m m' : Moment π} {pid child : Pid}
    {filter : ChildFilter} {status : Int} (moves : Moves P m m') (sound : m.Sound)
    (h : m.kernel.Records pid filter child status) (reaps : ¬P (.reaps pid))
    (exits : ∀ parent, ¬P (.exits pid parent)) : m'.kernel.Records pid filter child status := by
  refine (moves.keeps (I := fun m => m.Sound ∧ m.kernel.Records pid filter child status) ⟨sound, h⟩
    fun {label _ _} allowed move ⟨sound, t, entity, slot, alive, first⟩ =>
      ⟨move.sound sound, ?_⟩).2
  obtain ⟨t', slot', step⟩ := move.slotStep sound slot
  refine ⟨t', entity, slot', ?_⟩
  rcases step.survives alive with gone | ⟨alive', -⟩
  · exact absurd (gone ▸ allowed) (exits t.parent)
  · refine ⟨alive', ?_⟩
    cases step with
    | same | promote | awaitChild | awaitDevice | wakeDirect => exact first
    | change change => rw [change.keeps.unreaped]; exact first
    | wake wakes => rw [wakes.keeps.unreaped]; exact first
    | freed dead => simp [Task.isAlive, dead] at alive
    | spawned free => simp [Task.isAlive, free] at alive
    | reap => exact absurd allowed reaps
    | record alive busy put =>
      rw [(Fifo.push?_eq_some.1 put).2, List.find?_append, first]
      rfl
    | die => exact absurd allowed (exits _)

end Rtos

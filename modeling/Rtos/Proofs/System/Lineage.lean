import Rtos.Proofs.Kernel.Families
import Rtos.Proofs.Kernel.Listeners
import Rtos.Proofs.System.Ledger
import Rtos.Proofs.System.Resuming

/-!
# Numbers that are used again

The number of a task stands in five places besides its slot: with its children, in the record of its
death, in the queues of mutexes, on the lists of listeners, and in queued events.  A slot is free only
when none of them has its number (`System.Vacated`), so a task that gets the number of another inherits
nothing from it.

A lineage keeps who has each number at present, and who created whom, with `Life` to tell apart those
that had the same number.  It is read off the calls that were made and their answers, and the numbers
that the kernel keeps as parents mean the tasks that it names (`System.Faithful`).
-/

namespace Rtos

variable {π : Type}

/-! ## The lineage -/

/-- Who has each number at present, and who created whom. -/
structure Lineage where
  /-- How many tasks there have been. -/
  births : Nat
  /-- Who had a number last. -/
  present : Pid → Life
  /-- Who created a task. -/
  parent : Life → Life

/-- A child is born to the caller of a spawn that answers with its number. -/
theorem Observation.family?_eq_bears {o : Observation} {child : Pid} :
    o.family? = some (.bears child) ↔ (∃ entry, o.call = .spawn entry) ∧ o.reply = .number child := by
  obtain ⟨caller, call, reply⟩ := o
  constructor
  · intro h
    simp only [family?] at h
    split at h <;> cases h
    exact ⟨⟨_, rfl⟩, rfl⟩
  · rintro ⟨⟨entry, rfl⟩, rfl⟩
    rfl

namespace Lineage

/-- At first there is the idle task; the other numbers are nobody's. -/
def start : Lineage where
  births := 1
  present pid := ⟨pid, 0⟩
  parent _ := .idle

/-- The task that has the number `caller` creates one that gets the number `child`. -/
def bear (l : Lineage) (caller child : Pid) : Lineage where
  births := l.births + 1
  present := Function.update l.present child ⟨child, l.births⟩
  parent := Function.update l.parent ⟨child, l.births⟩ (l.present caller)

/-- What the lineage becomes. -/
def next (l : Lineage) (o : Observation) : Lineage :=
  match o.family? with
  | some (.bears child) => l.bear o.caller child
  | _ => l

/-- The lineage that a log of observations, newest first, tells of. -/
def of : List Observation → Lineage
  | [] => start
  | o :: log => (of log).next o

variable {l : Lineage} {o : Observation} {pid other caller child : Pid}

theorem next_of_bears (h : o.family? = some (.bears child)) : l.next o = l.bear o.caller child := by
  rw [next, h]

theorem next_of_not_bears (h : ∀ child, o.family? ≠ some (.bears child)) : l.next o = l := by
  unfold next
  split
  case h_1 child bears => exact absurd bears (h child)
  case h_2 => rfl

@[simp] theorem present_bear_self : (l.bear caller child).present child = ⟨child, l.births⟩ :=
  Function.update_self _ _ _

theorem present_bear_of_ne (ne : pid ≠ child) : (l.bear caller child).present pid = l.present pid :=
  Function.update_of_ne ne _ _

@[simp] theorem parent_bear_self : (l.bear caller child).parent ⟨child, l.births⟩ = l.present caller :=
  Function.update_self _ _ _

/-- Who has a number has it, and was born. -/
structure Formed (l : Lineage) : Prop where
  /-- Who has a number has that number. -/
  numbered : ∀ pid, (l.present pid).pid = pid
  /-- Who has a number was born before those that are still to come. -/
  born : ∀ pid, (l.present pid).birth < l.births

namespace Formed

theorem start : start.Formed :=
  ⟨fun _ => rfl, fun _ => Nat.one_pos⟩

/-- Different numbers are had by different tasks. -/
theorem present_inj (h : l.Formed) : l.present pid = l.present other ↔ pid = other := by
  constructor
  · intro same
    rw [← h.numbered pid, ← h.numbered other, same]
  · rintro rfl
    rfl

theorem present_ne (h : l.Formed) : l.present pid ≠ ⟨child, l.births⟩ := by
  intro same
  have born := h.born pid
  rw [same] at born
  exact Nat.lt_irrefl _ born

theorem bear (h : l.Formed) : (l.bear caller child).Formed := by
  constructor
  case numbered =>
    intro pid
    by_cases new : pid = child
    · subst new
      rw [present_bear_self]
    · rw [present_bear_of_ne new]
      exact h.numbered pid
  case born =>
    intro pid
    by_cases new : pid = child
    · subst new
      rw [present_bear_self]
      exact Nat.lt_succ_self _
    · rw [present_bear_of_ne new]
      exact Nat.lt_succ_of_lt (h.born pid)

end Formed

theorem parent_bear_present (h : l.Formed) :
    (l.bear caller child).parent (l.present pid) = l.parent (l.present pid) :=
  Function.update_of_ne h.present_ne _ _

/-- Whatever happens, those that were born keep their parents. -/
theorem parent_next_present (h : l.Formed) (o : Observation) :
    (l.next o).parent (l.present pid) = l.parent (l.present pid) := by
  unfold next
  split
  case h_1 => exact parent_bear_present h
  case h_2 => rfl

/-- Whatever happens, a lineage stays formed. -/
theorem Formed.next (h : l.Formed) (o : Observation) : (l.next o).Formed := by
  unfold Lineage.next
  split
  case h_1 => exact h.bear
  case h_2 => exact h

/-- The parents that the kernel keeps are those of the lineage, and were born before their
children. -/
def Fits (l : Lineage) (k : Kernel π) : Prop :=
  ∀ {pid t}, pid ≠ idlePid → k.sched.task? pid = some t → t.active = true →
    l.parent (l.present pid) = l.present t.parent ∧
      (l.present t.parent).birth < (l.present pid).birth

end Lineage

namespace System

variable {s s' : System π} {l : Lineage} {log : List Observation} {call : Call} {reply : Reply}
  {pid child : Pid} {t : Task}

/-! ## Numbers that nobody refers to -/

/-- Nothing in the system has a number. -/
structure Vacated (s : System π) (pid : Pid) : Prop where
  /-- No task has it as its parent. -/
  parent : ∀ {child c}, s.kernel.sched.task? child = some c → c.active = true → c.parent ≠ pid
  /-- No record of a death has it. -/
  record : ∀ {holder t r}, s.kernel.sched.task? holder = some t → r ∈ t.unreaped.items → r.pid ≠ pid
  /-- It stands in no queue of a mutex. -/
  waiter : ∀ id, pid ∉ (s.mutexes id).waiters.items
  /-- No listener has it. -/
  listener : ∀ kind, ∀ sub ∈ s.kernel.bus.registry.lists.get kind, sub.extra ≠ pid
  /-- No queued event tells of its exit, or is for it as a parent. -/
  event : ∀ event ∈ s.kernel.bus.queues.events, ∀ child parent status,
    event.payload = .task child parent status → child ≠ pid ∧ parent ≠ pid

/-- The numbers that the kernel keeps mean the tasks of a lineage. -/
structure Faithful [Port π] (s : System π) (l : Lineage) : Prop where
  /-- A number that a new task gets is vacated. -/
  vacated : ∀ {entry pid s'}, s.step (.spawn entry) = .ok (.number pid, s') → s.Vacated pid
  /-- The entity of a task stands under that of the task in its parent's slot, and it is that task
  which created it. -/
  parent : ∀ {pid t}, pid ≠ idlePid → s.kernel.sched.task? pid = some t → t.active = true →
    (∃ p id above, s.kernel.sched.task? t.parent = some p ∧ p.active = true ∧ t.entity = some id ∧
      p.entity = some above ∧ s.kernel.entities.parent? id = some above) ∧
      l.parent (l.present pid) = l.present t.parent
  /-- The live children of a number are the tasks alive that were created by the task that has the
  number. -/
  children : ∀ {pid child}, child ∈ s.kernel.sched.liveChildren pid ↔
    ∃ c, s.kernel.sched.task? child = some c ∧ c.isAlive = true ∧ child ≠ idlePid ∧
      l.parent (l.present child) = l.present pid

variable [Port π]

/-- What holds between calls of the numbers of tasks. -/
structure Descended (s : System π) (l : Lineage) : Prop extends Resting s where
  /-- Who waits for a device is listed for reports. -/
  watched : s.kernel.Watched
  /-- Who waits for a child is listed for exits. -/
  attended : s.kernel.Attended
  /-- Tasks stand under their parents. -/
  rooted : s.kernel.Rooted
  /-- The lineage is formed. -/
  formed : l.Formed
  /-- It names the parents. -/
  fits : l.Fits s.kernel

/-- Whoever is there when a call is made keeps the number. -/
theorem present_next (l : Lineage) {p : Pid} {u : Task} {held : List EntityId}
    (sound : Moment.Sound ⟨s.kernel, held, none⟩) (settled : s.kernel.Settled)
    (step : s.step call = .ok (reply, s')) (slot : s.kernel.sched.task? p = some u)
    (active : u.active = true) :
    (l.next ⟨s.kernel.current, call, reply⟩).present p = l.present p := by
  by_cases bears : ∃ child, Observation.family? ⟨s.kernel.current, call, reply⟩ = some (.bears child)
  · obtain ⟨child, bears⟩ := bears
    obtain ⟨⟨entry, rfl⟩, rfl⟩ := Observation.family?_eq_bears.1 bears
    obtain ⟨result, spawn, reply, -⟩ := request_eq_ok (f := (·.spawn entry)) step
    rw [Lineage.next_of_bears bears]
    refine Lineage.present_bear_of_ne ?_
    rintro rfl
    rcases Kernel.spawn_eq_ok sound settled spawn with ⟨⟨e, rfl⟩, -⟩ |
      ⟨child, v, entity, stack, stackPointer, rfl, -, free, vacant, -, -⟩
    · cases reply
    · cases reply
      cases slot.symm.trans free
      cases active.symm.trans vacant
  · rw [Lineage.next_of_not_bears fun child is => bears ⟨child, is⟩]

theorem descended_boot {port : π} {k : Kernel π} (booted : Kernel.boot port = .ok (.ok k)) :
    Descended ⟨k, fun _ => .free⟩ .start where
  toResting := resting_boot booted
  watched := Kernel.watched_boot booted
  attended := Kernel.attended_boot booted
  rooted := Kernel.rooted_boot booted
  formed := .start
  fits busy slot active := by
    cases Kernel.empty_of_boot booted busy slot
    cases active

namespace Descended

omit [Port π] in
/-- Nothing has the number of a free slot. -/
theorem vacated (h : s.Descended l) (slot : s.kernel.sched.task? pid = some t)
    (free : t.active = false) (busy : pid ≠ idlePid) : s.Vacated pid := by
  have dead : t.state = .dead := (h.sound.tasks.free slot free).1
  constructor
  case parent =>
    intro child c found active
    by_cases idle : child = idlePid
    · subst idle
      obtain ⟨u, found', parent⟩ := h.attended.idle
      cases found.symm.trans found'
      rw [parent]
      exact Ne.symm busy
    · exact Kernel.Rooted.parent_ne h.rooted h.sound slot free found active idle
  case record =>
    rintro holder u r found mem rfl
    obtain ⟨c, slot', active, -⟩ := h.sound.tasks.recorded found mem
    cases slot.symm.trans slot'
    cases free.symm.trans active
  case waiter =>
    intro id mem
    obtain ⟨u, slot', parked⟩ := h.parked busy mem
    cases slot.symm.trans slot'
    cases dead.symm.trans parked
  case listener =>
    rintro kind sub mem rfl
    cases kind with
    | device =>
      have none := h.watched sub.extra t busy slot
      rw [if_neg (by rw [dead]; nofun), List.countP_eq_zero] at none
      exact none sub mem (decide_eq_true rfl)
    | task =>
      have none := ((h.attended.listens busy slot).of_other (by rw [dead]; nofun)).2
      exact List.filter_eq_nil_iff.1 none sub mem (decide_eq_true rfl)
    | file =>
      have serves := h.sound.listeners .file sub mem
      rw [KernelListener.not_serves_file] at serves
      cases serves
  case event =>
    intro event queued child parent status payload
    refine absurd ?_ (h.told event queued)
    rw [Event.kind, payload]
    rfl

omit [Port π] in
/-- The entity of a task stands under that of its parent. -/
theorem above (h : s.Descended l) (busy : pid ≠ idlePid) (slot : s.kernel.sched.task? pid = some t)
    (active : t.active = true) : ∃ p id above, s.kernel.sched.task? t.parent = some p ∧
      p.active = true ∧ t.entity = some id ∧ p.entity = some above ∧
      s.kernel.entities.parent? id = some above := by
  obtain ⟨id, owns, owned⟩ := h.sound.linked.task slot active
  obtain ⟨above, parent, owned⟩ := h.rooted owned busy slot
  obtain ⟨e, live, owner⟩ := EntityTree.owner?_eq_some.1 owned
  obtain ⟨-, p, slot', active', owns'⟩ := h.sound.linked.owner live owner
  exact ⟨p, id, above, slot', active', owns, owns', parent⟩

/-- A call leaves tasks with their parents, and a task that it creates is a child of the caller. -/
theorem fits_step (h : s.Descended l) (step : s.step call = .ok (reply, s')) :
    (l.next ⟨s.kernel.current, call, reply⟩).Fits s'.kernel := by
  intro pid t' busy slot' active
  have keeps {p : Pid} {u : Task} := present_next (p := p) (u := u) l h.sound h.settled step
  rcases remains_or_born h.sound h.settled step slot' active with ⟨t, slot, remains⟩ |
    ⟨entry, u, entity, stack, stackPointer, rfl, rfl, -, free, vacant, rfl⟩
  · obtain ⟨p, -, -, above, taken, -⟩ := h.above busy slot remains.active
    rw [keeps slot remains.active, Lineage.parent_next_present h.formed, remains.parent,
      keeps above taken]
    exact h.fits busy slot remains.active
  · obtain ⟨v, own, -, alive⟩ := h.settled.alive h.sound
    have caller := keeps own (Task.active_of_alive alive)
    change _ = Lineage.present _ s.kernel.current ∧ (Lineage.present _ s.kernel.current).birth < _
    rw [caller, Lineage.next_of_bears rfl, Lineage.present_bear_self, Lineage.parent_bear_self]
    exact ⟨rfl, h.formed.born _⟩

theorem step (h : s.Descended l) (step : s.step call = .ok (reply, s')) :
    s'.Descended (l.next ⟨s.kernel.current, call, reply⟩) := by
  have moves := (operates_step h.sound h.settled step).moves h.sound
  exact ⟨h.toResting.step step, moves.watched h.sound h.watched, moves.attended h.sound h.attended,
    moves.rooted h.sound h.rooted, h.formed.next _, h.fits_step step⟩

omit [Port π] in
/-- The live children of a number are those that the lineage has. -/
theorem mem_liveChildren (h : s.Descended l) : child ∈ s.kernel.sched.liveChildren pid ↔
    ∃ c, s.kernel.sched.task? child = some c ∧ c.isAlive = true ∧ child ≠ idlePid ∧
      l.parent (l.present child) = l.present pid := by
  have listed : child ∈ s.kernel.sched.liveChildren pid ↔
      ∃ c, s.kernel.sched.task? child = some c ∧ c.isAlive = true ∧ c.parent = pid ∧
        child ≠ pid := by
    simp only [Scheduler.liveChildren, List.mem_map, List.mem_filter, Scheduler.mem_tasks,
      Bool.and_eq_true, beq_iff_eq, bne_iff_ne]
    constructor
    · rintro ⟨c, ⟨⟨number, slot⟩, ⟨alive, parent⟩, ne⟩, rfl⟩
      have same := h.sound.tasks.numbered slot (Task.active_of_alive alive)
      exact ⟨c, same ▸ slot, alive, parent, ne⟩
    · rintro ⟨c, slot, alive, parent, ne⟩
      have same := h.sound.tasks.numbered slot (Task.active_of_alive alive)
      exact ⟨c, ⟨⟨child, slot⟩, ⟨alive, parent⟩, same ▸ ne⟩, same⟩
  rw [listed]
  constructor
  · rintro ⟨c, slot, alive, rfl, ne⟩
    have busy : child ≠ idlePid := by
      rintro rfl
      obtain ⟨u, slot', parent⟩ := h.attended.idle
      cases slot.symm.trans slot'
      exact ne parent.symm
    exact ⟨c, slot, alive, busy, (h.fits busy slot (Task.active_of_alive alive)).1⟩
  · rintro ⟨c, slot, alive, busy, created⟩
    have active := Task.active_of_alive alive
    obtain ⟨names, older⟩ := h.fits busy slot active
    have parent : c.parent = pid := h.formed.present_inj.1 (names.symm.trans created)
    refine ⟨c, slot, alive, parent, ?_⟩
    rintro rfl
    rw [parent] at older
    exact Nat.lt_irrefl _ older

/-- The numbers that the kernel keeps mean the tasks of the lineage. -/
theorem faithful (h : s.Descended l) : s.Faithful l where
  vacated {entry _ _} step := by
    obtain ⟨result, spawn, reply, -⟩ := request_eq_ok (f := (·.spawn entry)) step
    rcases Kernel.spawn_eq_ok h.sound h.settled spawn with ⟨⟨e, rfl⟩, -⟩ |
      ⟨child, u, entity, stack, stackPointer, rfl, busy, slot, free, -, -⟩
    · cases reply
    · cases reply
      exact h.vacated slot free busy
  parent busy slot active := ⟨h.above busy slot active, (h.fits busy slot active).1⟩
  children := h.mem_liveChildren

end Descended

/-- Whatever calls are made on a kernel that was just built, with any mutexes, a number that a task gets
is vacated, and the numbers that the kernel keeps mean the tasks that were created. -/
theorem faithful_of_record {port : π} {k : Kernel π} {calls : List Call}
    (booted : Kernel.boot port = .ok (.ok k))
    (run : System.record ⟨k, fun _ => .free⟩ [] calls = .ok (log, s)) :
    s.Faithful (.of log) :=
  Descended.faithful (record_keeps (I := fun log s => s.Descended (.of log)) Descended.step
    (descended_boot booted) run)

/-- A run in which a task exits while its child lives, both are gone in the end, and the number of the
first is used again. -/
theorem faithful_of_record_host : ∃ k log s s', Kernel.boot (HostPort.new false) = .ok (.ok k) ∧
    System.record ⟨k, fun _ => .free⟩ [] [.spawn (.program 0), .schedule, .spawn (.program 1),
      .schedule, .spawn (.program 2), .exit 7, .exit 8, .waitChild .any .empty] = .ok (log, s) ∧
    s.step (.spawn (.program 3)) = .ok (.number 2, s') ∧ s.Vacated 2 ∧ s.Faithful (.of log) := by
  have runs : (((Kernel.boot (HostPort.new false)).toOption.bind Except.toOption).any fun k =>
        (System.record ⟨k, fun _ => .free⟩ [] [.spawn (.program 0), .schedule, .spawn (.program 1),
          .schedule, .spawn (.program 2), .exit 7, .exit 8, .waitChild .any .empty]).toOption.any
            fun out => (out.2.step (.spawn (.program 3))).toOption.any fun next =>
              next.1 = .number 2) = true := by
    decide +kernel
  obtain ⟨k, booted, runs⟩ := Kernel.exists_of_boot runs
  obtain ⟨⟨log, s⟩, run, spawns⟩ := Checked.exists_of_any runs
  obtain ⟨⟨reply, s'⟩, step, number⟩ := Checked.exists_of_any spawns
  cases of_decide_eq_true number
  have faithful := faithful_of_record booted run
  exact ⟨k, log, s, s', booted, run, step, faithful.vacated step, faithful⟩

end System

end Rtos

import Rtos.Proofs.Kernel.Families
import Rtos.Proofs.System.Faultless
import Rtos.Proofs.System.Ledger

/-!
# Exits are told once

The calls that were made and their answers determine a ledger of who lives and which exits are still
to be told (`Ledger.of`), in which tasks that had the same number one after the other are kept apart.
The kernel, which has nothing but numbers, agrees with it after every run (`System.Reckons`): the
records of a live task are those of the ledger in that order, a wait is told of the oldest one that it
accepts, and the parent that the kernel looks up is the task that created the one that exits, or is
not alive.
-/

namespace Rtos

/-! ## What calls do to kin -/

/-- What a call of the task `caller` does to all kin, by what its answer says of the family. -/
inductive KinStep (caller : Pid) (before : Pid → Option Kin) :
    Option FamilyEvent → (Pid → Option Kin) → Prop
  /-- Nothing happens. -/
  | rest : KinStep caller before none before
  /-- A child gets a number that nobody has, that is nobody's parent, and of which no exit is
  recorded. -/
  | bears {kin : Kin} {child : Pid} (own : before caller = some kin) (unused : before child = none)
      (unrecorded : ∀ {pid other}, before pid = some other → ∀ exit ∈ other.exits, exit.1 ≠ child)
      (unparented : ∀ {pid other}, before pid = some other → pid ≠ idlePid → other.parent ≠ child) :
      KinStep caller before (some (.bears child))
        (Function.update before child (some ⟨caller, []⟩))
  /-- The caller is not the idle task, and exits. -/
  | dies {kin : Kin} {status : Int} (own : before caller = some kin) (busy : caller ≠ idlePid) :
      KinStep caller before (some (.dies status)) (Kin.bereave before caller kin.parent status)
  /-- The caller is told of the oldest exit that the filter accepts. -/
  | learns {kin : Kin} {filter : ChildFilter} {exit : Pid × Int} (own : before caller = some kin)
      (oldest : kin.exits.find? (fun exit => filter.accepts exit.1) = some exit) :
      KinStep caller before (some (.learns filter exit))
        (Function.update before caller (some (kin.remove filter)))

/-- The number of a child is nobody's, nor does a recorded exit have it. -/
theorem KinStep.unused {caller child : Pid} {before after : Pid → Option Kin}
    (h : KinStep caller before (some (.bears child)) after) : before child = none ∧
      ∀ {pid other}, before pid = some other → ∀ exit ∈ other.exits, exit.1 ≠ child := by
  cases h with
  | bears _ unused unrecorded _ => exact ⟨unused, unrecorded⟩

/-- Only a few calls change kin. -/
theorem Call.touches {current pid : Pid} {call : Call} {label : Label}
    (h : call.labels current label) (touches : label.Touches pid) :
    (∃ entry, call = .spawn entry) ∨ (∃ status, call = .exit status) ∨
      ∃ filter options, call = .waitChild filter options := by
  cases label with
  | spawns => exact .inl (spawns_of_labels h).2
  | exits => exact .inr (.inl (exits_of_labels h).2)
  | reaps => exact .inr (reaps_of_labels h).2
  | _ => exact touches.elim

namespace System

variable {π : Type} [Port π] {s s' : System π} {log : List Observation} {call : Call}
  {calls : List Call} {reply : Reply}

theorem kin_step (sound : Moment.Sound ⟨s.kernel, [], none⟩) (settled : s.kernel.Settled)
    (rooted : s.kernel.Rooted) (step : s.step call = .ok (reply, s')) :
    KinStep s.kernel.current s.kernel.kin?
      (Observation.family? ⟨s.kernel.current, call, reply⟩) s'.kernel.kin? := by
  have rest (other : Observation.family? ⟨s.kernel.current, call, reply⟩ = none)
      (same : s'.kernel.kin? = s.kernel.kin?) : KinStep s.kernel.current s.kernel.kin?
        (Observation.family? ⟨s.kernel.current, call, reply⟩) s'.kernel.kin? := by
    rw [other, same]
    exact .rest
  have same (apart : ∀ pid label, call.labels s.kernel.current label → ¬label.Touches pid) :=
    (operates_step sound settled step).kin? sound apart
  cases call with
  | spawn entry =>
    obtain ⟨result, spawn, rfl, -⟩ := request_eq_ok (f := (·.spawn entry)) step
    rcases Kernel.kin?_spawn sound settled spawn with ⟨⟨e, rfl⟩, same⟩ |
      ⟨child, u, rfl, -, slot, free, born⟩
    · exact rest rfl same
    · rw [born]
      obtain ⟨t, current, -, alive⟩ := settled.alive sound
      refine .bears (Kernel.kin?_eq_some.2 ⟨t, current, alive, rfl⟩) ?_ ?_ ?_
      · exact (Kernel.kin?_of_slot slot).trans (Task.kin?_of_dead (by simp [Task.isAlive, free]))
      · intro pid other own exit recorded taken
        obtain ⟨v, slot', -, rfl⟩ := Kernel.kin?_eq_some.1 own
        obtain ⟨r, record, rfl⟩ := List.mem_map.1 recorded
        obtain ⟨c, found, active, -⟩ := sound.tasks.recorded slot' record
        change r.pid = child at taken
        rw [taken] at found
        cases slot.symm.trans found
        cases free.symm.trans active
      · intro pid other own busy
        obtain ⟨v, slot', alive, rfl⟩ := Kernel.kin?_eq_some.1 own
        exact rooted.parent_ne sound slot free slot' (Task.active_of_alive alive) busy
  | exit status =>
    obtain ⟨result, exit, rfl, -⟩ := request_eq_ok (f := (·.exit status)) step
    rcases Kernel.kin?_exit sound settled exit with ⟨-, rfl, same⟩ | ⟨kin, rfl, busy, own, bereaves⟩
    · exact rest rfl same
    · rw [bereaves]
      exact .dies own busy
  | waitChild filter options =>
    obtain ⟨result, wait, rfl, -⟩ := request_eq_ok (f := (·.waitChild filter options)) step
    obtain ⟨kin, own, ⟨exit, rfl, oldest, removes⟩ | ⟨undone, -, same⟩⟩ :=
      Kernel.kin?_waitChild sound settled wait
    · rw [removes]
      exact .learns own oldest
    · refine rest ?_ same
      cases result with
      | error => rfl
      | ok progress =>
        cases progress with
        | done exit => exact absurd rfl (undone exit)
        | _ => rfl
  | _ => exact rest rfl (same fun pid label labels touches => by
      obtain ⟨_, eq⟩ | ⟨_, eq⟩ | ⟨_, _, eq⟩ := Call.touches labels touches <;> cases eq)

end System

/-! ## The ledger agrees with kin -/

namespace Ledger

/-- Who lives by the ledger has kin, with the exits that the ledger keeps for it, and nobody else
has. -/
structure Tallies (l : Ledger) (kin : Pid → Option Kin) : Prop where
  /-- The idle task lives. -/
  idle : .idle ∈ l.living
  /-- Those who live have different numbers. -/
  distinct : ∀ life ∈ l.living, ∀ other ∈ l.living, life.pid = other.pid → life = other
  /-- Who has kin lives. -/
  lives : ∀ {pid own}, kin pid = some own → ∃ life ∈ l.living, life.pid = pid
  /-- Who lives has kin, and the exits that it was not told of. -/
  exits : ∀ life ∈ l.living, ∃ parent,
    kin life.pid = some ⟨parent, (l.pending life).map Passing.exit⟩
  /-- The parent has the number of the one who created the task, and is that one if it is alive. -/
  parent : ∀ life ∈ l.living, life ≠ .idle → ∀ {own}, kin life.pid = some own →
    own.parent = (l.parent life).pid ∧ ∀ {above}, kin own.parent = some above →
      l.parent life ∈ l.living

namespace Tallies

variable {l : Ledger} {kin : Pid → Option Kin} {caller child : Pid} {life : Life} {own : Kin}
  {filter : ChildFilter} {exit : Pid × Int} {event : Option FamilyEvent} {status : Int}

theorem holder (h : l.Tallies kin) (lives : life ∈ l.living) : l.holder? life.pid = some life := by
  cases found : l.holder? life.pid with
  | none =>
    have other := List.find?_eq_none.1 found life lives
    simp at other
  | some other =>
    have same : other.pid = life.pid := by simpa using List.find?_some found
    rw [h.distinct other (List.mem_of_find?_eq_some found) life lives same]

theorem busy (h : l.Tallies kin) (lives : life ∈ l.living) (busy : life ≠ .idle) :
    life.pid ≠ idlePid :=
  fun idle => busy (h.distinct life lives .idle h.idle idle)

/-- The oldest exit that a task may be told of is the oldest that the ledger keeps. -/
theorem oldest (h : l.Tallies kin) (lives : life ∈ l.living) (has : kin life.pid = some own) :
    own.exits.find? (fun exit => filter.accepts exit.1) =
      ((l.pending life).find? (filter.accepts ·.child.pid)).map Passing.exit := by
  obtain ⟨parent, is⟩ := h.exits life lives
  cases has.symm.trans is
  exact List.find?_map

theorem start : start.Tallies (Function.update (fun _ => none) idlePid (some ⟨idlePid, []⟩)) where
  idle := List.mem_singleton_self _
  distinct life mem other mem' _ := (List.mem_singleton.1 mem).trans (List.mem_singleton.1 mem').symm
  lives {pid own} has := by
    rw [Function.update_apply] at has
    split at has
    case isTrue idle => exact ⟨.idle, List.mem_singleton_self _, idle.symm⟩
    case isFalse => cases has
  exits life mem := by
    cases List.mem_singleton.1 mem
    exact ⟨idlePid, Function.update_self _ _ _⟩
  parent life mem busy := absurd (List.mem_singleton.1 mem) busy

theorem bear (h : l.Tallies kin) (orderly : l.Orderly) (lives : life ∈ l.living)
    (unused : kin child = none)
    (unparented : ∀ {pid other}, kin pid = some other → pid ≠ idlePid → other.parent ≠ child) :
    (l.bear life child).Tallies (Function.update kin child (some ⟨life.pid, []⟩)) := by
  have newborn : ⟨child, l.births⟩ ∉ l.living := fun mem => Nat.lt_irrefl _ (orderly.born _ mem)
  -- the number is nobody's yet
  have other {o : Life} (mem : o ∈ l.living) : o.pid ≠ child := by
    rintro rfl
    obtain ⟨parent, is⟩ := h.exits o mem
    cases unused.symm.trans is
  have kept {o : Life} (mem : o ∈ l.living) (value : Option Kin) :
      Function.update kin child value o.pid = kin o.pid :=
    Function.update_of_ne (other mem) _ _
  constructor
  · exact List.mem_cons_of_mem _ h.idle
  · intro a mem b mem' same
    rcases List.mem_cons.1 mem with rfl | mem <;> rcases List.mem_cons.1 mem' with rfl | mem'
    · rfl
    · exact absurd same.symm (other mem')
    · exact absurd same (other mem)
    · exact h.distinct a mem b mem' same
  · intro pid own has
    by_cases new : pid = child
    · exact ⟨_, List.mem_cons_self, new.symm⟩
    · rw [Function.update_of_ne new] at has
      obtain ⟨o, mem, is⟩ := h.lives has
      exact ⟨o, List.mem_cons_of_mem _ mem, is⟩
  · intro o mem
    rcases List.mem_cons.1 mem with rfl | mem
    · refine ⟨life.pid, (Function.update_self _ _ _).trans ?_⟩
      change _ = some (⟨life.pid, (l.pending ⟨child, l.births⟩).map Passing.exit⟩ : Kin)
      rw [orderly.dropped _ newborn]
      rfl
    · rw [kept mem]
      exact h.exits o mem
  · intro o mem notIdle own has
    rcases List.mem_cons.1 mem with rfl | mem
    · cases (Function.update_self _ _ _).symm.trans has
      rw [parent_bear_self]
      exact ⟨rfl, fun _ => List.mem_cons_of_mem _ lives⟩
    · rw [kept mem] at has
      obtain ⟨number, survives⟩ := h.parent o mem notIdle has
      have old : o ≠ ⟨child, l.births⟩ := fun eq => newborn (eq ▸ mem)
      have above := unparented has (h.busy mem notIdle)
      rw [parent_bear_of_ne old, Function.update_of_ne above]
      exact ⟨number, fun has => List.mem_cons_of_mem _ (survives has)⟩

theorem bury (h : l.Tallies kin) (orderly : l.Orderly) (lives : life ∈ l.living)
    (busy : life.pid ≠ idlePid) (has : kin life.pid = some own) :
    (l.bury life status).Tallies (Kin.bereave kin life.pid own.parent status) := by
  have notIdle : life ≠ .idle := by
    rintro rfl
    exact busy rfl
  obtain ⟨number, survives⟩ := h.parent life lives notIdle has
  have still {o : Life} : o ∈ (l.bury life status).living ↔ o ≠ life ∧ o ∈ l.living :=
    orderly.nodup.mem_erase_iff
  -- the kernel and the ledger choose the same one to be told
  have heir {o : Life} (mem : o ∈ l.living) : (o.pid = own.parent ∧ o.pid ≠ idlePid) ↔
      (o = l.parent life ∧ o ≠ .idle ∧ o ∈ l.living) := by
    constructor
    · rintro ⟨above, notIdle⟩
      obtain ⟨parent, is⟩ := h.exits o mem
      have creator := survives (above ▸ is)
      refine ⟨h.distinct o mem _ creator (above.trans number), ?_, mem⟩
      rintro rfl
      exact notIdle rfl
    · rintro ⟨rfl, notIdle, -⟩
      exact ⟨number.symm, h.busy mem notIdle⟩
  constructor
  · exact still.2 ⟨notIdle.symm, h.idle⟩
  · intro a mem b mem'
    exact h.distinct a (still.1 mem).2 b (still.1 mem').2
  · intro pid other has
    obtain ⟨ne, old, has, -⟩ := Kin.bereave_eq_some has
    obtain ⟨o, mem, rfl⟩ := h.lives has
    refine ⟨o, still.2 ⟨?_, mem⟩, rfl⟩
    rintro rfl
    exact ne rfl
  · intro o mem
    obtain ⟨ne, mem⟩ := still.1 mem
    obtain ⟨parent, is⟩ := h.exits o mem
    have apart : o.pid ≠ life.pid := fun same => ne (h.distinct o mem life lives same)
    refine ⟨parent, ?_⟩
    simp only [Kin.bereave, Ledger.bury, if_neg apart, if_neg ne, heir mem, is]
    split
    case isTrue => simp [Kin.add, Passing.exit]
    case isFalse => rfl
  · intro o mem notIdle other has
    obtain ⟨ne, mem⟩ := still.1 mem
    obtain ⟨-, old, has, same⟩ := Kin.bereave_eq_some has
    obtain ⟨number, survives⟩ := h.parent o mem notIdle has
    rw [same]
    refine ⟨number, fun has => ?_⟩
    obtain ⟨apart, above, has, -⟩ := Kin.bereave_eq_some has
    refine still.2 ⟨fun eq => apart ?_, survives has⟩
    rw [number, ← eq]
    rfl

theorem tell (h : l.Tallies kin) (lives : life ∈ l.living) (has : kin life.pid = some own) :
    (l.tell life filter).Tallies (Function.update kin life.pid (some (own.remove filter))) := by
  -- nobody begins or ceases to have kin, or gets another parent
  have same {pid : Pid} {other : Kin}
      (has' : Function.update kin life.pid (some (own.remove filter)) pid = some other) :
      ∃ old, kin pid = some old ∧ other.parent = old.parent := by
    rw [Function.update_apply] at has'
    split at has'
    case isTrue eq =>
      cases has'
      exact ⟨own, eq ▸ has, rfl⟩
    case isFalse => exact ⟨other, has', rfl⟩
  constructor
  · exact h.idle
  · exact h.distinct
  · intro pid other has
    obtain ⟨old, has, -⟩ := same has
    exact h.lives has
  · intro o mem
    obtain ⟨parent, is⟩ := h.exits o mem
    refine ⟨parent, ?_⟩
    by_cases self : o = life
    · subst self
      cases has.symm.trans is
      rw [Function.update_self, pending_tell_self, Kin.remove, List.eraseP_map]
      rfl
    · have apart : o.pid ≠ life.pid := fun same => self (h.distinct o mem life lives same)
      rw [Function.update_of_ne apart, pending_tell_of_ne self]
      exact is
  · intro o mem notIdle other has
    obtain ⟨old, has, eq⟩ := same has
    obtain ⟨number, survives⟩ := h.parent o mem notIdle has
    rw [eq]
    refine ⟨number, fun has => ?_⟩
    obtain ⟨above, has, -⟩ := same has
    exact survives has

/-- Kernel and ledger agree after whatever happens next. -/
theorem next {after : Pid → Option Kin} (h : l.Tallies kin) (orderly : l.Orderly)
    (step : KinStep caller kin event after) : (l.next caller event).Tallies after := by
  cases step with
  | rest =>
    rw [next_none]
    exact h
  | bears has unused unrecorded unparented =>
    obtain ⟨life, lives, rfl⟩ := h.lives has
    simp only [Ledger.next, h.holder lives]
    exact h.bear orderly lives unused unparented
  | dies has busy =>
    obtain ⟨life, lives, rfl⟩ := h.lives has
    simp only [Ledger.next, h.holder lives]
    exact h.bury orderly lives busy has
  | learns has oldest =>
    obtain ⟨life, lives, rfl⟩ := h.lives has
    simp only [Ledger.next, h.holder lives]
    exact h.tell lives has

/-- The exits that were told are those of the answers. -/
theorem answers_next {after : Pid → Option Kin} (h : l.Tallies kin)
    (step : KinStep caller kin event after) :
    (l.next caller event).answers = (event.bind (·.answer? caller)).toList ++ l.answers := by
  cases step with
  | rest => rw [next_none]; rfl
  | bears has =>
    obtain ⟨life, lives, rfl⟩ := h.lives has
    simp only [Ledger.next, h.holder lives]
    rfl
  | dies has =>
    obtain ⟨life, lives, rfl⟩ := h.lives has
    simp only [Ledger.next, h.holder lives]
    rfl
  | learns has oldest =>
    obtain ⟨life, lives, rfl⟩ := h.lives has
    rw [h.oldest lives has] at oldest
    obtain ⟨passing, found, rfl⟩ := Option.map_eq_some_iff.1 oldest
    simp only [Ledger.next, h.holder lives, answers, told_tell found]
    rfl

end Tallies

end Ledger

/-! ## Runs agree with their ledgers -/

namespace System

variable {π : Type} [Port π] {s s' : System π} {log : List Observation} {call : Call}
  {calls : List Call} {reply : Reply}

/-- What the task table says of those who live is what the ledger says, and the answers to calls
follow from it. -/
structure Reckons (s : System π) (l : Ledger) : Prop where
  /-- No exit stands in the ledger twice, and each is for the one who created the task. -/
  orderly : l.Orderly
  /-- The current task lives. -/
  caller : ∃ life ∈ l.living, life.pid = s.kernel.current
  /-- The live tasks are those who live. -/
  alive : ∀ {pid t}, s.kernel.sched.task? pid = some t →
    (t.isAlive = true ↔ ∃ life ∈ l.living, life.pid = pid)
  /-- Those who live have different numbers. -/
  distinct : ∀ life ∈ l.living, ∀ other ∈ l.living, life.pid = other.pid → life = other
  /-- The records of a live task are the exits that it was not told of, in that order. -/
  records : ∀ life ∈ l.living, ∃ t, s.kernel.sched.task? life.pid = some t ∧
    t.unreaped.items.map ExitRecord.exit = (l.pending life).map Passing.exit
  /-- Where no task is alive, there are no records. -/
  cleared : ∀ {pid t}, s.kernel.sched.task? pid = some t → t.isAlive = false →
    t.unreaped.items = []
  /-- The parent has the number of the one who created the task, and is that one if it is alive. -/
  parent : ∀ life ∈ l.living, life ≠ .idle → ∃ t, s.kernel.sched.task? life.pid = some t ∧
    t.parent = (l.parent life).pid ∧ ∀ {above}, s.kernel.sched.task? t.parent = some above →
      above.isAlive = true → l.parent life ∈ l.living
  /-- An exit is accepted from every task but the idle one. -/
  exits : ∀ {status reply s'}, s.step (.exit status) = .ok (reply, s') →
    (reply = .done ↔ s.kernel.current ≠ idlePid)
  /-- A wait is told of the oldest exit that its filter accepts, if there is one. -/
  tells : ∀ {filter options reply s'}, s.step (.waitChild filter options) = .ok (reply, s') →
    ∃ life ∈ l.living, life.pid = s.kernel.current ∧ ∀ exit, reply = .child (.done exit) ↔
      ((l.pending life).find? (filter.accepts ·.child.pid)).map Passing.exit = some exit
  /-- A new task gets a number that nobody who lives has, and of which no exit is kept. -/
  numbers : ∀ {entry child s'}, s.step (.spawn entry) = .ok (.number child, s') →
    (∀ life ∈ l.living, life.pid ≠ child) ∧ ∀ life, ∀ p ∈ l.pending life, p.child.pid ≠ child

/-- Exits come to an end, and so do waits of which there is something to tell. -/
structure Serves (s : System π) (l : Ledger) : Prop where
  /-- An exit comes to an end, unless the refusal of its event cannot be counted. -/
  exits : ∀ status, (s.step (.exit status)).EndsOr (s.Exhausts (.exit status))
  /-- The oldest exit that the filter accepts is told. -/
  tells : ∀ {life p filter} options, life ∈ l.living → life.pid = s.kernel.current →
    (l.pending life).find? (filter.accepts ·.child.pid) = some p →
    ∃ s', s.step (.waitChild filter options) = .ok (.child (.done p.exit), s')

/-- A state between calls, and the ledger of the log that led there. -/
structure Reckoning (s : System π) (log : List Observation) : Prop extends Healthy s where
  /-- Live tasks stand under their parents. -/
  rooted : s.kernel.Rooted
  /-- The ledger agrees with the kin of the tasks. -/
  tallies : (Ledger.of log).Tallies s.kernel.kin?
  /-- What was told is what the answers told. -/
  answers : (Ledger.of log).answers = log.filterMap Observation.answer?

namespace Reckoning

theorem boot {port : π} {k : Kernel π} (booted : Kernel.boot port = .ok (.ok k))
    (mutexes : MutexId → Mutex) : Reckoning ⟨k, mutexes⟩ [] where
  toHealthy := healthy_boot booted _
  rooted := Kernel.rooted_boot booted
  tallies := by
    change Ledger.start.Tallies k.kin?
    rw [Kernel.kin?_boot booted]
    exact .start
  answers := rfl

theorem step (h : Reckoning s log) (step : s.step call = .ok (reply, s')) :
    Reckoning s' (⟨s.kernel.current, call, reply⟩ :: log) := by
  have kin := kin_step h.sound h.settled h.rooted step
  exact
    { toHealthy := h.toHealthy.step step
      rooted := ((operates_step h.sound h.settled step).moves h.sound).rooted h.sound h.rooted
      tallies := h.tallies.next (Ledger.orderly_of log) kin
      answers := by
        refine (h.tallies.answers_next kin).trans ?_
        rw [h.answers, List.filterMap_cons]
        change (Observation.answer? ⟨s.kernel.current, call, reply⟩).toList ++ _ = _
        cases Observation.answer? ⟨s.kernel.current, call, reply⟩ with
        | none => rfl
        | some answer => rfl }

omit [Port π] in
theorem slot (h : Reckoning s log) {life : Life} (lives : life ∈ (Ledger.of log).living) :
    ∃ t, s.kernel.sched.task? life.pid = some t ∧ t.isAlive = true ∧
      t.unreaped.items.map ExitRecord.exit = ((Ledger.of log).pending life).map Passing.exit := by
  obtain ⟨parent, has⟩ := h.tallies.exits life lives
  obtain ⟨t, slot, alive, is⟩ := Kernel.kin?_eq_some.1 has
  exact ⟨t, slot, alive, (congrArg Kin.exits is).symm⟩

/-- An exit is accepted from every task but the idle one. -/
theorem exit_done_iff (h : Reckoning s log) {status : Int}
    (step : s.step (.exit status) = .ok (reply, s')) :
    reply = .done ↔ s.kernel.current ≠ idlePid := by
  obtain ⟨result, exit, rfl, -⟩ := request_eq_ok (f := (·.exit status)) step
  rcases Kernel.kin?_exit h.sound h.settled exit with ⟨idle, rfl, -⟩ | ⟨kin, rfl, busy, -⟩
  · exact ⟨nofun, fun busy => absurd idle busy⟩
  · exact ⟨fun _ => busy, fun _ => rfl⟩

/-- A wait is told of the oldest exit that its filter accepts, if there is one. -/
theorem waitChild_done_iff (h : Reckoning s log) {filter : ChildFilter} {options : WaitOptions}
    (step : s.step (.waitChild filter options) = .ok (reply, s')) :
    ∃ life ∈ (Ledger.of log).living, life.pid = s.kernel.current ∧
      ∀ exit, reply = .child (.done exit) ↔ (((Ledger.of log).pending life).find?
        (filter.accepts ·.child.pid)).map Passing.exit = some exit := by
  obtain ⟨result, wait, rfl, -⟩ := request_eq_ok (f := (·.waitChild filter options)) step
  obtain ⟨kin, has, answer⟩ := Kernel.kin?_waitChild h.sound h.settled wait
  obtain ⟨life, lives, is⟩ := h.tallies.lives has
  refine ⟨life, lives, is, fun exit => ?_⟩
  rw [← h.tallies.oldest lives (is ▸ has)]
  obtain ⟨told, rfl, oldest, -⟩ | ⟨undone, none, -⟩ := answer
  · constructor
    · rintro ⟨⟩
      exact oldest
    · intro same
      cases oldest.symm.trans same
      rfl
  · constructor
    · intro done
      cases result with
      | error => cases done
      | ok progress => cases done; exact absurd rfl (undone exit)
    · intro some
      cases none.symm.trans some

/-- A new task gets a number that nobody who lives has, and of which no exit is kept. -/
theorem spawn_number (h : Reckoning s log) {entry : EntryPoint} {child : Pid}
    (step : s.step (.spawn entry) = .ok (.number child, s')) :
    (∀ life ∈ (Ledger.of log).living, life.pid ≠ child) ∧
      ∀ life, ∀ p ∈ (Ledger.of log).pending life, p.child.pid ≠ child := by
  obtain ⟨unused, unrecorded⟩ := KinStep.unused (kin_step h.sound h.settled h.rooted step)
  constructor
  · rintro life lives rfl
    obtain ⟨parent, has⟩ := h.tallies.exits life lives
    cases unused.symm.trans has
  · intro life p kept
    have lives : life ∈ (Ledger.of log).living := by
      by_contra gone
      rw [(Ledger.orderly_of log).dropped life gone] at kept
      cases kept
    obtain ⟨parent, has⟩ := h.tallies.exits life lives
    exact unrecorded has p.exit (List.mem_map_of_mem kept)

theorem reckons (h : Reckoning s log) : s.Reckons (Ledger.of log) := by
  constructor
  case orderly => exact Ledger.orderly_of log
  case distinct => exact h.tallies.distinct
  case exits => exact h.exit_done_iff
  case tells => exact h.waitChild_done_iff
  case numbers => exact h.spawn_number
  case caller =>
    obtain ⟨t, slot, -, alive⟩ := h.settled.alive h.sound
    exact h.tallies.lives (Kernel.kin?_eq_some.2 ⟨t, slot, alive, rfl⟩)
  case alive =>
    intro pid t slot
    constructor
    · intro alive
      exact h.tallies.lives (Kernel.kin?_eq_some.2 ⟨t, slot, alive, rfl⟩)
    · rintro ⟨life, lives, rfl⟩
      obtain ⟨t', slot', alive, -⟩ := h.slot lives
      cases slot.symm.trans slot'
      exact alive
  case records =>
    intro life lives
    obtain ⟨t, slot, -, is⟩ := h.slot lives
    exact ⟨t, slot, is⟩
  case cleared =>
    intro pid t slot gone
    refine h.sound.tasks.cleared slot ?_
    by_contra live
    cases gone.symm.trans (h.sound.tasks.alive slot live)
  case parent =>
    intro life lives busy
    obtain ⟨t, slot, alive, -⟩ := h.slot lives
    obtain ⟨number, survives⟩ :=
      h.tallies.parent life lives busy (Kernel.kin?_eq_some.2 ⟨t, slot, alive, rfl⟩)
    refine ⟨t, slot, number, fun {above} slot' alive' => ?_⟩
    exact survives (Kernel.kin?_eq_some.2 ⟨above, slot', alive', rfl⟩)

/-- On a fit kernel, exits and waits come to an end. -/
theorem serves [ReliablePort π] (h : Reckoning s log) (fit : Moment.Fit ⟨s.kernel, [], none⟩) :
    s.Serves (Ledger.of log) where
  exits status := by
    unfold System.step
    exact request_endsOr (Kernel.exit_endsOr fit h.settled status)
  tells {life p filter} options lives is found := by
    obtain ⟨t, slot, alive, records⟩ := h.slot lives
    have oldest : (t.unreaped.items.find? fun r => filter.accepts r.pid).map ExitRecord.exit =
        some p.exit := by
      have same := congrArg (List.find? fun exit => filter.accepts exit.1) records
      rw [List.find?_map, List.find?_map] at same
      exact same.trans (congrArg (Option.map Passing.exit) found)
    obtain ⟨r, first, exit⟩ := Option.map_eq_some_iff.1 oldest
    obtain ⟨k', done⟩ := Kernel.waitChild_done options fit.sound fit.owns
      ⟨t, r.entity, is ▸ slot, alive, first⟩
    refine ⟨⟨k', s.mutexes⟩, ?_⟩
    rw [← exit]
    exact Checked.bind_eq_ok.2 ⟨_, done, rfl⟩

end Reckoning

theorem fit_of_record [ReliablePort π] {log' : List Observation}
    (fit : Moment.Fit ⟨s.kernel, [], none⟩) (settled : s.kernel.Settled)
    (run : s.record log calls = .ok (log', s')) : Moment.Fit ⟨s'.kernel, [], none⟩ := by
  have h : Moment.Fit ⟨s'.kernel, [], none⟩ ∧ s'.kernel.Settled :=
    record_keeps (I := fun _ s => Moment.Fit ⟨s.kernel, [], none⟩ ∧ s.kernel.Settled)
      (fun ⟨fit, settled⟩ step => ⟨fit_step fit settled step,
        (operates_step fit.sound settled step).settled fit.sound⟩) ⟨fit, settled⟩ run
  exact h.1

/-- Whatever calls are made on a kernel that was just built, the exits that it records and tells are
those of the ledger, and on a reliable port exits, and waits of which there is something to tell, come
to an end. -/
theorem reckons_of_record {port : π} {k : Kernel π} {mutexes : MutexId → Mutex}
    (booted : Kernel.boot port = .ok (.ok k))
    (run : record ⟨k, mutexes⟩ [] calls = .ok (log, s)) :
    s.Reckons (Ledger.of log) ∧
      (Ledger.of log).answers = log.filterMap Observation.answer? ∧
      ∀ [ReliablePort π], ReliablePort.Placed port → s.Serves (Ledger.of log) := by
  have h : Reckoning s log := record_keeps (I := fun log s => Reckoning s log) Reckoning.step
    (.boot booted mutexes) run
  refine ⟨h.reckons, h.answers, fun placed => h.serves ?_⟩
  exact fit_of_record (s := ⟨k, mutexes⟩) (Kernel.fit_boot placed booted)
    (Kernel.settled_boot booted) run

/-- A run in which the first child of task 1 exits before its own child does, and its number is used
again while the exit of the second child is still to be told. -/
theorem reckons_of_record_host : ∃ k log s, Kernel.boot (HostPort.new false) = .ok (.ok k) ∧
    record ⟨k, fun _ => .free⟩ [] [.spawn (.program 0), .schedule, .spawn (.program 1),
      .spawn (.program 2), .schedule, .spawn (.program 3), .exit 5, .exit 6, .exit 7,
      .waitChild .any .empty, .spawn (.program 4), .waitChild .any .empty, .schedule, .exit 8] =
        .ok (log, s) ∧
    log.filterMap Observation.answer? = [(1, (3, 6)), (1, (2, 5))] ∧
    (Ledger.of log).pending ⟨1, 1⟩ = [⟨⟨2, 5⟩, 8⟩] ∧
    s.Reckons (Ledger.of log) ∧ s.Serves (Ledger.of log) := by
  have runs : (((Kernel.boot (HostPort.new false)).toOption.bind Except.toOption).any fun k =>
        (record ⟨k, fun _ => .free⟩ [] [.spawn (.program 0), .schedule, .spawn (.program 1),
          .spawn (.program 2), .schedule, .spawn (.program 3), .exit 5, .exit 6, .exit 7,
          .waitChild .any .empty, .spawn (.program 4), .waitChild .any .empty, .schedule,
          .exit 8]).toOption.any fun out =>
            out.1.filterMap Observation.answer? = [(1, (3, 6)), (1, (2, 5))] ∧
              (Ledger.of out.1).pending ⟨1, 1⟩ = [⟨⟨2, 5⟩, 8⟩]) = true := by
    decide +kernel
  obtain ⟨k, booted, runs⟩ := Kernel.exists_of_boot runs
  obtain ⟨⟨log, s⟩, run, seen⟩ := Checked.exists_of_any runs
  obtain ⟨answers, pending⟩ := of_decide_eq_true seen
  obtain ⟨reckons, -, serves⟩ := reckons_of_record booted run
  exact ⟨k, log, s, booted, run, answers, pending, reckons, serves trivial⟩

end System

end Rtos

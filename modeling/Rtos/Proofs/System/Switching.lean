import Rtos.Kernel.CortexM4
import Rtos.Proofs.System.Lineage
import Rtos.Proofs.System.Sections

/-!
# Switches that are put off

On a Cortex-M4 the scheduler is ahead of the processor: passes and hand-offs change the current task at
once, and pend the interrupt that puts it on the processor.  Whatever happens in between, the interrupt
stores the stack pointer of the task that was really on the processor, and resumes the current task where
it was stopped (`System.Switches`).

A processor keeps which task runs and where each was stopped (`Processor`).  Tasks are told apart by
`Life` there, since a number may be used again.  A number must not be used again before the processor
has left the task that had it, so no task may be created between an exit and the next switch
(`Processor.orderly`).
-/

namespace Rtos

/-- The stack pointer of a task that was never on the processor: an initial frame below an address that
is a multiple of eight. -/
def Stack.framePointer (stack : Stack) : Nat :=
  (stack.base + stack.size) / 8 * 8 - frameSize

/-- The stack pointer with which a new task starts. -/
def Scheduler.framePointer {π : Type} (s : Scheduler π) (pid : Pid) : Nat :=
  ((s.task? pid).bind (·.stack)).elim 0 Stack.framePointer

/-! ## Who is on the processor -/

/-- Which task runs, and where the others were stopped. -/
structure Processor where
  /-- Who has which number. -/
  lineage : Lineage
  /-- The task whose registers are on the processor. -/
  running : Life
  /-- The stack pointer with which a task was stopped last, or laid out. -/
  saved : Life → Nat
  /-- Whether a task exited since the last switch. -/
  exited : Bool
  /-- Whether no task was created between an exit and the next switch. -/
  orderly : Bool

namespace Processor

/-- At first the current task runs, and the others were stopped where their slots say. -/
def start {π : Type} (s : Scheduler π) : Processor where
  lineage := .start
  running := Lineage.start.present s.current
  saved life := ((s.task? life.pid).map (·.stackPointer)).getD 0
  exited := false
  orderly := true

/-- A call is made, with the scheduler `s'` behind it. -/
def observe {π : Type} (p : Processor) (o : Observation) (s' : Scheduler π) : Processor where
  lineage := p.lineage.next o
  running := p.running
  saved life :=
    match o.family? with
    | some (.bears child) =>
      Function.update p.saved ⟨child, p.lineage.births⟩ (s'.framePointer child) life
    | _ => p.saved life
  exited :=
    match o.family? with
    | some (.dies _) => true
    | _ => p.exited
  orderly :=
    match o.family? with
    | some (.bears _) => p.orderly && !p.exited
    | _ => p.orderly

/-- The interrupt stops the task on the processor and resumes the one that has the number. -/
def switch (p : Processor) (next : Pid) (stackPointer : Nat) : Processor :=
  { p with
    running := p.lineage.present next
    saved := Function.update p.saved p.running stackPointer
    exited := false }

variable {π : Type} {p : Processor} {o : Observation} {s' : Scheduler π} {pid child : Pid}

/-- A processor that is in order was so before a call, and a task that the call created was not created
behind an exit. -/
theorem orderly_of_observe (h : (p.observe o s').orderly = true) :
    p.orderly = true ∧ ∀ child, o.family? = some (.bears child) → p.exited = false := by
  simp only [observe] at h
  split at h
  case h_1 =>
    obtain ⟨orderly, alive⟩ := Bool.and_eq_true_iff.1 h
    exact ⟨orderly, fun _ _ => by simpa using alive⟩
  case h_2 others => exact ⟨h, fun child bears => absurd bears (others child)⟩

/-- If no task has exited behind a call, none had before it, and the call was no exit. -/
theorem exited_of_observe (h : (p.observe o s').exited = false) :
    p.exited = false ∧ ∀ status, o.family? ≠ some (.dies status) := by
  simp only [observe] at h
  split at h
  case h_1 => cases h
  case h_2 others => exact ⟨h, fun status dies => others status dies⟩

end Processor

/-! ## The interrupt -/

namespace Kernel

variable {k k' : Kernel CortexM4} {stackPointer resumed : Nat}

/-- The kernel behind a switch from the task `t` to the current one. -/
def switched (k : Kernel CortexM4) (t : Task) (stackPointer : Nat) : Kernel CortexM4 :=
  (k.setTask k.sched.port.onCpu { t with stackPointer }).setPort
    { k.sched.port with
      onCpu := k.current
      board := { k.sched.port.board with switchPending := false } }

theorem switchInterrupt_eq_ok : k.switchInterrupt stackPointer = .ok (resumed, k') ↔
    ∃ t u, k.sched.task? k.sched.port.onCpu = some t ∧
      (k.switched t stackPointer).sched.task? k.current = some u ∧ resumed = u.stackPointer ∧
      k' = k.switched t stackPointer := by
  constructor
  · intro h
    obtain ⟨s, saved, h⟩ := Checked.bind_eq_ok.1 h
    obtain ⟨t, found, rfl⟩ := Scheduler.modify_eq_ok.1 saved
    obtain ⟨u, found', eq⟩ := Checked.bind_eq_ok.1 h
    cases eq
    exact ⟨t, u, found, Scheduler.task_eq_ok.1 found', rfl, rfl⟩
  · rintro ⟨t, u, found, found', rfl, rfl⟩
    refine Checked.bind_eq_ok.2 ⟨_, Scheduler.modify_eq_ok.2 ⟨t, found, rfl⟩, ?_⟩
    exact Checked.bind_eq_ok.2 ⟨u, Scheduler.task_eq_ok.2 found', rfl⟩

end Kernel

/-! ## What happens to a system -/

/-- A call is made, or the switch interrupt comes, with the stack pointer of the task that it
interrupts. -/
inductive Occurrence
  /-- A call is made. -/
  | call (call : Call)
  /-- The interrupt comes. -/
  | interrupt (stackPointer : Nat)
deriving DecidableEq, Repr

namespace System

/-- The switch interrupt comes; the answer is the stack pointer of the task that it resumes. -/
def interrupt (s : System CortexM4) (stackPointer : Nat) : Checked (Nat × System CortexM4) := do
  let (resumed, kernel) ← s.kernel.switchInterrupt stackPointer
  return (resumed, { s with kernel })

/-- The states that a system on a board gets to. -/
inductive Reached : System CortexM4 → Prop
  /-- Its kernel was just built, whatever the mutexes. -/
  | boot {port : CortexM4} {k : Kernel CortexM4} (booted : Kernel.boot port = .ok (.ok k))
      (mutexes : MutexId → Mutex) : Reached ⟨k, mutexes⟩
  /-- A call was made. -/
  | call {s s' call reply} (before : Reached s) (step : s.step call = .ok (reply, s')) : Reached s'
  /-- The interrupt came. -/
  | interrupt {s s' stackPointer resumed} (before : Reached s)
      (switch : s.interrupt stackPointer = .ok (resumed, s')) : Reached s'
  /-- The current task was entered without one. -/
  | enter {s k stackPointer} (before : Reached s)
      (enters : s.kernel.enterFirst = .ok (stackPointer, k)) : Reached { s with kernel := k }

/-- Lets things happen, and keeps who is on the processor. -/
def course (s : System CortexM4) (p : Processor) :
    List Occurrence → Checked (Processor × System CortexM4)
  | [] => return (p, s)
  | .call call :: rest => do
    let (reply, s') ← s.step call
    s'.course (p.observe ⟨s.kernel.current, call, reply⟩ s'.kernel.sched) rest
  | .interrupt stackPointer :: rest => do
    let (_, s') ← s.interrupt stackPointer
    s'.course (p.switch s.kernel.current stackPointer) rest

variable {s s' : System CortexM4} {p p' : Processor} {call : Call} {reply : Reply} {pid : Pid}
  {stackPointer resumed : Nat} {occurrences : List Occurrence}

/-- A processor that is in order in the end was so at first. -/
theorem orderly_of_course (course : s.course p occurrences = .ok (p', s'))
    (orderly : p'.orderly = true) : p.orderly = true := by
  induction occurrences generalizing s p with
  | nil => cases course; exact orderly
  | cons occurrence occurrences ih =>
    cases occurrence with
    | call call =>
      obtain ⟨⟨reply, s₁⟩, step, rest⟩ := Checked.bind_eq_ok.1 course
      exact (Processor.orderly_of_observe (ih rest)).1
    | interrupt stackPointer =>
      obtain ⟨⟨resumed, s₁⟩, switch, rest⟩ := Checked.bind_eq_ok.1 course
      have later : (p.switch s.kernel.current stackPointer).orderly = true := ih rest
      exact later

/-! ## The interrupt keeps a system healthy -/

theorem interrupt_eq_ok : s.interrupt stackPointer = .ok (resumed, s') ↔
    ∃ t u, s.kernel.sched.task? s.kernel.sched.port.onCpu = some t ∧
      (s.kernel.switched t stackPointer).sched.task? s.kernel.current = some u ∧
      resumed = u.stackPointer ∧ s' = { s with kernel := s.kernel.switched t stackPointer } := by
  constructor
  · intro h
    obtain ⟨⟨resumed, k⟩, switch, eq⟩ := Checked.bind_eq_ok.1 h
    cases eq
    obtain ⟨t, u, found, next, rfl, rfl⟩ := Kernel.switchInterrupt_eq_ok.1 switch
    exact ⟨t, u, found, next, rfl, rfl⟩
  · rintro ⟨t, u, found, next, rfl, rfl⟩
    exact Checked.bind_eq_ok.2 ⟨_, Kernel.switchInterrupt_eq_ok.2 ⟨t, u, found, next, rfl, rfl⟩, rfl⟩

theorem Healthy.setPort (h : s.Healthy) (port : CortexM4) :
    Healthy { s with kernel := s.kernel.setPort port } where
  sound := h.sound.of_eq rfl rfl rfl rfl rfl
  settled := h.settled
  single := ⟨h.single.refs, h.single.lasting⟩

theorem Healthy.switched {t : Task} (h : s.Healthy)
    (found : s.kernel.sched.task? s.kernel.sched.port.onCpu = some t) (stackPointer : Nat) :
    Healthy { s with kernel := s.kernel.switched t stackPointer } := by
  have save : Moves (· = .switches) ⟨s.kernel, [], none⟩
      ⟨s.kernel.setTask s.kernel.sched.port.onCpu { t with stackPointer }, [], none⟩ :=
    .single rfl (.change found (.save stackPointer))
  have saved : Healthy
      ⟨s.kernel.setTask s.kernel.sched.port.onCpu { t with stackPointer }, s.mutexes⟩ := by
    refine ⟨save.sound h.sound, ?_, h.single.moves h.sound save (by rintro label rfl; nofun)⟩
    obtain ⟨u, slot, running⟩ := h.settled
    by_cases same : s.kernel.current = s.kernel.sched.port.onCpu
    · have slot := same ▸ slot
      cases found.symm.trans slot
      exact ⟨{ t with stackPointer }, same ▸ Scheduler.task?_setTask_self found _, running⟩
    · exact ⟨u, (Scheduler.task?_setTask_of_ne _ _ same).trans slot, running⟩
  exact saved.setPort _

theorem Reached.healthy (h : s.Reached) : s.Healthy := by
  induction h with
  | boot booted mutexes => exact healthy_boot booted mutexes
  | call before step ih => exact ih.step step
  | @interrupt s s' stackPointer resumed before switch ih =>
    obtain ⟨t, u, found, -, -, rfl⟩ := interrupt_eq_ok.1 switch
    exact ih.switched found stackPointer
  | @enter s k stackPointer before enters ih =>
    obtain ⟨k₁, started, enters⟩ := Checked.bind_eq_ok.1 enters
    obtain ⟨port, -, eq⟩ := Checked.bind_eq_ok.1 started
    cases eq
    obtain ⟨t, -, eq⟩ := Checked.bind_eq_ok.1 enters
    cases eq
    exact ih.setPort _

/-! ## Who is on the processor -/

/-- What a processor keeps is so, and an interrupt is pending whenever another task than the one on it is
current. -/
structure Tracks (p : Processor) (s : System CortexM4) : Prop extends Healthy s where
  /-- The lineage is formed. -/
  formed : p.lineage.Formed
  /-- The task on the processor has a slot. -/
  seated : s.kernel.sched.port.onCpu < maxTasks
  /-- If another task is current, the interrupt is pending. -/
  pended : s.kernel.current ≠ s.kernel.sched.port.onCpu →
    s.kernel.sched.port.board.switchPending = true
  /-- Whose registers are on the processor. -/
  running : p.running = p.lineage.present s.kernel.sched.port.onCpu
  /-- It is alive, if nobody has exited. -/
  alive : p.exited = false →
    ∃ t, s.kernel.sched.task? s.kernel.sched.port.onCpu = some t ∧ t.isAlive = true
  /-- Slots have the stack pointers with which their tasks were stopped. -/
  saved : ∀ {pid t}, s.kernel.sched.task? pid = some t → t.active = true →
    t.stackPointer = p.saved (p.lineage.present pid)

/-- Whoever is alive stays so over a call, if nobody exits. -/
theorem survives_step {t : Task} (healthy : s.Healthy) (step : s.step call = .ok (reply, s'))
    (lives : ∀ status,
      Observation.family? ⟨s.kernel.current, call, reply⟩ ≠ some (.dies status))
    (slot : s.kernel.sched.task? pid = some t) (alive : t.isAlive = true) :
    ∃ t', s'.kernel.sched.task? pid = some t' ∧ t'.isAlive = true := by
  by_cases exits : ∃ status, call = .exit status
  · obtain ⟨status, rfl⟩ := exits
    obtain ⟨result, exit, rfl, -⟩ := request_eq_ok (f := (·.exit status)) step
    obtain ⟨u, current, -⟩ := healthy.settled
    rcases Kernel.operates_exit healthy.sound healthy.settled current exit with
      ⟨-, -, same⟩ | ⟨-, rfl, -⟩
    · exact ⟨t, same ▸ slot, alive⟩
    · exact absurd rfl (lives status)
  · have moves := (operates_step healthy.sound healthy.settled step).moves healthy.sound
    refine (moves.keeps (I := fun m => m.Sound ∧ ∃ t, m.kernel.sched.task? pid = some t ∧
      t.isAlive = true) ⟨healthy.sound, t, slot, alive⟩ ?_).2
    rintro label m m' allowed move ⟨sound, t, slot, alive⟩
    refine ⟨move.sound sound, ?_⟩
    obtain ⟨t', slot', change⟩ := move.slotStep sound slot
    rcases change.survives alive with rfl | ⟨alive', -⟩
    · rcases allowed with body | (quiet | delivers) | switches
      · exact absurd (Call.exits_of_labels body).2 exits
      · cases quiet
      · cases delivers
      · cases switches
    · exact ⟨t', slot', alive'⟩

/-- A task that a call creates has its stack pointer where its frame is laid out. -/
theorem framePointer_of_bears {t : Task} (step : s.step call = .ok (reply, s'))
    (bears : call.Bears reply pid) (slot : s'.kernel.sched.task? pid = some t) :
    t.stackPointer = s'.kernel.sched.framePointer pid := by
  obtain ⟨⟨entry, rfl⟩, rfl⟩ := bears
  obtain ⟨result, spawn, reply, -⟩ := request_eq_ok (f := (·.spawn entry)) step
  cases result with
  | error => cases reply
  | ok child =>
    cases reply
    obtain ⟨u, stack, port, port', slot', has, laid⟩ := (Kernel.inert_spawn spawn).2 _ rfl
    cases slot.symm.trans slot'
    obtain ⟨top, sum, laid⟩ := Checked.bind_eq_ok.1 laid
    obtain ⟨pointer, difference, eq⟩ := Checked.bind_eq_ok.1 laid
    cases eq
    obtain ⟨-, rfl⟩ := Word.add_eq_ok.1 sum
    rw [Scheduler.framePointer, slot, Option.bind_some, has]
    exact (Word.sub_eq_ok.1 difference).2

namespace Tracks

theorem start (h : s.Healthy) (here : s.kernel.sched.port.onCpu = s.kernel.current) :
    Tracks (.start s.kernel.sched) s where
  toHealthy := h
  formed := .start
  seated := by
    obtain ⟨t, slot, -⟩ := h.settled
    exact here ▸ Scheduler.lt_of_task? slot
  pended ahead := absurd here.symm ahead
  running := by rw [here]; rfl
  alive _ := by
    obtain ⟨t, slot, -, alive⟩ := h.settled.alive h.sound
    exact ⟨t, here ▸ slot, alive⟩
  saved {pid t} slot _ := by
    change _ = ((s.kernel.sched.task? pid).map (·.stackPointer)).getD 0
    rw [slot]
    rfl

/-- A call leaves the number of the task on the processor to it. -/
theorem present_onCpu (h : Tracks p s) (step : s.step call = .ok (reply, s'))
    (orderly : (p.observe ⟨s.kernel.current, call, reply⟩ s'.kernel.sched).orderly = true) :
    (p.lineage.next ⟨s.kernel.current, call, reply⟩).present s.kernel.sched.port.onCpu =
      p.lineage.present s.kernel.sched.port.onCpu := by
  by_cases bears : ∃ child,
    Observation.family? ⟨s.kernel.current, call, reply⟩ = some (.bears child)
  · obtain ⟨child, bears⟩ := bears
    obtain ⟨t, slot, alive⟩ := h.alive ((Processor.orderly_of_observe orderly).2 child bears)
    exact present_next p.lineage h.sound h.settled step slot (Task.active_of_alive alive)
  · rw [Lineage.next_of_not_bears fun child is => bears ⟨child, is⟩]

/-- Calls keep the stack pointers of slots, and those of new tasks are where their frames are. -/
theorem saved_observe (h : Tracks p s) (step : s.step call = .ok (reply, s')) {t' : Task}
    (slot' : s'.kernel.sched.task? pid = some t') (active' : t'.active = true) :
    t'.stackPointer = (p.observe ⟨s.kernel.current, call, reply⟩ s'.kernel.sched).saved
      ((p.lineage.next ⟨s.kernel.current, call, reply⟩).present pid) := by
  by_cases born : call.Bears reply pid
  · have bears := Observation.family?_eq_bears (o := ⟨s.kernel.current, call, reply⟩).2 born
    rw [Lineage.next_of_bears bears, Lineage.present_bear_self]
    simp only [Processor.observe, bears, Function.update_self]
    exact framePointer_of_bears step born slot'
  · obtain ⟨t, slot, active, same⟩ :=
      ((hands_step step).pointers inferInstance slot' active').resolve_left born
    rw [present_next p.lineage h.sound h.settled step slot active, same, h.saved slot active]
    simp only [Processor.observe]
    split
    · exact (Function.update_of_ne h.formed.present_ne _ _).symm
    · rfl

theorem observe (h : Tracks p s) (step : s.step call = .ok (reply, s'))
    (orderly : (p.observe ⟨s.kernel.current, call, reply⟩ s'.kernel.sched).orderly = true) :
    Tracks (p.observe ⟨s.kernel.current, call, reply⟩ s'.kernel.sched) s' := by
  obtain ⟨onCpu, pending⟩ := CortexM4.processor_of_serves (hands_step step).hardware
  exact
    { toHealthy := h.toHealthy.step step
      formed := h.formed.next _
      seated := onCpu ▸ h.seated
      pended := by
        intro ahead
        rw [onCpu] at ahead
        rw [pending]
        by_cases stays : s'.kernel.current = s.kernel.current
        · rw [h.pended (stays ▸ ahead), Bool.true_or]
        · have path : switchPath s.kernel.current s'.kernel.current = [(_, _)] :=
            if_neg (Ne.symm stays)
          change (_ || !(switchPath s.kernel.current s'.kernel.current).isEmpty) = true
          rw [path, List.isEmpty_cons, Bool.not_false, Bool.or_true]
      running := by
        rw [onCpu]
        exact h.running.trans (h.present_onCpu step orderly).symm
      alive := by
        intro exited
        obtain ⟨before, lives⟩ := Processor.exited_of_observe exited
        obtain ⟨t, slot, alive⟩ := h.alive before
        rw [onCpu]
        exact survives_step h.toHealthy step lives slot alive
      saved := h.saved_observe step }

theorem switch (h : Tracks p s) (switch : s.interrupt stackPointer = .ok (resumed, s')) :
    Tracks (p.switch s.kernel.current stackPointer) s' := by
  obtain ⟨t, u, found, next, rfl, rfl⟩ := interrupt_eq_ok.1 switch
  have healthy := h.toHealthy.switched found stackPointer
  exact
    { toHealthy := healthy
      formed := h.formed
      seated := Scheduler.lt_of_task? next
      pended := fun ahead => absurd rfl ahead
      running := rfl
      alive := fun _ => by
        obtain ⟨u, slot, -, alive⟩ := healthy.settled.alive healthy.sound
        exact ⟨u, slot, alive⟩
      saved := fun {pid t'} slot active => by
        change _ = Function.update p.saved p.running stackPointer (p.lineage.present pid)
        rcases Scheduler.of_task?_setTask found slot with ⟨rfl, rfl⟩ | ⟨other, slot⟩
        · rw [h.running, Function.update_self]
        · rw [h.running, Function.update_of_ne (mt h.formed.present_inj.1 other)]
          exact h.saved slot active }

/-- Whatever happens keeps track, as long as the processor is in order. -/
theorem course (h : Tracks p s) (course : s.course p occurrences = .ok (p', s'))
    (orderly : p'.orderly = true) : Tracks p' s' := by
  induction occurrences generalizing s p with
  | nil => cases course; exact h
  | cons occurrence occurrences ih =>
    cases occurrence with
    | call call =>
      obtain ⟨⟨reply, s₁⟩, step, rest⟩ := Checked.bind_eq_ok.1 course
      exact ih (h.observe step (orderly_of_course rest orderly)) rest
    | interrupt stackPointer =>
      obtain ⟨⟨resumed, s₁⟩, switch, rest⟩ := Checked.bind_eq_ok.1 course
      exact ih (h.switch switch) rest

end Tracks

/-! ## Tasks are resumed where they were stopped -/

/-- What the interrupt does when it comes with a stack pointer. -/
structure Switches (s : System CortexM4) (p : Processor) (stackPointer resumed : Nat)
    (s' : System CortexM4) : Prop where
  /-- The stack pointer is stored with the task whose registers are on the processor. -/
  stored : p.running = p.lineage.present s.kernel.sched.port.onCpu ∧
    ∃ t, s.kernel.sched.task? s.kernel.sched.port.onCpu = some t ∧
      s'.kernel.sched.task? s.kernel.sched.port.onCpu = some { t with stackPointer }
  /-- The other slots are as they were. -/
  others : ∀ {pid}, pid ≠ s.kernel.sched.port.onCpu →
    s'.kernel.sched.task? pid = s.kernel.sched.task? pid
  /-- The current task is on the processor. -/
  onCpu : s'.kernel.sched.port.onCpu = s.kernel.current ∧ s'.kernel.current = s.kernel.current
  /-- It goes on where it was stopped or where its frame was laid out, or where it is, if it was not
  left. -/
  resumed : resumed = if p.lineage.present s.kernel.current = p.running then stackPointer
    else p.saved (p.lineage.present s.kernel.current)

theorem Tracks.switches (h : Tracks p s) (stackPointer : Nat) :
    ∃ resumed s', s.interrupt stackPointer = .ok (resumed, s') ∧
      s.Switches p stackPointer resumed s' := by
  obtain ⟨t, found⟩ := s.kernel.sched.exists_task? h.seated
  obtain ⟨u, slot, running⟩ := (h.toHealthy.switched found stackPointer).settled
  refine ⟨_, _, interrupt_eq_ok.2 ⟨t, u, found, slot, rfl, rfl⟩, ?_⟩
  constructor
  case stored => exact ⟨h.running, t, found, Scheduler.task?_setTask_self found _⟩
  case others => exact fun other => Scheduler.task?_setTask_of_ne s.kernel.sched _ other
  case onCpu => exact ⟨rfl, rfl⟩
  case resumed =>
    rw [h.running]
    simp only [h.formed.present_inj]
    rcases Scheduler.of_task?_setTask found slot with ⟨same, rfl⟩ | ⟨other, slot⟩
    · exact (if_pos same).symm
    · obtain ⟨v, slot', -, alive⟩ := h.settled.alive h.sound
      cases slot.symm.trans slot'
      exact (h.saved slot (Task.active_of_alive alive)).trans (if_neg other).symm

/-- Whatever happens once the current task is on the processor, as long as no task is created between
an exit and the next switch: the interrupt is pending whenever another task is current, and whenever it
comes, it stores the stack pointer of the task on the processor and resumes the current one where it was
stopped. -/
theorem switches_of_course {s₀ : System CortexM4} (reached : s₀.Reached)
    (here : s₀.kernel.sched.port.onCpu = s₀.kernel.current)
    (course : s₀.course (.start s₀.kernel.sched) occurrences = .ok (p, s))
    (orderly : p.orderly = true) :
    (s.kernel.current ≠ s.kernel.sched.port.onCpu →
        s.kernel.sched.port.board.switchPending = true) ∧
      ∀ stackPointer, ∃ resumed s', s.interrupt stackPointer = .ok (resumed, s') ∧
        s.Switches p stackPointer resumed s' := by
  have tracks := (Tracks.start reached.healthy here).course course orderly
  exact ⟨tracks.pended, tracks.switches⟩

/-- Two passes lead back to the task that is on the processor, which goes on; later the other task gets
it, exits, and the first one is resumed where it was stopped. -/
theorem switches_of_course_board : ∃ k s₀ p s s',
    Kernel.boot (CortexM4.new 0x20000000 .reset) = .ok (.ok k) ∧ Reached s₀ ∧
    System.course s₀ (.start s₀.kernel.sched) [.call (.spawn (.program 1)), .call .tick,
      .call .tick, .interrupt 0x20001000, .call .tick, .interrupt 0x20001100, .call (.exit 0)] =
        .ok (p, s) ∧
    s.kernel.current ≠ s.kernel.sched.port.onCpu ∧
    s.kernel.sched.port.board.switchPending = true ∧
    s.interrupt 0x20002000 = .ok (0x20001100, s') ∧
    s.Switches p 0x20002000 0x20001100 s' := by
  have runs : (((Kernel.boot (CortexM4.new 0x20000000 .reset)).toOption.bind Except.toOption).any fun k =>
        (System.step ⟨k, fun _ => .free⟩ (.spawn (.program 0))).toOption.any fun spawned =>
          (spawned.2.step .schedule).toOption.any fun passed =>
            passed.2.kernel.enterFirst.toOption.any fun entered =>
              decide (entered.2.sched.port.onCpu = entered.2.current) &&
              (System.course ⟨entered.2, passed.2.mutexes⟩ (.start entered.2.sched)
                [.call (.spawn (.program 1)), .call .tick, .call .tick, .interrupt 0x20001000,
                  .call .tick, .interrupt 0x20001100, .call (.exit 0)]).toOption.any fun out =>
                out.1.orderly && decide (out.2.kernel.current ≠ out.2.kernel.sched.port.onCpu) &&
                (out.2.interrupt 0x20002000).toOption.any fun back =>
                  decide (back.1 = 0x20001100)) = true := by
    decide +kernel
  obtain ⟨k, booted, runs⟩ := Kernel.exists_of_boot runs
  obtain ⟨⟨_, s₁⟩, spawns, runs⟩ := Checked.exists_of_any runs
  obtain ⟨⟨_, s₂⟩, passes, runs⟩ := Checked.exists_of_any runs
  obtain ⟨⟨_, k₃⟩, enters, runs⟩ := Checked.exists_of_any runs
  simp only [Bool.and_eq_true, decide_eq_true_eq] at runs
  obtain ⟨here, runs⟩ := runs
  obtain ⟨⟨p, s⟩, course, runs⟩ := Checked.exists_of_any runs
  simp only [Bool.and_eq_true, decide_eq_true_eq] at runs
  obtain ⟨⟨orderly, ahead⟩, runs⟩ := runs
  obtain ⟨⟨resumed, s'⟩, back, there⟩ := Checked.exists_of_any runs
  cases of_decide_eq_true there
  have reached : Reached ⟨k₃, s₂.mutexes⟩ :=
    .enter (.call (.call (.boot booted fun _ => .free) spawns) passes) enters
  obtain ⟨pended, switches⟩ := switches_of_course reached here course orderly
  obtain ⟨resumed, s'', back', switched⟩ := switches 0x20002000
  cases back.symm.trans back'
  exact ⟨k, _, p, s, s', booted, reached, course, ahead, pended ahead, back, switched⟩

end System

end Rtos

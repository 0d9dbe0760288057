import Rtos.Proofs.Kernel.DeviceWaits
import Rtos.Proofs.System.Runs
import Rtos.Proofs.System.Transfers

/-!
# Turns

What becomes of a world by a pursuit: the kernel makes an ordinary operation, the current task waits
for a device that is not ready, or an interrupt moves bytes and reports (`World.Turn`).
-/

namespace Rtos

/-! ## What a pursuit does -/

/-- Events are delivered in passes only, and only a wait for a device parks a task for one. -/
theorem Call.ordinary {current : Pid} {call : Call} {label : Label} (h : call.labels current label)
    (other : ∀ device direction, call ≠ .waitDevice device direction) :
    label ≠ .delivers ∧ ∀ pid, label ≠ .parks pid .awaitingDevice := by
  constructor
  · rintro rfl
    exact not_delivers h
  · rintro pid rfl
    obtain ⟨-, ⟨_, _, -, eq⟩ | ⟨_, -, eq⟩ | ⟨_, -, eq⟩ | ⟨device, direction, eq, -⟩⟩ :=
      parks_of_labels h
    · cases eq
    · cases eq
    · cases eq
    · exact other device direction eq

variable {π : Type} [Port π]

/-- An operation that parks no task for a device. -/
def Kernel.Ordinary (k k' : Kernel π) : Prop :=
  Operates (fun label => label ≠ .delivers ∧ ∀ pid, label ≠ .parks pid .awaitingDevice) [] [] k k'

theorem Kernel.Operates.ordinary {k k' : Kernel π} (h : Operates (· = .quiet) [] [] k k') :
    k.Ordinary k' :=
  h.mono fun _ quiet => by subst quiet; exact ⟨nofun, fun _ => nofun⟩

namespace World

variable {w w' : World π} {k : Kernel π}

/-- What becomes of a world, and of its kernel `k`, by a pursuit. -/
inductive Turn (k : Kernel π) (w w' : World π) (k' : Kernel π) : Pursuit → Prop
  /-- The kernel makes an ordinary operation, and no transfer becomes possible. -/
  | ordinary {p : Pursuit} (silent : p.report? w.devices = none) (kernel : w'.kernel? = some k')
      (operation : k.Ordinary k')
      (names : ∀ r : Request, r.wait? w'.devices = r.wait? w.devices)
      (fewer : ∀ r : Request, r.Possible w'.devices → r.Possible w.devices) : Turn k w w' k' p
  /-- The current task waits for a device that is not ready. -/
  | waits {r : Request} {wait : DeviceWait} {result : Except Error (Progress Unit)}
      (silent : (Pursuit.request r).report? w.devices = none)
      (kernel : w'.kernel? = some k') (same : w'.devices = w.devices)
      (impossible : ¬r.Possible w.devices) (waits : r.wait? w.devices = some wait)
      (operation : k.waitDevice wait.device wait.direction = .ok (result, k')) :
      Turn k w w' k' (.request r)
  /-- An interrupt moves bytes, and reports. -/
  | reports {work : Interrupt} {report : DeviceWait} {result : Except Error Unit}
      (kernel : w'.kernel? = some k')
      (names : ∀ r : Request, r.wait? w'.devices = r.wait? w.devices)
      (moved : work.report? w.devices = some report)
      (more : ∀ r : Request, r.Possible w'.devices → r.Possible w.devices ∨ work.Serves r)
      (served : ∀ r : Request, work.Serves r → r.Possible w'.devices)
      (operation : k.signalDevice report.device report.direction = .ok (result, k')) :
      Turn k w w' k' (.request (.interrupt work))

omit [Port π] in
/-- A kernel operation of a world with a kernel is one of that kernel. -/
theorem within_eq_ok {α : Type} {f : Kernel π → Checked (Except Error α × Kernel π)}
    {result : Except Error α} (started : w.kernel? = some k) (h : w.within f = .ok (result, w')) :
    ∃ k', f k = .ok (result, k') ∧ w' = { w with kernel? := some k' } := by
  unfold within at h
  rw [started] at h
  obtain ⟨⟨_, k'⟩, operation, eq⟩ := Checked.bind_eq_ok.1 h
  cases eq
  exact ⟨k', operation, rfl⟩

omit [Port π] in
/-- A call that needs one attempt answers with its outcome. -/
theorem once_eq_ok {α : Type} {f : α → Answer} {outcome : Checked (Except Error α × World π)}
    {a : Attempt} (h : once f outcome = .ok (a, w')) : ∃ result, outcome = .ok (result, w') := by
  obtain ⟨⟨result, _⟩, outcome, eq⟩ := Checked.bind_eq_ok.1 h
  cases eq
  exact ⟨result, outcome⟩

variable {p : Pursuit}

theorem Turn.calm {k' : Kernel π} (silent : p.report? w.devices = none)
    (kernel : w'.kernel? = some k') (same : w'.devices = w.devices) (operation : k.Ordinary k') :
    Turn k w w' k' p :=
  .ordinary silent kernel operation (fun _ => by rw [same]) fun r possible => by
    rwa [same] at possible

theorem Turn.idle (silent : p.report? w.devices = none) (started : w.kernel? = some k)
    (settled : k.Settled) : Turn k w w k p :=
  .calm silent started rfl (.none settled)

theorem Turn.call {s : System π} {call : Call} {reply : Reply} {mutexes : MutexId → Mutex}
    (silent : p.report? w.devices = none) (sound : Moment.Sound ⟨k, [], none⟩)
    (settled : k.Settled) (h : System.step ⟨k, mutexes⟩ call = .ok (reply, s))
    (other : ∀ device direction, call ≠ .waitDevice device direction)
    (kernel : w'.kernel? = some s.kernel) (same : w'.devices = w.devices) :
    Turn k w w' s.kernel p :=
  .calm silent kernel same ((System.operates_step sound settled h).mono fun _ label =>
    Call.ordinary label other)

theorem Turn.within {α : Type} {f : Kernel π → Checked (Except Error α × Kernel π)} (call : Call)
    {reply : α → Reply} {result : Except Error α} (silent : p.report? w.devices = none)
    (started : w.kernel? = some k) (sound : Moment.Sound ⟨k, [], none⟩) (settled : k.Settled)
    (step : ∀ s : System π, s.step call = s.request f reply)
    (other : ∀ device direction, call ≠ .waitDevice device direction)
    (h : w.within f = .ok (result, w')) : ∃ k', Turn k w w' k' p := by
  obtain ⟨k', operation, rfl⟩ := within_eq_ok started h
  have carried : System.step ⟨k, w.mutexes⟩ call = .ok (.of reply result, ⟨k', w.mutexes⟩) := by
    rw [step]
    exact Checked.bind_eq_ok.2 ⟨_, operation, rfl⟩
  exact ⟨k', .call silent sound settled carried other rfl rfl⟩

theorem Turn.enter {f : Kernel π → Checked (Kernel π)} (call : Call) {result : Except Error Unit}
    (silent : p.report? w.devices = none) (started : w.kernel? = some k)
    (sound : Moment.Sound ⟨k, [], none⟩) (settled : k.Settled)
    (step : ∀ s : System π, s.step call = s.perform f)
    (other : ∀ device direction, call ≠ .waitDevice device direction)
    (h : w.enter f = .ok (result, w')) : ∃ k', Turn k w w' k' p := by
  obtain ⟨k', operation, rfl⟩ := within_eq_ok started h
  obtain ⟨k₁, operation, eq⟩ := Checked.bind_eq_ok.1 operation
  cases eq
  have carried : System.step ⟨k, w.mutexes⟩ call = .ok (.done, ⟨k', w.mutexes⟩) := by
    rw [step]
    exact Checked.bind_eq_ok.2 ⟨_, operation, rfl⟩
  exact ⟨k', .call silent sound settled carried other rfl rfl⟩

theorem Turn.query {α : Type} {f : Kernel π → Except Error α} {result : Except Error α}
    (silent : p.report? w.devices = none) (started : w.kernel? = some k) (settled : k.Settled)
    (h : w.query f = .ok (result, w')) :
    ∃ k', Turn k w w' k' p := by
  obtain ⟨k', operation, rfl⟩ := within_eq_ok started h
  cases operation
  exact ⟨k, .calm silent rfl rfl (.none settled)⟩

/-! ### Transfers and interrupts -/

variable {i : Nat} {a : Attempt}

/-- A transfer that moves bytes makes none possible. -/
theorem Turn.moved {capacity : Nat} {d d' : CharDevice capacity}
    (silent : p.report? w.devices = none) (started : w.kernel? = some k)
    (settled : k.Settled) (found : w.devices[i]? = some ⟨capacity, d⟩) (same : d'.id = d.id)
    (read : d'.readable ≤ d.readable) (written : d'.writable ≤ d.writable) :
    Turn k w (w.setDevice i ⟨capacity, d'⟩) k p := by
  refine .ordinary silent started (.none settled) (Request.wait?_set found same)
    fun r possible => ?_
  rcases Request.possible_of_set found possible with
    possible | ⟨-, -, none, some⟩ | ⟨-, -, none, some⟩
  · exact possible
  · omega
  · omega

/-- An attempt to read moves bytes, or the task waits for some. -/
theorem turn_attemptRead {count : Nat} (started : w.kernel? = some k) (settled : k.Settled)
    (room : count ≠ 0) (h : w.attemptRead i count = .ok (a, w')) :
    ∃ k', Turn k w w' k' (.request (.read i count)) := by
  unfold attemptRead at h
  split at h
  case h_2 => cases h; exact ⟨k, .idle rfl started settled⟩
  case h_1 capacity d found =>
  rw [started] at h
  dsimp only at h
  split at h
  case isTrue none =>
    obtain ⟨⟨result, k'⟩, operation, eq⟩ := Checked.bind_eq_ok.1 h
    cases eq
    refine ⟨k', .waits rfl rfl rfl ?_ (by rw [Request.wait?, found]; rfl) operation⟩
    rintro ⟨d', found', some⟩
    cases found.symm.trans found'
    have empty := d.readable_of_read (by simpa using room) none
    dsimp only at some
    omega
  case isFalse =>
    cases h
    have fewer : (d.read (List.replicate count 0)).2.2.readable ≤ d.readable := by
      rw [d.readable_read]
      exact Nat.sub_le _ _
    exact ⟨k, .moved rfl started settled found rfl fewer (Nat.le_refl _)⟩

/-- An attempt to write moves bytes, or the task waits for room. -/
theorem turn_attemptWrite {data : List UInt8} (started : w.kernel? = some k) (settled : k.Settled)
    (some : data ≠ []) (h : w.attemptWrite i data = .ok (a, w')) :
    ∃ k', Turn k w w' k' (.request (.write i data)) := by
  unfold attemptWrite at h
  split at h
  case h_2 => cases h; exact ⟨k, .idle rfl started settled⟩
  case h_1 capacity d found =>
  rw [started] at h
  dsimp only at h
  split at h
  case isTrue none =>
    obtain ⟨⟨result, k'⟩, operation, eq⟩ := Checked.bind_eq_ok.1 h
    cases eq
    refine ⟨k', .waits rfl rfl rfl ?_ (by rw [Request.wait?, found]; rfl) operation⟩
    rintro ⟨d', found', room⟩
    cases found.symm.trans found'
    have full := d.writable_of_write some none
    dsimp only at room
    omega
  case isFalse =>
    cases h
    have less : (d.write data).2.writable ≤ d.writable := by
      rw [d.writable_write]
      exact Nat.sub_le _ _
    exact ⟨k, .moved rfl started settled found rfl (Nat.le_refl _) less⟩

/-- An interrupt that gives something to a device reports it; one that does not is ordinary. -/
theorem turn_signalMoved {work : Interrupt} {capacity count : Nat} {d : CharDevice capacity}
    (d' : CharDevice capacity)
    {direction : DeviceFlags} {answer : Answer} {result : Except Error Answer}
    (started : w.kernel? = some k) (settled : k.Settled)
    (found : w.devices[i]? = some ⟨capacity, d⟩) (same : d'.id = d.id)
    (report : work.report? w.devices = if count = 0 then none else some ⟨d.id, direction⟩)
    (more : ∀ r : Request, r.Possible (w.devices.set i ⟨capacity, d'⟩) →
      r.Possible w.devices ∨ (count ≠ 0 ∧ work.Serves r))
    (served : count ≠ 0 → ∀ r : Request, work.Serves r →
      r.Possible (w.devices.set i ⟨capacity, d'⟩))
    (h : (w.setDevice i ⟨capacity, d'⟩).signalMoved d'.id count direction answer =
      .ok (result, w')) :
    ∃ k', Turn k w w' k' (.request (.interrupt work)) := by
  unfold signalMoved at h
  split at h
  case isTrue none =>
    cases h
    refine ⟨k, .ordinary (report.trans (if_pos none)) started (.none settled)
      (Request.wait?_set found same) fun r possible => ?_⟩
    exact (more r possible).resolve_right fun moved => moved.1 none
  case isFalse moved =>
    obtain ⟨⟨_, _⟩, signal, eq⟩ := Checked.bind_eq_ok.1 h
    cases eq
    obtain ⟨k', operation, rfl⟩ := within_eq_ok (w := w.setDevice i ⟨capacity, d'⟩) started signal
    rw [if_neg moved] at report
    rw [same] at operation
    exact ⟨k', .reports rfl (Request.wait?_set found same) report
      (fun r possible => (more r possible).imp_right And.right) (served moved) operation⟩

theorem turn_serve {work : Interrupt} {result : Except Error Answer} (started : w.kernel? = some k)
    (sound : Moment.Sound ⟨k, [], none⟩) (settled : k.Settled)
    (h : w.serve work = .ok (result, w')) : ∃ k', Turn k w w' k' (.request (.interrupt work)) := by
  cases work with
  | receive device data =>
    unfold serve at h
    dsimp only at h
    cases found : w.devices[device]? with
    | none =>
      rw [found] at h
      cases h
      refine ⟨k, .idle ?_ started settled⟩
      rw [Pursuit.report?, Interrupt.report?, found]
      rfl
    | some known =>
      obtain ⟨capacity, d⟩ := known
      rw [found] at h
      have stored := d.readable_receive data
      refine turn_signalMoved (d.receive data).2 started settled found rfl ?_ ?_ ?_ h
      · rw [Interrupt.report?, found]
        rfl
      · intro r possible
        refine (Request.possible_of_set found possible).imp_right ?_
        rintro (⟨count, rfl, none, some⟩ | ⟨-, -, none, some⟩)
        · exact ⟨by omega, rfl⟩
        · exact absurd some (by rw [Nat.not_lt, ← none]; exact Nat.le_refl _)
      · rintro moved r serves
        cases r with
        | read other count =>
          cases serves
          refine ⟨_, List.getElem?_set_self (List.getElem?_eq_some_iff.1 found).1, ?_⟩
          dsimp only
          omega
        | _ => exact serves.elim
  | transmit device count =>
    unfold serve at h
    dsimp only at h
    cases found : w.devices[device]? with
    | none =>
      rw [found] at h
      cases h
      refine ⟨k, .idle ?_ started settled⟩
      rw [Pursuit.report?, Interrupt.report?, found]
      rfl
    | some known =>
      obtain ⟨capacity, d⟩ := known
      rw [found] at h
      have taken := d.writable_transmit (List.replicate count 0)
      refine turn_signalMoved (d.transmit (List.replicate count 0)).2.2 started settled found
        rfl ?_ ?_ ?_ h
      · rw [Interrupt.report?, found]
        rfl
      · intro r possible
        refine (Request.possible_of_set found possible).imp_right ?_
        rintro (⟨-, -, none, some⟩ | ⟨data, rfl, none, some⟩)
        · exact absurd some (by rw [Nat.not_lt, ← none]; exact Nat.le_refl _)
        · exact ⟨by omega, rfl⟩
      · rintro moved r serves
        cases r with
        | write other data =>
          cases serves
          refine ⟨_, List.getElem?_set_self (List.getElem?_eq_some_iff.1 found).1, ?_⟩
          dsimp only
          omega
        | _ => exact serves.elim
  | signal device flags =>
    obtain ⟨⟨_, _⟩, signal, eq⟩ := Checked.bind_eq_ok.1 h
    cases eq
    exact Turn.within (.signalDevice device flags) rfl started sound settled (fun _ => rfl) nofun
      signal
  | tick =>
    obtain ⟨⟨_, _⟩, tick, eq⟩ := Checked.bind_eq_ok.1 h
    cases eq
    exact Turn.enter .tick rfl started sound settled (fun _ => rfl) nofun tick

/-- Bytes that were moved are told of, even if the report is refused. -/
theorem signalMoved_of_refused {device : DeviceId} {count : Nat} {flags : DeviceFlags}
    {answer : Answer} (started : w.kernel? = some k) (moved : count ≠ 0)
    (refused : k.reportDevice device flags = .ok (.error e, k')) :
    ∃ a w', w.signalMoved device count flags answer = .ok (a, w') := by
  have signal : w.signal device flags = .ok (.error e, { w with kernel? := some k' }) := by
    unfold signal within
    rw [started]
    exact Checked.bind_eq_ok.2 ⟨_, Kernel.signalDevice_of_refused refused, rfl⟩
  unfold signalMoved
  rw [if_neg moved]
  exact ⟨_, _, Checked.bind_eq_ok.2 ⟨_, signal, rfl⟩⟩

/-- An interrupt ends even if its report is refused. -/
theorem serve_of_refused {work : Interrupt} {report : DeviceWait} (started : w.kernel? = some k)
    (moved : work.report? w.devices = some report)
    (refused : k.reportDevice report.device report.direction = .ok (.error e, k')) :
    ∃ a w', w.serve work = .ok (a, w') := by
  cases work with
  | receive device data =>
    obtain ⟨⟨capacity, d⟩, found, moved⟩ := Option.bind_eq_some_iff.1 moved
    split at moved
    case isTrue => cases moved
    case isFalse some =>
      cases moved
      unfold serve
      dsimp only
      rw [found]
      exact signalMoved_of_refused (w := w.setDevice _ _) started some refused
  | transmit device count =>
    obtain ⟨⟨capacity, d⟩, found, moved⟩ := Option.bind_eq_some_iff.1 moved
    split at moved
    case isTrue => cases moved
    case isFalse some =>
      cases moved
      unfold serve
      dsimp only
      rw [found]
      exact signalMoved_of_refused (w := w.setDevice _ _) started some refused
  | signal | tick => cases moved

/-! ### Every pursuit -/

theorem turn_attemptLock {mutex : MutexId} (silent : p.report? w.devices = none)
    (started : w.kernel? = some k) (sound : Moment.Sound ⟨k, [], none⟩) (settled : k.Settled)
    (h : w.attemptLock mutex = .ok (a, w')) : ∃ k', Turn k w w' k' p := by
  unfold attemptLock at h
  rw [started] at h
  obtain ⟨⟨result, m, k'⟩, operation, next⟩ := Checked.bind_eq_ok.1 h
  have step : System.step ⟨k, w.mutexes⟩ (.lock mutex) =
      .ok (.of .locked result,
        ({ kernel := k', mutexes := w.mutexes } : System π).setMutex mutex m) :=
    Checked.bind_eq_ok.2 ⟨_, operation, rfl⟩
  have turn {w' : World π} (kernel : w'.kernel? = some k') (same : w'.devices = w.devices) :
      Turn k w w' k' p := .call silent sound settled step nofun kernel same
  dsimp only at next
  split at next <;> cases next <;> exact ⟨k', turn rfl rfl⟩

theorem turn_attempt {r : Request} (started : w.kernel? = some k)
    (sound : Moment.Sound ⟨k, [], none⟩) (settled : k.Settled) (h : w.attempt r = .ok (a, w')) :
    ∃ k', Turn k w w' k' (.request r) := by
  cases r with
  | spawn entry =>
    obtain ⟨result, h⟩ := once_eq_ok h
    exact Turn.within (.spawn entry) rfl started sound settled (fun _ => rfl) nofun h
  | exit status =>
    obtain ⟨result, h⟩ := once_eq_ok h
    obtain ⟨k', operation, rfl⟩ := within_eq_ok started h
    obtain ⟨⟨answer, k₁⟩, exit, next⟩ := Checked.bind_eq_ok.1 operation
    have step : System.step ⟨k, w.mutexes⟩ (.exit status) =
        .ok (.of (fun _ => .done) answer, ⟨k₁, w.mutexes⟩) := Checked.bind_eq_ok.2 ⟨_, exit, rfl⟩
    cases answer with
    | ok _ => cases next; exact ⟨_, .call rfl sound settled step nofun rfl rfl⟩
    | error e =>
      cases next
      rcases Kernel.exit_eq_ok sound settled exit with ⟨-, -, rfl⟩ | ⟨-, -, -, -, -, done, -⟩
      · exact ⟨_, .calm rfl rfl rfl (Kernel.Operates.still (Kernel.moves_note k₁ [] none _)
          Kernel.steady_quiet sound settled).ordinary⟩
      · cases done
  | waitChild filter options =>
    obtain ⟨⟨result, _⟩, h, eq⟩ := Checked.bind_eq_ok.1 h
    cases eq
    exact Turn.within (.waitChild filter options) rfl started sound settled (fun _ => rfl) nofun h
  | sleep millis =>
    obtain ⟨result, h⟩ := once_eq_ok h
    exact Turn.within (.sleep millis) rfl started sound settled (fun _ => rfl) nofun h
  | yield =>
    obtain ⟨result, h⟩ := once_eq_ok h
    exact Turn.enter .yield rfl started sound settled (fun _ => rfl) nofun h
  | getPid | uptime | summary =>
    obtain ⟨result, h⟩ := once_eq_ok h
    exact Turn.query rfl started settled h
  | enterSection =>
    obtain ⟨result, h⟩ := once_eq_ok h
    exact Turn.enter .enterSection rfl started sound settled (fun _ => rfl) nofun h
  | leaveSection =>
    obtain ⟨result, h⟩ := once_eq_ok h
    exact Turn.enter .leaveSection rfl started sound settled (fun _ => rfl) nofun h
  | lock mutex => exact turn_attemptLock rfl started sound settled h
  | tryLock mutex =>
    cases h
    exact ⟨k, .calm rfl started rfl (.none settled)⟩
  | unlock mutex =>
    obtain ⟨result, h⟩ := once_eq_ok h
    unfold unlock at h
    rw [started] at h
    obtain ⟨⟨m, k'⟩, operation, eq⟩ := Checked.bind_eq_ok.1 h
    cases eq
    have step : System.step ⟨k, w.mutexes⟩ (.unlock mutex) =
        .ok (.done, ({ kernel := k', mutexes := w.mutexes } : System π).setMutex mutex m) :=
      Checked.bind_eq_ok.2 ⟨_, operation, rfl⟩
    exact ⟨k', .call rfl sound settled step nofun rfl rfl⟩
  | registerDevice =>
    obtain ⟨result, h⟩ := once_eq_ok h
    exact Turn.within .registerDevice rfl started sound settled (fun _ => rfl) nofun h
  | read device count =>
    unfold attempt at h
    dsimp only at h
    split at h
    case isTrue => cases h; exact ⟨k, .idle rfl started settled⟩
    case isFalse room => exact turn_attemptRead started settled room h
  | write device data =>
    unfold attempt at h
    dsimp only at h
    split at h
    case isTrue => cases h; exact ⟨k, .idle rfl started settled⟩
    case isFalse some => exact turn_attemptWrite started settled (by simpa using some) h
  | reportFile handle flags =>
    obtain ⟨result, h⟩ := once_eq_ok h
    exact Turn.within (.reportFile handle flags) rfl started sound settled (fun _ => rfl) nofun h
  | isStarted => cases h; exact ⟨k, .idle rfl started settled⟩
  | interrupt work =>
    obtain ⟨result, h⟩ := once_eq_ok h
    exact turn_serve started sound settled h

theorem turn_pursue (started : w.kernel? = some k) (sound : Moment.Sound ⟨k, [], none⟩)
    (settled : k.Settled) (h : w.pursue p = .ok (a, w')) : ∃ k', Turn k w w' k' p := by
  cases p with
  | request r => exact turn_attempt started sound settled h
  | spin mutex =>
    unfold pursue at h
    dsimp only at h
    split at h <;> cases h
    · exact ⟨k, .calm rfl started rfl (.none settled)⟩
    · exact ⟨k, .idle rfl started settled⟩

end World

end Rtos

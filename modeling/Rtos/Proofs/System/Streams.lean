import Rtos.Proofs.System.Turns

/-!
# The bytes of a device

A device carries two streams.  What receives store is read, and what is written is taken by transmits, in
the order in which it came; in between it is in the rings.  An interrupt that moves bytes reports that to
the kernel, and when the kernel refuses the report, the bytes have moved all the same
(`Transfer.received`, `Transfer.taken`).  So what was read and what waits to be read is what receives
stored, whether they could report it or not, and the two streams are what the answers of the calls say
as long as no interrupt that moved bytes was refused (`World.streams_of_course`).
-/

namespace Rtos

namespace Ring

variable {capacity : Nat}

/-- What a read puts into the front of the buffer are the oldest bytes, and the others are left. -/
theorem take_read_append (r : Ring capacity) (dest : List UInt8) :
    (r.read dest).2.1.take (r.read dest).1 ++ (r.read dest).2.2.toList = r.toList := by
  obtain ⟨count, buffer, left⟩ := r.read_eq dest
  have moved : (r.toList.take dest.length).length = min dest.length r.length := by
    rw [List.length_take, length_toList]
  rw [count, buffer, left, ← moved, List.take_left, List.take_append_drop]

theorem toList_write (r : Ring capacity) (data : List UInt8) :
    (r.write data).2.toList = r.toList ++ data.take (r.write data).1 := by
  obtain ⟨count, stored⟩ := r.write_eq data
  rw [stored, count, Nat.min_comm, ← List.take_take, List.take_length]

end Ring

/-! ## Transfers and what they carry -/

/-- Bytes pass between a device and those who use it. -/
inductive Transfer
  /-- A read answers with bytes. -/
  | read (bytes : List UInt8)
  /-- A write answers that it has stored bytes. -/
  | written (bytes : List UInt8)
  /-- A receive has stored bytes, and answers so unless its report was refused. -/
  | received (bytes : List UInt8) (reported : Bool)
  /-- A transmit has taken bytes, and answers so unless its report was refused. -/
  | taken (bytes : List UInt8) (reported : Bool)
deriving DecidableEq, Repr

namespace Transfer

/-- The bytes that reads answered with. -/
def bytesRead (log : List Transfer) : List UInt8 :=
  log.flatMap fun | read bytes => bytes | _ => []

/-- The bytes that writes answered for. -/
def bytesWritten (log : List Transfer) : List UInt8 :=
  log.flatMap fun | written bytes => bytes | _ => []

/-- The bytes that receives have stored. -/
def bytesReceived (log : List Transfer) : List UInt8 :=
  log.flatMap fun | received bytes _ => bytes | _ => []

/-- The bytes that receives answered for. -/
def bytesReported (log : List Transfer) : List UInt8 :=
  log.flatMap fun | received bytes true => bytes | _ => []

/-- The bytes that transmits have taken. -/
def bytesTaken (log : List Transfer) : List UInt8 :=
  log.flatMap fun | taken bytes _ => bytes | _ => []

/-- The bytes that transmits answered with. -/
def bytesSent (log : List Transfer) : List UInt8 :=
  log.flatMap fun | taken bytes true => bytes | _ => []

variable {log : List Transfer}

/-- Receives answer for what they have stored, unless one that has stored something was refused. -/
theorem bytesReceived_eq_bytesReported (told : ∀ bytes, received bytes false ∈ log → bytes = []) :
    bytesReceived log = bytesReported log := by
  refine List.flatMap_congr fun transfer mem => ?_
  match transfer with
  | received _ true => rfl
  | received bytes false => exact told bytes mem
  | read _ | written _ | taken _ _ => rfl

/-- Transmits answer with what they have taken, unless one that has taken something was refused. -/
theorem bytesTaken_eq_bytesSent (told : ∀ bytes, taken bytes false ∈ log → bytes = []) :
    bytesTaken log = bytesSent log := by
  refine List.flatMap_congr fun transfer mem => ?_
  match transfer with
  | taken _ true => rfl
  | taken bytes false => exact told bytes mem
  | read _ | written _ | received _ _ => rfl

end Transfer

open Transfer

namespace CharDevice

variable {capacity : Nat} {d d' d'' : CharDevice capacity} {log more : List Transfer}

/-- Transfers get a device from one state to another, and lose and invent no byte. -/
structure Carries (d : CharDevice capacity) (log : List Transfer) (d' : CharDevice capacity) : Prop where
  /-- What is read, and waits to be read then, is what waited before and what is received. -/
  input : bytesRead log ++ d'.rx.toList = d.rx.toList ++ bytesReceived log
  /-- What is taken, and waits to be taken then, is what waited before and what is written. -/
  output : bytesTaken log ++ d'.tx.toList = d.tx.toList ++ bytesWritten log

theorem Carries.refl (d : CharDevice capacity) : d.Carries [] d :=
  ⟨(List.append_nil _).symm, (List.append_nil _).symm⟩

theorem Carries.trans (first : d.Carries log d') (rest : d'.Carries more d'') :
    d.Carries (log ++ more) d'' where
  input := by
    rw [bytesRead, bytesReceived, List.flatMap_append, List.flatMap_append, List.append_assoc]
    change bytesRead log ++ (bytesRead more ++ _) = _ ++ (bytesReceived log ++ bytesReceived more)
    rw [rest.input, ← List.append_assoc, first.input, List.append_assoc]
  output := by
    rw [bytesTaken, bytesWritten, List.flatMap_append, List.flatMap_append, List.append_assoc]
    change bytesTaken log ++ (bytesTaken more ++ _) = _ ++ (bytesWritten log ++ bytesWritten more)
    rw [rest.output, ← List.append_assoc, first.output, List.append_assoc]

variable (d)

theorem carries_read (dest : List UInt8) :
    d.Carries [.read ((d.read dest).2.1.take (d.read dest).1)] (d.read dest).2.2 where
  input := by
    rw [bytesRead, List.flatMap_singleton, bytesReceived, List.flatMap_singleton, List.append_nil]
    exact d.rx.take_read_append dest
  output := (List.append_nil _).symm

theorem carries_write (data : List UInt8) :
    d.Carries [.written (data.take (d.write data).1)] (d.write data).2 where
  input := (List.append_nil _).symm
  output := by
    rw [bytesWritten, List.flatMap_singleton]
    exact d.tx.toList_write data

theorem carries_receive (data : List UInt8) (reported : Bool) :
    d.Carries [.received (data.take (d.receive data).1) reported] (d.receive data).2 where
  input := by
    rw [bytesReceived, List.flatMap_singleton]
    exact d.rx.toList_write data
  output := (List.append_nil _).symm

theorem carries_transmit (dest : List UInt8) (reported : Bool) :
    d.Carries [.taken ((d.transmit dest).2.1.take (d.transmit dest).1) reported]
      (d.transmit dest).2.2 where
  input := (List.append_nil _).symm
  output := by
    rw [bytesTaken, List.flatMap_singleton, bytesWritten, List.flatMap_singleton, List.append_nil]
    exact d.tx.take_read_append dest

end CharDevice

/-! ## What the calls do with the devices -/

namespace World

variable {π : Type} [Port π] {w w' w'' : World π} {i j : Nat} {a : Attempt} {p : Pursuit}

omit [Port π] in
/-- What a step of a call has transferred at a device, judging by its answer; if the report of an interrupt
was refused, the bytes are those that the device had room for or could give. -/
def transfer? (w : World π) (i : Nat) : Pursuit → Attempt → Option Transfer
  | .request (.read device _), .finished (.ok (.bytes count buffer)) =>
    if device = i then some (.read (buffer.take count)) else none
  | .request (.write device data), .finished (.ok (.number count)) =>
    if device = i then some (.written (data.take count)) else none
  | .request (.interrupt (.receive device data)), .finished (.ok (.number count)) =>
    if device = i then some (.received (data.take count) true) else none
  | .request (.interrupt (.transmit device _)), .finished (.ok (.bytes count buffer)) =>
    if device = i then some (.taken (buffer.take count) true) else none
  | .request (.interrupt (.receive device data)), .finished (.error _) =>
    w.devices[device]?.bind fun d =>
      if device = i then some (.received (data.take (d.device.receive data).1) false) else none
  | .request (.interrupt (.transmit device count)), .finished (.error _) =>
    w.devices[device]?.bind fun d =>
      let (moved, buffer, _) := d.device.transmit (List.replicate count 0)
      if device = i then some (.taken (buffer.take moved) false) else none
  | _, _ => none

omit [Port π] in
theorem devices_within {α : Type} {f : Kernel π → Checked (Except Error α × Kernel π)}
    {result : Except Error α} (h : w.within f = .ok (result, w')) : w'.devices = w.devices := by
  unfold within at h
  split at h
  case h_1 => cases h; rfl
  case h_2 =>
    obtain ⟨_, -, eq⟩ := Checked.bind_eq_ok.1 h
    cases eq
    rfl

/-- A report leaves the devices alone, and is refused or leaves the answer as it is. -/
theorem signalMoved_eq_ok {id : DeviceId} {count : Nat} {flags : DeviceFlags} {answer : Answer}
    {result : Except Error Answer} (h : w.signalMoved id count flags answer = .ok (result, w')) :
    w'.devices = w.devices ∧ (result = .ok answer ∨ ∃ e, result = .error e) := by
  unfold signalMoved at h
  split at h
  case isTrue => cases h; exact ⟨rfl, .inl rfl⟩
  case isFalse =>
    obtain ⟨⟨told, w₁⟩, signal, eq⟩ := Checked.bind_eq_ok.1 h
    cases eq
    refine ⟨devices_within signal, ?_⟩
    cases told with
    | ok => exact .inl rfl
    | error e => exact .inr ⟨e, rfl⟩

/-- What a step of a call does with the devices: it leaves them alone, and transfers no byte, or it makes one
transfer with one of them. -/
inductive Transfers (w w' : World π) (p : Pursuit) (a : Attempt) : Prop
  /-- No byte is transferred. -/
  | nothing (same : w'.devices = w.devices)
      (silent : ∀ i transfer, w.transfer? i p a = some transfer →
        transfer = .read [] ∨ transfer = .written [])
  /-- Something is transferred at one device. -/
  | single (j : Nat) {capacity : Nat} {d d' : CharDevice capacity} {transfer : Transfer}
      (found : w.devices[j]? = some ⟨capacity, d⟩)
      (set : w'.devices = w.devices.set j ⟨capacity, d'⟩) (carries : d.Carries [transfer] d')
      (seen : ∀ i, w.transfer? i p a = if j = i then some transfer else none)

omit [Port π] in
theorem Transfers.still (same : w'.devices = w.devices) (silent : ∀ i, w.transfer? i p a = none) :
    w.Transfers w' p a :=
  .nothing same fun i transfer seen => by
    rw [silent i] at seen
    cases seen

omit [Port π] in
theorem Transfers.carries {capacity : Nat} {d : CharDevice capacity} (h : w.Transfers w' p a)
    (found : w.devices[i]? = some ⟨capacity, d⟩) :
    ∃ d' : CharDevice capacity, w'.devices[i]? = some ⟨capacity, d'⟩ ∧
      d.Carries (w.transfer? i p a).toList d' := by
  cases h with
  | nothing same silent =>
    refine ⟨d, same ▸ found, ?_⟩
    cases seen : w.transfer? i p a with
    | none => exact .refl d
    | some transfer =>
      obtain rfl | rfl := silent i transfer seen
      · exact ⟨(List.append_nil _).symm, (List.append_nil _).symm⟩
      · exact ⟨(List.append_nil _).symm, (List.append_nil _).symm⟩
  | single j found' set carries seen =>
    rw [seen i, set]
    by_cases same : j = i
    · subst same
      cases found.symm.trans found'
      rw [if_pos rfl]
      exact ⟨_, List.getElem?_set_self (List.getElem?_eq_some_iff.1 found).1, carries⟩
    · rw [if_neg same, List.getElem?_set_ne same]
      exact ⟨d, found, .refl d⟩

/-- An attempt to read that does not transfer anything leaves the devices alone. -/
theorem transfers_attemptRead {count : Nat} (h : w.attemptRead j count = .ok (a, w')) :
    w.Transfers w' (.request (.read j count)) a := by
  unfold attemptRead at h
  split at h
  case h_2 => cases h; exact .still rfl fun _ => rfl
  case h_1 capacity d found =>
    split at h
    case h_1 => cases h; exact .still rfl fun _ => rfl
    case h_2 kernel started =>
      dsimp only at h
      split at h
      case isTrue =>
        obtain ⟨⟨result, k'⟩, -, eq⟩ := Checked.bind_eq_ok.1 h
        cases eq
        refine .still rfl fun _ => ?_
        match result with
        | .error _ | .ok (.done _) | .ok .parked | .ok .polling => rfl
      case isFalse =>
        cases h
        exact .single j found rfl (d.carries_read _) fun _ => rfl

theorem transfers_attemptWrite {data : List UInt8} (h : w.attemptWrite j data = .ok (a, w')) :
    w.Transfers w' (.request (.write j data)) a := by
  unfold attemptWrite at h
  split at h
  case h_2 => cases h; exact .still rfl fun _ => rfl
  case h_1 capacity d found =>
    split at h
    case h_1 => cases h; exact .still rfl fun _ => rfl
    case h_2 kernel started =>
      dsimp only at h
      split at h
      case isTrue =>
        obtain ⟨⟨result, k'⟩, -, eq⟩ := Checked.bind_eq_ok.1 h
        cases eq
        refine .still rfl fun _ => ?_
        match result with
        | .error _ | .ok (.done _) | .ok .parked | .ok .polling => rfl
      case isFalse =>
        cases h
        exact .single j found rfl (d.carries_write _) fun _ => rfl

/-- An interrupt transfers what the device has room for or can give, whether its report is refused or
not. -/
theorem transfers_serve {work : Interrupt} {result : Except Error Answer}
    (h : w.serve work = .ok (result, w')) :
    w.Transfers w' (.request (.interrupt work)) (.finished result) := by
  cases work with
  | receive j data =>
    unfold serve at h
    dsimp only at h
    cases found : w.devices[j]? with
    | none =>
      rw [found] at h
      cases h
      refine .still rfl fun _ => ?_
      rw [transfer?, found]
      rfl
    | some known =>
      obtain ⟨capacity, d⟩ := known
      rw [found] at h
      obtain ⟨same, rfl | ⟨e, rfl⟩⟩ := signalMoved_eq_ok h
      · exact .single j found same (d.carries_receive data true) fun _ => rfl
      · refine .single j found same (d.carries_receive data false) fun _ => ?_
        rw [transfer?, found]
        rfl
  | transmit j count =>
    unfold serve at h
    dsimp only at h
    cases found : w.devices[j]? with
    | none =>
      rw [found] at h
      cases h
      refine .still rfl fun _ => ?_
      rw [transfer?, found]
      rfl
    | some known =>
      obtain ⟨capacity, d⟩ := known
      rw [found] at h
      obtain ⟨same, rfl | ⟨e, rfl⟩⟩ := signalMoved_eq_ok h
      · exact .single j found same (d.carries_transmit _ true) fun _ => rfl
      · refine .single j found same (d.carries_transmit _ false) fun _ => ?_
        rw [transfer?, found]
        rfl
  | signal device flags =>
    obtain ⟨⟨_, _⟩, signal, eq⟩ := Checked.bind_eq_ok.1 h
    cases eq
    exact .still (devices_within signal) fun _ => rfl
  | tick =>
    obtain ⟨⟨_, _⟩, tick, eq⟩ := Checked.bind_eq_ok.1 h
    cases eq
    exact .still (devices_within tick) fun _ => rfl

omit [Port π] in
/-- A call that needs one attempt transfers nothing if it is none of a transfer. -/
theorem transfers_once {α : Type} {f : α → Answer} {outcome : Checked (Except Error α × World π)}
    (h : once f outcome = .ok (a, w'))
    (same : ∀ {result}, outcome = .ok (result, w') → w'.devices = w.devices)
    (silent : ∀ i result, w.transfer? i p (.finished result) = none) : w.Transfers w' p a := by
  obtain ⟨⟨result, _⟩, outcome, eq⟩ := Checked.bind_eq_ok.1 h
  cases eq
  exact .still (same outcome) fun i => silent i _

theorem devices_attemptLock {mutex : MutexId} (h : w.attemptLock mutex = .ok (a, w')) :
    w'.devices = w.devices := by
  unfold attemptLock at h
  split at h
  case h_1 => cases h; rfl
  case h_2 =>
    obtain ⟨_, -, h⟩ := Checked.bind_eq_ok.1 h
    dsimp only at h
    split at h <;> cases h <;> rfl

theorem devices_unlock {mutex : MutexId} {result : Except Error Unit}
    (h : w.unlock mutex = .ok (result, w')) : w'.devices = w.devices := by
  unfold unlock at h
  split at h
  case h_1 => cases h; rfl
  case h_2 =>
    obtain ⟨_, -, eq⟩ := Checked.bind_eq_ok.1 h
    cases eq
    rfl

theorem transfers_attempt {r : Request} (h : w.attempt r = .ok (a, w')) :
    w.Transfers w' (.request r) a := by
  cases r with
  | spawn | exit | sleep | yield | getPid | uptime | summary | enterSection | leaveSection
  | registerDevice | reportFile => exact transfers_once h devices_within fun _ _ => rfl
  | unlock => exact transfers_once h devices_unlock fun _ _ => rfl
  | waitChild filter options =>
    obtain ⟨⟨result, _⟩, operation, eq⟩ := Checked.bind_eq_ok.1 h
    cases eq
    exact .still (devices_within operation) fun _ => rfl
  | lock => exact .still (devices_attemptLock h) fun _ => rfl
  | tryLock => cases h; exact .still rfl fun _ => rfl
  | read j count =>
    unfold attempt at h
    dsimp only at h
    split at h
    case isTrue =>
      cases h
      refine .nothing rfl fun i transfer seen => ?_
      change (if j = i then some (Transfer.read []) else none) = some transfer at seen
      obtain ⟨-, eq⟩ := Option.ite_none_right_eq_some.1 seen
      cases eq
      exact .inl rfl
    case isFalse => exact transfers_attemptRead h
  | write j data =>
    unfold attempt at h
    dsimp only at h
    split at h
    case isTrue =>
      cases h
      refine .nothing rfl fun i transfer seen => ?_
      change (if j = i then some (Transfer.written []) else none) = some transfer at seen
      obtain ⟨-, eq⟩ := Option.ite_none_right_eq_some.1 seen
      cases eq
      exact .inr rfl
    case isFalse => exact transfers_attemptWrite h
  | isStarted => cases h; exact .still rfl fun _ => rfl
  | interrupt work =>
    obtain ⟨⟨result, _⟩, served, eq⟩ := Checked.bind_eq_ok.1 h
    cases eq
    have transfers := transfers_serve served
    cases result <;> exact transfers

theorem transfers_pursue (h : w.pursue p = .ok (a, w')) : w.Transfers w' p a := by
  cases p with
  | request r => exact transfers_attempt h
  | spin mutex =>
    unfold pursue at h
    dsimp only at h
    split at h <;> cases h <;> exact .still rfl fun _ => rfl

/-! ## Courses -/

/-- What passes between a device and those who use it while calls are made, by tasks and by interrupts, and
while other things happen that leave the device alone: the kernel is built, its devices come and go, and
so on. -/
inductive Course (i : Nat) (w : World π) : List Transfer → World π → Prop
  /-- Nothing has happened. -/
  | start : Course i w [] w
  /-- A step of a call is made. -/
  | pursue {log : List Transfer} {w' w'' : World π} {p : Pursuit} {a : Attempt}
      (before : Course i w log w') (step : w'.pursue p = .ok (a, w'')) :
      Course i w (log ++ (w'.transfer? i p a).toList) w''
  /-- Something else happens. -/
  | outside {log : List Transfer} {w' w'' : World π} (before : Course i w log w')
      (same : w''.devices[i]? = w'.devices[i]?) : Course i w log w''

/-- What a device carries all along a course. -/
theorem Course.carries {capacity : Nat} {d : CharDevice capacity} {log : List Transfer}
    (course : Course i w log w') (found : w.devices[i]? = some ⟨capacity, d⟩) :
    ∃ d' : CharDevice capacity, w'.devices[i]? = some ⟨capacity, d'⟩ ∧ d.Carries log d' := by
  induction course with
  | start => exact ⟨d, found, .refl d⟩
  | pursue before step ih =>
    obtain ⟨d₁, found₁, carries₁⟩ := ih
    obtain ⟨d₂, found₂, carries₂⟩ := (transfers_pursue step).carries found₁
    exact ⟨d₂, found₂, carries₁.trans carries₂⟩
  | outside before same ih =>
    obtain ⟨d₁, found₁, carries₁⟩ := ih
    exact ⟨d₁, same.trans found₁, carries₁⟩

/-- The streams of a device that had empty rings.  The bytes that were read, followed by those that wait
to be read, are the bytes that receives have stored, be their reports refused or not; so they are the
bytes that receives answered for if no receive that has stored something was refused.  The bytes that
transmits answered with, followed by those that wait to be taken, are the bytes that writes answered for
if no transmit that has taken something was refused. -/
theorem streams_of_course {capacity : Nat} {id : DeviceId} {log : List Transfer}
    (found : w.devices[i]? = some ⟨capacity, .new id⟩) (course : Course i w log w') :
    ∃ d : CharDevice capacity, w'.devices[i]? = some ⟨capacity, d⟩ ∧
      bytesRead log ++ d.rx.toList = bytesReceived log ∧
      ((∀ bytes, .received bytes false ∈ log → bytes = []) →
        bytesRead log ++ d.rx.toList = bytesReported log) ∧
      ((∀ bytes, .taken bytes false ∈ log → bytes = []) →
        bytesSent log ++ d.tx.toList = bytesWritten log) := by
  obtain ⟨d, found', carries⟩ := course.carries found
  have input : bytesRead log ++ d.rx.toList = bytesReceived log := by
    rw [carries.input, CharDevice.new, Ring.toList_empty, List.nil_append]
  have output : bytesTaken log ++ d.tx.toList = bytesWritten log := by
    rw [carries.output, CharDevice.new, Ring.toList_empty, List.nil_append]
  refine ⟨d, found', input, fun told => ?_, fun told => ?_⟩
  · rw [input, bytesReceived_eq_bytesReported told]
  · rw [← bytesTaken_eq_bytesSent told, output]

/-- Makes steps of calls, and lists what is transferred at a device. -/
def traffic (i : Nat) (w : World π) : List Pursuit → Checked (List Transfer × World π)
  | [] => return ([], w)
  | p :: pursuits => do
    let (a, w') ← w.pursue p
    let (log, w'') ← w'.traffic i pursuits
    return ((w.transfer? i p a).toList ++ log, w'')

theorem Course.traffic {log more : List Transfer} {pursuits : List Pursuit}
    (before : Course i w log w') (h : w'.traffic i pursuits = .ok (more, w'')) :
    Course i w (log ++ more) w'' := by
  induction pursuits generalizing w' log more with
  | nil => cases h; rwa [List.append_nil]
  | cons p pursuits ih =>
    obtain ⟨⟨a, w₁⟩, step, h⟩ := Checked.bind_eq_ok.1 h
    obtain ⟨⟨rest, w₂⟩, later, eq⟩ := Checked.bind_eq_ok.1 h
    cases eq
    rw [← List.append_assoc]
    exact ih (before.pursue step) later

/-- A world with a kernel and one device with room for four bytes. -/
def oneDevice (k : Kernel π) : World π :=
  ⟨some k, fun _ => .free, [⟨4, .new 0⟩]⟩

/-- Some bytes go each way, and none of the reports is refused. -/
theorem streams_of_course_host : ∃ (k : Kernel HostPort) (w : World HostPort) (log : List Transfer)
    (d : CharDevice 4), Kernel.boot (HostPort.new false) = .ok (.ok k) ∧
      Course 0 (oneDevice k) log w ∧ w.devices[0]? = some ⟨4, d⟩ ∧
      log = [.written [7, 8, 9], .taken [7, 8] true, .received [1, 2, 3] true, .read [1, 2]] ∧
      bytesRead log ++ d.rx.toList = bytesReported log ∧
      bytesSent log ++ d.tx.toList = bytesWritten log := by
  have runs : (((Kernel.boot (HostPort.new false)).toOption.bind Except.toOption).any fun k =>
        ((oneDevice k).traffic 0 [.request .registerDevice, .request (.write 0 [7, 8, 9]),
          .request (.interrupt (.transmit 0 2)), .request (.interrupt (.receive 0 [1, 2, 3])),
          .request (.read 0 2)]).toOption.any fun out =>
            decide (out.1 = [.written [7, 8, 9], .taken [7, 8] true, .received [1, 2, 3] true,
              .read [1, 2]])) = true := by
    decide +kernel
  obtain ⟨k, booted, runs⟩ := Kernel.exists_of_boot runs
  obtain ⟨⟨log, w⟩, traffic, seen⟩ := Checked.exists_of_any runs
  have course : Course 0 (oneDevice k) log w := Course.start.traffic traffic
  obtain ⟨d, found, -, input, output⟩ := streams_of_course rfl course
  cases of_decide_eq_true seen
  exact ⟨k, w, _, d, booted, course, found, rfl, input fun bytes mem => by simp at mem,
    output fun bytes mem => by simp at mem⟩

/-- Reports fill the queues in an atomic section; then bytes are written, taken and received. -/
def unreported : List Pursuit :=
  [.request .registerDevice, .request .enterSection] ++
    List.replicate (queueDepth + overflowDepth) (.request (.interrupt (.signal 0 DeviceFlags.rx))) ++
    [.request (.write 0 [7, 8]), .request (.interrupt (.transmit 0 2)),
      .request (.interrupt (.receive 0 [97]))]

/-- When the queues are full, a transmit and a receive are refused that have moved bytes: the answers of
the calls account for neither stream. -/
theorem streams_of_unreported : ∃ (k : Kernel HostPort) (w : World HostPort) (log : List Transfer)
    (d : CharDevice 4), Kernel.boot (HostPort.new false) = .ok (.ok k) ∧
      (oneDevice k).traffic 0 unreported = .ok (log, w) ∧ Course 0 (oneDevice k) log w ∧
      w.devices[0]? = some ⟨4, d⟩ ∧
      log = [.written [7, 8], .taken [7, 8] false, .received [97] false] ∧
      d.rx.toList = [97] ∧ d.tx.toList = [] ∧
      bytesSent log ++ d.tx.toList ≠ bytesWritten log ∧
      bytesRead log ++ d.rx.toList ≠ bytesReported log := by
  have runs : (((Kernel.boot (HostPort.new false)).toOption.bind Except.toOption).any fun k =>
        ((oneDevice k).traffic 0 unreported).toOption.any fun out =>
            decide (out.1 = [.written [7, 8], .taken [7, 8] false, .received [97] false])) = true := by
    decide +kernel
  obtain ⟨k, booted, runs⟩ := Kernel.exists_of_boot runs
  obtain ⟨⟨log, w⟩, traffic, seen⟩ := Checked.exists_of_any runs
  have course : Course 0 (oneDevice k) log w := Course.start.traffic traffic
  obtain ⟨d, found, carries⟩ := course.carries rfl
  cases of_decide_eq_true seen
  have input : d.rx.toList = [97] := carries.input
  have output : [7, 8] ++ d.tx.toList = [7, 8] := carries.output
  have rest : d.tx.toList = [] := List.append_right_eq_self.1 output
  refine ⟨k, w, _, d, booted, traffic, course, found, rfl, input, rest, ?_, ?_⟩
  · rw [rest]
    decide
  · rw [input]
    decide

end World

end Rtos

import Rtos.Proofs.Kernel.Refusals
import Rtos.Proofs.System.Runs

/-!
# Refused calls

A call that is refused changes nothing that a later call could tell: the tables, the entities, the
queues, the listeners, the devices, the mutexes and the hardware are what they were.  Only the log is
longer, and an event that found both its queues full is counted.
-/

namespace Rtos.System

variable {π : Type} {s s' : System π} {call : Call} {e : Error}

theorem update_self (mutexes : MutexId → Mutex) (id : MutexId) :
    update mutexes id (mutexes id) = mutexes := by
  funext other
  unfold update
  split
  case isTrue eq => rw [eq]
  case isFalse => rfl

theorem request_refused {α : Type} {f : Kernel π → Checked (Except Error α × Kernel π)}
    {of : α → Reply} (answers : ∀ a, of a ≠ .refused e)
    (h : s.request f of = .ok (.refused e, s')) :
    f s.kernel = .ok (.error e, s'.kernel) ∧ s'.mutexes = s.mutexes := by
  obtain ⟨result, operation, reply, mutexes⟩ := request_eq_ok h
  cases result with
  | ok a => exact absurd reply.symm (answers a)
  | error =>
    cases reply
    exact ⟨operation, mutexes⟩

variable [Port π]

/-- A call that is refused leaves the kernel and the mutexes as they were. -/
theorem step_refused [RestoringPort π] (proper : s.kernel.entities.Proper)
    (h : s.step call = .ok (.refused e, s')) :
    s.kernel.Undisturbed s'.kernel ∧ s'.mutexes = s.mutexes := by
  have same {k' : Kernel π} (eq : k' = s.kernel) : s.kernel.Undisturbed k' := by rw [eq]
  unfold step at h
  cases call with
  | spawn entry =>
    obtain ⟨h, mutexes⟩ := request_refused nofun h
    exact ⟨same (Kernel.spawn_refused h), mutexes⟩
  | exit status =>
    obtain ⟨h, mutexes⟩ := request_refused nofun h
    exact ⟨same (Kernel.exit_refused h), mutexes⟩
  | waitChild filter options =>
    obtain ⟨h, mutexes⟩ := request_refused nofun h
    exact ⟨Kernel.waitChild_refused h, mutexes⟩
  | sleep millis =>
    obtain ⟨h, mutexes⟩ := request_refused nofun h
    exact ⟨Kernel.sleep_refused h, mutexes⟩
  | lock id =>
    obtain ⟨⟨result, mutex, kernel⟩, lock, eq⟩ := Checked.bind_eq_ok.1 h
    cases result with
    | ok => cases eq
    | error =>
      cases eq
      obtain ⟨rfl, left⟩ := Kernel.lock_refused lock
      exact ⟨left, update_self s.mutexes id⟩
  | unlock id =>
    obtain ⟨_, -, eq⟩ := Checked.bind_eq_ok.1 h
    cases eq
  | tick | schedule | yield | enterSection | leaveSection => cases (perform_eq_ok h).2.1
  | tryLock id => cases h
  | registerDevice =>
    obtain ⟨h, mutexes⟩ := request_refused nofun h
    exact ⟨same (Kernel.registerDevice_refused h), mutexes⟩
  | unregisterDevice device =>
    obtain ⟨h, mutexes⟩ := request_refused nofun h
    exact ⟨same (Kernel.unregisterDevice_refused h), mutexes⟩
  | reportDevice device flags =>
    obtain ⟨h, mutexes⟩ := request_refused nofun h
    exact ⟨Kernel.reportDevice_refused proper h, mutexes⟩
  | signalDevice device flags =>
    obtain ⟨h, mutexes⟩ := request_refused nofun h
    exact ⟨Kernel.signalDevice_refused proper h, mutexes⟩
  | reportFile handle flags =>
    obtain ⟨h, mutexes⟩ := request_refused nofun h
    exact ⟨Kernel.reportFile_refused proper h, mutexes⟩
  | waitDevice device direction =>
    obtain ⟨h, mutexes⟩ := request_refused nofun h
    exact ⟨Kernel.waitDevice_refused h, mutexes⟩

/-- Whatever calls were made on a kernel that was just built, a call that is refused then changes
nothing but the log, and the number of refused events by at most one. -/
theorem unchanged_of_refused [RestoringPort π] {port : π} {k : Kernel π}
    {mutexes : MutexId → Mutex} {calls : List Call} {replies : List Reply}
    (booted : Kernel.boot port = .ok (.ok k))
    (run : System.run ⟨k, mutexes⟩ calls = .ok (replies, s))
    (refused : s.step call = .ok (.refused e, s')) :
    ∃ notices dropped, dropped ≤ 1 ∧ s' = { s with kernel := s.kernel.noted notices dropped } := by
  have proper := ((healthy_boot booted mutexes).run run).sound.tree
  obtain ⟨⟨notices, dropped, one, kernel⟩, same⟩ := step_refused proper refused
  refine ⟨notices, dropped, one, ?_⟩
  rw [← kernel, ← same]

/-- The report of a device whose queue and the overflow queue are full. -/
theorem unchanged_of_refused_host : ∃ k replies s s',
    Kernel.boot (HostPort.new false) = .ok (.ok k) ∧
      System.run ⟨k, fun _ => .free⟩ (.registerDevice ::
        List.replicate (queueDepth + overflowDepth) (.reportDevice 0 DeviceFlags.rx)) =
          .ok (replies, s) ∧
      s.step (.signalDevice 0 DeviceFlags.tx) = .ok (.refused .outOfMemory, s') ∧
      ∃ notices dropped, dropped ≤ 1 ∧
        s' = { s with kernel := s.kernel.noted notices dropped } := by
  have runs : (((Kernel.boot (HostPort.new false)).toOption.bind Except.toOption).any fun k =>
        (System.run ⟨k, fun _ => .free⟩ (.registerDevice :: List.replicate
          (queueDepth + overflowDepth) (.reportDevice 0 DeviceFlags.rx))).toOption.any fun r =>
            (r.2.step (.signalDevice 0 DeviceFlags.tx)).toOption.any fun r =>
              r.1 = .refused .outOfMemory) = true := by decide +kernel
  obtain ⟨k, booted, runs⟩ := Kernel.exists_of_boot runs
  obtain ⟨⟨replies, s⟩, run, refused⟩ := Checked.exists_of_any runs
  obtain ⟨⟨reply, s'⟩, step, refused⟩ := Checked.exists_of_any refused
  obtain rfl := of_decide_eq_true refused
  exact ⟨k, replies, s, s', booted, run, step, unchanged_of_refused booted run step⟩

end Rtos.System

import Rtos.Proofs.Kernel.Remains
import Rtos.Proofs.System.Runs

/-!
# Nothing leaks

A task that exits is kept only for those that may still ask for it.  In every state between calls the
slot of a task that exited is kept for a reason, and once all tasks but the idle one are gone and the
queues are empty, the kernel holds what it held when it was built, and what the registered devices
need (`System.Tight`).
-/

namespace Rtos

namespace System

variable {π : Type} [Port π] [LawfulPort π] {s s' : System π} {call : Call} {reply : Reply}
  {calls : List Call} {replies : List Reply} {others : List Stack}

/-- What tasks that exited had taken is given back, unless there is a reason to keep it. -/
structure Tight (s : System π) (port : π) : Prop where
  /-- The slot of a task that exited is kept for a reason. -/
  pinned : ∀ {pid t}, s.kernel.sched.task? pid = some t → t.active = true → t.state = .dead →
    s.kernel.Pinned pid t
  /-- When no task but the idle one is left, and nothing is queued, everything is given back; `port`
  is what the kernel was built on. -/
  cleared : s.kernel.Quiet → s.kernel.Cleared (LawfulPort.lent port)

/-- What makes a system tight, each kept by every call. -/
structure Thrifty (s : System π) (others : List Stack) : Prop where
  /-- Entities stand in order. -/
  arranged : s.Arranged
  /-- Slots are regular. -/
  regular : s.kernel.Regular
  /-- Nothing is lent but to tasks. -/
  lends : s.kernel.Lends others

theorem Thrifty.step (h : s.Thrifty others) (step : s.step call = .ok (reply, s')) :
    s'.Thrifty others := by
  have sound := h.arranged.kernel.sound
  have moves := (operates_step sound h.arranged.settled step).moves sound
  exact ⟨h.arranged.step step, moves.regular sound h.regular, moves.lends sound h.lends⟩

theorem Thrifty.run (h : s.Thrifty others) (run : s.run calls = .ok (replies, s')) :
    s'.Thrifty others :=
  run_keeps Thrifty.step h run

/-- Whatever calls are made on a kernel that was just built, nothing leaks. -/
theorem tight_of_run {port : π} {k : Kernel π} {mutexes : MutexId → Mutex}
    (booted : Kernel.boot port = .ok (.ok k))
    (run : System.run ⟨k, mutexes⟩ calls = .ok (replies, s')) : s'.Tight port := by
  have start : Thrifty ⟨k, mutexes⟩ (LawfulPort.lent port) :=
    ⟨arranged_boot booted mutexes, Kernel.regular_boot booted, Kernel.lends_boot booted⟩
  have h := start.run run
  exact ⟨h.arranged.kernel.pinned, h.arranged.kernel.cleared_of_quiet h.regular h.lends⟩

/-- A task exits before its child, whose exit then frees both slots. -/
theorem tight_of_run_host : ∃ k, Kernel.boot (HostPort.new false) = .ok (.ok k) ∧
    (∃ replies s, System.run ⟨k, fun _ => .free⟩ [.registerDevice, .spawn (.program 0), .schedule,
        .spawn (.program 1), .exit 3] = .ok (replies, s) ∧
      (∃ t, s.kernel.sched.task? 1 = some t ∧ t.active = true ∧ t.state = .dead) ∧
      s.Tight (HostPort.new false)) ∧
    ∃ replies s, System.run ⟨k, fun _ => .free⟩ [.registerDevice, .spawn (.program 0), .schedule,
        .spawn (.program 1), .exit 3, .exit 0] = .ok (replies, s) ∧
      (s.kernel.Quiet ∧ s.kernel.sched.port.stacksUsed = 1 ∧
        LawfulPort.lent (HostPort.new false) = []) ∧
      s.Tight (HostPort.new false) := by
  have runs : (((Kernel.boot (HostPort.new false)).toOption.bind Except.toOption).any fun k =>
        ((System.run ⟨k, fun _ => .free⟩ [.registerDevice, .spawn (.program 0), .schedule,
            .spawn (.program 1), .exit 3]).toOption.any fun out =>
          (out.2.kernel.sched.task? 1).any fun t => t.active = true ∧ t.state = .dead) ∧
        (System.run ⟨k, fun _ => .free⟩ [.registerDevice, .spawn (.program 0), .schedule,
            .spawn (.program 1), .exit 3, .exit 0]).toOption.any fun out =>
          (∀ pid < maxTasks, pid = idlePid ∨
            (out.2.kernel.sched.task? pid).all fun t => t.state = .dead) ∧
          out.2.kernel.bus.queues.events = [] ∧ out.2.kernel.sched.port.stacksUsed = 1) = true := by
    decide +kernel
  obtain ⟨k, booted, runs⟩ := Kernel.exists_of_boot runs
  obtain ⟨before, behind⟩ := of_decide_eq_true runs
  refine ⟨k, booted, ?_, ?_⟩
  · obtain ⟨⟨replies, s⟩, run, kept⟩ := Checked.exists_of_any before
    obtain ⟨t, slot, kept⟩ := (Option.any_eq_true _ _).1 kept
    exact ⟨replies, s, run, ⟨t, slot, of_decide_eq_true kept⟩, tight_of_run booted run⟩
  · obtain ⟨⟨replies, s⟩, run, left⟩ := Checked.exists_of_any behind
    obtain ⟨alone, drained, used⟩ := of_decide_eq_true left
    refine ⟨replies, s, run, ⟨⟨fun pid t slot busy => ?_, drained⟩, used, rfl⟩,
      tight_of_run booted run⟩
    have dead := (alone pid (Scheduler.lt_of_task? slot)).resolve_left busy
    rw [slot] at dead
    exact of_decide_eq_true dead

end System

end Rtos

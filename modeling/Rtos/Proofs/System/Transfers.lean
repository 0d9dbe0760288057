import Rtos.Syscall

/-!
# Transfers and interrupts

A task reads from a device or writes to it, and waits for a report as long as no byte can be moved.
An interrupt is the other side of such a transfer: it moves bytes, and reports that it did.
-/

namespace Rtos

namespace Request

/-- Whether a transfer would move bytes. -/
def Possible (devices : List AttachedDevice) : Request → Prop
  | .read device _ => ∃ d, devices[device]? = some d ∧ 0 < d.device.readable
  | .write device _ => ∃ d, devices[device]? = some d ∧ 0 < d.device.writable
  | _ => False

/-- What a transfer waits for as long as it would not. -/
def wait? (devices : List AttachedDevice) : Request → Option DeviceWait
  | .read device _ => devices[device]?.map fun d => ⟨d.device.id, DeviceFlags.rx⟩
  | .write device _ => devices[device]?.map fun d => ⟨d.device.id, DeviceFlags.tx⟩
  | _ => none

variable {devices : List AttachedDevice} {i : Nat} {capacity : Nat} {d d' : CharDevice capacity}

/-- What transfers wait for depends on the names of the devices alone. -/
theorem wait?_set (found : devices[i]? = some ⟨capacity, d⟩) (same : d'.id = d.id) (r : Request) :
    r.wait? (devices.set i ⟨capacity, d'⟩) = r.wait? devices := by
  obtain ⟨lt, -⟩ := List.getElem?_eq_some_iff.1 found
  have named (j : Nat) (direction : DeviceFlags) :
      (devices.set i ⟨capacity, d'⟩)[j]?.map (fun a => DeviceWait.mk a.device.id direction) =
        devices[j]?.map fun a => DeviceWait.mk a.device.id direction := by
    rw [List.getElem?_set]
    split
    case isTrue eq => rw [← eq, found, Option.map_some, Option.map_some, same]
    case isFalse => rfl
  cases r with
  | read device count => exact named device DeviceFlags.rx
  | write device data => exact named device DeviceFlags.tx
  | _ => rfl

/-- A transfer that a change of a device makes possible is one with that device, in a direction in
which there was nothing before. -/
theorem possible_of_set (found : devices[i]? = some ⟨capacity, d⟩) {r : Request}
    (h : r.Possible (devices.set i ⟨capacity, d'⟩)) :
    r.Possible devices ∨ (∃ count, r = .read i count ∧ d.readable = 0 ∧ 0 < d'.readable) ∨
      ∃ data, r = .write i data ∧ d.writable = 0 ∧ 0 < d'.writable := by
  obtain ⟨lt, -⟩ := List.getElem?_eq_some_iff.1 found
  cases r with
  | read device count =>
    obtain ⟨a, found', bytes⟩ := h
    rw [List.getElem?_set] at found'
    split at found'
    case isTrue eq =>
      cases found'
      subst eq
      rcases Nat.eq_zero_or_pos d.readable with none | some
      · exact .inr (.inl ⟨count, rfl, none, bytes⟩)
      · exact .inl ⟨_, found, some⟩
    case isFalse => exact .inl ⟨a, found', bytes⟩
  | write device data =>
    obtain ⟨a, found', room⟩ := h
    rw [List.getElem?_set] at found'
    split at found'
    case isTrue eq =>
      cases found'
      subst eq
      rcases Nat.eq_zero_or_pos d.writable with none | some
      · exact .inr (.inr ⟨data, rfl, none, room⟩)
      · exact .inl ⟨_, found, some⟩
    case isFalse => exact .inl ⟨a, found', room⟩
  | _ => exact h.elim

end Request

namespace Interrupt

/-- What an interrupt reports: a device and a direction, if it moves bytes. -/
def report? (devices : List AttachedDevice) : Interrupt → Option DeviceWait
  | .receive device data =>
    devices[device]?.bind fun d =>
      if (d.device.receive data).1 = 0 then none else some ⟨d.device.id, DeviceFlags.rx⟩
  | .transmit device count =>
    devices[device]?.bind fun d =>
      if (d.device.transmit (List.replicate count 0)).1 = 0 then none
      else some ⟨d.device.id, DeviceFlags.tx⟩
  | _ => none

/-- Whether a transfer is the other side of what an interrupt does. -/
def Serves : Interrupt → Request → Prop
  | .receive device _, .read other _ => device = other
  | .transmit device _, .write other _ => device = other
  | _, _ => False

variable {devices : List AttachedDevice} {work : Interrupt} {report : DeviceWait}

theorem intersects_report (h : work.report? devices = some report) :
    report.direction.intersects (report.direction.union DeviceFlags.err) = true := by
  cases work with
  | receive device data =>
    obtain ⟨d, -, moved⟩ := Option.bind_eq_some_iff.1 h
    split at moved <;> cases moved
    change DeviceFlags.rx.intersects (DeviceFlags.rx.union DeviceFlags.err) = true
    decide
  | transmit device count =>
    obtain ⟨d, -, moved⟩ := Option.bind_eq_some_iff.1 h
    split at moved <;> cases moved
    change DeviceFlags.tx.intersects (DeviceFlags.tx.union DeviceFlags.err) = true
    decide
  | signal | tick => cases h

theorem wait?_of_serves (h : work.report? devices = some report) {r : Request}
    (serves : work.Serves r) : r.wait? devices = some report := by
  cases work with
  | receive device data =>
    obtain ⟨d, found, moved⟩ := Option.bind_eq_some_iff.1 h
    split at moved <;> cases moved
    cases r with
    | read other count =>
      cases serves
      rw [Request.wait?, found]
      rfl
    | _ => exact serves.elim
  | transmit device count =>
    obtain ⟨d, found, moved⟩ := Option.bind_eq_some_iff.1 h
    split at moved <;> cases moved
    cases r with
    | write other data =>
      cases serves
      rw [Request.wait?, found]
      rfl
    | _ => exact serves.elim
  | signal | tick => cases h

end Interrupt

/-- What a pursuit reports, if it is an interrupt that does. -/
def Pursuit.report? (devices : List AttachedDevice) : Pursuit → Option DeviceWait
  | .request (.interrupt work) => work.report? devices
  | _ => none

namespace CharDevice

variable {capacity : Nat} (d : CharDevice capacity)

/-! Bytes that are moved are counted. -/

theorem readable_read (dest : List UInt8) :
    (d.read dest).2.2.readable = d.readable - (d.read dest).1 := by
  obtain ⟨count, -, left⟩ := d.rx.read_eq dest
  have left := congrArg List.length left
  rw [Ring.length_toList, List.length_drop, Ring.length_toList] at left
  change (d.rx.read dest).2.2.length = d.rx.length - (d.rx.read dest).1
  omega

theorem readable_receive (data : List UInt8) :
    (d.receive data).2.readable = d.readable + (d.receive data).1 := by
  obtain ⟨count, stored⟩ := d.rx.write_eq data
  have stored := congrArg List.length stored
  rw [Ring.length_toList, List.length_append, Ring.length_toList, List.length_take] at stored
  change (d.rx.write data).2.length = d.rx.length + (d.rx.write data).1
  omega

theorem writable_write (data : List UInt8) :
    (d.write data).2.writable = d.writable - (d.write data).1 := by
  obtain ⟨count, stored⟩ := d.tx.write_eq data
  have stored := congrArg List.length stored
  rw [Ring.length_toList, List.length_append, Ring.length_toList, List.length_take] at stored
  change capacity - (d.tx.write data).2.length = capacity - d.tx.length - (d.tx.write data).1
  unfold Ring.free at count stored
  omega

theorem writable_transmit (dest : List UInt8) :
    (d.transmit dest).2.2.writable = d.writable + (d.transmit dest).1 := by
  obtain ⟨count, -, left⟩ := d.tx.read_eq dest
  have left := congrArg List.length left
  have fits := d.tx.length_le
  rw [Ring.length_toList, List.length_drop, Ring.length_toList] at left
  change capacity - (d.tx.read dest).2.2.length = capacity - d.tx.length + (d.tx.read dest).1
  omega

/-- A read into some room moves bytes if there are any. -/
theorem readable_of_read {dest : List UInt8} (room : dest ≠ []) (h : (d.read dest).1 = 0) :
    d.readable = 0 := by
  obtain ⟨count, -, -⟩ := d.rx.read_eq dest
  have room := List.length_pos_iff.2 room
  change d.rx.length = 0
  change (d.rx.read dest).1 = 0 at h
  omega

theorem writable_of_write {data : List UInt8} (some : data ≠ []) (h : (d.write data).1 = 0) :
    d.writable = 0 := by
  obtain ⟨count, -⟩ := d.tx.write_eq data
  have some := List.length_pos_iff.2 some
  change d.tx.free = 0
  change (d.tx.write data).1 = 0 at h
  omega

end CharDevice

end Rtos

/-!
# Ring buffers

A bounded queue of bytes. A write stops when the buffer is full and a read when it is empty; no byte
is overwritten before it is read. `Ring.toList` is the queue that a ring stands for, oldest byte
first.
-/

namespace Rtos

/-- A ring buffer of `capacity` bytes. -/
structure Ring (capacity : Nat) where
  /-- The storage. -/
  cells : Vector UInt8 capacity
  /-- The place of the oldest byte. -/
  head : Nat
  /-- The number of bytes held. -/
  length : Nat
  /-- The oldest byte lies in the storage. -/
  head_lt : 0 < capacity → head < capacity
  /-- The bytes fit. -/
  length_le : length ≤ capacity
deriving DecidableEq, Repr

namespace Ring

variable {capacity : Nat}

/-- The ring that holds nothing. -/
def empty : Ring capacity where
  cells := Vector.replicate capacity 0
  head := 0
  length := 0
  head_lt h := h
  length_le := Nat.zero_le _

/-- The number of bytes that still fit. -/
def free (r : Ring capacity) : Nat :=
  capacity - r.length

/-- Whether the ring holds nothing. -/
def isEmpty (r : Ring capacity) : Bool :=
  r.length == 0

/-- Whether nothing more fits. -/
def isFull (r : Ring capacity) : Bool :=
  r.length == capacity

/-- Drops every byte. -/
def clear (r : Ring capacity) : Ring capacity :=
  { r with head := 0, length := 0, head_lt := id, length_le := Nat.zero_le _ }

/-- The bytes held, oldest first. -/
def toList (r : Ring capacity) : List UInt8 :=
  List.ofFn fun i : Fin r.length =>
    have pos : 0 < capacity := Nat.lt_of_lt_of_le i.pos r.length_le
    have lt : (r.head + i) % capacity < capacity := Nat.mod_lt _ pos
    r.cells[(r.head + i) % capacity]

/-- Puts a byte behind the others. -/
def push (r : Ring capacity) (byte : UInt8) (h : r.length < capacity) : Ring capacity where
  cells := r.cells.set ((r.head + r.length) % capacity) byte (Nat.mod_lt _ (by omega))
  head := r.head
  length := r.length + 1
  head_lt := r.head_lt
  length_le := h

/-- Takes the oldest byte. -/
def pop (r : Ring capacity) (h : 0 < r.length) : UInt8 × Ring capacity :=
  have pos : 0 < capacity := Nat.lt_of_lt_of_le h r.length_le
  have lt : r.head < capacity := r.head_lt pos
  (r.cells[r.head],
    { r with
      head := (r.head + 1) % capacity
      length := r.length - 1
      head_lt := fun _ => Nat.mod_lt _ pos
      length_le := Nat.le_trans (Nat.sub_le _ _) r.length_le })

/-- Writes as much of `data` as fits, and counts it. -/
def write (r : Ring capacity) : List UInt8 → Nat × Ring capacity
  | [] => (0, r)
  | byte :: data =>
    if h : r.length < capacity then
      let (count, r') := (r.push byte h).write data
      (count + 1, r')
    else
      (0, r)

/-- Moves bytes into the front of `dest`, until that is full or the ring is empty, and counts
them. -/
def read (r : Ring capacity) : List UInt8 → Nat × List UInt8 × Ring capacity
  | [] => (0, [], r)
  | slot :: dest =>
    if h : 0 < r.length then
      let (byte, r') := r.pop h
      let (count, dest', r'') := r'.read dest
      (count + 1, byte :: dest', r'')
    else
      (0, slot :: dest, r)

/-! ## The queue that a ring stands for -/

/-- A place at most one turn beyond the storage lies in it after one turn back. -/
theorem mod_of_lt_double (a : Nat) {capacity : Nat} (h : a < 2 * capacity) :
    a % capacity = if a < capacity then a else a - capacity := by
  split
  case isTrue lt => exact Nat.mod_eq_of_lt lt
  case isFalse ge =>
    rw [Nat.mod_eq_sub_mod (by omega), Nat.mod_eq_of_lt (by omega)]

/-- The queue is as long as the ring says. -/
@[simp] theorem length_toList (r : Ring capacity) : r.toList.length = r.length := by
  simp [toList]

/-- The empty ring stands for the empty queue. -/
@[simp] theorem toList_empty : (empty : Ring capacity).toList = [] := by
  simp [toList, empty]

/-- A cleared ring stands for the empty queue. -/
@[simp] theorem toList_clear (r : Ring capacity) : r.clear.toList = [] := by
  simp [toList, clear]

/-- The byte at a place of the queue. -/
theorem getElem_toList (r : Ring capacity) (i : Nat) (h : i < r.toList.length)
    (lt : (r.head + i) % capacity < capacity) :
    r.toList[i] = r.cells[(r.head + i) % capacity] := by
  simp only [toList, List.getElem_ofFn]

/-- A push appends to the queue. -/
theorem toList_push (r : Ring capacity) (byte : UInt8) (h : r.length < capacity) :
    (r.push byte h).toList = r.toList ++ [byte] := by
  have pos : 0 < capacity := by omega
  have lt := r.head_lt pos
  apply List.ext_getElem
  · simp [push]
  · intro i h₁ h₂
    rw [getElem_toList _ _ _ (Nat.mod_lt _ pos)]
    simp [push] at h₁
    simp only [push]
    have place : (r.head + i) % capacity = _ := mod_of_lt_double (r.head + i) (by omega)
    have last : (r.head + r.length) % capacity = _ :=
      mod_of_lt_double (r.head + r.length) (by omega)
    by_cases hi : i < r.length
    · rw [List.getElem_append_left (by simpa using hi),
        getElem_toList _ _ _ (Nat.mod_lt _ pos), Vector.getElem_set_ne]
      rw [place, last]
      split <;> split <;> omega
    · have : i = r.length := by omega
      subst this
      simp

/-- A pop takes the head of the queue. -/
theorem toList_eq_cons_pop (r : Ring capacity) (h : 0 < r.length) :
    r.toList = (r.pop h).1 :: (r.pop h).2.toList := by
  have pos : 0 < capacity := Nat.lt_of_lt_of_le h r.length_le
  have lt := r.head_lt pos
  apply List.ext_getElem
  · simp [pop]; omega
  · intro i h₁ h₂
    rw [getElem_toList _ _ _ (Nat.mod_lt _ pos)]
    cases i with
    | zero => simp [pop, Nat.mod_eq_of_lt lt]
    | succ i =>
      rw [List.getElem_cons_succ, getElem_toList _ _ _ (Nat.mod_lt _ pos)]
      simp only [pop]
      congr 1
      rw [Nat.mod_add_mod]
      congr 1
      omega

/-- A write appends as much of the data as fits, and counts it. -/
theorem write_eq (r : Ring capacity) (data : List UInt8) :
    (r.write data).1 = min data.length r.free ∧
      (r.write data).2.toList = r.toList ++ data.take r.free := by
  induction data generalizing r with
  | nil => simp [write]
  | cons byte data ih =>
    unfold write
    split
    case isTrue h =>
      have := ih (r.push byte h)
      have free : r.free = (r.push byte h).free + 1 := by simp [Ring.free, push]; omega
      simp [this, toList_push, free]
    case isFalse h =>
      have : r.free = 0 := by simp [Ring.free]; omega
      simp [this]

/-- A read moves the front of the queue to the front of the destination, as far as both reach, and
counts it. -/
theorem read_eq (r : Ring capacity) (dest : List UInt8) :
    (r.read dest).1 = min dest.length r.length ∧
      (r.read dest).2.1 = r.toList.take dest.length ++ dest.drop r.length ∧
      (r.read dest).2.2.toList = r.toList.drop dest.length := by
  induction dest generalizing r with
  | nil => simp [read]
  | cons slot dest ih =>
    unfold read
    split
    case isTrue h =>
      have := ih (r.pop h).2
      have len : r.length = (r.pop h).2.length + 1 := by simp [pop]; omega
      rw [toList_eq_cons_pop r h]
      simp [this, len]
    case isFalse h =>
      have len : r.length = 0 := by omega
      have nil : r.toList = [] := List.eq_nil_of_length_eq_zero (by simp [len])
      simp [len, nil]

end Ring

end Rtos

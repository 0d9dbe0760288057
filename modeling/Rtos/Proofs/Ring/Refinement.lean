import Rtos.Ring
import Rtos.Word

/-!
# Rings are bounded queues

A ring answers whatever is asked of it as a bounded queue of bytes does, and says the same of itself
(`ByteQueue`).  `CursorRing` is the ring as it lies in memory: it has a cursor for either end, and it
takes nothing for granted, so that every index, sum, difference and remainder is checked.  It does what
the ring does (`CursorRing.next_ofRing`), and so none of the checks ever fails, whatever the capacity.

The reason is that the second cursor is always `length` places behind the first, going round.  A ring
without room neither moves a cursor nor divides by its capacity.
-/

namespace Rtos

/-! ## Requests -/

namespace Ring

/-- What may be asked of a ring. -/
inductive Request
  /-- Store bytes. -/
  | write (data : List UInt8)
  /-- Take bytes into a destination. -/
  | read (dest : List UInt8)
  /-- Drop everything. -/
  | clear
deriving DecidableEq, Repr

/-- What a ring answers. -/
inductive Answer
  /-- So many bytes were stored. -/
  | written (count : Nat)
  /-- So many bytes were taken, and the destination is this now. -/
  | taken (count : Nat) (dest : List UInt8)
  /-- Everything was dropped. -/
  | cleared
deriving DecidableEq, Repr

/-- An answer, and what the ring says of itself behind it. -/
structure Sight where
  /-- The answer. -/
  answer : Answer
  /-- The number of bytes held. -/
  length : Nat
  /-- The number of bytes that still fit. -/
  free : Nat
  /-- Whether nothing is held. -/
  isEmpty : Bool
  /-- Whether nothing more fits. -/
  isFull : Bool
deriving DecidableEq, Repr

variable {capacity : Nat} {ρ τ : Type}

/-- What is seen while requests are served one after the other, and what the ring is in the end. -/
def serve (next : ρ → Request → Sight × ρ) (r : ρ) : List Request → List Sight × ρ
  | [] => ([], r)
  | request :: requests =>
    let (sight, r) := next r request
    let (sights, r) := serve next r requests
    (sight :: sights, r)

/-- What a ring lets see behind an answer. -/
def see (r : Ring capacity) (answer : Answer) : Sight :=
  ⟨answer, r.length, r.free, r.isEmpty, r.isFull⟩

/-- A ring serves a request. -/
def next (r : Ring capacity) : Request → Sight × Ring capacity
  | .write data =>
    let (count, r) := r.write data
    (r.see (.written count), r)
  | .read dest =>
    let (count, dest, r) := r.read dest
    (r.see (.taken count dest), r)
  | .clear => (r.clear.see .cleared, r.clear)

/-- If two rings let see the same of every request, they do so of all requests. -/
theorem serve_eq {next : ρ → Request → Sight × ρ} {next' : τ → Request → Sight × τ} {f : ρ → τ}
    (same : ∀ r request, next' (f r) request = ((next r request).1, f (next r request).2)) (r : ρ)
    (requests : List Request) :
    serve next' (f r) requests = ((serve next r requests).1, f (serve next r requests).2) := by
  induction requests generalizing r with
  | nil => rfl
  | cons request requests ih => simp [serve, same, ih]

end Ring

/-! ## The queue -/

namespace ByteQueue

variable {capacity : Nat}

/-- What a queue of bytes lets see behind an answer. -/
def see (capacity : Nat) (q : List UInt8) (answer : Ring.Answer) : Ring.Sight :=
  ⟨answer, q.length, capacity - q.length, q = [], q.length = capacity⟩

/-- A bounded queue of bytes serves a request: it stores the first bytes of the data, as many as fit,
and puts its first bytes at the front of a destination, as many as reach. -/
def next (capacity : Nat) (q : List UInt8) : Ring.Request → Ring.Sight × List UInt8
  | .write data =>
    let count := min data.length (capacity - q.length)
    let q := q ++ data.take count
    (see capacity q (.written count), q)
  | .read dest =>
    let count := min dest.length q.length
    let dest := q.take count ++ dest.drop count
    let q := q.drop count
    (see capacity q (.taken count dest), q)
  | .clear => (see capacity [] .cleared, [])

theorem see_toList (r : Ring capacity) (answer : Ring.Answer) :
    see capacity r.toList answer = r.see answer := by
  have empty : (r.toList = []) ↔ r.length = 0 := by
    rw [← List.length_eq_zero_iff, Ring.length_toList]
  simp [see, Ring.see, Ring.isEmpty, Ring.isFull, Ring.free, empty, Bool.beq_eq_decide_eq]

/-- The queue that a ring stands for serves a request as the ring does. -/
theorem next_toList (r : Ring capacity) (request : Ring.Request) :
    next capacity r.toList request = ((r.next request).1, (r.next request).2.toList) := by
  cases request with
  | write data =>
    obtain ⟨count, stored⟩ := r.write_eq data
    have fits : data.take (min data.length r.free) = data.take r.free := by
      apply List.take_eq_take_iff.2
      omega
    simp only [next, Ring.next, Ring.length_toList, count, ← see_toList, stored]
    rw [← Ring.free, fits]
  | read dest =>
    obtain ⟨count, moved, left⟩ := r.read_eq dest
    have front : r.toList.take (min dest.length r.length) = r.toList.take dest.length := by
      apply List.take_eq_take_iff.2
      simp
    have rest : dest.drop (min dest.length r.length) = dest.drop r.length := by
      apply List.drop_eq_drop_iff.2
      omega
    have queued : r.toList.drop (min dest.length r.length) = r.toList.drop dest.length := by
      apply List.drop_eq_drop_iff.2
      simp
    simp only [next, Ring.next, Ring.length_toList, count, moved, ← see_toList, left]
    rw [front, rest, queued]
  | clear => simp [next, Ring.next, ← see_toList]

end ByteQueue

/-! ## The ring in memory -/

/-- A ring as it lies in memory, of which nothing is known. -/
structure CursorRing (capacity : Nat) where
  /-- The storage. -/
  cells : Vector UInt8 capacity
  /-- The number of bytes held. -/
  length : Nat
  /-- Where the next byte is taken. -/
  readCursor : Nat
  /-- Where the next byte is stored. -/
  writeCursor : Nat
deriving DecidableEq, Repr

namespace CursorRing

variable {capacity : Nat}

/-- The ring that holds nothing. -/
def empty : CursorRing capacity :=
  ⟨.replicate capacity 0, 0, 0, 0⟩

/-- The place behind a cursor, going round. -/
def advance (capacity cursor : Nat) : Checked Nat := do
  Word.rem (← Word.add cursor 1) capacity

/-- The byte at a place of the storage. -/
def cell (r : CursorRing capacity) (i : Nat) : Checked UInt8 :=
  if h : i < capacity then .ok r.cells[i] else .error (.indexOutOfRange capacity i)

/-- The ring with another byte at a place of the storage. -/
def setCell (r : CursorRing capacity) (i : Nat) (byte : UInt8) : Checked (CursorRing capacity) :=
  if h : i < capacity then
    .ok { r with cells := r.cells.set i byte }
  else
    .error (.indexOutOfRange capacity i)

/-- Stores bytes, one by one until the ring is full, behind `count` that were stored already. -/
def writeOn (r : CursorRing capacity) (count : Nat) :
    List UInt8 → Checked (Nat × CursorRing capacity)
  | [] => return (count, r)
  | byte :: data => do
    if r.length = capacity then
      return (count, r)
    else
      let r ← r.setCell r.writeCursor byte
      let writeCursor ← advance capacity r.writeCursor
      let length ← Word.add r.length 1
      let count ← Word.add count 1
      writeOn { r with writeCursor, length } count data

/-- Takes bytes, one by one until the ring is empty, behind `count` that were taken already. -/
def readOn (r : CursorRing capacity) (count : Nat) :
    List UInt8 → Checked (Nat × List UInt8 × CursorRing capacity)
  | [] => return (count, [], r)
  | slot :: dest => do
    if r.length = 0 then
      return (count, slot :: dest, r)
    else
      let byte ← r.cell r.readCursor
      let readCursor ← advance capacity r.readCursor
      let length ← Word.sub r.length 1
      let count ← Word.add count 1
      let (count, dest, r) ← readOn { r with readCursor, length } count dest
      return (count, byte :: dest, r)

/-- The number of bytes that still fit. -/
def free (r : CursorRing capacity) : Checked Nat :=
  Word.sub capacity r.length

/-- What the ring lets see behind an answer. -/
def see (r : CursorRing capacity) (answer : Ring.Answer) : Checked Ring.Sight := do
  return ⟨answer, r.length, ← r.free, r.length = 0, r.length = capacity⟩

/-- Serves a request. -/
def next (r : CursorRing capacity) : Ring.Request → Checked (Ring.Sight × CursorRing capacity)
  | .write data => do
    let (count, r) ← r.writeOn 0 data
    return (← r.see (.written count), r)
  | .read dest => do
    let (count, dest, r) ← r.readOn 0 dest
    return (← r.see (.taken count dest), r)
  | .clear => do
    let r := { r with length := 0, readCursor := 0, writeCursor := 0 }
    return (← r.see .cleared, r)

/-- Serves requests one after the other. -/
def serve (r : CursorRing capacity) :
    List Ring.Request → Checked (List Ring.Sight × CursorRing capacity)
  | [] => return ([], r)
  | request :: requests => do
    let (sight, r) ← r.next request
    let (sights, r) ← r.serve requests
    return (sight :: sights, r)

/-- A ring as it lies in memory: bytes are stored behind the last one. -/
def ofRing (r : Ring capacity) : CursorRing capacity where
  cells := r.cells
  length := r.length
  readCursor := r.head
  writeCursor := (r.head + r.length) % capacity

theorem ofRing_empty : ofRing .empty = (empty : CursorRing capacity) := by
  simp [ofRing, empty, Ring.empty]

theorem advance_eq {cursor : Nat} (lt : cursor < capacity) (word : capacity < Word.limit) :
    advance capacity cursor = .ok ((cursor + 1) % capacity) := by
  have sum : Word.add cursor 1 = .ok (cursor + 1) := Word.add_eq_ok.2 ⟨by omega, rfl⟩
  have quotient : capacity ≠ 0 := by omega
  simp only [advance, sum]
  exact if_neg quotient

theorem writeOn_cons (word : capacity < Word.limit) (r : Ring capacity) (room : r.length < capacity)
    {count : Nat} (fits : count + 1 < Word.limit) (byte : UInt8) (data : List UInt8) :
    (ofRing r).writeOn count (byte :: data) =
      (ofRing (r.push byte room)).writeOn (count + 1) data := by
  have place : (r.head + r.length) % capacity < capacity := Nat.mod_lt _ (by omega)
  have stored : (ofRing r).setCell ((r.head + r.length) % capacity) byte =
      .ok { ofRing r with cells := r.cells.set ((r.head + r.length) % capacity) byte } :=
    dif_pos place
  have advanced := advance_eq place word
  have longer : Word.add r.length 1 = .ok (r.length + 1) := Word.add_eq_ok.2 ⟨by omega, rfl⟩
  have counted : Word.add count 1 = .ok (count + 1) := Word.add_eq_ok.2 ⟨fits, rfl⟩
  have room' : (ofRing r).length ≠ capacity := Nat.ne_of_lt room
  rw [Nat.mod_add_mod] at advanced
  rw [writeOn, if_neg room']
  simp only [ofRing] at stored ⊢
  simp only [stored, Checked.ok_bind, advanced, longer, counted]
  rfl

theorem readOn_cons (word : capacity < Word.limit) (r : Ring capacity) (some : 0 < r.length)
    {count : Nat} (fits : count + 1 < Word.limit) (slot : UInt8) (dest : List UInt8) :
    (ofRing r).readOn count (slot :: dest) = do
      let (count, dest, r') ← (ofRing (r.pop some).2).readOn (count + 1) dest
      return (count, (r.pop some).1 :: dest, r') := by
  have pos : 0 < capacity := Nat.lt_of_lt_of_le some r.length_le
  have place : r.head < capacity := r.head_lt pos
  have found : (ofRing r).cell r.head = .ok r.cells[r.head] := dif_pos place
  have advanced := advance_eq place word
  have shorter : Word.sub r.length 1 = .ok (r.length - 1) := Word.sub_eq_ok.2 ⟨some, rfl⟩
  have counted : Word.add count 1 = .ok (count + 1) := Word.add_eq_ok.2 ⟨fits, rfl⟩
  -- the end of the bytes stays where it is
  have same : ((r.head + 1) % capacity + (r.length - 1)) % capacity =
      (r.head + r.length) % capacity := by
    rw [Nat.mod_add_mod]
    congr 1
    omega
  have some' : (ofRing r).length ≠ 0 := Nat.ne_of_gt some
  rw [readOn, if_neg some']
  simp only [ofRing, Ring.pop, same] at found ⊢
  simp only [found, Checked.ok_bind, advanced, shorter, counted]

theorem writeOn_ofRing (word : capacity < Word.limit) (r : Ring capacity) {count : Nat}
    (fits : count + r.free < Word.limit) (data : List UInt8) :
    (ofRing r).writeOn count data = .ok (count + (r.write data).1, ofRing (r.write data).2) := by
  induction data generalizing r count with
  | nil => rfl
  | cons byte data ih =>
    unfold Ring.write
    split
    case isTrue room =>
      have free : r.free = (r.push byte room).free + 1 := by
        simp only [Ring.free, Ring.push]
        omega
      rw [writeOn_cons word r room (by omega), ih _ (by omega)]
      simp only [Nat.add_assoc, Nat.add_comm 1]
    case isFalse full =>
      have full : r.length = capacity := Nat.le_antisymm r.length_le (Nat.le_of_not_lt full)
      exact if_pos full

theorem readOn_ofRing (word : capacity < Word.limit) (r : Ring capacity) {count : Nat}
    (fits : count + r.length < Word.limit) (dest : List UInt8) :
    (ofRing r).readOn count dest =
      .ok (count + (r.read dest).1, (r.read dest).2.1, ofRing (r.read dest).2.2) := by
  induction dest generalizing r count with
  | nil => rfl
  | cons slot dest ih =>
    unfold Ring.read
    split
    case isTrue some =>
      have length : r.length = (r.pop some).2.length + 1 := by
        simp only [Ring.pop]
        omega
      rw [readOn_cons word r some (by omega), ih _ (by omega)]
      simp only [Nat.add_assoc, Nat.add_comm 1]
      rfl
    case isFalse none =>
      have none : r.length = 0 := Nat.eq_zero_of_not_pos none
      exact if_pos none

theorem see_ofRing (r : Ring capacity) (answer : Ring.Answer) :
    (ofRing r).see answer = .ok (r.see answer) := by
  have free : (ofRing r).free = .ok r.free := Word.sub_eq_ok.2 ⟨r.length_le, rfl⟩
  rw [see, free]
  simp only [Ring.see, Ring.isEmpty, Ring.isFull, Bool.beq_eq_decide_eq]
  rfl

/-- The ring in memory serves a request as the ring does, and no check fails. -/
theorem next_ofRing (word : capacity < Word.limit) (r : Ring capacity) (request : Ring.Request) :
    (ofRing r).next request = .ok ((r.next request).1, ofRing (r.next request).2) := by
  cases request with
  | write data =>
    have fits : 0 + r.free < Word.limit := by
      simp only [Ring.free]
      omega
    simp only [next, Ring.next, writeOn_ofRing word r fits, Checked.ok_bind, see_ofRing,
      Nat.zero_add]
    rfl
  | read dest =>
    have fits : 0 + r.length < Word.limit := by
      have := r.length_le
      omega
    simp only [next, Ring.next, readOn_ofRing word r fits, Checked.ok_bind, see_ofRing,
      Nat.zero_add]
    rfl
  | clear =>
    have cleared : { ofRing r with length := 0, readCursor := 0, writeCursor := 0 } =
        ofRing r.clear := by
      simp [ofRing, Ring.clear]
    simp only [next, Ring.next, cleared, see_ofRing, Checked.ok_bind]
    rfl

theorem serve_ofRing (word : capacity < Word.limit) (r : Ring capacity)
    (requests : List Ring.Request) : (ofRing r).serve requests =
      .ok ((Ring.serve Ring.next r requests).1, ofRing (Ring.serve Ring.next r requests).2) := by
  induction requests generalizing r with
  | nil => rfl
  | cons request requests ih =>
    simp only [serve, Ring.serve, next_ofRing word, ih, Checked.ok_bind]
    rfl

end CursorRing

/-! ## Refinement -/

namespace Ring

/-- Whatever is asked of a new ring, it answers what a bounded queue of bytes answers that was empty,
and in every state it stands for that queue and says of itself what the queue does.  In memory the same
happens, and no check fails, for every capacity that is a word. -/
theorem refines_byteQueue (capacity : Nat) (requests : List Request) :
    ∃ sights q r, serve (ByteQueue.next capacity) [] requests = (sights, q) ∧ q.length ≤ capacity ∧
      serve next (.empty : Ring capacity) requests = (sights, r) ∧ r.toList = q ∧
      (∀ answer, r.see answer = ByteQueue.see capacity q answer) ∧
      (capacity < Word.limit →
        CursorRing.empty.serve requests = .ok (sights, CursorRing.ofRing r)) := by
  have queue := serve_eq ByteQueue.next_toList (.empty : Ring capacity) requests
  rw [toList_empty] at queue
  refine ⟨_, _, _, queue, ?_, rfl, rfl, ?_, ?_⟩
  · rw [length_toList]
    exact length_le _
  · intro answer
    exact (ByteQueue.see_toList _ answer).symm
  · intro word
    rw [← CursorRing.ofRing_empty]
    exact CursorRing.serve_ofRing word _ requests

/-- A ring of three bytes that is filled, read in part, and filled again beyond its end. -/
theorem refines_byteQueue_three : 3 < Word.limit ∧ ∃ r : Ring 3, r.toList = [7, 9, 8] ∧
    CursorRing.empty.serve [.write [5, 6, 7, 8], .read [0, 0], .write [9, 8, 7]] =
      .ok ([⟨.written 3, 3, 0, false, true⟩, ⟨.taken 2 [5, 6], 1, 2, false, false⟩,
        ⟨.written 2, 3, 0, false, true⟩], CursorRing.ofRing r) := by
  have word : 3 < Word.limit := by decide
  obtain ⟨sights, q, r, queue, -, -, stands, -, memory⟩ :=
    refines_byteQueue 3 [.write [5, 6, 7, 8], .read [0, 0], .write [9, 8, 7]]
  have served : serve (ByteQueue.next 3) [] [.write [5, 6, 7, 8], .read [0, 0], .write [9, 8, 7]] =
      ([⟨.written 3, 3, 0, false, true⟩, ⟨.taken 2 [5, 6], 1, 2, false, false⟩,
        ⟨.written 2, 3, 0, false, true⟩], [7, 9, 8]) := by decide
  obtain ⟨rfl, rfl⟩ := Prod.mk.inj (served.symm.trans queue)
  exact ⟨word, r, stands, memory word⟩

end Ring

end Rtos

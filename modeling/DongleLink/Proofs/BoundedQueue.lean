import DongleLink.Ring
import Mathlib.Data.List.DropRight

/-!
# DongleLink.Proofs.BoundedQueue

The ring as a queue of bounded length.  A bounded queue is a plain list that keeps
its newest bytes when it grows too long; it knows nothing of slots and positions.
The laws of `Ring.pushAll` come first, then what is done to a queue and what is
seen of it, and last that a ring and the queue of its usable length look the same
after every action.

The induction over a chunk carries the whole length that was asked for, not the
length that fits: a chunk may be many times as long as the ring.
-/

namespace DongleLink

namespace Ring

/-! ## Pushing a chunk -/

@[simp] theorem usable_push (r : Ring) (b : UInt8) : (r.push b).2.usable = r.usable := by
  simp [usable]

theorem usable_pos (r : Ring) : 0 < r.usable := by
  have := r.two_le_capacity
  simp only [usable]; omega

/-- A push makes the ring longer unless it is full. -/
theorem length_push (r : Ring) (b : UInt8) :
    (r.push b).2.length = min (r.length + 1) r.usable := by
  have hpos := r.usable_pos
  have hle := r.length_le_usable
  rw [← length_toList, toList_push]
  simp only [List.length_drop, List.length_append, length_toList, List.length_singleton]
  omega

/-- The flag of a push as a number: one byte goes exactly when the ring is full. -/
theorem toNat_push (r : Ring) (b : UInt8) : (r.push b).1.toNat = r.length + 1 - r.usable := by
  have hpos := r.usable_pos
  have hle := r.length_le_usable
  have hfull := r.push_evicts_iff b
  cases he : (r.push b).1 with
  | true =>
      have := hfull.1 he
      simp only [Bool.toNat_true]; omega
  | false =>
      have : r.length ≠ r.usable := fun h => by simp [hfull.2 h] at he
      simp only [Bool.toNat_false]; omega

@[simp] theorem pushAll_nil (r : Ring) : r.pushAll [] = (0, r) := rfl

@[simp] theorem pushAll_cons (r : Ring) (b : UInt8) (bytes : List UInt8) :
    r.pushAll (b :: bytes) =
      (((r.push b).2.pushAll bytes).1 + (r.push b).1.toNat, ((r.push b).2.pushAll bytes).2) := rfl

@[simp] theorem usable_pushAll (r : Ring) (bytes : List UInt8) :
    (r.pushAll bytes).2.usable = r.usable := by
  induction bytes generalizing r with
  | nil => rfl
  | cons b bytes ih => rw [pushAll_cons, ih, usable_push]

/-- A chunk evicts as many bytes as do not fit, from the ring or from its own
beginning. -/
theorem pushAll_evicted (r : Ring) (bytes : List UInt8) :
    (r.pushAll bytes).1 = r.length + bytes.length - r.usable := by
  induction bytes generalizing r with
  | nil =>
      have := r.length_le_usable
      simp only [pushAll_nil, List.length_nil]; omega
  | cons b bytes ih =>
      have hle := r.length_le_usable
      simp only [pushAll_cons, ih, length_push, usable_push, toNat_push, List.length_cons]
      omega

/-- A chunk is appended, and the newest bytes that fit are kept. -/
theorem toList_pushAll (r : Ring) (bytes : List UInt8) :
    (r.pushAll bytes).2.toList =
      (r.toList ++ bytes).drop (r.length + bytes.length - r.usable) := by
  induction bytes generalizing r with
  | nil =>
      have : r.length - r.usable = 0 := by have := r.length_le_usable; omega
      simp [this]
  | cons b bytes ih =>
      have hle := r.length_le_usable
      have hshort : r.length + 1 - r.usable ≤ (r.toList ++ [b]).length := by
        simp only [List.length_append, length_toList, List.length_singleton]; omega
      have hsum : r.length + 1 - r.usable + (min (r.length + 1) r.usable + bytes.length - r.usable)
          = r.length + (bytes.length + 1) - r.usable := by omega
      rw [pushAll_cons, ih, toList_push, usable_push, length_push,
        ← List.drop_append_of_le_length hshort, List.drop_drop, hsum]
      simp

/-- Two chunks are stored as one. -/
theorem pushAll_append (r : Ring) (first second : List UInt8) :
    (r.pushAll (first ++ second)).2 = ((r.pushAll first).2.pushAll second).2 := by
  induction first generalizing r with
  | nil => rfl
  | cons b first ih => simp only [List.cons_append, pushAll_cons, ih]

/-- What a chunk evicts and what it leaves behind are the old bytes and the chunk. -/
theorem take_evicted_append_toList (r : Ring) (bytes : List UInt8) :
    (r.toList ++ bytes).take (r.pushAll bytes).1 ++ (r.pushAll bytes).2.toList =
      r.toList ++ bytes := by
  rw [pushAll_evicted, toList_pushAll, List.take_append_drop]

end Ring

/-! ## What is done to a queue -/

namespace Queue

/-- What can be done to a queue of bytes. -/
inductive Action where
  | push (byte : UInt8)
  | pushAll (bytes : List UInt8)
  | pop
  | clear
  deriving DecidableEq, Repr

/-- What the one who acts is told. -/
inductive Answer where
  /-- a push took the place of the oldest byte, or not -/
  | evicts (flag : Bool)
  /-- a chunk drove out so many bytes -/
  | evicted (count : Nat)
  | popped (byte : Option UInt8)
  | cleared
  deriving DecidableEq, Repr

/-- What is seen of a queue after an action. -/
structure Sight where
  answer : Answer
  /-- the unread bytes, oldest first -/
  unread : List UInt8
  length : Nat
  isEmpty : Bool
  deriving DecidableEq, Repr

/-! ## The bounded queue -/

/-- A list of at most `bound` bytes after an action.  Bytes go in at the end, and the
newest that fit are kept. -/
def act (bound : Nat) (q : List UInt8) : Action → Answer × List UInt8
  | .push b => (.evicts (q.length == bound), (q ++ [b]).rtake (min (q.length + 1) bound))
  | .pushAll bytes =>
    (.evicted (q.length + bytes.length - bound),
      (q ++ bytes).rtake (min (q.length + bytes.length) bound))
  | .pop => (.popped q.head?, q.tail)
  | .clear => (.cleared, [])

/-- What is seen of a bounded queue after each of some actions. -/
def trace (bound : Nat) : List Action → List UInt8 → List Sight
  | [], _ => []
  | a :: rest, q =>
    let (answer, q) := act bound q a
    { answer := answer, unread := q, length := q.length, isEmpty := q.isEmpty }
      :: trace bound rest q

end Queue

namespace Ring

/-! ## The ring beside it -/

/-- A ring after an action. -/
def act (r : Ring) : Queue.Action → Queue.Answer × Ring
  | .push b =>
    let (evicts, r) := r.push b
    (.evicts evicts, r)
  | .pushAll bytes =>
    let (evicted, r) := r.pushAll bytes
    (.evicted evicted, r)
  | .pop =>
    match r.pop with
    | none => (.popped none, r)
    | some (b, r) => (.popped (some b), r)
  | .clear => (.cleared, r.clear)

/-- What is seen of a ring after each of some actions. -/
def trace : List Queue.Action → Ring → List Queue.Sight
  | [], _ => []
  | a :: rest, r =>
    let (answer, r) := r.act a
    { answer := answer, unread := r.toList, length := r.length, isEmpty := r.isEmpty }
      :: trace rest r

@[simp] theorem usable_pop {r s : Ring} {b : UInt8} (h : r.pop = some (b, s)) :
    s.usable = r.usable := by
  rw [pop] at h
  split at h
  · cases h
  · obtain ⟨-, rfl⟩ := Prod.mk.inj (Option.some.inj h)
    rfl

@[simp] theorem usable_act (r : Ring) (a : Queue.Action) : (r.act a).2.usable = r.usable := by
  cases a with
  | push b => exact r.usable_push b
  | pushAll bytes => exact r.usable_pushAll bytes
  | pop =>
      simp only [act]
      cases h : r.pop with
      | none => rfl
      | some p => exact usable_pop h
  | clear => simp [act, usable]

/-- Keeping the newest bytes that fit is dropping as many as do not. -/
theorem drop_eq_rtake (q : List UInt8) (bound : Nat) :
    q.drop (q.length - bound) = q.rtake (min q.length bound) := by
  rw [List.rtake]
  congr 1
  omega

/-- An action tells the same of a ring and of its unread bytes, and leaves the same
bytes unread. -/
theorem act_eq_queue (r : Ring) (a : Queue.Action) :
    Queue.act r.usable r.toList a = ((r.act a).1, (r.act a).2.toList) := by
  cases a with
  | push b =>
      have hflag : (r.push b).1 = (r.length == r.usable) := by
        rw [Bool.eq_iff_iff, push_evicts_iff, beq_iff_eq]
      have hlist := drop_eq_rtake (r.toList ++ [b]) r.usable
      simp only [List.length_append, length_toList, List.length_singleton] at hlist
      simp only [Queue.act, act, length_toList, hflag, toList_push, hlist]
  | pushAll bytes =>
      have hlist := drop_eq_rtake (r.toList ++ bytes) r.usable
      simp only [List.length_append, length_toList] at hlist
      simp only [Queue.act, act, length_toList, pushAll_evicted, toList_pushAll, hlist]
  | pop =>
      simp only [Queue.act, act]
      cases h : r.pop with
      | none => simp [r.pop_eq_none_iff.1 h]
      | some p => simp [toList_of_pop h]
  | clear => simp [Queue.act, act]

theorem isEmpty_eq (r : Ring) : r.isEmpty = r.toList.isEmpty := by
  rw [Bool.eq_iff_iff, isEmpty_iff, List.isEmpty_iff, ← length_toList, List.length_eq_zero_iff]

/-- Whatever is done to a ring, what is seen of it is what is seen of its unread
bytes as a bounded queue. -/
theorem trace_eq_queue (r : Ring) (actions : List Queue.Action) :
    r.trace actions = Queue.trace r.usable actions r.toList := by
  induction actions generalizing r with
  | nil => rfl
  | cons a actions ih =>
      simp only [trace, Queue.trace, act_eq_queue, ih, usable_act, length_toList, isEmpty_eq]

@[simp] theorem usable_ofCapacity (n : Nat) (h : 2 ≤ n) : (ofCapacity n h).usable = n - 1 := rfl

/-- A ring can be had of every capacity that one block of memory can hold. -/
theorem create_eq_ok {n : Nat} (h : 2 ≤ n) (hle : n ≤ largestBlock) :
    create n = .ok (ofCapacity n h) := by
  rw [create, dif_pos h, if_pos hle]

/-- **A ring is a bounded queue**: after every action on a new ring of `capacity`
slots, the answer, the unread bytes, their number and the test for emptiness are
those of a queue of at most `capacity - 1` bytes. -/
theorem trace_ofCapacity (capacity : Nat) (h : 2 ≤ capacity) (actions : List Queue.Action) :
    (capacity ≤ largestBlock → create capacity = .ok (ofCapacity capacity h)) ∧
      (ofCapacity capacity h).trace actions = Queue.trace (capacity - 1) actions [] := by
  refine ⟨create_eq_ok h, ?_⟩
  rw [trace_eq_queue, usable_ofCapacity, toList_ofCapacity]

/-- A chunk of seven bytes wraps around a ring of three slots more than twice. -/
theorem trace_ofCapacity_three :
    2 ≤ 3 ∧ create 3 = .ok (ofCapacity 3 (by decide)) ∧
      (ofCapacity 3 (by decide)).trace [.push 9, .pushAll [1, 2, 3, 4, 5, 6, 7], .pop, .pop, .pop] =
        [⟨.evicts false, [9], 1, false⟩, ⟨.evicted 6, [6, 7], 2, false⟩,
          ⟨.popped (some 6), [7], 1, false⟩, ⟨.popped (some 7), [], 0, true⟩,
          ⟨.popped none, [], 0, true⟩] := by
  have h := trace_ofCapacity 3 (by decide)
    [.push 9, .pushAll [1, 2, 3, 4, 5, 6, 7], .pop, .pop, .pop]
  exact ⟨by decide, h.1 (by decide), h.2.trans (by decide)⟩

end Ring

end DongleLink

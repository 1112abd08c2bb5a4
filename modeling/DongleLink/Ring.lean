import DongleLink.Settings

/-!
# DongleLink.Ring

The receive ring: a bounded queue of bytes in a fixed number of slots.  The ring
is empty when its two positions agree, so one slot always stays free and a ring
of `n` slots holds at most `n - 1` bytes.  A byte pushed into a full ring takes
the place of the oldest one.  Slots take up memory from the first time they are
reached, so a large ring costs nothing until it is used.

`Ring.toList` is the view: every operation is described by what it does to the
list of unread bytes, oldest first.
-/

namespace DongleLink

/-- A circular queue of bytes. -/
structure Ring where
  /-- how many slots there are, with the one that stays free -/
  capacity : Nat
  /-- the slots that were reached so far -/
  slots : Array UInt8
  /-- position of the oldest unread byte -/
  first : Nat
  /-- position where the next byte goes -/
  next : Nat
  two_le_capacity : 2 ≤ capacity
  first_lt : first < capacity
  next_lt : next < capacity
  next_le_size : next ≤ slots.size
  size_le_capacity : slots.size ≤ capacity
  /-- past the end, all slots were reached -/
  size_of_wrapped : next < first → slots.size = capacity
  deriving DecidableEq, Repr

namespace Ring

/-! ## Building and measuring -/

/-- An empty ring of `capacity` slots. -/
def ofCapacity (capacity : Nat) (h : 2 ≤ capacity) : Ring where
  capacity := capacity
  slots := #[]
  first := 0
  next := 0
  two_le_capacity := h
  first_lt := by omega
  next_lt := by omega
  next_le_size := by simp
  size_le_capacity := by simp
  size_of_wrapped := by simp

/-- Why a ring of some capacity cannot be had. -/
inductive Refusal where
  /-- such a ring would never hold a byte -/
  | tooSmall (capacity : Nat)
  /-- more slots than one block of memory may have -/
  | tooLarge
  deriving DecidableEq, Repr

/-- What the refusal says. -/
def Refusal.message : Refusal → String
  | tooSmall capacity => s!"ring capacity must be at least 2, got {capacity}"
  | tooLarge => "capacity overflow"

/-- An empty ring, if there can be one of this capacity. -/
def create (capacity : Nat) : Except Refusal Ring :=
  if h : 2 ≤ capacity then
    if capacity ≤ largestBlock then .ok (ofCapacity capacity h) else .error .tooLarge
  else .error (.tooSmall capacity)

/-- The ring of the standard capacity. -/
def standard : Ring := ofCapacity standardRingCapacity (by decide)

instance : Inhabited Ring := ⟨standard⟩

/-- The most bytes the ring holds at a time. -/
def usable (r : Ring) : Nat := r.capacity - 1

/-- How many bytes are unread. -/
def length (r : Ring) : Nat := (r.next + r.capacity - r.first) % r.capacity

def isEmpty (r : Ring) : Bool := r.first == r.next

/-- The positions of the oldest unread byte and of the next free slot. -/
def positions (r : Ring) : Nat × Nat := (r.first, r.next)

/-! ## Changing -/

/- The slots grow as they are reached, so a position is either that of a slot or the one right
behind the last.  Every function below has to keep it so, which is why the fields of `Ring` say it
and no proof about a ring assumes it. -/

theorem capacity_pos (r : Ring) : 0 < r.capacity := by
  have := r.two_le_capacity
  omega

theorem mod_lt (r : Ring) (n : Nat) : n % r.capacity < r.capacity :=
  Nat.mod_lt _ r.capacity_pos

/-- A position below twice the capacity wraps at most once. -/
theorem mod_eq_ite {n capacity : Nat} (h : n < 2 * capacity) :
    n % capacity = if n < capacity then n else n - capacity := by
  split
  · exact Nat.mod_eq_of_lt ‹_›
  · rw [Nat.mod_eq_sub_mod (by omega), Nat.mod_eq_of_lt (by omega)]

/-- Slots with a byte at a position, which is at most the first that was not
reached. -/
@[inline] def written (slots : Array UInt8) (position : Nat) (byte : UInt8) : Array UInt8 :=
  if h : position < slots.size then slots.set position byte h else slots.push byte

theorem size_written (slots : Array UInt8) (position : Nat) (byte : UInt8)
    (h : position ≤ slots.size) :
    (written slots position byte).size = max slots.size (position + 1) := by
  rw [written]
  split
  · rw [Array.size_set]; omega
  · rw [Array.size_push]; omega

theorem getD_written (slots : Array UInt8) (position i : Nat) (byte : UInt8)
    (h : position ≤ slots.size) :
    (written slots position byte).getD i 0 = if i = position then byte else slots.getD i 0 := by
  simp only [written, Array.getD_eq_getD_getElem?]
  split
  · rw [Array.getElem?_set]
    by_cases hi : position = i
    · simp [hi]
    · rw [if_neg hi, if_neg (Ne.symm hi)]
  · rw [Array.getElem?_push, show slots.size = position by omega]
    split <;> simp

/-- Append a byte; the flag tells whether the oldest one was evicted for it. -/
def push (r : Ring) (byte : UInt8) : Bool × Ring :=
  let evicts := (r.next + 1) % r.capacity == r.first
  (evicts,
    { r with
      slots := written r.slots r.next byte
      first := if evicts then (r.first + 1) % r.capacity else r.first
      next := (r.next + 1) % r.capacity
      first_lt := by
        split
        · exact r.mod_lt _
        · exact r.first_lt
      next_lt := r.mod_lt _
      next_le_size := by
        have h := r.next_lt
        rw [size_written _ _ _ r.next_le_size, mod_eq_ite (by omega)]
        split <;> omega
      size_le_capacity := by
        have h1 := r.size_le_capacity
        have h2 := r.next_lt
        rw [size_written _ _ _ r.next_le_size]
        omega
      size_of_wrapped := by
        have h1 := r.first_lt
        have h2 := r.next_lt
        have h3 := r.size_le_capacity
        have h4 := r.size_of_wrapped
        have h5 : evicts = true ↔ (r.next + 1) % r.capacity = r.first := beq_iff_eq
        rw [mod_eq_ite (by omega)] at h5
        rw [size_written _ _ _ r.next_le_size,
          mod_eq_ite (show r.next + 1 < 2 * r.capacity by omega),
          mod_eq_ite (show r.first + 1 < 2 * r.capacity by omega)]
        by_cases h6 : evicts = true
        · have h7 := h5.1 h6
          rw [if_pos h6]
          split at h7 <;> split <;> split <;> omega
        · rw [if_neg h6]
          split <;> omega })

/-- Append bytes one by one; the number tells how many bytes were evicted. -/
def pushAll (r : Ring) : List UInt8 → Nat × Ring
  | [] => (0, r)
  | byte :: rest =>
    let (evicted, r) := r.push byte
    let (count, r) := r.pushAll rest
    (count + evicted.toNat, r)

/-- The byte at a position, which wraps around. -/
def slotAt (r : Ring) (n : Nat) : UInt8 := r.slots.getD (n % r.capacity) 0

/-- Take the oldest byte out. -/
def pop (r : Ring) : Option (UInt8 × Ring) :=
  if h : r.first = r.next then none
  else
    some (r.slotAt r.first,
      { r with
        first := (r.first + 1) % r.capacity
        first_lt := r.mod_lt _
        size_of_wrapped := by
          have h1 := r.first_lt
          have h2 := r.size_of_wrapped
          rw [mod_eq_ite (by omega)]
          split <;> omega })

/-- Take up to `n` bytes out, oldest first. -/
def popUpTo : Nat → Ring → List UInt8 × Ring
  | 0, r => ([], r)
  | n + 1, r =>
    match r.pop with
    | none => ([], r)
    | some (byte, r) =>
      let (bytes, r) := popUpTo n r
      (byte :: bytes, r)

/-- Forget all unread bytes and rewind both positions. -/
def clear (r : Ring) : Ring :=
  { r with
    first := 0
    next := 0
    first_lt := r.capacity_pos
    next_lt := r.capacity_pos
    next_le_size := by simp
    size_of_wrapped := by simp }

/-! ## The unread bytes -/

/- The laws of the ring are told of this list.  Where the bytes stand among the slots shows nowhere
but in `positions`. -/

/-- The unread bytes, oldest first. -/
def toList (r : Ring) : List UInt8 :=
  (List.range r.length).map fun i => r.slotAt (r.first + i)

@[simp] theorem length_toList (r : Ring) : r.toList.length = r.length := by
  simp [toList]

theorem length_lt (r : Ring) : r.length < r.capacity := r.mod_lt _

theorem length_le_usable (r : Ring) : r.length ≤ r.usable := by
  have := r.length_lt
  simp only [usable]; omega

theorem length_eq (r : Ring) :
    r.length = if r.first ≤ r.next then r.next - r.first else r.next + r.capacity - r.first := by
  have h1 := r.first_lt
  have h2 := r.next_lt
  rw [length, mod_eq_ite (by omega)]
  split <;> split <;> omega

theorem isEmpty_iff (r : Ring) : r.isEmpty = true ↔ r.length = 0 := by
  have h1 := r.first_lt
  have h2 := r.next_lt
  rw [length_eq, isEmpty, beq_iff_eq]
  split <;> omega

@[simp] theorem capacity_push (r : Ring) (b : UInt8) : (r.push b).2.capacity = r.capacity := by
  simp [push]

@[simp] theorem capacity_clear (r : Ring) : r.clear.capacity = r.capacity := rfl

@[simp] theorem toList_clear (r : Ring) : r.clear.toList = [] := by
  have : r.clear.length = 0 := by rw [length_eq]; simp [clear]
  simp [toList, this]

@[simp] theorem toList_ofCapacity (n : Nat) (h : 2 ≤ n) : (ofCapacity n h).toList = [] := by
  have : (ofCapacity n h).length = 0 := by rw [length_eq]; simp [ofCapacity]
  simp [toList, this]

@[simp] theorem capacity_ofCapacity (n : Nat) (h : 2 ≤ n) : (ofCapacity n h).capacity = n := by
  simp [ofCapacity]

/-- A ring has a byte to give unless it is empty. -/
theorem pop_eq_none_iff (r : Ring) : r.pop = none ↔ r.toList = [] := by
  rw [← List.length_eq_zero_iff, length_toList, ← isEmpty_iff, pop, isEmpty, beq_iff_eq]
  split <;> simp_all

/-- Popping gives the head of the unread bytes and keeps their tail. -/
theorem toList_of_pop {r s : Ring} {b : UInt8} (h : r.pop = some (b, s)) :
    r.toList = b :: s.toList := by
  have h1 := r.first_lt
  have h2 := r.next_lt
  rw [pop] at h
  split at h
  · cases h
  · next hne =>
    obtain ⟨rfl, rfl⟩ := Prod.mk.inj (Option.some.inj h)
    apply List.ext_getElem
    · simp only [length_toList, List.length_cons, length_eq,
        mod_eq_ite (show r.first + 1 < 2 * r.capacity by omega)]
      split <;> split <;> split <;> omega
    · intro i hi hj
      cases i with
      | zero => simp [toList]
      | succ i =>
        simp only [toList, List.getElem_cons_succ, List.getElem_map, List.getElem_range,
          slotAt, Nat.mod_add_mod, Nat.add_assoc, Nat.add_comm 1 i]

/-- The oldest byte is evicted exactly when the ring is full. -/
theorem push_evicts_iff (r : Ring) (b : UInt8) : (r.push b).1 = true ↔ r.length = r.usable := by
  have h1 := r.first_lt
  have h2 := r.next_lt
  simp only [push, beq_iff_eq, length_eq, usable,
    mod_eq_ite (show r.next + 1 < 2 * r.capacity by omega)]
  split <;> split <;> omega

theorem first_add_length_mod (r : Ring) : (r.first + r.length) % r.capacity = r.next := by
  have h1 := r.first_lt
  have h2 := r.next_lt
  rw [length_eq]
  split
  · rw [mod_eq_ite (by omega)]; split <;> omega
  · rw [mod_eq_ite (by omega)]; split <;> omega

/-- Two offsets below the size reach the same position only if they agree. -/
theorem offset_inj {base size i j : Nat} (hb : base < size) (hi : i < size) (hj : j < size)
    (h : (base + i) % size = (base + j) % size) : i = j := by
  rw [mod_eq_ite (by omega), mod_eq_ite (by omega)] at h
  split at h <;> split at h <;> omega

/-- Pushing appends, and keeps the newest bytes that fit. -/
theorem toList_push (r : Ring) (b : UInt8) :
    (r.push b).2.toList = (r.toList ++ [b]).drop (r.length + 1 - r.usable) := by
  have h0 := r.two_le_capacity
  have h1 := r.first_lt
  have h2 := r.next_lt
  have hle : r.length < r.capacity := r.length_lt
  have hev := push_evicts_iff r b
  have husable : r.usable = r.capacity - 1 := rfl
  have hlen : (r.push b).2.length = min (r.length + 1) r.usable := by
    simp only [push, beq_iff_eq, length_eq, usable,
      mod_eq_ite (show r.next + 1 < 2 * r.capacity by omega),
      mod_eq_ite (show r.first + 1 < 2 * r.capacity by omega)]
    repeat' split
    all_goals omega
  have hfirst : (r.push b).2.first = (r.first + (r.length + 1 - r.usable)) % r.capacity := by
    by_cases he : (r.push b).1 = true
    · have hfull := hev.1 he
      have : r.length + 1 - r.usable = 1 := by omega
      rw [this]
      simp only [push] at he ⊢
      rw [if_pos he]
    · have hroom : ¬ r.length = r.usable := fun h => he (hev.2 h)
      have : r.length + 1 - r.usable = 0 := by omega
      rw [this, Nat.add_zero, Nat.mod_eq_of_lt h1]
      simp only [push] at he ⊢
      rw [if_neg he]
  apply List.ext_getElem
  · simp only [length_toList, hlen, List.length_drop, List.length_append, List.length_singleton]
    omega
  · intro i hi hj
    simp only [length_toList, hlen] at hi
    simp only [List.length_drop, List.length_append, length_toList, List.length_singleton] at hj
    have hindex : i < (r.push b).2.toList.length := by simpa [hlen] using hi
    have hslot : (r.push b).2.toList[i] =
        (written r.slots r.next b).getD
          ((r.first + (r.length + 1 - r.usable + i)) % r.capacity) 0 := by
      simp only [toList, List.getElem_map, List.getElem_range, hfirst]
      simp only [push, slotAt, Nat.mod_add_mod, Nat.add_assoc]
    rw [hslot, getD_written _ _ _ _ r.next_le_size, List.getElem_drop, List.getElem_append]
    by_cases hlast : r.length + 1 - r.usable + i = r.length
    · rw [if_pos (by rw [hlast, first_add_length_mod]), dif_neg (by rw [length_toList]; omega)]
      simp
    · rw [if_neg, dif_pos (by rw [length_toList]; omega)]
      · simp only [toList, slotAt, List.getElem_map, List.getElem_range]
      · intro heq
        rw [← first_add_length_mod] at heq
        exact hlast (offset_inj h1 (by omega) hle heq)

end Ring

end DongleLink

import DongleLink.Proofs.BoundedQueue
import DongleLink.Ring.Words

/-!
# DongleLink.Proofs.RingPositions

Where the positions of a ring are, and that 64 bits are enough for them.  Both positions are
counts of bytes, wrapped at the capacity: of those that went in, and of those that went out or
were evicted.  Clearing a ring begins both counts anew.

A ring in words and a fixed block of memory stands for a ring of numbers (`StandsFor`) as long as
the capacity is that of a block that can be had: then neither sum of an action leaves the 64 bits,
and no access the block.  The sums that matter are those of a position and one, and of a position
and the capacity, less another position.
-/

namespace DongleLink

/-! ## Counting -/

namespace Queue

/-- How many bytes went into a queue, were taken out of it, and were evicted from it, since it
was cleared. -/
structure Tally where
  pushed : Nat := 0
  popped : Nat := 0
  evicted : Nat := 0
  deriving DecidableEq, Repr

/-- The bytes that have left. -/
def Tally.gone (t : Tally) : Nat := t.popped + t.evicted

/-- The tally after an action, from the action and what the one who acts is told. -/
def Tally.count (t : Tally) : Action → Answer → Tally
  | .push _, .evicts flag => { t with pushed := t.pushed + 1, evicted := t.evicted + flag.toNat }
  | .pushAll bytes, .evicted count =>
    { t with pushed := t.pushed + bytes.length, evicted := t.evicted + count }
  | .pop, .popped (some _) => { t with popped := t.popped + 1 }
  | .clear, _ => {}
  | _, _ => t

/-- The tally of actions and their answers, in order. -/
def Tally.countAll : List Action → List Answer → Tally → Tally
  | a :: actions, answer :: answers, t => countAll actions answers (t.count a answer)
  | _, _, t => t

end Queue

namespace Ring

open Queue (Tally)

/-- What is told of each of some actions, and the ring after them. -/
def run : List Queue.Action → Ring → List Queue.Answer × Ring
  | [], r => ([], r)
  | a :: rest, r =>
    let (answer, r) := r.act a
    let (answers, r) := run rest r
    (answer :: answers, r)

/-! ## Positions -/

/-- The positions of a ring are the counts of a tally, which differ by what is unread. -/
structure CountedBy (r : Ring) (t : Tally) : Prop where
  first_eq : r.first = t.gone % r.capacity
  next_eq : r.next = t.pushed % r.capacity
  unread : t.pushed = t.gone + r.length

theorem CountedBy.push {r : Ring} {t : Tally} (h : r.CountedBy t) (b : UInt8) :
    (r.push b).2.CountedBy (t.count (.push b) (.evicts (r.push b).1)) := by
  have hunread := h.unread
  have hlength := r.length_push b
  have hflag := r.toNat_push b
  have hle := r.length_le_usable
  have hnext : (r.push b).2.next = (r.next + 1) % r.capacity := rfl
  refine ⟨?_, ?_, ?_⟩
  · have hfirst : (r.push b).2.first =
        if (r.push b).1 then (r.first + 1) % r.capacity else r.first := rfl
    rw [hfirst, capacity_push, Tally.count, Tally.gone, h.first_eq, Tally.gone]
    cases (r.push b).1 with
    | true => rw [if_pos rfl, Nat.mod_add_mod, Bool.toNat_true, Nat.add_assoc]
    | false =>
        rw [if_neg Bool.false_ne_true]
        rfl
  · rw [hnext, capacity_push, Tally.count, h.next_eq, Nat.mod_add_mod]
  · simp only [Tally.count, Tally.gone] at hunread ⊢
    omega

/-- A chunk is counted byte by byte. -/
theorem CountedBy.pushAll {r : Ring} {t : Tally} (h : r.CountedBy t) (bytes : List UInt8) :
    (r.pushAll bytes).2.CountedBy (t.count (.pushAll bytes) (.evicted (r.pushAll bytes).1)) := by
  induction bytes generalizing r t with
  | nil => exact h
  | cons b bytes ih =>
      have hrest := ih (h.push b)
      have heq : (t.count (.push b) (.evicts (r.push b).1)).count (.pushAll bytes)
            (.evicted ((r.push b).2.pushAll bytes).1) =
          t.count (.pushAll (b :: bytes)) (.evicted (r.pushAll (b :: bytes)).1) := by
        simp only [Tally.count, pushAll_cons, List.length_cons, Tally.mk.injEq, true_and]
        omega
      rw [heq] at hrest
      exact hrest

theorem CountedBy.pop {r s : Ring} {t : Tally} (h : r.CountedBy t) {b : UInt8}
    (hpop : r.pop = some (b, s)) : s.CountedBy (t.count .pop (.popped (some b))) := by
  have hlength : r.length = s.length + 1 := by
    rw [← length_toList, toList_of_pop hpop, List.length_cons, length_toList]
  have hunread := h.unread
  rw [Ring.pop] at hpop
  split at hpop
  · cases hpop
  · obtain ⟨-, rfl⟩ := Prod.mk.inj (Option.some.inj hpop)
    refine ⟨?_, h.next_eq, ?_⟩
    · change (r.first + 1) % r.capacity = (t.popped + 1 + t.evicted) % r.capacity
      rw [h.first_eq, Nat.mod_add_mod, Tally.gone, Nat.add_right_comm]
    · simp only [Tally.count, Tally.gone] at hunread ⊢
      omega

theorem CountedBy.clear (r : Ring) : r.clear.CountedBy {} := by
  refine ⟨(Nat.zero_mod _).symm, (Nat.zero_mod _).symm, ?_⟩
  rw [← length_toList, toList_clear]
  rfl

/-- **Every action moves the positions as it moves the counts.** -/
theorem CountedBy.act {r : Ring} {t : Tally} (h : r.CountedBy t) (a : Queue.Action) :
    (r.act a).2.CountedBy (t.count a (r.act a).1) := by
  cases a with
  | push b => exact h.push b
  | pushAll bytes => exact h.pushAll bytes
  | pop =>
      simp only [Ring.act]
      cases hpop : r.pop with
      | none => exact h
      | some p => exact h.pop hpop
  | clear => exact .clear r

theorem CountedBy.run {r : Ring} {t : Tally} (h : r.CountedBy t) (actions : List Queue.Action) :
    (r.run actions).2.CountedBy (Tally.countAll actions (r.run actions).1 t) := by
  induction actions generalizing r t with
  | nil => exact h
  | cons a actions ih => exact ih (h.act a)

@[simp] theorem capacity_act (r : Ring) (a : Queue.Action) :
    (r.act a).2.capacity = r.capacity := by
  have husable := r.usable_act a
  have h1 := (r.act a).2.two_le_capacity
  have h2 := r.two_le_capacity
  simp only [usable] at husable
  omega

@[simp] theorem capacity_run (r : Ring) (actions : List Queue.Action) :
    (r.run actions).2.capacity = r.capacity := by
  induction actions generalizing r with
  | nil => rfl
  | cons a actions ih => exact (ih (r.act a).2).trans (r.capacity_act a)

end Ring

/-! ## Words -/

namespace WordRing

/-- A ring in words and a block of memory stands for a ring of numbers: the positions are the same,
and so is every slot, those that were never reached being zero. -/
structure StandsFor (w : WordRing) (r : Ring) : Prop where
  size_eq : w.block.size = r.capacity
  first_eq : w.first.toNat = r.first
  next_eq : w.next.toNat = r.next
  slot_eq : ∀ i, w.block.getD i 0 = r.slots.getD i 0
  /-- there is such a block -/
  capacity_le : r.capacity ≤ largestBlock

section words

variable {w : WordRing} {r : Ring}

theorem StandsFor.toNat_capacity (h : w.StandsFor r) : w.capacity.toNat = r.capacity := by
  have hle := h.capacity_le
  rw [capacity, h.size_eq]
  refine UInt64.toNat_ofNat_of_lt ?_
  simp only [largestBlock] at hle
  simp only [UInt64.size]
  omega

theorem plus_eq_ok {a b : UInt64} (h : a.toNat + b.toNat < UInt64.size) :
    ∃ c, plus a b = .ok c ∧ c.toNat = a.toNat + b.toNat :=
  ⟨a + b, if_pos h, by rw [UInt64.toNat_add]; exact Nat.mod_eq_of_lt h⟩

theorem minus_eq_ok {a b : UInt64} (h : b.toNat ≤ a.toNat) :
    ∃ c, minus a b = .ok c ∧ c.toNat = a.toNat - b.toNat :=
  ⟨a - b, if_pos h, UInt64.toNat_sub_of_le _ _ h⟩

/-- A position can always be moved on by one. -/
theorem StandsFor.after_eq_ok (h : w.StandsFor r) {place : UInt64}
    (hplace : place.toNat < r.capacity) :
    ∃ p, w.after place = .ok p ∧ p.toNat = (place.toNat + 1) % r.capacity := by
  have hle := h.capacity_le
  obtain ⟨c, hc, hvalue⟩ := plus_eq_ok (a := place) (b := 1) (by
    simp only [largestBlock] at hle
    simp only [UInt64.size, UInt64.toNat_one]
    omega)
  refine ⟨c % w.capacity, by rw [after, hc]; rfl, ?_⟩
  rw [UInt64.toNat_mod, hvalue, h.toNat_capacity, UInt64.toNat_one]

/-- The number of unread bytes can always be reckoned. -/
theorem StandsFor.length_eq_ok (h : w.StandsFor r) :
    ∃ n, w.length = .ok n ∧ n.toNat = r.length := by
  have hle := h.capacity_le
  have hfirst := r.first_lt
  have hnext := r.next_lt
  obtain ⟨sum, hsum, hsumValue⟩ := plus_eq_ok (a := w.next) (b := w.capacity) (by
    simp only [largestBlock] at hle
    rw [h.next_eq, h.toNat_capacity]
    simp only [UInt64.size]
    omega)
  rw [h.next_eq, h.toNat_capacity] at hsumValue
  obtain ⟨d, hd, hdValue⟩ := minus_eq_ok (a := sum) (b := w.first) (by
    rw [hsumValue, h.first_eq]
    omega)
  refine ⟨d % w.capacity, by rw [length, hsum]; simp only [bind, Except.bind, hd]; rfl, ?_⟩
  rw [UInt64.toNat_mod, hdValue, hsumValue, h.first_eq, h.toNat_capacity]
  rfl

theorem StandsFor.isEmpty_eq (h : w.StandsFor r) : w.isEmpty = r.isEmpty := by
  rw [isEmpty, Ring.isEmpty, Bool.eq_iff_iff, beq_iff_eq, beq_iff_eq, ← h.first_eq, ← h.next_eq,
    UInt64.toNat_inj]

/-- Every slot can be read. -/
theorem StandsFor.fetch_eq_ok (h : w.StandsFor r) {place : UInt64}
    (hplace : place.toNat < r.capacity) :
    fetch w.block place = .ok (r.slotAt place.toNat) := by
  have hlt : place.toNat < w.block.size := by rwa [h.size_eq]
  rw [fetch, dif_pos hlt, Ring.slotAt, Nat.mod_eq_of_lt hplace, ← h.slot_eq,
    Array.getD_eq_getD_getElem?, Array.getElem?_eq_getElem hlt]
  rfl

/-- Every slot can be written. -/
theorem StandsFor.store_eq_ok (h : w.StandsFor r) (b : UInt8) :
    ∃ block, store w.block w.next b = .ok block ∧ block.size = r.capacity ∧
      ∀ i, block.getD i 0 = (Ring.written r.slots r.next b).getD i 0 := by
  have hlt : w.next.toNat < w.block.size := by
    rw [h.size_eq, h.next_eq]
    exact r.next_lt
  refine ⟨w.block.set w.next.toNat b hlt, dif_pos hlt, by rw [Array.size_set, h.size_eq],
    fun i => ?_⟩
  rw [Ring.getD_written _ _ _ _ r.next_le_size, ← h.slot_eq, Array.getD_eq_getD_getElem?,
    Array.getElem?_set, h.next_eq]
  by_cases hi : r.next = i
  · rw [if_pos hi, if_pos hi.symm]
    rfl
  · rw [if_neg hi, if_neg (Ne.symm hi), Array.getD_eq_getD_getElem?]

/-! ## Actions in words -/

theorem StandsFor.push (h : w.StandsFor r) (b : UInt8) :
    ∃ w', w.push b = .ok ((r.push b).1, w') ∧ w'.StandsFor (r.push b).2 := by
  obtain ⟨next, hnext, hnextValue⟩ := h.after_eq_ok (h.next_eq ▸ r.next_lt)
  obtain ⟨first, hfirst, hfirstValue⟩ := h.after_eq_ok (h.first_eq ▸ r.first_lt)
  obtain ⟨block, hblock, hsize, hslots⟩ := h.store_eq_ok b
  rw [h.next_eq] at hnextValue
  rw [h.first_eq] at hfirstValue
  have hflag : (next == w.first) = (r.push b).1 := by
    rw [Bool.eq_iff_iff, beq_iff_eq, ← UInt64.toNat_inj, hnextValue, h.first_eq]
    exact beq_iff_eq.symm
  have hplace : (r.push b).2.first =
      if (r.push b).1 then (r.first + 1) % r.capacity else r.first := rfl
  simp only [WordRing.push, hnext, bind, Except.bind, hflag]
  cases hevicts : (r.push b).1 with
  | true =>
      rw [hevicts, if_pos rfl] at hplace
      simp only [if_true, hfirst, hblock]
      exact ⟨_, rfl, hsize, hfirstValue.trans hplace.symm, hnextValue, hslots, h.capacity_le⟩
  | false =>
      rw [hevicts, if_neg Bool.false_ne_true] at hplace
      simp only [Bool.false_eq_true, if_false, pure, Except.pure, hblock]
      exact ⟨_, rfl, hsize, h.first_eq.trans hplace.symm, hnextValue, hslots, h.capacity_le⟩

theorem StandsFor.pushAll (h : w.StandsFor r) (bytes : List UInt8) :
    ∃ w', w.pushAll bytes = .ok ((r.pushAll bytes).1, w') ∧
      w'.StandsFor (r.pushAll bytes).2 := by
  induction bytes generalizing w r with
  | nil => exact ⟨w, rfl, h⟩
  | cons b bytes ih =>
      obtain ⟨v, hpush, hv⟩ := h.push b
      obtain ⟨w', hrest, hw'⟩ := ih hv
      refine ⟨w', ?_, hw'⟩
      simp only [WordRing.pushAll, hpush, hrest, bind, Except.bind, Ring.pushAll_cons]
      rfl

theorem StandsFor.pop_of_some (h : w.StandsFor r) {b : UInt8} {s : Ring}
    (hpop : r.pop = some (b, s)) : ∃ w', w.pop = .ok (some (b, w')) ∧ w'.StandsFor s := by
  have hempty := h.isEmpty_eq
  obtain ⟨first, hfirst, hfirstValue⟩ := h.after_eq_ok (h.first_eq ▸ r.first_lt)
  have hbyte := h.fetch_eq_ok (h.first_eq ▸ r.first_lt)
  rw [h.first_eq] at hfirstValue hbyte
  rw [Ring.pop] at hpop
  split at hpop
  · cases hpop
  next hne =>
    obtain ⟨rfl, rfl⟩ := Prod.mk.inj (Option.some.inj hpop)
    rw [show r.isEmpty = false from beq_eq_false_iff_ne.2 hne] at hempty
    refine ⟨{ w with first := first }, ?_, h.size_eq, hfirstValue, h.next_eq, h.slot_eq,
      h.capacity_le⟩
    simp only [WordRing.pop, hempty, Bool.false_eq_true, if_false, hbyte, hfirst, bind,
      Except.bind]
    rfl

theorem StandsFor.pop_of_none (h : w.StandsFor r) (hpop : r.pop = none) : w.pop = .ok none := by
  have hempty : w.isEmpty = true := by
    rw [h.isEmpty_eq, Ring.isEmpty_eq, List.isEmpty_iff, ← Ring.pop_eq_none_iff, hpop]
  rw [WordRing.pop, if_pos hempty]
  rfl

theorem StandsFor.clear (h : w.StandsFor r) : w.clear.StandsFor r.clear :=
  ⟨h.size_eq, rfl, rfl, h.slot_eq, h.capacity_le⟩

end words

/-- A ring in words after an action. -/
def act (w : WordRing) : Queue.Action → Except Fault (Queue.Answer × WordRing)
  | .push b => do
    let (evicts, w) ← w.push b
    return (.evicts evicts, w)
  | .pushAll bytes => do
    let (evicted, w) ← w.pushAll bytes
    return (.evicted evicted, w)
  | .pop => do
    match ← w.pop with
    | none => return (.popped none, w)
    | some (b, w) => return (.popped (some b), w)
  | .clear => return (.cleared, w.clear)

/-- What is told of each of some actions, and the ring after them. -/
def run : List Queue.Action → WordRing → Except Fault (List Queue.Answer × WordRing)
  | [], w => return ([], w)
  | a :: rest, w => do
    let (answer, w) ← w.act a
    let (answers, w) ← run rest w
    return (answer :: answers, w)

/-- **No action faults**, and it does in words what it does in numbers. -/
theorem StandsFor.act {w : WordRing} {r : Ring} (h : w.StandsFor r) (a : Queue.Action) :
    ∃ w', w.act a = .ok ((r.act a).1, w') ∧ w'.StandsFor (r.act a).2 := by
  cases a with
  | push b =>
      obtain ⟨w', hpush, hw'⟩ := h.push b
      exact ⟨w', by simp only [WordRing.act, hpush]; rfl, hw'⟩
  | pushAll bytes =>
      obtain ⟨w', hpush, hw'⟩ := h.pushAll bytes
      exact ⟨w', by simp only [WordRing.act, hpush]; rfl, hw'⟩
  | pop =>
      cases hpop : r.pop with
      | none =>
          have hnone := h.pop_of_none hpop
          refine ⟨w, ?_, ?_⟩
          · simp only [WordRing.act, Ring.act, hnone, hpop]
            rfl
          · simpa only [Ring.act, hpop] using h
      | some p =>
          obtain ⟨w', hsome, hw'⟩ := h.pop_of_some hpop
          refine ⟨w', ?_, ?_⟩
          · simp only [WordRing.act, Ring.act, hsome, hpop]
            rfl
          · simpa only [Ring.act, hpop] using hw'
  | clear => exact ⟨w.clear, rfl, h.clear⟩

theorem StandsFor.run {w : WordRing} {r : Ring} (h : w.StandsFor r)
    (actions : List Queue.Action) :
    ∃ w', w.run actions = .ok ((r.run actions).1, w') ∧ w'.StandsFor (r.run actions).2 := by
  induction actions generalizing w r with
  | nil => exact ⟨w, rfl, h⟩
  | cons a actions ih =>
      obtain ⟨v, hact, hv⟩ := h.act a
      obtain ⟨w', hrest, hw'⟩ := ih hv
      exact ⟨w', by simp only [WordRing.run, hact, hrest, bind, Except.bind]; rfl, hw'⟩

theorem standsFor_ofCapacity {capacity : Nat} (h : 2 ≤ capacity) (hle : capacity ≤ largestBlock) :
    (ofCapacity capacity).StandsFor (Ring.ofCapacity capacity h) := by
  refine ⟨Array.size_replicate, rfl, rfl, fun i => ?_, hle⟩
  rw [Array.getD_eq_getD_getElem?, ofCapacity, Array.getElem?_replicate, Ring.ofCapacity]
  split <;> rfl

end WordRing

namespace Ring

open Queue (Tally)

theorem countedBy_ofCapacity {capacity : Nat} (h : 2 ≤ capacity) :
    (ofCapacity capacity h).CountedBy {} := by
  refine ⟨(Nat.zero_mod _).symm, (Nat.zero_mod _).symm, ?_⟩
  rw [← length_toList, toList_ofCapacity]
  rfl

/-- **The positions of a ring are counts, and words are enough for them.**  Take a ring of a
capacity that one block of memory can have, and do anything to it.  The position of the oldest
unread byte is the number of bytes taken out or evicted since the ring was last cleared, and the
next free position is the number of bytes put in since then, both wrapped at the capacity; they
differ by the bytes unread, of which there are fewer than the capacity.  In words of 64 bits and
a fixed block of memory all the same happens: no sum or difference leaves the 64 bits, no access
the block, every answer and both positions are the same, and so is the length. -/
theorem positions_of_run {capacity : Nat} (h : 2 ≤ capacity) (hle : capacity ≤ largestBlock)
    (actions : List Queue.Action) :
    create capacity = .ok (ofCapacity capacity h) ∧
      ∃ answers r w, (ofCapacity capacity h).run actions = (answers, r) ∧
        (∀ t, Tally.countAll actions answers {} = t →
          r.positions = ((t.popped + t.evicted) % capacity, t.pushed % capacity) ∧
            t.pushed = t.popped + t.evicted + r.length ∧ r.length ≤ capacity - 1) ∧
        (r.first < capacity ∧ r.next < capacity) ∧
        (WordRing.ofCapacity capacity).run actions = .ok (answers, w) ∧
        (w.positions.1.toNat, w.positions.2.toNat) = r.positions ∧
        ∃ n, w.length = .ok n ∧ n.toNat = r.length := by
  have hcounted := (countedBy_ofCapacity h).run actions
  have hcapacity : ((ofCapacity capacity h).run actions).2.capacity = capacity :=
    capacity_run _ actions
  obtain ⟨w, hrun, hw⟩ := (WordRing.standsFor_ofCapacity h hle).run actions
  generalize (ofCapacity capacity h).run actions = result at hcounted hcapacity hrun hw ⊢
  obtain ⟨answers, r⟩ := result
  have hlt := r.length_lt
  have hfirst := r.first_lt
  have hnext := r.next_lt
  rw [hcapacity] at hlt hfirst hnext
  refine ⟨create_eq_ok h hle, answers, r, w, rfl, ?_, ⟨hfirst, hnext⟩, hrun,
    Prod.ext hw.first_eq hw.next_eq, hw.length_eq_ok⟩
  rintro t rfl
  refine ⟨?_, hcounted.unread, by omega⟩
  rw [positions, hcounted.first_eq, hcounted.next_eq, hcapacity]
  rfl

/-- A ring of three slots that is overrun twice and cleared in between, and the largest of all
rings. -/
theorem positions_of_run_overrun :
    (2 ≤ 3 ∧ 3 ≤ largestBlock ∧ ∃ w,
      (WordRing.ofCapacity 3).run
          [.pushAll [1, 2, 3, 4], .clear, .pushAll [5, 6, 7, 8, 9], .pop, .push 10] =
        .ok ([.evicted 2, .cleared, .evicted 3, .popped (some 8), .evicts false], w) ∧
      (w.positions.1.toNat, w.positions.2.toNat) = ((1 + 3) % 3, 6 % 3)) ∧
    (2 ≤ largestBlock ∧ largestBlock ≤ largestBlock ∧ ∃ w,
      (WordRing.ofCapacity largestBlock).run [.pushAll [1, 2, 3], .pop] =
        .ok ([.evicted 0, .popped (some 1)], w) ∧
      ∃ n, w.length = .ok n ∧ n.toNat = 2) := by
  constructor
  · obtain ⟨-, answers, r, w, hrun, -, -, hwords, hpositions, -⟩ :=
      positions_of_run (show 2 ≤ 3 by decide) (by decide)
        [.pushAll [1, 2, 3, 4], .clear, .pushAll [5, 6, 7, 8, 9], .pop, .push 10]
    obtain ⟨rfl, rfl⟩ := Prod.mk.inj hrun
    exact ⟨by decide, by decide, w, hwords, hpositions⟩
  · obtain ⟨-, answers, r, w, hrun, -, -, hwords, -, n, hn, hlength⟩ :=
      positions_of_run (by decide) (Nat.le_refl largestBlock)
        [.pushAll [1, 2, 3], .pop]
    obtain ⟨rfl, rfl⟩ := Prod.mk.inj hrun
    exact ⟨by decide, Nat.le_refl _, w, hwords, n, hn, hlength⟩

end Ring

end DongleLink

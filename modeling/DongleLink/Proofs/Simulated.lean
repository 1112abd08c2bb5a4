import DongleLink.Wire.Simulated

/-!
# DongleLink.Proofs.Simulated

What a simulated dongle does at each use of its stream, and what it leaves alone.  Reads and
writes change the bytes alone, and what is done to the dongle does not touch its record of
connections and shutdowns: that is the port's part.
-/

namespace DongleLink.Simulated

/-! ## What each use changes -/

/-- A read of at least one byte brings bytes as long as there are any; else it brings the end
of the stream, if the stream is over, or nothing yet. -/
theorem readChunk_cases {n : Nat} (hn : 1 ≤ n) (s : Simulated) :
    (∃ b bytes, Wire.readChunk n s = (.data (b :: bytes), { s with queue := s.queue.drop n }) ∧
        (s.queue.drop n).length < s.queue.length) ∨
      (s.queue = [] ∧ s.isOver = true ∧ Wire.readChunk n s = (.ended, s)) ∨
      (s.queue = [] ∧ s.isOver = false ∧ Wire.readChunk n s = (.failed nothingYet, s)) := by
  obtain ⟨k, rfl⟩ : ∃ k, n = k + 1 := ⟨n - 1, by omega⟩
  cases hqueue : s.queue with
  | nil =>
      cases hover : s.isOver with
      | true => exact .inr (.inl ⟨rfl, rfl, by simp [Wire.readChunk, readChunk, hqueue, hover]⟩)
      | false => exact .inr (.inr ⟨rfl, rfl, by simp [Wire.readChunk, readChunk, hqueue, hover]⟩)
  | cons b rest =>
      refine .inl ⟨b, rest.take k, by simp [Wire.readChunk, readChunk, hqueue], ?_⟩
      simp only [List.length_drop, List.length_cons]
      omega

/-- A dongle is idle if it has nothing to give and the stream is not over. -/
theorem idle_iff (s : Simulated) :
    Wire.idle s = true ↔ s.queue = [] ∧ s.isOver = false := by
  simp [Wire.idle, idle]

/-- A read changes what can be read. -/
theorem readChunk_eq (n : Nat) (s : Simulated) :
    ∃ queue, (Wire.readChunk n s).2 = { s with queue := queue } := by
  simp only [Wire.readChunk, readChunk]
  split
  · split <;> exact ⟨s.queue, rfl⟩
  · exact ⟨_, rfl⟩

/-- A write changes the log, and what can be read if there is an echo. -/
theorem write_eq (bytes : List UInt8) (s : Simulated) :
    ∃ log queue, (Wire.write bytes s).2 = { s with log := log, queue := queue } := by
  simp only [Wire.write, write]
  split
  · exact ⟨s.log, s.queue, rfl⟩
  · split
    · exact ⟨s.log, s.queue, rfl⟩
    · exact ⟨_, _, rfl⟩

/-- A connection is turned down, and not with an i/o fault, or it begins a new stream and is
recorded. -/
theorem connect_cases (o : LineOverrides) (settings : Settings) (s : Simulated) :
    (∃ e, (∀ fault, e ≠ .io fault) ∧
        Wire.connect o settings s = (.error e, { s with turnDown := none })) ∨
      Wire.connect o settings s =
        (.ok (),
          { s with
            connects := s.connects + 1
            lastOverrides := some o
            hungUp := false
            shut := false }) := by
  simp only [Wire.connect, connect]
  split
  · exact .inl ⟨_, by simp, rfl⟩
  · exact .inl ⟨_, by simp, rfl⟩
  · exact .inr rfl

/-! ## Writes that are held up -/

@[simp] theorem holds_readChunk (n : Nat) (s : Simulated) :
    Wire.holds (Wire.readChunk n s).2 = Wire.holds s := by
  obtain ⟨queue, h⟩ := s.readChunk_eq n
  rw [h]
  rfl

@[simp] theorem blocked_readChunk (n : Nat) (s : Simulated) :
    (Wire.readChunk n s).2.blocked = s.blocked := by
  obtain ⟨queue, h⟩ := s.readChunk_eq n
  rw [h]

@[simp] theorem blocked_write (bytes : List UInt8) (s : Simulated) :
    (Wire.write bytes s).2.blocked = s.blocked := by
  obtain ⟨log, queue, h⟩ := s.write_eq bytes
  rw [h]

@[simp] theorem blocked_connect (o : LineOverrides) (settings : Settings) (s : Simulated) :
    (Wire.connect o settings s).2.blocked = s.blocked := by
  obtain ⟨e, -, h⟩ | h := s.connect_cases o settings <;> rw [h]

@[simp] theorem blocked_control (c : Control) (s : Simulated) :
    (c.apply s).blocked = s.blocked := by
  cases c <;> rfl

/-! ## The record -/

/-- The record of connections and shutdowns is the same, and no hang-up was taken back. -/
structure Keeps (s t : Simulated) : Prop where
  shut_eq : t.shut = s.shut
  connects_eq : t.connects = s.connects
  last_eq : t.lastOverrides = s.lastOverrides
  hungUp_of_hungUp : s.hungUp = true → t.hungUp = true

theorem Keeps.refl (s : Simulated) : s.Keeps s := ⟨rfl, rfl, rfl, id⟩

theorem keeps_readChunk (n : Nat) (s : Simulated) : s.Keeps (Wire.readChunk n s).2 := by
  obtain ⟨queue, h⟩ := s.readChunk_eq n
  rw [h]
  exact ⟨rfl, rfl, rfl, id⟩

theorem keeps_write (bytes : List UInt8) (s : Simulated) : s.Keeps (Wire.write bytes s).2 := by
  obtain ⟨log, queue, h⟩ := s.write_eq bytes
  rw [h]
  exact ⟨rfl, rfl, rfl, id⟩

theorem keeps_park (s : Simulated) : s.Keeps (Wire.park s) := ⟨rfl, rfl, rfl, id⟩

theorem keeps_unpark (s : Simulated) : s.Keeps (Wire.unpark s) := ⟨rfl, rfl, rfl, id⟩

theorem keeps_control (c : Control) (s : Simulated) : s.Keeps (c.apply s) := by
  cases c with
  | disconnect => exact ⟨rfl, rfl, rfl, fun _ => rfl⟩
  | _ => exact ⟨rfl, rfl, rfl, id⟩

end DongleLink.Simulated

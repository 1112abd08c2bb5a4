import DongleLink.Config.Load
import DongleLink.Proofs.Lifecycle

/-!
# DongleLink.Proofs.Fitness

What a checked configuration is worth to the port that is built from it.  The check sets least
values only (`minimums_of_check`), so it rules out an empty chunk and a ring that could never hold
a byte; whether the memory can be had is another question.  A port cannot be made if its ring is
larger than one block of memory, and a session's loop is dead from its start if its chunk buffer
is: `port_of_checked` says that nothing else goes wrong, and `checked_port_breaks` that both do.
-/

namespace DongleLink

variable {σ : Type}

/-! ## The loop of an open port -/

namespace Port

/-- An opening that works starts a loop, which lives if its chunk buffer can be had. -/
theorem session_of_opened [Wire σ] {p : Port σ} {o : LineOverrides}
    (h : (p.openWith o).1 = .ok ()) :
    (p.openWith o).2.session = some (startedLoop p.settings.chunkSize) := by
  obtain ⟨-, -, heq⟩ | ⟨-, ⟨e, wire, -, heq⟩ | ⟨wire, -, heq⟩⟩ := openWith_cases o p
  · rw [heq] at h
    cases h
  · rw [heq] at h
    cases h
  · rw [heq]
    simp [attached]

theorem startedLoop_eq_reading_iff (chunkSize : Nat) :
    startedLoop chunkSize = .reading ↔ chunkSize ≤ largestBlock := by
  rw [startedLoop]
  split <;> simp_all

/-- The link of a coherent port is up exactly while there is a loop as it was started: one that
reads, or one that was dead from its start. -/
theorem isOpen_iff_startedLoop {p : Port σ} (h : p.Coherent) :
    p.isOpen = true ↔ p.session = some (startedLoop p.settings.chunkSize) := by
  rw [isOpen, h.linkUp_iff, startedLoop]
  have hdead := h.dead_iff
  by_cases hle : p.settings.chunkSize ≤ largestBlock
  · have hnot : p.session ≠ some .dead := fun hs => by
      have hlt := (hdead _ hs).1 rfl
      omega
    simp [hle, hnot]
  · have hnot : p.session ≠ some .reading := fun hs => by
      have hloop := (hdead _ hs).2 (by omega)
      cases hloop
    simp [hle, hnot]

end Port

namespace Config

/-! ## What the check says -/

/-- Every number that has a least value is at least that. -/
theorem minimums_of_check {c : Config} (h : c.check = .ok ()) :
    ∀ key value least, (key, value, least) ∈ c.minimums → least ≤ value := by
  intro key value least hmem
  rw [check] at h
  split at h
  · cases h
  next hnone =>
    have hnot := List.find?_eq_none.1 hnone _ hmem
    simpa using hnot

theorem two_le_ringCapacity {c : Config} (h : c.check = .ok ()) : 2 ≤ c.settings.ringCapacity :=
  minimums_of_check h "transport.rx_buffer_capacity" _ 2 (by simp [minimums, settings])

theorem one_le_chunkSize {c : Config} (h : c.check = .ok ()) : 1 ≤ c.settings.chunkSize :=
  minimums_of_check h "transport.chunk_size" _ 1 (by simp [minimums, settings])

/-! ## The port -/

/-- A checked configuration makes a port, unless its ring is larger than one block of memory. -/
theorem create_of_check {c : Config} (h : c.check = .ok ()) (wire : σ) :
    Port.create wire c.settings =
      if c.settings.ringCapacity ≤ largestBlock then
        .ok { wire := wire, settings := c.settings
              inbox := { ring := .ofCapacity c.settings.ringCapacity (two_le_ringCapacity h)
                         linkUp := false } }
      else .error (.ring .tooLarge) := by
  have hchunk := one_le_chunkSize h
  have hring := two_le_ringCapacity h
  rw [Port.create, if_neg (by omega), Ring.create, dif_pos hring]
  by_cases hle : c.settings.ringCapacity ≤ largestBlock
  · simp only [if_pos hle]
  · simp only [if_neg hle]

/-- **A checked configuration runs a port as far as there is memory.**  The port can be made
exactly if its ring is no larger than one block of memory, and nothing else is ever in the way.
After any run of it, an opening that works has a loop that reads exactly if the chunk buffer is no
larger than one block; and the port counts as open exactly while there is a loop, which is then
one that reads, or else, for a larger chunk buffer, one that was dead from its start. -/
theorem port_of_checked [Wire σ] {c : Config} (h : c.check = .ok ()) (wire : σ) :
    ((∃ p, Port.create wire c.settings = .ok p) ↔ c.settings.ringCapacity ≤ largestBlock) ∧
      (∀ r, Port.create wire c.settings = .error r → r = .ring .tooLarge) ∧
      ∀ p, Port.create wire c.settings = .ok p → ∀ actions,
        (∀ o, ((p.run actions).openWith o).1 = .ok () →
          (((p.run actions).openWith o).2.session = some .reading ↔
            c.settings.chunkSize ≤ largestBlock)) ∧
        (c.settings.chunkSize ≤ largestBlock →
          ((p.run actions).isOpen = true ↔ (p.run actions).session = some .reading)) ∧
        (largestBlock < c.settings.chunkSize →
          ((p.run actions).isOpen = true ↔ (p.run actions).session = some .dead)) := by
  refine ⟨?_, fun r hr => ?_, fun p hp actions => ?_⟩
  · rw [create_of_check h wire]
    split <;> simp_all
  · rw [create_of_check h wire] at hr
    split at hr
    · cases hr
    · exact (Except.error.inj hr).symm
  · have hsettings : (p.run actions).settings = c.settings := by
      obtain ⟨-, -, -, rfl⟩ := Port.create_eq_ok_iff.1 hp
      exact Port.settings_run _ actions
    have hopen := Port.isOpen_iff_startedLoop ((Port.coherent_create hp).run actions)
    rw [hsettings, Port.startedLoop] at hopen
    refine ⟨fun o ho => ?_, fun hle => ?_, fun hlt => ?_⟩
    · rw [Port.session_of_opened ho, hsettings, Option.some.injEq, Port.startedLoop_eq_reading_iff]
    · rwa [if_pos hle] at hopen
    · rwa [if_neg (by omega)] at hopen

/-- The standard configuration with other sizes of ring and chunk buffer. -/
def sized (ringCapacity chunkSize : UInt64) : Config where
  transport := { ringCapacity := ringCapacity, chunkSize := chunkSize }

/-- A ring and a chunk buffer as large as one block of memory may be. -/
theorem port_of_largest_blocks :
    let c := sized 9223372036854775807 9223372036854775807
    c.check = .ok () ∧ ∃ p, Port.create ({ name := "MOCK0" } : Simulated) c.settings = .ok p ∧
      (p.openWith {}).2.session = some .reading ∧ (p.openWith {}).2.isOpen = true := by
  intro c
  have hcheck : (sized 9223372036854775807 9223372036854775807).check = .ok () := rfl
  obtain ⟨hcreate, -, hrun⟩ := port_of_checked hcheck ({ name := "MOCK0" } : Simulated)
  obtain ⟨p, hp⟩ := hcreate.2 (by decide)
  have hopened : (p.openWith {}).1 = .ok () := by
    obtain ⟨-, -, -, rfl⟩ := Port.create_eq_ok_iff.1 hp
    rfl
  have hreading := ((hrun p hp []).1 {} hopened).2 (by decide)
  have hup := (hrun p hp [.openWith {}]).2.1 (by decide)
  rw [show p.run [.openWith {}] = (p.openWith {}).2 by simp [Port.act]] at hup
  exact ⟨hcheck, p, hp, hreading, hup.2 hreading⟩

/-- Beyond that the check still passes, but no port can be made, or the loop of the one that is
made dies at its start and leaves the link up. -/
theorem checked_port_breaks :
    (sized 9223372036854775808 1).check = .ok () ∧
      Port.create ({ name := "MOCK0" } : Simulated) (sized 9223372036854775808 1).settings =
        .error (.ring .tooLarge) ∧
      (sized 2 9223372036854775808).check = .ok () ∧
      ∃ p, Port.create ({ name := "MOCK0" } : Simulated) (sized 2 9223372036854775808).settings =
          .ok p ∧
        (p.openWith {}).1 = .ok () ∧ (p.openWith {}).2.session = some .dead ∧
        (p.openWith {}).2.isOpen = true :=
  ⟨rfl, rfl, rfl, _, rfl, rfl, rfl, rfl⟩

end Config

end DongleLink

import DongleLink.Port.Action

/-!
# DongleLink.Proofs.Port

What each operation of a port changes and what it leaves alone.  Opening has one
law that names its three outcomes (`openWith_cases`), one more that tells where the
system has no thread for the receive loop (`openThreaded_cases`), and a look has one
that names its two (`look_cases`); the other operations have a small lemma for each
part of the port.  Everything said about runs is derived from these laws, and no operation
is opened again.
-/

namespace DongleLink.Port

variable {σ : Type}

/-! ## Making a port -/

/-- A port can be made if chunks are not empty and the ring can be had. -/
theorem create_eq_ok_iff {wire : σ} {settings : Settings} {p : Port σ} :
    create wire settings = .ok p ↔
      1 ≤ settings.chunkSize ∧ settings.ringCapacity ≤ largestBlock ∧
        ∃ h : 2 ≤ settings.ringCapacity,
          p = { wire := wire, settings := settings
                inbox := { ring := .ofCapacity settings.ringCapacity h, linkUp := false } } := by
  by_cases hchunk : settings.chunkSize = 0
  · rw [create, if_pos hchunk]
    constructor
    · intro h; cases h
    · intro h; omega
  · rw [create, if_neg hchunk]
    by_cases h : 2 ≤ settings.ringCapacity
    · by_cases hle : settings.ringCapacity ≤ largestBlock
      · have hpos : 1 ≤ settings.chunkSize := by omega
        simp only [Ring.create, dif_pos h, if_pos hle]
        constructor
        · intro heq
          exact ⟨hpos, hle, h, (Except.ok.inj heq).symm⟩
        · rintro ⟨-, -, -, rfl⟩
          rfl
      · simp [Ring.create, h, hle]
    · simp [Ring.create, h]

/-! ## Taking the stream down -/

section teardown

variable [Wire σ]

@[simp] theorem running_teardown (p : Port σ) : p.teardown.running = false := by
  cases h : p.session <;> simp [teardown, h]

@[simp] theorem session_teardown (p : Port σ) : p.teardown.session = none := by
  cases h : p.session <;> simp [teardown, h]

@[simp] theorem inbox_teardown (p : Port σ) : p.teardown.inbox = p.inbox.linkDown := by
  cases h : p.session <;> simp [teardown, h]

@[simp] theorem counters_teardown (p : Port σ) : p.teardown.counters = p.counters := by
  cases h : p.session <;> simp [teardown, h]

@[simp] theorem settings_teardown (p : Port σ) : p.teardown.settings = p.settings := by
  cases h : p.session <;> simp [teardown, h]

/-- The sending half goes with the session. -/
theorem writer_teardown (p : Port σ) :
    p.teardown.writer = (p.writer && p.session.isNone) := by
  cases h : p.session <;> simp [teardown, h]

/-- Only a stream that is attached is shut down. -/
theorem wire_teardown (p : Port σ) :
    p.teardown.wire = if p.session.isSome then Wire.shutdown p.wire else p.wire := by
  cases h : p.session <;> simp [teardown, h]

end teardown

/-! ## Opening -/

section openWith

variable [Wire σ]

/-- The port as it is when it connects: a session that was there is taken down. -/
def vacated (p : Port σ) : Port σ := if p.session.isSome then p.teardown else p

/-- The port with a new stream. -/
def attached (wire : σ) (p : Port σ) : Port σ :=
  { p with
    wire := wire
    inbox := p.inbox.attach
    running := true
    session := some (startedLoop p.settings.chunkSize)
    writer := true }

@[simp] theorem session_vacated (p : Port σ) : p.vacated.session = none := by
  cases h : p.session <;> simp [vacated, h]

@[simp] theorem counters_vacated (p : Port σ) : p.vacated.counters = p.counters := by
  cases h : p.session <;> simp [vacated, h]

@[simp] theorem settings_vacated (p : Port σ) : p.vacated.settings = p.settings := by
  cases h : p.session <;> simp [vacated, h]

@[simp] theorem unread_vacated (p : Port σ) : p.vacated.inbox.unread = p.inbox.unread := by
  cases h : p.session <;> simp [vacated, h]

/-- Connecting from a port without a session fails, or attaches a stream. -/
theorem attach_cases (o : LineOverrides) (p : Port σ) :
    (∃ e wire, Wire.connect o p.settings p.wire = (.error e, wire) ∧
        p.attach o = (.error e, { p with wire := wire })) ∨
      ∃ wire, Wire.connect o p.settings p.wire = (.ok (), wire) ∧
        p.attach o = (.ok (), p.attached wire) := by
  rw [attach]
  obtain ⟨result, wire⟩ := Wire.connect o p.settings p.wire
  cases result with
  | error e => exact .inl ⟨e, wire, rfl, rfl⟩
  | ok u => exact .inr ⟨wire, rfl, rfl⟩

@[simp] theorem wire_attach (o : LineOverrides) (p : Port σ) :
    (p.attach o).2.wire = (Wire.connect o p.settings p.wire).2 := by
  obtain ⟨e, wire, hc, heq⟩ | ⟨wire, hc, heq⟩ := attach_cases o p <;> rw [heq, hc]
  rfl

/-- **Opening ends in one of three ways**: a live link is left alone; or the port is
vacated and the connection fails; or a new stream is attached. -/
theorem openWith_cases (o : LineOverrides) (p : Port σ) :
    (p.session.isSome = true ∧ p.inbox.linkUp = true ∧
        p.openWith o = (.error .alreadyOpen, p)) ∨
      ((p.session = none ∨ p.inbox.linkUp = false) ∧
        ((∃ e wire, Wire.connect o p.settings p.vacated.wire = (.error e, wire) ∧
            p.openWith o = (.error e, { p.vacated with wire := wire })) ∨
          ∃ wire, Wire.connect o p.settings p.vacated.wire = (.ok (), wire) ∧
            p.openWith o = (.ok (), p.vacated.attached wire))) := by
  have hattach : (∃ e wire, Wire.connect o p.settings p.vacated.wire = (.error e, wire) ∧
        p.vacated.attach o = (.error e, { p.vacated with wire := wire })) ∨
      ∃ wire, Wire.connect o p.settings p.vacated.wire = (.ok (), wire) ∧
        p.vacated.attach o = (.ok (), p.vacated.attached wire) := by
    simpa only [settings_vacated] using attach_cases o p.vacated
  cases hs : p.session with
  | none =>
      have heq : p.openWith o = p.vacated.attach o := by simp [openWith, vacated, hs]
      rw [heq]
      exact .inr ⟨.inl rfl, hattach⟩
  | some l =>
      cases hl : p.inbox.linkUp with
      | true => exact .inl ⟨rfl, rfl, by simp [openWith, hs, hl]⟩
      | false =>
          have heq : p.openWith o = p.vacated.attach o := by simp [openWith, vacated, hs, hl]
          rw [heq]
          exact .inr ⟨.inr rfl, hattach⟩

/-- Where there is a thread, opening is what it is without asking for one. -/
@[simp] theorem openThreaded_ok (o : LineOverrides) (p : Port σ) :
    p.openThreaded (.ok ()) o = p.openWith o := by
  rw [openThreaded]
  rcases p.openWith o with ⟨_ | _, q⟩ <;> rfl

/-- **An opening that gets no thread is an opening that worked, taken back**: the new stream is
taken down again, and the caller is told why there was no thread. -/
theorem openThreaded_cases (thread : Except IoFault Unit) (o : LineOverrides) (p : Port σ) :
    p.openThreaded thread o = p.openWith o ∨
      ∃ fault, thread = .error fault ∧ (p.openWith o).1 = .ok () ∧
        p.openThreaded thread o = (.error (.io fault), (p.openWith o).2.teardown) := by
  cases thread with
  | ok _ => exact .inl (openThreaded_ok o p)
  | error fault =>
      rw [openThreaded]
      rcases p.openWith o with ⟨_ | _, q⟩
      · exact .inl rfl
      · exact .inr ⟨fault, rfl, rfl, rfl⟩

/-- No opening counts anything. -/
theorem counters_openThreaded (thread : Except IoFault Unit) (o : LineOverrides) (p : Port σ) :
    (p.openThreaded thread o).2.counters = p.counters := by
  have hopen : (p.openWith o).2.counters = p.counters := by
    obtain ⟨-, -, heq⟩ | ⟨-, ⟨e, wire, -, heq⟩ | ⟨wire, -, heq⟩⟩ := openWith_cases o p
    · rw [heq]
    · rw [heq]
      exact counters_vacated p
    · rw [heq]
      exact counters_vacated p
  obtain heq | ⟨fault, -, -, heq⟩ := openThreaded_cases thread o p
  · rwa [heq]
  · rw [heq, counters_teardown, hopen]

end openWith

/-! ## The receive loop -/

theorem session_of_listens {p : Port σ} (h : p.listens = true) : p.session = some .reading := by
  have hreading := (Bool.and_eq_true _ _ ▸ h).2
  simpa using hreading

@[simp] theorem counters_endLoop (p : Port σ) : p.endLoop.counters = p.counters := rfl

@[simp] theorem unread_endLoop (p : Port σ) : p.endLoop.inbox.unread = p.inbox.unread := rfl

@[simp] theorem wire_endLoop (p : Port σ) : p.endLoop.wire = p.wire := rfl

/-- The result of a read ends the loop, or brings bytes that are stored, or is
nothing to the port. -/
theorem hear_cases (r : Received) (p : Port σ) :
    (∃ bytes, r = .data bytes ∧ bytes ≠ [] ∧ p.hear r = p.ingest bytes) ∨
      ((∀ bytes, r = .data bytes → bytes = []) ∧ (p.hear r = p.endLoop ∨ p.hear r = p)) := by
  cases r with
  | data bytes =>
      cases bytes with
      | nil => exact .inr ⟨fun bytes h => by cases h; rfl, .inl rfl⟩
      | cons b bytes => exact .inl ⟨b :: bytes, rfl, List.cons_ne_nil _ _, rfl⟩
  | ended => exact .inr ⟨fun bytes h => (by cases h), .inl rfl⟩
  | failed fault =>
      refine .inr ⟨fun bytes h => (by cases h), ?_⟩
      cases h : fault.isTransient with
      | true => right; simp [hear, h]
      | false => left; simp [hear, h]

@[simp] theorem wire_hear (r : Received) (p : Port σ) : (p.hear r).wire = p.wire := by
  obtain ⟨bytes, -, -, heq⟩ | ⟨-, heq | heq⟩ := hear_cases r p <;> rw [heq] <;> rfl

@[simp] theorem settings_hear (r : Received) (p : Port σ) : (p.hear r).settings = p.settings := by
  obtain ⟨bytes, -, -, heq⟩ | ⟨-, heq | heq⟩ := hear_cases r p <;> rw [heq] <;> rfl

/-- What is heard does not end a session, only its loop. -/
theorem session_hear_eq_none_iff (r : Received) (p : Port σ) :
    (p.hear r).session = none ↔ p.session = none := by
  obtain ⟨bytes, -, -, heq⟩ | ⟨-, heq | heq⟩ := hear_cases r p <;> rw [heq]
  · rfl
  · simp [endLoop]

/-! ## Reading -/

/-- A reader that looks is told to wait if the ring is empty and the link up. -/
theorem look_eq_empty_iff (p : Port σ) :
    p.look.1 = .empty ↔ p.inbox.unread = [] ∧ p.inbox.linkUp = true := by
  rw [← Inbox.look_eq_empty_iff, look]
  cases h : p.inbox.look with
  | mk found inbox => cases found <;> simp

/-- A reader takes the oldest unread byte and counts it, or changes nothing. -/
theorem look_cases (p : Port σ) :
    (∃ b inbox, p.inbox.look = (.byte b, inbox) ∧
        p.look = (.byte b,
          { p with
            inbox := inbox
            counters := { p.counters with delivered := p.counters.delivered + 1 } })) ∨
      (p.inbox.unread = [] ∧ p.look = (if p.inbox.linkUp then .empty else .closed, p)) := by
  cases h : p.inbox.ring.pop with
  | none =>
      right
      refine ⟨(Ring.pop_eq_none_iff _).1 h, ?_⟩
      cases hl : p.inbox.linkUp <;> simp [look, Inbox.look, h, hl]
  | some q =>
      left
      exact ⟨q.1, { p.inbox with ring := q.2 }, by simp [Inbox.look, h],
        by simp [look, Inbox.look, h]⟩

@[simp] theorem wire_look (p : Port σ) : p.look.2.wire = p.wire := by
  obtain ⟨b, inbox, -, heq⟩ | ⟨-, heq⟩ := p.look_cases <;> rw [heq]

@[simp] theorem session_look (p : Port σ) : p.look.2.session = p.session := by
  obtain ⟨b, inbox, -, heq⟩ | ⟨-, heq⟩ := p.look_cases <;> rw [heq]

@[simp] theorem settings_look (p : Port σ) : p.look.2.settings = p.settings := by
  obtain ⟨b, inbox, -, heq⟩ | ⟨-, heq⟩ := p.look_cases <;> rw [heq]

/-! ## Writing -/

section transmit

variable [Wire σ]

@[simp] theorem inbox_transmit (bytes : List UInt8) (p : Port σ) :
    (p.transmit bytes).2.inbox = p.inbox := by
  rw [transmit]
  split <;> rfl

@[simp] theorem session_transmit (bytes : List UInt8) (p : Port σ) :
    (p.transmit bytes).2.session = p.session := by
  rw [transmit]
  split <;> rfl

@[simp] theorem running_transmit (bytes : List UInt8) (p : Port σ) :
    (p.transmit bytes).2.running = p.running := by
  rw [transmit]
  split <;> rfl

@[simp] theorem writer_transmit (bytes : List UInt8) (p : Port σ) :
    (p.transmit bytes).2.writer = p.writer := by
  rw [transmit]
  split <;> rfl

@[simp] theorem settings_transmit (bytes : List UInt8) (p : Port σ) :
    (p.transmit bytes).2.settings = p.settings := by
  rw [transmit]
  split <;> rfl

@[simp] theorem wire_transmit (bytes : List UInt8) (p : Port σ) :
    (p.transmit bytes).2.wire = (Wire.write bytes p.wire).2 := by
  rw [transmit]
  split <;> simp_all [count]

/-- A write is counted as written or as failed, and as nothing else. -/
theorem counters_transmit (bytes : List UInt8) (p : Port σ) :
    (p.transmit bytes).2.counters.received = p.counters.received ∧
      (p.transmit bytes).2.counters.delivered = p.counters.delivered ∧
      (p.transmit bytes).2.counters.evicted = p.counters.evicted := by
  rw [transmit]
  split <;> exact ⟨rfl, rfl, rfl⟩

end transmit

/-! ## Runs -/

section run

variable [Wire σ]

@[simp] theorem run_nil (p : Port σ) : p.run [] = p := rfl

@[simp] theorem run_cons (p : Port σ) (a : Action σ) (actions : List (Action σ)) :
    p.run (a :: actions) = (p.act a).run actions := rfl

theorem run_append (p : Port σ) (first second : List (Action σ)) :
    p.run (first ++ second) = (p.run first).run second :=
  List.foldl_append ..

/-- The settings of a port never change. -/
theorem settings_act (p : Port σ) (a : Action σ) : (p.act a).settings = p.settings := by
  cases a with
  | openWith o thread =>
      have hopen : (p.openWith o).2.settings = p.settings := by
        obtain ⟨-, -, heq⟩ | ⟨-, ⟨e, wire, -, heq⟩ | ⟨wire, -, heq⟩⟩ := openWith_cases o p <;>
          simp [heq, attached]
      obtain heq | ⟨fault, -, -, heq⟩ := openThreaded_cases thread o p <;> simp [act, heq, hopen]
  | close => exact settings_teardown p
  | purge => rfl
  | look => exact settings_look p
  | write bytes =>
      simp only [act]
      split
      · exact settings_transmit bytes p
      · rfl
  | resume bytes => exact settings_transmit bytes p
  | hear r =>
      simp only [act]
      split
      · exact settings_hear r p
      · rfl
  | onWire f => rfl

theorem settings_run (p : Port σ) (actions : List (Action σ)) :
    (p.run actions).settings = p.settings := by
  induction actions generalizing p with
  | nil => rfl
  | cons a actions ih => rw [run_cons, ih, settings_act]

end run

end DongleLink.Port

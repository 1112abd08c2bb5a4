import DongleLink.Proofs.InUse
import DongleLink.Proofs.Lifecycle

/-!
# DongleLink.Proofs.Opening

What an attempt to open a port ends in, and what it leaves behind.

A live link is left alone, down to the wire.  Otherwise the port is vacated, and there is exactly
one attempt to connect, which the record of the wire shows.  Where it fails, the port is vacant and
what was received before is still there to be read; where it works, the link is up over an empty
ring.  The system may still have no thread for the receive loop, and then the new stream is shut
down again.  No opening counts anything.

There is one lemma for each of these four ends (`openThreaded_of_live`,
`Coherent.openThreaded_of_turnedDown`, `openThreaded_of_connected`, `openThreaded_of_unthreaded`);
`openThreaded_of_run` puts them together for a port after any run.
-/

namespace DongleLink

/-- Clearing puts both positions of a ring at its beginning. -/
@[simp] theorem Ring.positions_clear (r : Ring) : r.clear.positions = (0, 0) := rfl

/-- A simulated dongle turns a connection down in its own words. -/
theorem Simulated.connect_ne_alreadyOpen (o : LineOverrides) (settings : Settings) (s : Simulated) :
    (Wire.connect o settings s).1 ≠ .error .alreadyOpen := by
  simp only [Wire.connect, Simulated.connect]
  split <;> simp

/-- A wire with a record connects as the wire that it holds, and the attempt goes on the record. -/
theorem Traced.connect_eq {σ : Type} [Wire σ] {o : LineOverrides} {settings : Settings}
    {t : Traced σ} {result : Except LinkError Unit} {wire : σ}
    (h : Wire.connect o settings t.wire = (result, wire)) :
    Wire.connect o settings t = (result, ⟨wire, t.turns ++ [turnOf o result]⟩) := by
  simp [Wire.connect, h]

namespace Port

open Traced

variable {σ : Type}

/-! ## Live, vacant and fresh ports -/

/- An opening leaves a port in one of three states, whatever it was before: live as it was, vacant,
or fresh. -/

/-- There is a session, and its link is up. -/
def Live (p : Port σ) : Prop := p.session.isSome = true ∧ p.inbox.linkUp = true

instance (p : Port σ) : Decidable p.Live := inferInstanceAs (Decidable (_ ∧ _))

/-- There is nothing of a session. -/
structure Vacant (p : Port σ) : Prop where
  session_eq : p.session = none
  writer_eq : p.writer = false
  running_eq : p.running = false
  linkUp_eq : p.inbox.linkUp = false

/-- There is a new session, its link is up, and the ring is empty with both positions at its
beginning. -/
structure Fresh (p : Port σ) : Prop where
  session_eq : p.session = some (startedLoop p.settings.chunkSize)
  writer_eq : p.writer = true
  running_eq : p.running = true
  linkUp_eq : p.inbox.linkUp = true
  unread_eq : p.inbox.unread = []
  positions_eq : p.inbox.ring.positions = (0, 0)

theorem Coherent.vacant_of_session {p : Port σ} (h : p.Coherent) (hs : p.session = none) :
    p.Vacant := by
  refine ⟨hs, by rw [h.writer_eq, hs]; rfl, by rw [h.running_eq, hs]; rfl, ?_⟩
  rw [Bool.eq_false_iff, ne_eq, h.linkUp_iff, hs]
  simp

/-- A session is not a matter of the wire. -/
theorem Vacant.rewired {p : Port σ} (h : p.Vacant) (wire : σ) :
    ({ p with wire := wire } : Port σ).Vacant :=
  ⟨h.session_eq, h.writer_eq, h.running_eq, h.linkUp_eq⟩

theorem fresh_attached (wire : σ) (p : Port σ) : (p.attached wire).Fresh :=
  ⟨rfl, rfl, rfl, rfl, Inbox.unread_attach p.inbox, Ring.positions_clear p.inbox.ring⟩

section vacant

variable [Wire σ]

/-- Taking down the stream of a coherent port leaves nothing of a session. -/
theorem Coherent.vacant_teardown {p : Port σ} (h : p.Coherent) : p.teardown.Vacant :=
  h.teardown.vacant_of_session (session_teardown p)

theorem Coherent.vacant_vacated {p : Port σ} (h : p.Coherent) : p.vacated.Vacant :=
  h.vacated.vacant_of_session (session_vacated p)

@[simp] theorem ring_vacated (p : Port σ) : p.vacated.inbox.ring = p.inbox.ring := by
  cases h : p.session <;> simp [vacated, h, Inbox.linkDown]

end vacant

/-! ## The ends of an opening -/

/-- The turn that a port makes before it connects: a session that is there is shut down. -/
def farewell (p : Port σ) : List Turn := if p.session.isSome then [.shutDown] else []

section ends

variable [Wire σ]

theorem turns_vacated (p : Port (Traced σ)) :
    p.vacated.wire.turns = p.wire.turns ++ p.farewell := by
  cases h : p.session <;> simp [vacated, farewell, wire_teardown, h]

/-- A live link is left alone, whatever threads there are. -/
theorem openThreaded_of_live {p : Port σ} (h : p.Live) (thread : Except IoFault Unit)
    (o : LineOverrides) : p.openThreaded thread o = (.error .alreadyOpen, p) := by
  obtain ⟨-, -, heq⟩ | ⟨hs | hl, -⟩ := openWith_cases o p
  · simp only [openThreaded, heq]
  · simp [Live, hs] at h
  · simp [Live, hl] at h

/-- A port whose link is not live is vacated and connects, once. -/
theorem openWith_of_not_live {p : Port (Traced σ)} (h : ¬ p.Live) {o : LineOverrides}
    {result : Except LinkError Unit} {wire : σ}
    (hc : Wire.connect o p.settings p.vacated.wire.wire = (result, wire)) :
    let record : Traced σ := ⟨wire, p.wire.turns ++ p.farewell ++ [turnOf o result]⟩
    p.openWith o =
      match result with
      | .error e => (.error e, { p.vacated with wire := record })
      | .ok () => (.ok (), p.vacated.attached record) := by
  have hrecord := Traced.connect_eq hc
  rw [turns_vacated] at hrecord
  obtain ⟨hs, hl, -⟩ | ⟨-, ⟨e, w, hcw, heq⟩ | ⟨w, hcw, heq⟩⟩ := openWith_cases o p
  · exact absurd ⟨hs, hl⟩ h
  · rw [hrecord] at hcw
    cases hcw
    exact heq
  · rw [hrecord] at hcw
    cases hcw
    exact heq

variable {p : Port (Traced σ)} {o : LineOverrides} {wire : σ}

/-- A connection that is turned down leaves a vacant port with its ring as it was. -/
theorem Coherent.openThreaded_of_turnedDown (h : p.Coherent) (hlive : ¬ p.Live) {e : LinkError}
    (hc : Wire.connect o p.settings p.vacated.wire.wire = (.error e, wire))
    (thread : Except IoFault Unit) :
    let after := (p.openThreaded thread o).2
    (p.openThreaded thread o).1 = .error e ∧ after.Vacant ∧
      after.inbox.ring = p.inbox.ring ∧
      after.wire = ⟨wire, p.wire.turns ++ p.farewell ++ [.turnedDown o]⟩ := by
  let record : Traced σ := ⟨wire, p.wire.turns ++ p.farewell ++ [.turnedDown o]⟩
  have heq : p.openThreaded thread o = (.error e, { p.vacated with wire := record }) := by
    simp only [Port.openThreaded, openWith_of_not_live hlive hc, turnOf, record]
  rw [heq]
  exact ⟨rfl, h.vacant_vacated.rewired record, ring_vacated p, rfl⟩

/-- A connection that is made starts a fresh session. -/
theorem openThreaded_of_connected (hlive : ¬ p.Live)
    (hc : Wire.connect o p.settings p.vacated.wire.wire = (.ok (), wire)) :
    let after := (p.openThreaded (.ok ()) o).2
    (p.openThreaded (.ok ()) o).1 = .ok () ∧ after.Fresh ∧
      after.wire = ⟨wire, p.wire.turns ++ p.farewell ++ [.connected o]⟩ := by
  let record : Traced σ := ⟨wire, p.wire.turns ++ p.farewell ++ [.connected o]⟩
  have heq : p.openThreaded (.ok ()) o = (.ok (), p.vacated.attached record) := by
    simp only [openThreaded, openWith_of_not_live hlive hc, turnOf, record]
  rw [heq]
  exact ⟨rfl, fresh_attached record p.vacated, rfl⟩

/-- Without a thread for its loop, the new stream is taken down again. -/
theorem openThreaded_of_unthreaded (hlive : ¬ p.Live)
    (hc : Wire.connect o p.settings p.vacated.wire.wire = (.ok (), wire)) (fault : IoFault) :
    let after := (p.openThreaded (.error fault) o).2
    (p.openThreaded (.error fault) o).1 = .error (.io fault) ∧ after.Vacant ∧
      after.inbox.unread = [] ∧
      after.wire =
        ⟨Wire.shutdown wire, p.wire.turns ++ p.farewell ++ [.connected o, .shutDown]⟩ := by
  let record : Traced σ := ⟨wire, p.wire.turns ++ p.farewell ++ [.connected o]⟩
  have heq : p.openThreaded (.error fault) o =
      (.error (.io fault), (p.vacated.attached record).teardown) := by
    simp only [openThreaded, openWith_of_not_live hlive hc, turnOf, record]
  rw [heq]
  refine ⟨rfl, (Coherent.attached record p.vacated).vacant_teardown, ?_, ?_⟩
  · rw [inbox_teardown, Inbox.unread_linkDown]
    exact Inbox.unread_attach p.vacated.inbox
  · simp [wire_teardown, attached, record, Wire.shutdown]

/-- A live link, and nothing else, is what a port calls open already, if the wire does not use that
word itself. -/
theorem openThreaded_eq_alreadyOpen_iff
    (hown : (Wire.connect o p.settings p.vacated.wire.wire).1 ≠ .error .alreadyOpen)
    (thread : Except IoFault Unit) :
    (p.openThreaded thread o).1 = .error .alreadyOpen ↔ p.Live := by
  refine ⟨fun hanswer => ?_, fun hlive => congrArg Prod.fst (openThreaded_of_live hlive thread o)⟩
  refine Decidable.byContradiction fun hlive => ?_
  cases hc : Wire.connect o p.settings p.vacated.wire.wire with
  | mk result wire =>
      rw [hc] at hown
      rw [openThreaded, openWith_of_not_live hlive hc] at hanswer
      cases result with
      | error e => exact hown hanswer
      | ok u => cases thread <;> cases hanswer

end ends

/-! ## Opening after any run -/

section run

theorem settings_create {wire : σ} {settings : Settings} {p : Port σ}
    (h : create wire settings = .ok p) : p.settings = settings := by
  obtain ⟨-, -, hcap, rfl⟩ := create_eq_ok_iff.1 h
  rfl

/-- A record changes nothing that hangs together. -/
theorem Coherent.traced {p : Port σ} (h : p.Coherent) : p.traced.Coherent :=
  ⟨h.writer_eq, h.running_eq, h.linkUp_iff, h.dead_iff⟩

variable [Wire σ]

/-- **What opening a port comes to, after any run.**  A live link is left alone with all that the
port holds.  Otherwise there is one attempt to connect, with the overrides that were asked for; its
error is the answer, on a vacant port with the ring as it was, or there is a fresh session, unless
the system has no thread for it.  Nothing is counted.  So a live link, and nothing else, is what a
port calls open already, as long as the wire does not use that word itself. -/
theorem openThreaded_of_run {wire : σ} {settings : Settings} {p : Port σ}
    (h : create wire settings = .ok p) (actions : List (Action σ)) (o : LineOverrides)
    (thread : Except IoFault Unit) :
    let before := p.traced.run (actions.map Action.traced)
    let answer := (before.openThreaded thread o).1
    let after := (before.openThreaded thread o).2
    let connect := Wire.connect o settings before.vacated.wire.wire
    let turns := before.wire.turns ++ before.farewell
    (before.Live → answer = .error .alreadyOpen ∧ after = before) ∧
      (¬ before.Live →
        after.counters = before.counters ∧
          (∀ e, connect.1 = .error e →
            answer = .error e ∧ after.Vacant ∧ after.inbox.ring = before.inbox.ring ∧
              after.wire = ⟨connect.2, turns ++ [.turnedDown o]⟩) ∧
          (connect.1 = .ok () → thread = .ok () →
            answer = .ok () ∧ after.Fresh ∧
              after.wire = ⟨connect.2, turns ++ [.connected o]⟩) ∧
          (∀ fault, connect.1 = .ok () → thread = .error fault →
            answer = .error (.io fault) ∧ after.Vacant ∧ after.inbox.unread = [] ∧
              after.wire = ⟨Wire.shutdown connect.2, turns ++ [.connected o, .shutDown]⟩)) ∧
      ((∀ w : σ, (Wire.connect o settings w).1 ≠ .error .alreadyOpen) →
        (answer = .error .alreadyOpen ↔ before.Live)) := by
  intro before answer after connect turns
  have hcoherent : before.Coherent := (coherent_create h).traced.run _
  have hsettings : before.settings = settings :=
    (settings_run p.traced _).trans (show p.settings = settings from settings_create h)
  have hconnect : ∀ result, connect.1 = result →
      Wire.connect o before.settings before.vacated.wire.wire = (result, connect.2) := by
    rintro _ rfl
    rw [hsettings]
  refine ⟨fun hlive => ?_, fun hlive => ⟨counters_openThreaded thread o before, ?_, ?_, ?_⟩,
    fun hown => ?_⟩
  · have heq := openThreaded_of_live hlive thread o
    exact ⟨congrArg Prod.fst heq, congrArg Prod.snd heq⟩
  · exact fun e he => hcoherent.openThreaded_of_turnedDown hlive (hconnect _ he) thread
  · rintro hok rfl
    exact openThreaded_of_connected hlive (hconnect _ hok)
  · rintro fault hok rfl
    exact openThreaded_of_unthreaded hlive (hconnect _ hok) fault
  · refine openThreaded_eq_alreadyOpen_iff ?_ thread
    rw [hsettings]
    exact hown before.vacated.wire.wire

end run

/-- A dongle hangs up with a byte unread, and will turn the next connection down. -/
def deadLink : List (Action Simulated) :=
  [.openWith {}, .hear (.data [7]), .hear .ended,
    .onWire (Simulated.Control.turnDown .refused).apply]

/-- The refusal is the answer to an opening; the dead session is shut down, and its byte can still
be read. -/
theorem openThreaded_of_deadLink :
    ∃ p, create ({ name := "MOCK0" } : Simulated) {} = .ok p ∧
      let before := p.traced.run (deadLink.map Action.traced)
      let after := (before.openThreaded (.ok ()) { baud := some 9600 }).2
      let answer := (before.openThreaded (.ok ()) { baud := some 9600 }).1
      (before.session = some .ended ∧ ¬ before.Live) ∧ answer = .error (.refused "MOCK0") ∧
        after.Vacant ∧ after.inbox.unread = [7] ∧
        after.wire.turns = [.connected {}, .shutDown, .turnedDown { baud := some 9600 }] ∧
        (answer = .error .alreadyOpen ↔ before.Live) := by
  have h : create ({ name := "MOCK0" } : Simulated) {} = .ok _ := rfl
  obtain ⟨-, hdead, hiff⟩ := openThreaded_of_run h deadLink { baud := some 9600 } (.ok ())
  obtain ⟨hanswer, hvacant, hring, hwire⟩ := (hdead (by decide)).2.1 (.refused "MOCK0") rfl
  refine ⟨_, h, by decide, hanswer, hvacant, ?_, congrArg Traced.turns hwire,
    hiff (Simulated.connect_ne_alreadyOpen _ _)⟩
  exact (congrArg Ring.toList hring).trans (by decide)

/-- A dongle hangs up with a byte unread, and would take the next connection. -/
def quietLink : List (Action Simulated) := [.openWith {}, .hear (.data [7]), .hear .ended]

/-- The connection is made, and yet the opening fails, as there is no thread for the loop: the link
is down, there is no session, and the byte cannot be read any more. -/
theorem down_after_connecting :
    ∃ p, create ({ name := "MOCK0" } : Simulated) {} = .ok p ∧
      let before := p.traced.run (quietLink.map Action.traced)
      let opening := before.openThreaded (.error (.system 11)) { baud := some 9600 }
      ¬ before.Live ∧ before.inbox.unread = [7] ∧
        opening.1 = .error (.io (.system 11)) ∧
        opening.2.wire.turns =
          [.connected {}, .shutDown, .connected { baud := some 9600 }, .shutDown] ∧
        opening.2.inbox.linkUp = false ∧ opening.2.session = none ∧
        opening.2.inbox.unread = [] :=
  ⟨_, rfl, by decide, by decide, rfl, rfl, by decide⟩

end Port

end DongleLink

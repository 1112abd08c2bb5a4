import DongleLink.Proofs.Port
import DongleLink.Wire.Simulated
import DongleLink.Wire.Traced

/-!
# DongleLink.Proofs.Lifecycle

Sessions from their connection to their shutdown.  A port has a session exactly as
long as it has a sending half and wants its loop to run; streams are connected and
shut down in turn, and closing leaves none behind.

The link is up as long as the loop of the session has not ended, with one exception:
a loop that cannot have its chunk buffer dies before its first read and never marks
the link down.  `lifecycle_of_run` says exactly when this can be seen.
-/

namespace DongleLink

/-! ## The record of a wire -/

/- How often a stream was connected and shut down is nothing that a port knows.  It is recorded on
the side of the wire, which changes nothing for the port (`run_untraced`). -/

namespace Turn

/-- Whether a stream is live after a turn, if the turn makes a difference to that. -/
def leavesLive : Turn → Option Bool
  | connected _ => some true
  | turnedDown _ => none
  | shutDown => some false

end Turn

namespace Traced

variable {σ : Type}

/-- Something that happens at the far end of a wire does not concern its record. -/
def lift (f : σ → σ) (t : Traced σ) : Traced σ := { t with wire := f t.wire }

/-- The turns that begin or end the life of a stream: `true` for a connection, `false`
for a shutdown. -/
def changes (turns : List Turn) : List Bool := turns.filterMap Turn.leavesLive

/-- Successful connections. -/
def connections (turns : List Turn) : Nat := (changes turns).count true

def shutdowns (turns : List Turn) : Nat := (changes turns).count false

/-- Connection and shutdown `n` times in turn, and one more connection if a stream is
left live. -/
def alternation (n : Nat) (live : Bool) : List Bool :=
  (List.replicate n [true, false]).flatten ++ if live then [true] else []

/-- Streams were connected and shut down in turn. -/
def InTurn (turns : List Turn) (live : Bool) : Prop :=
  ∃ n, changes turns = alternation n live

theorem inTurn_nil : InTurn [] false := ⟨0, rfl⟩

theorem InTurn.connected {turns : List Turn} (h : InTurn turns false) (o : LineOverrides) :
    InTurn (turns ++ [.connected o]) true := by
  obtain ⟨n, h⟩ := h
  refine ⟨n, ?_⟩
  simp only [changes, List.filterMap_append] at h ⊢
  rw [h]
  simp [alternation, Turn.leavesLive]

theorem InTurn.turnedDown {turns : List Turn} {live : Bool} (h : InTurn turns live)
    (o : LineOverrides) : InTurn (turns ++ [.turnedDown o]) live := by
  obtain ⟨n, h⟩ := h
  refine ⟨n, ?_⟩
  simp only [changes, List.filterMap_append] at h ⊢
  rw [h]
  simp [Turn.leavesLive]

theorem InTurn.shutDown {turns : List Turn} (h : InTurn turns true) :
    InTurn (turns ++ [.shutDown]) false := by
  obtain ⟨n, h⟩ := h
  refine ⟨n + 1, ?_⟩
  simp only [changes, List.filterMap_append] at h ⊢
  rw [h]
  simp [alternation, Turn.leavesLive, List.replicate_succ']

/-- There is one connection more than there are shutdowns as long as a stream is live. -/
theorem InTurn.connections_eq {turns : List Turn} {live : Bool} (h : InTurn turns live) :
    connections turns = shutdowns turns + if live then 1 else 0 := by
  obtain ⟨n, h⟩ := h
  rw [connections, shutdowns, h]
  cases live <;> simp [alternation, List.count_flatten, List.map_replicate]

/-! ## What goes on the record -/

section record

variable [Wire σ]

theorem turns_connect (o : LineOverrides) (settings : Settings) (t : Traced σ) :
    (Wire.connect o settings t).2.turns = t.turns ++ [turnOf o (Wire.connect o settings t).1] :=
  rfl

@[simp] theorem turns_shutdown (t : Traced σ) :
    (Wire.shutdown t).turns = t.turns ++ [.shutDown] := rfl

@[simp] theorem turns_write (bytes : List UInt8) (t : Traced σ) :
    (Wire.write bytes t).2.turns = t.turns := rfl

end record

@[simp] theorem turns_lift (f : σ → σ) (t : Traced σ) : (t.lift f).turns = t.turns := rfl

end Traced

namespace Port

open Traced

variable {σ : Type}

/-- A port with a record of its wire, on which there is nothing yet. -/
def traced (p : Port σ) : Port (Traced σ) where
  wire := { wire := p.wire }
  settings := p.settings
  inbox := p.inbox
  running := p.running
  session := p.session
  writer := p.writer
  counters := p.counters

/-- A port without the record. -/
def untraced (p : Port (Traced σ)) : Port σ where
  wire := p.wire.wire
  settings := p.settings
  inbox := p.inbox
  running := p.running
  session := p.session
  writer := p.writer
  counters := p.counters

/-- The same action on a port with a record. -/
def Action.traced : Action σ → Action (Traced σ)
  | .openWith o thread => .openWith o thread
  | .close => .close
  | .purge => .purge
  | .look => .look
  | .write bytes => .write bytes
  | .resume bytes => .resume bytes
  | .hear r => .hear r
  | .onWire f => .onWire (Traced.lift f)

/-- The turns of a port's wire during a run. -/
def turns [Wire σ] (actions : List (Action σ)) (p : Port σ) : List Turn :=
  (p.traced.run (actions.map Action.traced)).wire.turns

/-! ## A record changes nothing -/

section untraced

theorem look_untraced (p : Port (Traced σ)) : p.untraced.look.2 = p.look.2.untraced := by
  cases h : p.inbox.look with
  | mk found inbox => cases found <;> simp [look, untraced, h]

theorem hear_untraced (r : Received) (p : Port (Traced σ)) :
    p.untraced.hear r = (p.hear r).untraced := by
  cases r with
  | data bytes => cases bytes <;> rfl
  | ended => rfl
  | failed fault => cases h : fault.isTransient <;> simp [hear, h, untraced, endLoop]

variable [Wire σ]

theorem teardown_untraced (p : Port (Traced σ)) : p.untraced.teardown = p.teardown.untraced := by
  cases hs : p.session with
  | none => simp [teardown, untraced, hs]
  | some l =>
      simp only [teardown, untraced, hs]
      rfl

theorem attach_untraced (o : LineOverrides) (p : Port (Traced σ)) :
    p.untraced.attach o = ((p.attach o).1, (p.attach o).2.untraced) := by
  cases h : Wire.connect o p.settings p.wire.wire with
  | mk result wire =>
      have hrecord : Wire.connect o p.settings p.wire =
          (result, { wire := wire, turns := p.wire.turns ++ [turnOf o result] }) := by
        simp [Wire.connect, h]
      cases result with
      | error e => simp [attach, untraced, h, hrecord]
      | ok u => simp [attach, untraced, h, hrecord]

theorem openWith_untraced (o : LineOverrides) (p : Port (Traced σ)) :
    p.untraced.openWith o = ((p.openWith o).1, (p.openWith o).2.untraced) := by
  cases hs : p.session with
  | none =>
      have h := attach_untraced o p
      simpa [openWith, untraced, hs] using h
  | some l =>
      cases hl : p.inbox.linkUp with
      | true => simp [openWith, untraced, hs, hl]
      | false =>
          have h := attach_untraced o p.teardown
          rw [← teardown_untraced] at h
          simpa [openWith, untraced, hs, hl] using h

theorem openThreaded_untraced (thread : Except IoFault Unit) (o : LineOverrides)
    (p : Port (Traced σ)) :
    (p.untraced.openThreaded thread o).2 = (p.openThreaded thread o).2.untraced := by
  rw [openThreaded, openThreaded, openWith_untraced]
  rcases p.openWith o with ⟨_ | _, q⟩
  · rfl
  · cases thread with
    | ok _ => rfl
    | error fault => exact teardown_untraced q

theorem transmit_untraced (bytes : List UInt8) (p : Port (Traced σ)) :
    (p.untraced.transmit bytes).2 = (p.transmit bytes).2.untraced := by
  cases h : Wire.write bytes p.wire.wire with
  | mk result wire =>
      have hrecord : Wire.write bytes p.wire = (result, { p.wire with wire := wire }) := by
        simp [Wire.write, h]
      cases result <;> simp [transmit, untraced, h, hrecord, count]

theorem act_untraced (p : Port (Traced σ)) (a : Action σ) :
    p.untraced.act a = (p.act a.traced).untraced := by
  cases a with
  | openWith o thread => exact openThreaded_untraced thread o p
  | close => exact teardown_untraced p
  | purge => rfl
  | look => exact look_untraced p
  | write bytes =>
      have h := transmit_untraced bytes p
      cases hgo : !bytes.isEmpty && p.accepts with
      | true =>
          have hgo' : (!bytes.isEmpty && p.untraced.accepts) = true := hgo
          simpa only [act, Action.traced, hgo, hgo', if_true] using h
      | false =>
          have hgo' : (!bytes.isEmpty && p.untraced.accepts) = false := hgo
          simp only [act, Action.traced, hgo, hgo', Bool.false_eq_true, if_false]
  | resume bytes => exact transmit_untraced bytes p
  | hear r =>
      have h := hear_untraced r p
      cases hlistens : p.listens with
      | true =>
          have hlistens' : p.untraced.listens = true := hlistens
          simpa only [act, Action.traced, hlistens, hlistens', if_true] using h
      | false =>
          have hlistens' : p.untraced.listens = false := hlistens
          simp only [act, Action.traced, hlistens, hlistens', Bool.false_eq_true, if_false]
  | onWire f => rfl

/-- A port with a record goes through the same states as the port without. -/
theorem run_untraced (p : Port (Traced σ)) (actions : List (Action σ)) :
    p.untraced.run actions = (p.run (actions.map Action.traced)).untraced := by
  induction actions generalizing p with
  | nil => rfl
  | cons a actions ih =>
      rw [List.map_cons, run_cons, run_cons, act_untraced, ih]

end untraced

/-! ## What hangs together -/

/-- The parts of a port that tell of its session agree with each other.  The loop of a
session is dead from its start exactly if no chunk buffer can be had. -/
structure Coherent (p : Port σ) : Prop where
  writer_eq : p.writer = p.session.isSome
  running_eq : p.running = p.session.isSome
  linkUp_iff : p.inbox.linkUp = true ↔ p.session = some .reading ∨ p.session = some .dead
  dead_iff : ∀ l, p.session = some l → (l = .dead ↔ largestBlock < p.settings.chunkSize)

/-- A new port is coherent. -/
theorem coherent_create {wire : σ} {settings : Settings} {p : Port σ}
    (h : create wire settings = .ok p) : p.Coherent := by
  obtain ⟨-, -, hcap, rfl⟩ := create_eq_ok_iff.1 h
  constructor <;> simp

namespace Coherent

/-- Nothing hangs together with the wire, the ring or the counters. -/
theorem of_eq {p q : Port σ} (h : p.Coherent) (hs : q.session = p.session)
    (hw : q.writer = p.writer) (hr : q.running = p.running)
    (hl : q.inbox.linkUp = p.inbox.linkUp) (hset : q.settings = p.settings) : q.Coherent := by
  obtain ⟨h1, h2, h3, h4⟩ := h
  constructor
  · rw [hw, hs, h1]
  · rw [hr, hs, h2]
  · rw [hl, hs, h3]
  · rw [hs, hset]
    exact h4

/-- The loop of a coherent port listens exactly if there is one that reads. -/
theorem listens_iff {p : Port σ} (h : p.Coherent) :
    p.listens = true ↔ p.session = some .reading := by
  refine ⟨session_of_listens, fun hs => ?_⟩
  simp [listens, h.running_eq, hs]

theorem endLoop {p : Port σ} (h : p.Coherent) (hl : p.listens = true) : p.endLoop.Coherent := by
  obtain ⟨h1, h2, -, h4⟩ := h
  have hs := session_of_listens hl
  have hsmall : ¬ largestBlock < p.settings.chunkSize := fun hlt =>
    Loop.noConfusion ((h4 _ hs).2 hlt)
  constructor <;> simp [Port.endLoop, Inbox.linkDown, h1, h2, hs, hsmall]

theorem hear {p : Port σ} (h : p.Coherent) (hl : p.listens = true) (r : Received) :
    (p.hear r).Coherent := by
  obtain ⟨bytes, -, -, heq⟩ | ⟨-, heq | heq⟩ := hear_cases r p
  · rw [heq]
    exact h.of_eq rfl rfl rfl rfl rfl
  · rw [heq]
    exact h.endLoop hl
  · rwa [heq]

theorem attached (wire : σ) (p : Port σ) : (p.attached wire).Coherent := by
  by_cases hc : p.settings.chunkSize ≤ largestBlock
  · constructor <;> simp [Port.attached, Inbox.attach, startedLoop, hc]
  · have hlt : largestBlock < p.settings.chunkSize := by omega
    constructor <;> simp [Port.attached, Inbox.attach, startedLoop, hc, hlt]

variable [Wire σ]

theorem transmit {p : Port σ} (h : p.Coherent) (bytes : List UInt8) :
    (p.transmit bytes).2.Coherent :=
  h.of_eq (session_transmit bytes p) (writer_transmit bytes p) (running_transmit bytes p)
    (congrArg Inbox.linkUp (inbox_transmit bytes p)) (settings_transmit bytes p)

theorem teardown {p : Port σ} (h : p.Coherent) : p.teardown.Coherent := by
  have hw : p.teardown.writer = false := by
    rw [writer_teardown, h.writer_eq]
    cases p.session <;> rfl
  constructor <;> simp [hw, Inbox.linkDown]

theorem vacated {p : Port σ} (h : p.Coherent) : p.vacated.Coherent := by
  rw [Port.vacated]
  split
  · exact h.teardown
  · exact h

/-- Opening keeps a port coherent, also where there is no thread for the receive loop. -/
theorem openThreaded {p : Port σ} (h : p.Coherent) (thread : Except IoFault Unit)
    (o : LineOverrides) : (p.openThreaded thread o).2.Coherent := by
  have hopen : (p.openWith o).2.Coherent := by
    obtain ⟨-, -, heq⟩ | ⟨-, ⟨e, wire, -, heq⟩ | ⟨wire, -, heq⟩⟩ := openWith_cases o p
    · rwa [heq]
    · rw [heq]
      exact h.vacated.of_eq rfl rfl rfl rfl rfl
    · rw [heq]
      exact attached wire p.vacated
  obtain heq | ⟨fault, -, -, heq⟩ := openThreaded_cases thread o p
  · rwa [heq]
  · rw [heq]
    exact hopen.teardown

/-- Every action keeps a port coherent. -/
theorem act {p : Port σ} (h : p.Coherent) (a : Action σ) : (p.act a).Coherent := by
  cases a with
  | openWith o thread => exact h.openThreaded thread o
  | close => exact h.teardown
  | purge => exact h.of_eq rfl rfl rfl rfl rfl
  | look =>
      simp only [Port.act]
      obtain ⟨b, inbox, hi, heq⟩ | ⟨-, heq⟩ := p.look_cases
      · have hl : inbox.linkUp = p.inbox.linkUp := Inbox.linkUp_of_look hi
        rw [heq]
        exact h.of_eq rfl rfl rfl hl rfl
      · rwa [heq]
  | write bytes =>
      simp only [Port.act]
      split
      · exact h.transmit bytes
      · exact h
  | resume bytes => exact h.transmit bytes
  | hear r =>
      simp only [Port.act]
      split
      next hl => exact h.hear hl r
      next => exact h
  | onWire f => exact h.of_eq rfl rfl rfl rfl rfl

/-- Every run keeps a port coherent. -/
theorem run {p : Port σ} (h : p.Coherent) (actions : List (Action σ)) :
    (p.run actions).Coherent := by
  induction actions generalizing p with
  | nil => exact h
  | cons a actions ih => exact ih (h.act a)

end Coherent

/-! ## Streams in turn -/

section turns

/-- Streams were connected and shut down in turn if the last one is live exactly as long
as there is a session. -/
def Tidy (p : Port (Traced σ)) : Prop := InTurn p.wire.turns p.session.isSome

theorem Tidy.of_eq {p q : Port (Traced σ)} (h : p.Tidy) (hw : q.wire.turns = p.wire.turns)
    (hs : q.session.isSome = p.session.isSome) : q.Tidy := by
  rw [Tidy, hw, hs]
  exact h

theorem Tidy.hear {p : Port (Traced σ)} (h : p.Tidy) (r : Received) : (p.hear r).Tidy := by
  obtain ⟨bytes, -, -, heq⟩ | ⟨-, heq | heq⟩ := hear_cases r p
  · rw [heq]
    exact h.of_eq rfl rfl
  · rw [heq]
    exact h.of_eq rfl (by simp [endLoop])
  · rwa [heq]

variable [Wire σ]

namespace Tidy

theorem transmit {p : Port (Traced σ)} (h : p.Tidy) (bytes : List UInt8) :
    (p.transmit bytes).2.Tidy :=
  h.of_eq (by simp) (by simp)

/-- Taking a session down shuts its stream down, and no other. -/
theorem teardown {p : Port (Traced σ)} (h : p.Tidy) : InTurn p.teardown.wire.turns false := by
  rw [Tidy] at h
  rw [wire_teardown]
  cases hs : p.session with
  | none => simpa [hs] using h
  | some l =>
      rw [hs] at h
      exact InTurn.shutDown h

theorem vacated {p : Port (Traced σ)} (h : p.Tidy) : InTurn p.vacated.wire.turns false := by
  rw [Port.vacated]
  split
  · exact h.teardown
  next hs =>
    rw [Tidy] at h
    simpa [hs] using h

/-- An opening vacates the port and connects; a stream that gets no thread is shut down again. -/
theorem openThreaded {p : Port (Traced σ)} (h : p.Tidy) (thread : Except IoFault Unit)
    (o : LineOverrides) : (p.openThreaded thread o).2.Tidy := by
  have hopen : (p.openWith o).2.Tidy := by
    have hrecord := turns_connect o p.settings p.vacated.wire
    obtain ⟨-, -, heq⟩ | ⟨-, ⟨e, wire, hc, heq⟩ | ⟨wire, hc, heq⟩⟩ := openWith_cases o p
    · rwa [heq]
    · rw [hc] at hrecord
      rw [heq, Tidy, hrecord, session_vacated]
      exact h.vacated.turnedDown o
    · rw [hc] at hrecord
      rw [heq, Tidy, attached, hrecord]
      exact h.vacated.connected o
  obtain heq | ⟨fault, -, -, heq⟩ := openThreaded_cases thread o p
  · rwa [heq]
  · rw [heq, Tidy, session_teardown]
    exact hopen.teardown

/-- Every action of a recorded port keeps its streams in turn. -/
theorem act {p : Port (Traced σ)} (h : p.Tidy) (a : Action σ) : (p.act a.traced).Tidy := by
  cases a with
  | openWith o thread => exact h.openThreaded thread o
  | close =>
      simp only [Action.traced, Port.act, close, Tidy, session_teardown]
      exact h.teardown
  | purge => exact h.of_eq rfl rfl
  | look =>
      simp only [Action.traced, Port.act]
      obtain ⟨b, inbox, -, heq⟩ | ⟨-, heq⟩ := p.look_cases
      · rw [heq]
        exact h.of_eq rfl rfl
      · rwa [heq]
  | write bytes =>
      simp only [Action.traced, Port.act]
      split
      · exact h.transmit bytes
      · exact h
  | resume bytes => exact h.transmit bytes
  | hear r =>
      simp only [Action.traced, Port.act]
      split
      · exact h.hear r
      · exact h
  | onWire f => exact h.of_eq rfl rfl

/-- Every run of a recorded port keeps its streams in turn. -/
theorem run {p : Port (Traced σ)} (h : p.Tidy) (actions : List (Action σ)) :
    (p.run (actions.map Action.traced)).Tidy := by
  induction actions generalizing p with
  | nil => exact h
  | cons a actions ih => exact ih (h.act a)

end Tidy

/-- The streams of a new port are connected and shut down in turn. -/
theorem inTurn_run {wire : σ} {settings : Settings} {p : Port σ}
    (h : create wire settings = .ok p) (actions : List (Action σ)) :
    InTurn (turns actions p) (p.run actions).session.isSome := by
  have hstart : p.traced.Tidy := by
    obtain ⟨-, -, -, rfl⟩ := create_eq_ok_iff.1 h
    exact inTurn_nil
  have hsession : (p.run actions).session =
      (p.traced.run (actions.map Action.traced)).session :=
    congrArg Port.session (run_untraced p.traced actions)
  rw [hsession]
  exact hstart.run actions

/-- **The life of a port's sessions.**  After every run of a new port: there is a sending
half, and the loop is wanted, exactly if there is a session; the link is up exactly if
the session's loop reads, unless there is a session without a chunk buffer; streams were
connected and shut down in turn, the last one being live exactly if there is a session;
and none is live once the port is closed. -/
theorem lifecycle_of_run {wire : σ} {settings : Settings} {p : Port σ}
    (h : create wire settings = .ok p) (actions : List (Action σ)) :
    ((p.run actions).writer = (p.run actions).session.isSome ∧
        (p.run actions).running = (p.run actions).session.isSome) ∧
      (((p.run actions).inbox.linkUp = true ↔ (p.run actions).session = some .reading) ↔
        settings.chunkSize ≤ largestBlock ∨ (p.run actions).session = none) ∧
      InTurn (turns actions p) (p.run actions).session.isSome ∧
      connections (turns actions p) =
        shutdowns (turns actions p) + (if (p.run actions).session.isSome then 1 else 0) ∧
      connections (turns (actions ++ [.close]) p) = shutdowns (turns (actions ++ [.close]) p) := by
  obtain ⟨hwriter, hrunning, hlink, hdead⟩ := (coherent_create h).run actions
  have hsettings : (p.run actions).settings = settings := by
    obtain ⟨-, -, -, rfl⟩ := create_eq_ok_iff.1 h
    exact settings_run _ actions
  rw [hsettings] at hdead
  have hinTurn := inTurn_run h actions
  have hclosed : (p.run (actions ++ [.close])).session = none := by
    rw [run_append]
    exact session_teardown (p.run actions)
  refine ⟨⟨hwriter, hrunning⟩, ?_, hinTurn, hinTurn.connections_eq, ?_⟩
  · rw [hlink]
    cases hs : (p.run actions).session with
    | none => simp
    | some l =>
        -- the two conditions differ at a dead loop only
        have hl := hdead l hs
        cases l with
        | dead => simp [hl.1 rfl]
        | reading => simpa using hl
        | ended => simpa using hl
  · have hbalance := (inTurn_run h (actions ++ [.close])).connections_eq
    rw [hclosed] at hbalance
    exact hbalance

end turns

/-- A loop whose chunk buffer is larger than one block of memory is dead from its start,
and the link stays up. -/
theorem linkUp_of_dead_loop :
    ∃ p, create ({ name := "MOCK0" } : Simulated) { chunkSize := 9223372036854775808 } = .ok p ∧
      (p.run [.openWith {}]).session = some .dead ∧
      ¬ ((p.run [.openWith {}]).inbox.linkUp = true ↔
        (p.run [.openWith {}]).session = some .reading) :=
  ⟨_, rfl, by decide, by decide⟩

/-- A dongle hangs up, a new attempt to connect is turned down, and one more works. -/
def hangUp : List (Action Simulated) :=
  [.openWith {}, .hear .ended, .onWire (Simulated.Control.turnDown .refused).apply,
    .openWith {}, .openWith {}]

theorem lifecycle_of_hangUp :
    ∃ p, create ({ name := "MOCK0" } : Simulated) {} = .ok p ∧
      (p.run hangUp).session = some .reading ∧
      turns hangUp p = [.connected {}, .shutDown, .turnedDown {}, .connected {}] ∧
      (p.run hangUp).running = true := by
  have h : create ({ name := "MOCK0" } : Simulated) {} = .ok _ := rfl
  exact ⟨_, h, by decide, by decide, (lifecycle_of_run h hangUp).1.2.trans (by decide)⟩

end Port

end DongleLink

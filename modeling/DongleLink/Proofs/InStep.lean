import DongleLink.Proofs.InUse
import DongleLink.Proofs.Lifecycle
import DongleLink.Proofs.Simulated

/-!
# DongleLink.Proofs.InStep

A port and the simulated dongle at the other end of its wire each keep flags about the same
stream.  `InStep` says what holds of both whatever is being done: it is kept by every operation
of the port, and from there by every event (`InUse.InStep.happen`).
-/

namespace DongleLink

variable {settings : Settings} {opens : List LineOverrides}

namespace Port

/-- The dongle's record is that of the openings that connected; the stream is shut exactly if
there was one and there is no session; and a loop has ended only because the dongle hung up. -/
structure InStep (settings : Settings) (opens : List LineOverrides) (p : Port Simulated) :
    Prop where
  coherent : p.Coherent
  settings_eq : p.settings = settings
  connects_eq : p.wire.connects = opens.length
  last_eq : p.wire.lastOverrides = opens.getLast?
  opened_of_session : p.session ≠ none → opens ≠ []
  shut_iff : p.wire.shut = true ↔ opens ≠ [] ∧ p.session = none
  hungUp_of_ended : p.session = some .ended → p.wire.hungUp = true

theorem inStep_create {name : String} {echo : Bool} {p : Port Simulated}
    (h : create { name := name, echo := echo } settings = .ok p) : p.InStep settings [] := by
  have hcoherent := coherent_create h
  obtain ⟨-, -, hcap, hp⟩ := create_eq_ok_iff.1 h
  subst hp
  exact
    { coherent := hcoherent
      settings_eq := rfl
      connects_eq := rfl
      last_eq := rfl
      opened_of_session := by simp
      shut_iff := by simp
      hungUp_of_ended := by simp }

namespace InStep

/-- Port and dongle stay in step while the session and the record stay. -/
theorem kept {p q : Port Simulated} (h : p.InStep settings opens) (hq : q.Coherent)
    (hsession : q.session = p.session) (hsettings : q.settings = p.settings)
    (hwire : p.wire.Keeps q.wire) : q.InStep settings opens where
  coherent := hq
  settings_eq := hsettings.trans h.settings_eq
  connects_eq := hwire.connects_eq.trans h.connects_eq
  last_eq := hwire.last_eq.trans h.last_eq
  opened_of_session := by rw [hsession]; exact h.opened_of_session
  shut_iff := by rw [hsession, hwire.shut_eq]; exact h.shut_iff
  hungUp_of_ended := by
    rw [hsession]
    exact fun hended => hwire.hungUp_of_hungUp (h.hungUp_of_ended hended)

theorem onWire {p : Port Simulated} (h : p.InStep settings opens) {wire : Simulated}
    (hwire : p.wire.Keeps wire) :
    ({ p with wire := wire } : Port Simulated).InStep settings opens :=
  h.kept (h.coherent.of_eq rfl rfl rfl rfl rfl) rfl rfl hwire

theorem purge {p : Port Simulated} (h : p.InStep settings opens) :
    p.purge.InStep settings opens :=
  h.kept (h.coherent.act .purge) rfl rfl (.refl p.wire)

theorem look {p : Port Simulated} (h : p.InStep settings opens) :
    p.look.2.InStep settings opens := by
  refine h.kept (h.coherent.act .look) (session_look p) (settings_look p) ?_
  rw [wire_look]
  exact .refl p.wire

theorem transmit {p : Port Simulated} (h : p.InStep settings opens) (bytes : List UInt8) :
    (p.transmit bytes).2.InStep settings opens := by
  have hwire : p.wire.Keeps (p.transmit bytes).2.wire := by
    rw [wire_transmit]
    exact p.wire.keeps_write bytes
  exact h.kept (h.coherent.transmit bytes) (session_transmit bytes p) (settings_transmit bytes p)
    hwire

/-- A loop that reads stores what came, or goes on, or ends because the dongle hung up: the
stream is not shut as long as there is a session. -/
theorem hear {p : Port Simulated} (h : p.InStep settings opens) (hchunk : 1 ≤ settings.chunkSize)
    (hlistens : p.listens = true) :
    let read := Wire.readChunk p.settings.chunkSize p.wire
    ({ p with wire := read.2 }.hear read.1).InStep settings opens := by
  have hread := h.onWire (p.wire.keeps_readChunk p.settings.chunkSize)
  have hcoherent := hread.coherent.hear hlistens (Wire.readChunk p.settings.chunkSize p.wire).1
  dsimp only
  obtain ⟨b, bytes, heq, -⟩ | ⟨-, hover, heq⟩ | ⟨-, -, heq⟩ :=
    p.wire.readChunk_cases (h.settings_eq ▸ hchunk)
  · rw [heq] at hread hcoherent ⊢
    exact hread.kept hcoherent rfl rfl (.refl _)
  · -- the stream is over, and not because the port shut it down
    have hsession := session_of_listens hlistens
    have hlive : p.wire.shut = false := by simpa [hsession] using h.shut_iff
    have hhungUp : p.wire.hungUp = true := by simpa [Simulated.isOver, hlive] using hover
    rw [heq] at hcoherent ⊢
    exact
      { coherent := hcoherent
        settings_eq := h.settings_eq
        connects_eq := h.connects_eq
        last_eq := h.last_eq
        opened_of_session := fun _ => h.opened_of_session (by simp [hsession])
        shut_iff := by simp [Port.hear, endLoop, hsession, hlive]
        hungUp_of_ended := fun _ => hhungUp }
  · rw [heq] at hread ⊢
    exact hread

theorem teardown {p : Port Simulated} (h : p.InStep settings opens) :
    p.teardown.InStep settings opens := by
  have hcoherent := h.coherent.teardown
  cases hsession : p.session with
  | none =>
      refine h.kept hcoherent ?_ (settings_teardown p) ?_
      · rw [session_teardown, hsession]
      · rw [wire_teardown, hsession]
        exact .refl p.wire
  | some l =>
      have hopens : opens ≠ [] := h.opened_of_session (by simp [hsession])
      have hwire : p.teardown.wire = { p.wire with shut := true } := by
        rw [wire_teardown, hsession]
        rfl
      exact
        { coherent := hcoherent
          settings_eq := (settings_teardown p).trans h.settings_eq
          connects_eq := by rw [hwire]; exact h.connects_eq
          last_eq := by rw [hwire]; exact h.last_eq
          opened_of_session := fun _ => hopens
          shut_iff := by simp [hwire, hopens]
          hungUp_of_ended := by simp }

/-- A port connects, and that is recorded if it works. -/
theorem attach {p : Port Simulated} (h : p.InStep settings opens) (o : LineOverrides) :
    (p.attach o).2.InStep settings (opens ++ InUse.openedBy o (p.attach o).1) := by
  obtain ⟨e, hne, hc⟩ | hc := p.wire.connect_cases o p.settings
  · have heq : p.attach o = (.error e, { p with wire := { p.wire with turnDown := none } }) := by
      rw [Port.attach, hc]
    have hnothing : InUse.openedBy o (.error e) = [] := by
      cases e with
      | io fault => exact absurd rfl (hne fault)
      | _ => rfl
    rw [heq, hnothing, List.append_nil]
    exact h.onWire ⟨rfl, rfl, rfl, id⟩
  · obtain ⟨e, wire, hc', -⟩ | ⟨wire, hc', heq⟩ := attach_cases o p
    · cases hc.symm.trans hc'
    · obtain rfl := congrArg Prod.snd (hc.symm.trans hc')
      rw [heq]
      exact
        { coherent := .attached _ p
          settings_eq := h.settings_eq
          connects_eq := by simp [attached, InUse.openedBy, h.connects_eq]
          last_eq := by simp [attached, InUse.openedBy]
          opened_of_session := by simp [InUse.openedBy]
          shut_iff := by simp [attached]
          hungUp_of_ended := by
            simp only [attached, startedLoop]
            split <;> simp }

end InStep

end Port

namespace InUse

/-- The port is in step with the dongle, and so are the calls that wait: a write is held up
only while there is a session, and the dongle counts it. -/
structure InStep (settings : Settings) (opens : List LineOverrides) (u : InUse Simulated) :
    Prop where
  port : u.port.InStep settings opens
  session_of_held : u.held ≠ none → u.port.session ≠ none
  blocked_eq : u.port.wire.blocked = if u.held.isSome then 1 else 0

/-- A new port, on which no call waits, is in step with a new dongle. -/
theorem inStep_create {name : String} {echo : Bool} {p : Port Simulated}
    (h : Port.create { name := name, echo := echo } settings = .ok p) :
    ({ port := p } : InUse Simulated).InStep settings [] := by
  have hport := Port.inStep_create h
  obtain ⟨-, -, hcap, hp⟩ := Port.create_eq_ok_iff.1 h
  subst hp
  exact ⟨hport, by simp, rfl⟩

namespace InStep

variable {u : InUse Simulated}

theorem append_nil (h : u.InStep settings opens) : u.InStep settings (opens ++ []) := by
  rwa [List.append_nil]

/-- The held write gives its place up, be there a session or not. -/
theorem finishHeld (hport : u.port.InStep settings opens)
    (hblocked : u.port.wire.blocked = if u.held.isSome then 1 else 0) :
    u.finishHeld.InStep settings opens ∧ u.finishHeld.held = none ∧
      u.finishHeld.port.session = u.port.session := by
  rw [InUse.finishHeld]
  cases hheld : u.held with
  | none => exact ⟨⟨hport, by simp [hheld], hblocked⟩, hheld, rfl⟩
  | some bytes =>
      have hfree := hport.onWire u.port.wire.keeps_unpark
      refine ⟨⟨hfree.transmit bytes, by simp, ?_⟩, rfl, Port.session_transmit bytes _⟩
      rw [hheld] at hblocked
      simp [Wire.unpark, Simulated.unpark, hblocked]

theorem takeDown (h : u.InStep settings opens) :
    u.takeDown.InStep settings opens ∧ u.takeDown.held = none ∧ u.takeDown.port.session = none := by
  have hblocked : u.port.teardown.wire.blocked = if u.held.isSome then 1 else 0 := by
    rw [Port.wire_teardown, ← h.blocked_eq]
    split <;> rfl
  obtain ⟨hstep, hheld, hsession⟩ :=
    finishHeld (u := { u with port := u.port.teardown }) h.port.teardown hblocked
  exact ⟨hstep, hheld, hsession.trans (Port.session_teardown u.port)⟩

/-- No write is held up where there is no session. -/
theorem held_of_session (h : u.InStep settings opens) (hsession : u.port.session = none) :
    u.held = none := by
  cases hheld : u.held with
  | none => rfl
  | some bytes => exact absurd hsession (h.session_of_held (by simp [hheld]))

theorem attach (h : u.InStep settings opens) (hsession : u.port.session = none)
    (o : LineOverrides) :
    (u.attach o).2.InStep settings (opens ++ openedBy o (u.attach o).1) := by
  have hheld := h.held_of_session hsession
  refine ⟨h.port.attach o, fun hne => absurd hheld hne, ?_⟩
  have hblocked := Simulated.blocked_connect o u.port.settings u.port.wire
  rw [← Port.wire_attach] at hblocked
  exact hblocked.trans h.blocked_eq

theorem openAlone (h : u.InStep settings opens) (o : LineOverrides) :
    (u.openAlone o).2.InStep settings (opens ++ openedBy o (u.openAlone o).1) := by
  rw [InUse.openAlone]
  split
  next hsession => exact h.attach hsession o
  next l hsession =>
  split
  · exact h.append_nil
  · exact h.takeDown.1.attach h.takeDown.2.2 o

/-- No write is held up by a stream that was attached just now. -/
theorem held_openAlone (h : u.InStep settings opens) {o : LineOverrides}
    (hok : (u.openAlone o).1 = .ok ()) : (u.openAlone o).2.held = none := by
  unfold InUse.openAlone at hok ⊢
  split
  next hsession => exact h.held_of_session hsession
  next l hsession =>
    split
    next hup => simp [hsession, hup] at hok
    next => exact h.takeDown.2.1

/-- An opening that gets no thread had connected, and that is recorded. -/
theorem openThreadedAlone (h : u.InStep settings opens) (thread : Except IoFault Unit)
    (o : LineOverrides) :
    (u.openThreadedAlone thread o).2.InStep settings
      (opens ++ openedBy o (u.openThreadedAlone thread o).1) := by
  have hopen := h.openAlone o
  obtain heq | ⟨fault, -, hok, heq⟩ := openThreadedAlone_cases thread o u
  · rwa [heq]
  · have hheld := h.held_openAlone hok
    have hblocked : (u.openAlone o).2.port.teardown.wire.blocked =
        (u.openAlone o).2.port.wire.blocked := by
      rw [Port.wire_teardown]
      split <;> rfl
    rw [hok] at hopen
    rw [heq]
    exact ⟨hopen.port.teardown, fun hne => absurd hheld hne, hblocked.trans hopen.blocked_eq⟩

theorem tryWrite (h : u.InStep settings opens) (hheld : u.held = none) (bytes : List UInt8) :
    (u.tryWrite bytes).2.InStep settings opens := by
  rw [InUse.tryWrite]
  split
  · exact h
  next haccepts =>
  have hsession : u.port.session ≠ none := by
    have hwriter : u.port.writer = true := by
      simp only [Port.accepts, Bool.not_eq_true', Bool.not_eq_false, Bool.and_eq_true] at haccepts
      exact haccepts.1
    rw [h.port.coherent.writer_eq] at hwriter
    exact fun hnone => by simp [hnone] at hwriter
  split
  · refine ⟨h.port.onWire u.port.wire.keeps_park, fun _ => hsession, ?_⟩
    have hblocked := h.blocked_eq
    rw [hheld] at hblocked
    simp [Wire.park, Simulated.park, hblocked]
  · refine ⟨h.port.transmit bytes, fun hne => absurd hheld hne, ?_⟩
    simpa using h.blocked_eq

theorem look (h : u.InStep settings opens) (n : Nat) :
    ({ u with port := u.port.look.2, readers := n } : InUse Simulated).InStep settings opens :=
  ⟨h.port.look, by simpa using h.session_of_held, by simpa using h.blocked_eq⟩

theorem read (h : u.InStep settings opens) (patience : Patience) :
    (u.read patience).2.InStep settings opens := by
  have hlook := h.look u.readers
  simp only [InUse.read]
  split
  next b port heq => rwa [heq] at hlook
  next => exact h
  next =>
    cases patience with
    | brief => exact h
    | unlimited => exact ⟨h.port, h.session_of_held, h.blocked_eq⟩

/-- A call that is carried out alone keeps port and dongle in step. -/
theorem receive (h : u.InStep settings opens) (c : Call) :
    (u.receive c).InStep settings (opens ++ opened (.call c) u) := by
  cases c with
  | openWith o thread => exact h.openThreadedAlone thread o
  | close => exact h.takeDown.1.append_nil
  | purge => exact append_nil ⟨h.port.purge, h.session_of_held, h.blocked_eq⟩
  | write bytes =>
      apply append_nil
      rw [InUse.receive]
      split
      · exact h
      · exact ⟨h.port, h.session_of_held, h.blocked_eq⟩
  | read patience => exact (h.read patience).append_nil
  | control c =>
      have hblocked := (u.port.wire.blocked_control c).trans h.blocked_eq
      exact append_nil ⟨h.port.onWire (u.port.wire.keeps_control c), h.session_of_held, hblocked⟩

/-- A piece of work keeps port and dongle in step. -/
theorem perform {t : Task} {v : InUse Simulated} (hchunk : 1 ≤ settings.chunkSize)
    (h : u.InStep settings opens) (ht : InUse.perform t u = some v) : v.InStep settings opens := by
  cases t with
  | hear =>
      simp only [InUse.perform] at ht
      split at ht
      next hlistens =>
        cases ht
        refine ⟨h.port.hear hchunk (Bool.and_eq_true _ _ ▸ hlistens).1, ?_, ?_⟩
        · intro hheld hnone
          have hnone' := (Port.session_hear_eq_none_iff _ _).1 hnone
          exact h.session_of_held hheld hnone'
        · have hblocked : u.heard.port.wire.blocked = u.port.wire.blocked := by simp [heard]
          exact hblocked.trans h.blocked_eq
      next => cases ht
  | serve =>
      rw [eq_of_perform_serve ht]
      exact h.look (u.readers - 1)
  | resume =>
      simp only [InUse.perform] at ht
      split at ht
      · cases ht
        exact (finishHeld h.port h.blocked_eq).1
      · cases ht
  | turn i =>
      simp only [InUse.perform] at ht
      split at ht
      next hheld _ =>
        cases ht
        exact tryWrite (u := { u with queued := u.queued.eraseIdx i })
          ⟨h.port, h.session_of_held, h.blocked_eq⟩ hheld _
      · cases ht

/-- **Every event keeps port and dongle in step.** -/
theorem happen {e : Event} {v : InUse Simulated} (hchunk : 1 ≤ settings.chunkSize)
    (h : u.InStep settings opens) (he : InUse.happen e u = some v) :
    v.InStep settings (opens ++ opened e u) := by
  cases e with
  | call c =>
      cases he
      exact h.receive c
  | task t => exact (h.perform hchunk he).append_nil
  | expire =>
      simp only [InUse.happen] at he
      split at he
      · cases he
      · cases he
        exact (h.look (u.readers - 1)).append_nil

end InStep

end InUse

end DongleLink

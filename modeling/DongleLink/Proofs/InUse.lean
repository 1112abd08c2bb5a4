import DongleLink.Port.InUse.Event
import DongleLink.Proofs.Port

/-!
# DongleLink.Proofs.InUse

A port in use does nothing to its port that users, loop and wire could not do one
action at a time.  What is run after a call is work that could be done piece by piece
(`leads_settle`), and each piece is some actions; so whatever readers wait and whatever
writes are held up, the port after a run of calls is the port after a run of actions
(`reaches_run`).  What holds of every run of a port holds of every port in use, whose
calls are carried out together with all that they set free.
-/

namespace DongleLink

variable {σ : Type} [Wire σ]

/-! ## Coming from one port to another -/

/-- Some actions lead from one port to the other. -/
def Port.Reaches (p q : Port σ) : Prop := ∃ actions, p.run actions = q

namespace Port.Reaches

theorem refl (p : Port σ) : p.Reaches p := ⟨[], rfl⟩

theorem trans {p q r : Port σ} (h : p.Reaches q) (k : q.Reaches r) : p.Reaches r := by
  obtain ⟨first, rfl⟩ := h
  obtain ⟨second, rfl⟩ := k
  exact ⟨first ++ second, p.run_append first second⟩

/-- One action leads somewhere. -/
theorem act (p : Port σ) (a : Port.Action σ) : p.Reaches (p.act a) := ⟨[a], rfl⟩

end Port.Reaches

namespace InUse

open Port

/-! ## One piece of work -/

theorem reaches_tryWrite (bytes : List UInt8) (u : InUse σ) :
    u.port.Reaches (u.tryWrite bytes).2.port := by
  rw [tryWrite]
  split
  · exact .refl u.port
  · split
    · exact .act u.port (.onWire Wire.park)
    · exact .act u.port (.resume bytes)

/-- The write had its turn when it was held up, so it goes on without being asked again. -/
theorem reaches_finishHeld (u : InUse σ) : u.port.Reaches u.finishHeld.port := by
  rw [finishHeld]
  split
  · exact .refl u.port
  next bytes _ =>
    let free := u.port.act (.onWire Wire.unpark)
    exact (Reaches.act u.port (.onWire Wire.unpark)).trans (.act free (.resume bytes))

theorem reaches_look (p : Port σ) : p.Reaches p.look.2 := .act p .look

/-- A loop that listens reads from the wire and hears what that brought. -/
theorem reaches_hear {p : Port σ} (h : p.listens = true) (n : Nat) :
    let read := Wire.readChunk n p.wire
    p.Reaches ({ p with wire := read.2 }.hear read.1) := by
  refine ⟨[.onWire fun w => (Wire.readChunk n w).2, .hear (Wire.readChunk n p.wire).1], ?_⟩
  have hlistens : ({ p with wire := (Wire.readChunk n p.wire).2 } : Port σ).listens = true := h
  simp only [run_cons, run_nil, Port.act, hlistens, if_true]

/-- A reader that looks waits no more. -/
theorem eq_of_perform_serve {u v : InUse σ} (h : perform .serve u = some v) :
    v = { u with port := u.port.look.2, readers := u.readers - 1 } := by
  simp only [perform] at h
  split at h
  · cases h
  · cases h
  next hreaders hlook =>
    cases h
    simp [hreaders, hlook]

/-- A piece of work is some actions on the port. -/
theorem reaches_perform {t : Task} {u v : InUse σ} (h : perform t u = some v) :
    u.port.Reaches v.port := by
  cases t with
  | hear =>
      simp only [perform] at h
      split at h
      next hlistens =>
        cases h
        exact reaches_hear (Bool.and_eq_true _ _ ▸ hlistens).1 u.port.settings.chunkSize
      next => cases h
  | serve =>
      rw [eq_of_perform_serve h]
      exact reaches_look u.port
  | resume =>
      simp only [perform] at h
      split at h
      · cases h
        exact reaches_finishHeld u
      · cases h
  | turn i =>
      simp only [perform] at h
      split at h
      · cases h
        exact reaches_tryWrite _ { u with queued := u.queued.eraseIdx i }
      · cases h

/-! ## Work piece by piece -/

/-- Some pieces of work lead from one port in use to the other. -/
def Leads (u v : InUse σ) : Prop := ∃ tasks, course perform tasks u = some v

namespace Leads

theorem refl (u : InUse σ) : Leads u u := ⟨[], rfl⟩

theorem trans {u v w : InUse σ} (h : Leads u v) (k : Leads v w) : Leads u w := by
  obtain ⟨first, h⟩ := h
  obtain ⟨second, k⟩ := k
  exact ⟨first ++ second, course_append_eq_some.2 ⟨v, h, k⟩⟩

theorem perform {u v : InUse σ} {t : Task} (h : InUse.perform t u = some v) : Leads u v :=
  ⟨[t], course_cons_eq_some.2 ⟨v, h, rfl⟩⟩

theorem reaches {u v : InUse σ} (h : Leads u v) : u.port.Reaches v.port := by
  obtain ⟨tasks, h⟩ := h
  exact course_keeps (P := fun w => u.port.Reaches w.port)
    (fun _ _ _ hw hstep => hw.trans (reaches_perform hstep)) (.refl u.port) h

theorem settings_eq {u v : InUse σ} (h : Leads u v) : v.port.settings = u.port.settings := by
  obtain ⟨actions, hrun⟩ := h.reaches
  rw [← hrun, settings_run]

end Leads

/-! ### Writes -/

/-- A write that has its turn does not look at those behind it. -/
theorem tryWrite_queued (bytes : List UInt8) (writes : List (List UInt8)) (u : InUse σ) :
    (({ u with queued := writes } : InUse σ).tryWrite bytes).2 =
      { (u.tryWrite bytes).2 with queued := writes } := by
  simp only [tryWrite]
  split
  · rfl
  · split <;> rfl

theorem queued_tryWrite (bytes : List UInt8) (u : InUse σ) :
    (u.tryWrite bytes).2.queued = u.queued := by
  have h := tryWrite_queued bytes u.queued u
  rw [h]

/-- The waiting writes have their turns in order. -/
theorem leads_serveQueued (writes : List (List UInt8)) {u : InUse σ} (hheld : u.held = none) :
    Leads { u with queued := writes } (serveQueued writes u).2 := by
  induction writes generalizing u with
  | nil => exact .refl _
  | cons bytes writes ih =>
      have hturn : perform (.turn 0) { u with queued := bytes :: writes } =
          some { (u.tryWrite bytes).2 with queued := writes } := by
        simp [perform, hheld, ← tryWrite_queued]
      rw [serveQueued]
      split
      next ended v h =>
      rw [h] at hturn
      refine (Leads.perform hturn).trans ?_
      split
      · exact .refl _
      next hfree => exact ih (by simpa using hfree)

/-- The held write is finished, and those behind it have their turns. -/
theorem leads_of_finishHeld {u : InUse σ}
    (hfree : u.held.isSome = true → Wire.holds u.port.wire = false) :
    Leads u.finishHeld u.serveWriters.2 := by
  rw [finishHeld, serveWriters]
  cases hheld : u.held with
  | none => exact .refl u
  | some bytes =>
      let free := { u.port with wire := Wire.unpark u.port.wire }
      have hserve := leads_serveQueued u.queued
        (u := { u with port := (free.transmit bytes).2, held := none }) rfl
      simpa only [hfree (by simp [hheld]), Bool.false_eq_true, if_false] using hserve

theorem leads_serveWriters (u : InUse σ) : Leads u u.serveWriters.2 := by
  cases hgo : u.held.isSome && !Wire.holds u.port.wire with
  | true =>
      have hresume : perform .resume u = some u.finishHeld := by simp [perform, hgo]
      have hfree : Wire.holds u.port.wire = false := by simp_all
      exact (Leads.perform hresume).trans (leads_of_finishHeld fun _ => hfree)
  | false =>
      rw [serveWriters]
      cases hheld : u.held with
      | none => exact .refl u
      | some bytes =>
          have hholds : Wire.holds u.port.wire = true := by simpa [hheld] using hgo
          simp only [hholds, if_true]
          exact .refl u

/-! ### Readers and the receive loop -/

theorem leads_serveReaders {n : Nat} {u : InUse σ} (hn : u.readers = n) :
    Leads u (serveReaders n u).2 := by
  induction n generalizing u with
  | zero => exact .refl u
  | succ n ih =>
      rw [serveReaders]
      split
      · exact .refl u
      next port hlook =>
        have hserve : perform .serve u = some { u with port := port, readers := n } := by
          simp [perform, hn, hlook]
        exact (Leads.perform hserve).trans (ih rfl)
      next b port hlook =>
        have hserve : perform .serve u = some { u with port := port, readers := n } := by
          simp [perform, hn, hlook]
        exact (Leads.perform hserve).trans (ih rfl)

/-- The loop does not read, or it would find nothing. -/
def LoopRests (u : InUse σ) : Prop := u.port.listens = true → Wire.idle u.port.wire = true

theorem perform_hear {u : InUse σ} (h : ¬ LoopRests u) : perform .hear u = some u.heard := by
  rw [LoopRests, Classical.not_imp] at h
  simp [perform, h]

theorem not_loopRests_of_perform {u v : InUse σ} (h : perform .hear u = some v) :
    ¬ LoopRests u := by
  intro hrests
  simp only [perform, Option.ite_none_right_eq_some, Bool.and_eq_true, Bool.not_eq_true'] at h
  simp [hrests h.1.1] at h

/-- A loop that rests reads no more. -/
theorem listen_of_loopRests {u : InUse σ} (h : LoopRests u) (n : Nat) : listen n u = ([], u) := by
  cases n with
  | zero => rfl
  | succ n =>
      rw [listen, if_pos]
      cases hlistens : u.port.listens with
      | false => rfl
      | true => simp [h hlistens]

/-- A loop that does not rest reads, and the readers look. -/
theorem listen_of_not_loopRests {u : InUse σ} (h : ¬ LoopRests u) (n : Nat) :
    (listen (n + 1) u).2 = (listen n (serveReaders u.heard.readers u.heard).2).2 := by
  rw [LoopRests, Classical.not_imp] at h
  rw [listen, if_neg (by simp [h])]
  rfl

theorem leads_listen (n : Nat) (u : InUse σ) : Leads u (listen n u).2 := by
  induction n generalizing u with
  | zero => exact .refl u
  | succ n ih =>
      by_cases h : LoopRests u
      · rw [listen_of_loopRests h]
        exact .refl u
      · rw [listen_of_not_loopRests h]
        exact (Leads.perform (perform_hear h)).trans ((leads_serveReaders rfl).trans (ih _))

/-- After the writers have been served, readers and loop are. -/
theorem leads_settle_of_serveWriters (u : InUse σ) : Leads u.serveWriters.2 u.settle.2 :=
  let written := u.serveWriters.2
  let served := (serveReaders written.readers written).2
  have hserve : Leads written served := leads_serveReaders rfl
  hserve.trans (leads_listen (Wire.backlog served.port.wire) served)

/-- **Settling is work done piece by piece.** -/
theorem leads_settle (u : InUse σ) : Leads u u.settle.2 :=
  (leads_serveWriters u).trans (leads_settle_of_serveWriters u)

/-! ## Runs -/

theorem reaches_settle (u : InUse σ) : u.port.Reaches u.settle.2.port := (leads_settle u).reaches

theorem reaches_write (bytes : List UInt8) (u : InUse σ) :
    u.port.Reaches (u.write bytes).2.port := by
  rw [write]
  split
  · exact reaches_settle u
  · split
    · exact reaches_settle { u with queued := u.queued ++ [bytes] }
    · exact (reaches_tryWrite bytes u).trans (reaches_settle (u.tryWrite bytes).2)

theorem reaches_read (patience : Patience) (u : InUse σ) :
    u.port.Reaches (u.read patience).2.port := by
  have hlook := reaches_look u.port
  cases h : u.port.look with
  | mk found port =>
      rw [h] at hlook
      cases found with
      | byte b => simpa [read, h] using hlook
      | closed => simpa [read, h] using Reaches.refl u.port
      | empty => cases patience <;> simpa [read, h] using Reaches.refl u.port

/-- A call, with all that it sets free, is some actions on the port. -/
theorem reaches_act (u : InUse σ) (a : Action σ) : u.port.Reaches (u.act a).2.port := by
  cases a with
  | openWith o thread =>
      have hsettle := reaches_settle { u with port := (u.port.openThreaded thread o).2 }
      exact (Reaches.act u.port (.openWith o thread)).trans hsettle
  | close =>
      have hsettle := reaches_settle { u with port := u.port.close }
      exact (Reaches.act u.port .close).trans hsettle
  | purge =>
      have hsettle := reaches_settle { u with port := u.port.purge }
      exact (Reaches.act u.port .purge).trans hsettle
  | write bytes => exact reaches_write bytes u
  | read patience => exact reaches_read patience u
  | onWire f =>
      have hsettle := reaches_settle { u with port.wire := f u.port.wire }
      exact (Reaches.act u.port (.onWire f)).trans hsettle

/-- **The port after a run of calls is the port after a run of actions.** -/
theorem reaches_run (u : InUse σ) (calls : List (Action σ)) :
    u.port.Reaches (run calls u).2.port := by
  induction calls generalizing u with
  | nil => exact .refl u.port
  | cons a calls ih => exact (reaches_act u a).trans (ih (u.act a).2)

/-! ## Calls alone -/

theorem reaches_takeDown (u : InUse σ) : u.port.Reaches u.takeDown.port :=
  (Reaches.act u.port .close).trans (reaches_finishHeld { u with port := u.port.teardown })

/-- Without a session, connecting is all that opening does. -/
theorem reaches_attach {u : InUse σ} (h : u.port.session = none) (o : LineOverrides) :
    u.port.Reaches (u.attach o).2.port := by
  have hopen : u.port.act (.openWith o) = (u.attach o).2.port := by
    simp [Port.act, Port.openWith, h, InUse.attach]
  rw [← hopen]
  exact .act u.port (.openWith o)

theorem session_takeDown (u : InUse σ) : u.takeDown.port.session = none := by
  unfold takeDown finishHeld
  split <;> simp

theorem reaches_openAlone (o : LineOverrides) (u : InUse σ) :
    u.port.Reaches (u.openAlone o).2.port := by
  rw [openAlone]
  split
  next hsession => exact reaches_attach hsession o
  next =>
    split
    · exact .refl u.port
    · exact (reaches_takeDown u).trans (reaches_attach (session_takeDown u) o)

/-- Alone as well, an opening that gets no thread is one that worked, taken back. -/
theorem openThreadedAlone_cases (thread : Except IoFault Unit) (o : LineOverrides) (u : InUse σ) :
    u.openThreadedAlone thread o = u.openAlone o ∨
      ∃ fault, thread = .error fault ∧ (u.openAlone o).1 = .ok () ∧
        u.openThreadedAlone thread o = (.error (.io fault),
          { (u.openAlone o).2 with port := (u.openAlone o).2.port.teardown }) := by
  rw [openThreadedAlone]
  rcases u.openAlone o with ⟨_ | _, v⟩
  · exact .inl rfl
  · cases thread with
    | ok _ => exact .inl rfl
    | error fault => exact .inr ⟨fault, rfl, rfl, rfl⟩

/-- A call that is carried out alone is some actions on the port. -/
theorem reaches_receive (c : Call) (u : InUse Simulated) :
    u.port.Reaches (u.receive c).port := by
  cases c with
  | openWith o thread =>
      have hopen := reaches_openAlone o u
      obtain heq | ⟨fault, -, -, heq⟩ := openThreadedAlone_cases thread o u
      · rwa [receive, heq]
      · rw [receive, heq]
        exact hopen.trans (.act (u.openAlone o).2.port .close)
  | close => exact reaches_takeDown u
  | purge => exact .act u.port .purge
  | write bytes =>
      simp only [receive]
      split <;> exact .refl u.port
  | read patience => exact reaches_read patience u
  | control c => exact .act u.port (.onWire c.apply)

/-- **An event is some actions on the port.** -/
theorem reaches_happen {e : Event} {u v : InUse Simulated} (h : happen e u = some v) :
    u.port.Reaches v.port := by
  cases e with
  | call c =>
      cases h
      exact reaches_receive c u
  | task t => exact reaches_perform h
  | expire =>
      simp only [happen] at h
      split at h
      · cases h
      · cases h
        exact reaches_look u.port

theorem reaches_course {events : List Event} {u v : InUse Simulated}
    (h : course happen events u = some v) : u.port.Reaches v.port :=
  course_keeps (P := fun w => u.port.Reaches w.port)
    (fun _ _ _ hw he => hw.trans (reaches_happen he)) (.refl u.port) h

end InUse

end DongleLink

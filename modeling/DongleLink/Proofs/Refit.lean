import DongleLink.Proofs.Settle
import Mathlib.Data.List.Forall2

/-!
# DongleLink.Proofs.Refit

A port that is refitted: its wire is changed for another, the loop of its session too, and its
chunk size.  If connections, writes and shutdowns go alike on the two wires (`Fits`), then all that
a port does but for the reads of its receive loop goes alike.  So if the loop takes in alike what
there is to be read, every call is told the same before and after the refit (`run_refit`).

* What the loop takes in may be alike only where the refitted port comes to a state of some kind,
  such as one where its loop has caught up.  So `ListensAlike` has a condition on that state, and
  `run_refit` asks for it `Throughout` the run.
* A session is changed as an option, so that a refit that leaves it alone does so by definition.
-/

namespace DongleLink

variable {σ : Type}

/- Two runs are compared by a function from the states of one to those of the other.  All but the
loop's reads goes alike before and after it, so only these need an argument of their own. -/

/-- What a port is changed for: another wire, another loop and another chunk size. -/
structure Refit (σ : Type) where
  wire : σ → σ
  session : Option Loop → Option Loop := id
  chunkSize : Nat

/-- Connections, writes and shutdowns go alike after the change.  There is a session if there was
one, its loop has ended if it had, and a loop that starts with the former chunk size is changed for
one that starts with the new. -/
structure Refit.Fits [Wire σ] (f : Refit σ) (chunkSize : Nat) : Prop where
  connect : ∀ o settings w, Wire.connect o { settings with chunkSize := f.chunkSize } (f.wire w) =
    ((Wire.connect o settings w).1, f.wire (Wire.connect o settings w).2)
  write : ∀ bytes w, Wire.write bytes (f.wire w) =
    ((Wire.write bytes w).1, f.wire (Wire.write bytes w).2)
  shutdown : ∀ w, Wire.shutdown (f.wire w) = f.wire (Wire.shutdown w)
  park : ∀ w, Wire.park (f.wire w) = f.wire (Wire.park w)
  unpark : ∀ w, Wire.unpark (f.wire w) = f.wire (Wire.unpark w)
  holds : ∀ w, Wire.holds (f.wire w) = Wire.holds w
  isSome : ∀ s, (f.session s).isSome = s.isSome
  ended : f.session (some .ended) = some .ended
  started : f.session (some (Port.startedLoop chunkSize)) = some (Port.startedLoop f.chunkSize)

variable {f : Refit σ} {chunk : Nat}

namespace Port

/-- The port after the change. -/
def refit (f : Refit σ) (p : Port σ) : Port σ :=
  { p with
    wire := f.wire p.wire
    session := f.session p.session
    settings := { p.settings with chunkSize := f.chunkSize } }

/-! ## One action -/

theorem look_refit (p : Port σ) : (p.refit f).look = (p.look.1, p.look.2.refit f) := by
  cases h : p.inbox.look with
  | mk found inbox => cases found <;> simp [look, refit, h]

variable [Wire σ] (fits : f.Fits chunk)

include fits

/-- There is a session after the change exactly if there was one before. -/
theorem session_refit_cases (p : Port σ) :
    (p.session = none ∧ (p.refit f).session = none) ∨
      ∃ l l', p.session = some l ∧ (p.refit f).session = some l' := by
  have hsome : (p.refit f).session.isSome = p.session.isSome := fits.isSome p.session
  cases hs : p.session with
  | none => exact .inl ⟨rfl, by simpa [hs] using hsome⟩
  | some l =>
      rw [hs] at hsome
      obtain ⟨l', hl'⟩ := Option.isSome_iff_exists.1 hsome
      exact .inr ⟨l, l', rfl, hl'⟩

theorem endLoop_refit (p : Port σ) : (p.refit f).endLoop = p.endLoop.refit f := by
  have hsession : (p.refit f).session.map (fun _ => Loop.ended) =
      f.session (p.session.map fun _ => .ended) := by
    obtain ⟨hs, hs'⟩ | ⟨l, l', hs, hs'⟩ := session_refit_cases fits p
    · rw [hs', hs]
      exact hs'.symm.trans (congrArg f.session hs)
    · simp [hs, hs', fits.ended]
  simp only [endLoop, hsession]
  rfl

theorem transmit_refit (bytes : List UInt8) (p : Port σ) :
    (p.refit f).transmit bytes = ((p.transmit bytes).1, (p.transmit bytes).2.refit f) := by
  have hwrite : Wire.write bytes (p.refit f).wire =
      ((Wire.write bytes p.wire).1, f.wire (Wire.write bytes p.wire).2) := fits.write bytes p.wire
  simp only [transmit, hwrite]
  cases h : Wire.write bytes p.wire with
  | mk result wire => cases result <;> rfl

theorem teardown_refit (p : Port σ) : (p.refit f).teardown = p.teardown.refit f := by
  have hnone : f.session none = none := by simpa using fits.isSome none
  obtain ⟨hs, hs'⟩ | ⟨l, l', hs, hs'⟩ := session_refit_cases fits p
  · simp only [teardown, hs, hs']
    simp only [refit, hnone]
  · have hshutdown : Wire.shutdown (p.refit f).wire = f.wire (Wire.shutdown p.wire) :=
      fits.shutdown p.wire
    simp only [teardown, hs, hs', hshutdown]
    simp only [refit, hnone]

/-- A stream that is attached gets the loop that goes with the chunk size. -/
theorem attach_refit (o : LineOverrides) {p : Port σ} (hchunk : p.settings.chunkSize = chunk) :
    (p.refit f).attach o = ((p.attach o).1, (p.attach o).2.refit f) := by
  subst hchunk
  have hconnect : Wire.connect o (p.refit f).settings (p.refit f).wire =
      ((Wire.connect o p.settings p.wire).1, f.wire (Wire.connect o p.settings p.wire).2) :=
    fits.connect o p.settings p.wire
  simp only [attach, hconnect]
  cases h : Wire.connect o p.settings p.wire with
  | mk result wire => cases result <;> simp [refit, fits.started]

theorem openWith_refit (o : LineOverrides) {p : Port σ} (hchunk : p.settings.chunkSize = chunk) :
    (p.refit f).openWith o = ((p.openWith o).1, (p.openWith o).2.refit f) := by
  have hup : (p.refit f).inbox.linkUp = p.inbox.linkUp := rfl
  obtain ⟨hs, hs'⟩ | ⟨l, l', hs, hs'⟩ := session_refit_cases fits p
  · simp only [openWith, hs, hs']
    exact attach_refit fits o hchunk
  · simp only [openWith, hs, hs', hup, teardown_refit fits]
    cases p.inbox.linkUp with
    | true => rfl
    | false => exact attach_refit fits o (by rwa [settings_teardown])

theorem openThreaded_refit (thread : Except IoFault Unit) (o : LineOverrides) {p : Port σ}
    (hchunk : p.settings.chunkSize = chunk) :
    (p.refit f).openThreaded thread o =
      ((p.openThreaded thread o).1, (p.openThreaded thread o).2.refit f) := by
  rw [openThreaded, openThreaded, openWith_refit fits o hchunk]
  rcases p.openWith o with ⟨_ | _, q⟩
  · rfl
  · cases thread with
    | ok _ => rfl
    | error fault => exact congrArg (Prod.mk _) (teardown_refit fits q)

end Port

namespace InUse

/-- The port in use after the change. -/
def refit (f : Refit σ) (u : InUse σ) : InUse σ := { u with port := u.port.refit f }

/-! ## Readers -/

theorem serveReaders_refit (k : Nat) (u : InUse σ) :
    serveReaders k (u.refit f) = ((serveReaders k u).1, (serveReaders k u).2.refit f) := by
  induction k generalizing u with
  | zero => rfl
  | succ k ih =>
      have hlook : (u.refit f).port.look = (u.port.look.1, u.port.look.2.refit f) :=
        Port.look_refit u.port
      simp only [serveReaders, hlook]
      obtain ⟨found, port⟩ := u.port.look
      have hserved : ({ u.refit f with port := port.refit f, readers := k } : InUse σ) =
          ({ u with port := port, readers := k } : InUse σ).refit f := rfl
      cases found with
      | empty => rfl
      | closed => simp only [hserved, ih]
      | byte b => simp only [hserved, ih]

theorem read_refit (patience : Patience) (u : InUse σ) :
    (u.refit f).read patience = ((u.read patience).1, (u.read patience).2.refit f) := by
  have hlook : (u.refit f).port.look = (u.port.look.1, u.port.look.2.refit f) :=
    Port.look_refit u.port
  simp only [read, hlook]
  obtain ⟨found, port⟩ := u.port.look
  cases found <;> cases patience <;> rfl

variable [Wire σ] (fits : f.Fits chunk)

include fits

/-! ## Writes -/

theorem tryWrite_refit (bytes : List UInt8) (u : InUse σ) :
    (u.refit f).tryWrite bytes = ((u.tryWrite bytes).1, (u.tryWrite bytes).2.refit f) := by
  have haccepts : (u.refit f).port.accepts = u.port.accepts := rfl
  have hholds : Wire.holds (u.refit f).port.wire = Wire.holds u.port.wire :=
    fits.holds u.port.wire
  have htransmit : (u.refit f).port.transmit bytes =
      ((u.port.transmit bytes).1, (u.port.transmit bytes).2.refit f) :=
    Port.transmit_refit fits bytes u.port
  simp only [tryWrite, haccepts, hholds, htransmit]
  split
  · rfl
  · split
    · have hpark : Wire.park (u.refit f).port.wire = f.wire (Wire.park u.port.wire) :=
        fits.park u.port.wire
      rw [hpark]
      rfl
    · rfl

theorem serveQueued_refit (writes : List (List UInt8)) (u : InUse σ) :
    serveQueued writes (u.refit f) =
      ((serveQueued writes u).1, (serveQueued writes u).2.refit f) := by
  induction writes generalizing u with
  | nil => rfl
  | cons bytes writes ih =>
      have hheld : ((u.tryWrite bytes).2.refit f).held = (u.tryWrite bytes).2.held := rfl
      simp only [serveQueued, tryWrite_refit fits, hheld, ih]
      split <;> rfl

theorem serveWriters_refit (u : InUse σ) :
    (u.refit f).serveWriters = (u.serveWriters.1, u.serveWriters.2.refit f) := by
  have hheld : (u.refit f).held = u.held := rfl
  have hholds : Wire.holds (u.refit f).port.wire = Wire.holds u.port.wire :=
    fits.holds u.port.wire
  simp only [serveWriters, hheld, hholds]
  cases u.held with
  | none => rfl
  | some bytes =>
      cases Wire.holds u.port.wire with
      | true => rfl
      | false =>
          let free := { u.port with wire := Wire.unpark u.port.wire }
          have hfree : ({ (u.refit f).port with
              wire := Wire.unpark (u.refit f).port.wire } : Port σ) = free.refit f := by
            simp only [refit, Port.refit, fits.unpark, free]
          have htransmit := Port.transmit_refit fits bytes free
          have hserve := serveQueued_refit fits u.queued
            { u with port := (free.transmit bytes).2, held := none }
          simp only [Bool.false_eq_true, if_false, hfree, htransmit]
          exact congrArg (fun served => (Ended.write (free.transmit bytes).1 :: served.1, served.2))
            hserve

/-! ## One thing at a time -/

theorem finishHeld_refit (u : InUse σ) :
    (u.refit f).finishHeld = u.finishHeld.refit f := by
  have hheld : (u.refit f).held = u.held := rfl
  simp only [finishHeld, hheld]
  cases u.held with
  | none => rfl
  | some bytes =>
      let free := { u.port with wire := Wire.unpark u.port.wire }
      have hfree : ({ (u.refit f).port with
          wire := Wire.unpark (u.refit f).port.wire } : Port σ) = free.refit f := by
        simp only [refit, Port.refit, fits.unpark, free]
      simp only [hfree, Port.transmit_refit fits]
      rfl

theorem takeDown_refit (u : InUse σ) : (u.refit f).takeDown = u.takeDown.refit f := by
  have hdown : ({ u.refit f with port := (u.refit f).port.teardown } : InUse σ) =
      ({ u with port := u.port.teardown } : InUse σ).refit f :=
    congrArg (fun port => ({ u with port := port } : InUse σ)) (Port.teardown_refit fits u.port)
  rw [takeDown, hdown, finishHeld_refit fits]
  rfl

omit fits in
theorem settings_takeDown (u : InUse σ) : u.takeDown.port.settings = u.port.settings := by
  obtain ⟨actions, hrun⟩ := reaches_finishHeld { u with port := u.port.teardown }
  have hsettings := Port.settings_run u.port.teardown actions
  rw [hrun, Port.settings_teardown] at hsettings
  exact hsettings

theorem openAlone_refit (o : LineOverrides) {u : InUse σ}
    (hchunk : u.port.settings.chunkSize = chunk) :
    (u.refit f).openAlone o = ((u.openAlone o).1, (u.openAlone o).2.refit f) := by
  have hattach : ∀ v : InUse σ, v.port.settings = u.port.settings →
      (v.refit f).attach o = ((v.attach o).1, (v.attach o).2.refit f) := by
    intro v hsettings
    have hport : (v.refit f).port.attach o =
        ((v.port.attach o).1, (v.port.attach o).2.refit f) :=
      Port.attach_refit fits o (by rw [hsettings, hchunk])
    simp only [attach, hport]
    rfl
  have hup : (u.refit f).port.inbox.linkUp = u.port.inbox.linkUp := rfl
  have hcases := Port.session_refit_cases fits u.port
  obtain ⟨hs, hs' : (u.refit f).port.session = none⟩ |
    ⟨l, l', hs, hs' : (u.refit f).port.session = some l'⟩ := hcases
  · simp only [openAlone, hs, hs']
    exact hattach u rfl
  · simp only [openAlone, hs, hs', hup, takeDown_refit fits]
    cases u.port.inbox.linkUp with
    | true => rfl
    | false => exact hattach u.takeDown (settings_takeDown u)

theorem openThreadedAlone_refit (thread : Except IoFault Unit) (o : LineOverrides) {u : InUse σ}
    (hchunk : u.port.settings.chunkSize = chunk) :
    (u.refit f).openThreadedAlone thread o =
      ((u.openThreadedAlone thread o).1, (u.openThreadedAlone thread o).2.refit f) := by
  rw [openThreadedAlone, openThreadedAlone, openAlone_refit fits o hchunk]
  rcases u.openAlone o with ⟨_ | _, v⟩
  · rfl
  · cases thread with
    | ok _ => rfl
    | error fault =>
        exact congrArg (fun port => (Except.error (LinkError.io fault), { v with port := port }))
          (Port.teardown_refit fits v.port)

omit fits in
/-- A write that waits has its turn if none is held up. -/
theorem perform_turn {u : InUse σ} {i : Nat} {bytes : List UInt8} (hheld : u.held = none)
    (hnext : u.queued[i]? = some bytes) :
    perform (.turn i) u =
      some (({ u with queued := u.queued.eraseIdx i } : InUse σ).tryWrite bytes).2 := by
  simp only [perform, hheld, hnext]

/-- Work that is not the loop's goes alike. -/
theorem perform_refit {t : Task} (ht : t ≠ .hear) (u : InUse σ) :
    perform t (u.refit f) = (perform t u).map (refit f) := by
  have hheld : (u.refit f).held = u.held := rfl
  have hholds : Wire.holds (u.refit f).port.wire = Wire.holds u.port.wire :=
    fits.holds u.port.wire
  cases t with
  | hear => exact absurd rfl ht
  | serve =>
      have hlook : (u.refit f).port.look = (u.port.look.1, u.port.look.2.refit f) :=
        Port.look_refit u.port
      have hreaders : (u.refit f).readers = u.readers := rfl
      simp only [perform, hreaders, hlook]
      obtain ⟨found, port⟩ := u.port.look
      cases u.readers <;> cases found <;> rfl
  | resume =>
      simp only [perform, hheld, hholds, finishHeld_refit fits]
      split <;> rfl
  | turn i =>
      have hqueued : (u.refit f).queued = u.queued := rfl
      let turned := { u with queued := u.queued.eraseIdx i }
      cases hwaiting : u.held with
      | some bytes => simp [perform, hheld, hwaiting]
      | none =>
          cases hnext : u.queued[i]? with
          | none => simp [perform, hqueued, hnext]
          | some bytes =>
              have htry := congrArg Prod.snd (tryWrite_refit fits bytes turned)
              rw [perform_turn (u := u.refit f) hwaiting hnext, perform_turn hwaiting hnext]
              exact congrArg some htry

/-! ## Calls -/

omit fits in
theorem readers_tryWrite (bytes : List UInt8) (u : InUse σ) :
    (u.tryWrite bytes).2.readers = u.readers := by
  unfold tryWrite
  split
  · rfl
  · split <;> rfl

omit fits in
theorem settings_tryWrite (bytes : List UInt8) (u : InUse σ) :
    (u.tryWrite bytes).2.port.settings = u.port.settings := by
  unfold tryWrite
  split
  · rfl
  · split
    · rfl
    · exact Port.settings_transmit bytes u.port

omit fits in
/-- Work lets readers go, and no reader comes with it. -/
theorem readers_perform_le {t : Task} {u v : InUse σ} (h : perform t u = some v) :
    v.readers ≤ u.readers := by
  cases t with
  | hear =>
      simp only [perform] at h
      split at h
      all_goals cases h
      exact Nat.le_refl _
  | serve =>
      rw [eq_of_perform_serve h]
      exact Nat.sub_le _ _
  | resume =>
      simp only [perform] at h
      split at h
      all_goals cases h
      unfold finishHeld
      split <;> exact Nat.le_refl _
  | turn i =>
      simp only [perform] at h
      split at h
      all_goals cases h
      exact Nat.le_of_eq (readers_tryWrite _ _)

omit fits in
theorem Leads.readers_le {u v : InUse σ} (h : Leads u v) : v.readers ≤ u.readers := by
  obtain ⟨tasks, h⟩ := h
  exact course_keeps (P := fun w => w.readers ≤ u.readers)
    (fun _ _ _ hw hstep => Nat.le_trans (readers_perform_le hstep) hw) (Nat.le_refl _) h

/-- Writers and readers have been served, and only the loop can have work to do. -/
def served (u : InUse σ) : List Ended × InUse σ :=
  let (writes, u) := u.serveWriters
  let (ended, u) := serveReaders u.readers u
  (writes ++ ended, u)

omit fits in
theorem settle_eq (u : InUse σ) :
    u.settle =
      (u.served.1 ++ (listen (Wire.backlog u.served.2.port.wire) u.served.2).1,
        (listen (Wire.backlog u.served.2.port.wire) u.served.2).2) := rfl

omit fits in
theorem leads_served (u : InUse σ) : Leads u u.served.2 :=
  (leads_serveWriters u).trans (leads_serveReaders rfl)

omit fits in
theorem readersRest_served (u : InUse σ) : ReadersRest u.served.2 := readersRest_serveReaders rfl

omit fits in
/-- A loop that does not rest reads, and the readers look. -/
theorem listen_succ {u : InUse σ} (h : ¬ LoopRests u) (k : Nat) :
    listen (k + 1) u =
      ((serveReaders u.heard.readers u.heard).1 ++
          (listen k (serveReaders u.heard.readers u.heard).2).1,
        (listen k (serveReaders u.heard.readers u.heard).2).2) := by
  rw [LoopRests, Classical.not_imp] at h
  rw [listen, if_neg (by simp [h])]
  rfl

theorem served_refit (u : InUse σ) :
    (u.refit f).served = (u.served.1, u.served.2.refit f) := by
  have hserve := serveReaders_refit (f := f) u.serveWriters.2.readers u.serveWriters.2
  simp only [served, serveWriters_refit fits]
  exact congrArg (fun served => (u.serveWriters.1 ++ served.1, served.2)) hserve

/-- Over a port that is so, and with at most so many readers, the loop takes in alike what there is
to be read, where that brings the changed port to a state of this kind. -/
def ListensAlike (f : Refit σ) (Q : Port σ → Prop) (readers : Nat) (P : InUse σ → Prop) : Prop :=
  ∀ u : InUse σ, ReadersRest u → Q u.port → u.readers ≤ readers →
    P (listen (Wire.backlog (f.wire u.port.wire)) (u.refit f)).2 →
    listen (Wire.backlog (f.wire u.port.wire)) (u.refit f) =
      ((listen (Wire.backlog u.port.wire) u).1, (listen (Wire.backlog u.port.wire) u).2.refit f)

variable {Q : Port σ → Prop} {readers : Nat} {P : InUse σ → Prop}
  (kept : ∀ p a, Q p → Q (p.act a)) (alike : ListensAlike f Q readers P)

include kept

omit fits in
theorem keeps_of_reaches {p q : Port σ} (h : p.Reaches q) (hQ : Q p) : Q q := by
  obtain ⟨actions, rfl⟩ := h
  induction actions generalizing p with
  | nil => exact hQ
  | cons a actions ih => exact ih (kept p a hQ)

include alike

theorem settle_refit {u : InUse σ} (hQ : Q u.port) (hreaders : u.readers ≤ readers)
    (hP : P (u.refit f).settle.2) : (u.refit f).settle = (u.settle.1, u.settle.2.refit f) := by
  have hleads := leads_served u
  rw [settle_eq, served_refit fits] at hP
  have hlisten := alike u.served.2 (readersRest_served u) (keeps_of_reaches kept hleads.reaches hQ)
    (Nat.le_trans hleads.readers_le hreaders) hP
  rw [settle_eq, settle_eq u, served_refit fits]
  exact congrArg (fun heard => (u.served.1 ++ heard.1, heard.2)) hlisten

theorem write_refit (bytes : List UInt8) {u : InUse σ} (hQ : Q u.port)
    (hreaders : u.readers ≤ readers) (hP : P ((u.refit f).write bytes).2) :
    (u.refit f).write bytes = ((u.write bytes).1, (u.write bytes).2.refit f) := by
  have hheld : (u.refit f).held = u.held := rfl
  simp only [write, hheld] at hP ⊢
  split
  next hempty =>
    rw [if_pos hempty] at hP
    exact settle_refit fits kept alike hQ hreaders hP
  next hempty =>
    rw [if_neg hempty] at hP
    split
    next hwaits =>
      rw [if_pos hwaits] at hP
      exact settle_refit fits kept alike (u := { u with queued := u.queued ++ [bytes] }) hQ hreaders
        hP
    next hfree =>
      rw [if_neg hfree, tryWrite_refit fits] at hP
      have hsettle := settle_refit fits kept alike (u := (u.tryWrite bytes).2)
        (keeps_of_reaches kept (reaches_tryWrite bytes u) hQ) (by rwa [readers_tryWrite]) hP
      rw [tryWrite_refit fits]
      exact congrArg (fun settled => ((u.tryWrite bytes).1 ++ settled.1, settled.2)) hsettle

/-! ## Runs -/

/-- An action and its counterpart after the change of the wire. -/
inductive Action.Refits (g : σ → σ) : Action σ → Action σ → Prop where
  | same {a : Action σ} (h : ∀ f, a ≠ .onWire f) : Refits g a a
  | onWire {f f' : σ → σ} (h : ∀ w, f' (g w) = g (f w)) : Refits g (.onWire f) (.onWire f')

theorem act_refit (sized : ∀ p, Q p → p.settings.chunkSize = chunk) {a a' : Action σ}
    (h : a.Refits f.wire a') {u : InUse σ} (hQ : Q u.port) (hreaders : u.readers ≤ readers)
    (hP : P ((u.refit f).act a').2) :
    (u.refit f).act a' = ((u.act a).1, (u.act a).2.refit f) := by
  cases h with
  | onWire hcommute =>
    next k k' =>
      have hwire : ({ u.refit f with port.wire := k' (u.refit f).port.wire } : InUse σ) =
          ({ u with port.wire := k u.port.wire } : InUse σ).refit f := by
        simp only [refit, Port.refit, hcommute]
      simp only [act, onWire, hwire] at hP ⊢
      have hsettle := settle_refit fits kept alike (u := { u with port.wire := k u.port.wire })
        (kept u.port (.onWire k) hQ) hreaders hP
      simp only [hsettle]
  | same hsame =>
      cases a with
      | openWith o thread =>
          have hopen : (u.refit f).port.openThreaded thread o =
              ((u.port.openThreaded thread o).1, (u.port.openThreaded thread o).2.refit f) :=
            Port.openThreaded_refit fits thread o (sized u.port hQ)
          simp only [act, openThreaded, hopen] at hP ⊢
          have hsettle := settle_refit fits kept alike
            (u := { u with port := (u.port.openThreaded thread o).2 })
            (kept u.port (.openWith o thread) hQ) hreaders hP
          exact congrArg (fun settled =>
            ((Answer.opened (u.port.openThreaded thread o).1, settled.1), settled.2)) hsettle
      | close =>
          have hclose : (u.refit f).port.close = u.port.close.refit f :=
            Port.teardown_refit fits u.port
          simp only [act, close, hclose] at hP ⊢
          have hsettle := settle_refit fits kept alike (u := { u with port := u.port.close })
            (kept u.port .close hQ) hreaders hP
          exact congrArg (fun settled => ((Answer.done, settled.1), settled.2)) hsettle
      | purge =>
          have hsettle := settle_refit fits kept alike (u := { u with port := u.port.purge })
            (kept u.port .purge hQ) hreaders hP
          exact congrArg (fun settled => ((Answer.done, settled.1), settled.2)) hsettle
      | write bytes =>
          have hwrite := write_refit fits kept alike bytes hQ hreaders hP
          simp only [act, hwrite]
      | read patience =>
          have hread := read_refit (f := f) patience u
          simp only [act, hread]
      | onWire k => exact absurd rfl (hsame k)

/-- How many of some calls are reads that can wait. -/
def patientReads (calls : List (Action σ)) : Nat :=
  calls.countP fun
    | .read .unlimited => true
    | _ => false

omit fits kept alike in
/-- No reader waits but one that came and can wait. -/
theorem readers_act_le (u : InUse σ) (a : Action σ) :
    (u.act a).2.readers ≤ u.readers + patientReads [a] := by
  cases a with
  | openWith o thread =>
      exact (leads_settle { u with port := (u.port.openThreaded thread o).2 }).readers_le
  | close => exact (leads_settle { u with port := u.port.close }).readers_le
  | purge => exact (leads_settle { u with port := u.port.purge }).readers_le
  | onWire f => exact (leads_settle { u with port.wire := f u.port.wire }).readers_le
  | write bytes =>
      change (u.write bytes).2.readers ≤ u.readers
      unfold write
      split
      · exact (leads_settle u).readers_le
      · split
        · exact (leads_settle { u with queued := u.queued ++ [bytes] }).readers_le
        · exact Nat.le_trans (leads_settle (u.tryWrite bytes).2).readers_le
            (Nat.le_of_eq (readers_tryWrite bytes u))
  | read patience =>
      change (u.read patience).2.readers ≤ _
      unfold read
      cases patience with
      | brief => split <;> exact Nat.le_refl _
      | unlimited => split <;> simp [patientReads]

/-- The port is so after each of some calls. -/
def Throughout (P : InUse σ → Prop) : List (Action σ) → InUse σ → Prop
  | [], _ => True
  | a :: calls, u => P (u.act a).2 ∧ Throughout P calls (u.act a).2

/-- **After the refit every call is told the same.** -/
theorem run_refit (sized : ∀ p, Q p → p.settings.chunkSize = chunk)
    {calls calls' : List (Action σ)} (h : List.Forall₂ (Action.Refits f.wire) calls calls')
    {u : InUse σ} (hQ : Q u.port) (hreaders : u.readers + patientReads calls ≤ readers)
    (hP : Throughout P calls' (u.refit f)) :
    run calls' (u.refit f) = ((run calls u).1, (run calls u).2.refit f) := by
  induction h generalizing u with
  | nil => rfl
  | @cons a a' calls calls' ha _ ih =>
      have hcount : patientReads (a :: calls) = patientReads [a] + patientReads calls := by
        rw [patientReads, patientReads, patientReads, ← List.countP_append, List.singleton_append]
      have hact := act_refit fits kept alike sized ha hQ (by omega) hP.1
      have hnext : (u.act a).2.readers ≤ u.readers + patientReads [a] := readers_act_le u a
      have hthroughout := hP.2
      rw [hact] at hthroughout
      have hrest := ih (keeps_of_reaches kept (reaches_act u a) hQ) (by omega) hthroughout
      simp only [run, hact, hrest]

end InUse

end DongleLink

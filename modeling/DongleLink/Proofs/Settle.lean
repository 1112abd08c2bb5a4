import DongleLink.Proofs.InUse
import DongleLink.Proofs.Simulated

/-!
# DongleLink.Proofs.Settle

There is nothing left to do if readers, loop and writers each have nothing left
(`atRest_iff`).  Running everything that can run leaves a port over a simulated dongle so
(`atRest_settle`): the loop may read as often as it has to, because each read takes a byte
at least, or ends the loop.
-/

namespace DongleLink

namespace InUse

variable {σ : Type}

/-! ## Readers -/

/-- No reader waits who could be told something. -/
def ReadersRest (u : InUse σ) : Prop :=
  0 < u.readers → u.port.inbox.unread = [] ∧ u.port.inbox.linkUp = true

/-- Readers that look change the ring and the count of bytes, and no other part of the port. -/
theorem serveReaders_eq (n : Nat) (u : InUse σ) :
    ∃ inbox counters readers, (serveReaders n u).2 =
      { u with
        port := { u.port with inbox := inbox, counters := counters }
        readers := readers } := by
  induction n generalizing u with
  | zero => exact ⟨u.port.inbox, u.port.counters, u.readers, rfl⟩
  | succ n ih =>
      rw [serveReaders]
      obtain ⟨b, inbox, -, heq⟩ | ⟨-, heq⟩ := u.port.look_cases
      · rw [heq]
        exact ih _
      · rw [heq]
        cases u.port.inbox.linkUp with
        | true => exact ⟨u.port.inbox, u.port.counters, u.readers, rfl⟩
        | false => exact ih { u with readers := n }

theorem readersRest_serveReaders {n : Nat} {u : InUse σ} (hn : u.readers = n) :
    ReadersRest (serveReaders n u).2 := by
  induction n generalizing u with
  | zero =>
      intro hpos
      simp [serveReaders, hn] at hpos
  | succ n ih =>
      rw [serveReaders]
      split
      next port hlook =>
        intro _
        exact (Port.look_eq_empty_iff u.port).1 (congrArg Prod.fst hlook)
      · exact ih rfl
      · exact ih rfl

/-- Readers that rest look in vain. -/
theorem serveReaders_of_readersRest {u : InUse σ} (h : ReadersRest u) :
    serveReaders u.readers u = ([], u) := by
  cases hn : u.readers with
  | zero => rfl
  | succ n =>
      have hempty := (Port.look_eq_empty_iff u.port).2 (h (by omega))
      rw [serveReaders]
      split
      · rfl
      next hlook => rw [hlook] at hempty; cases hempty
      next hlook => rw [hlook] at hempty; cases hempty

variable [Wire σ]

/-! ## Rest -/

/-- The wire holds the held write up, and no write waits but behind it. -/
def WritersRest (u : InUse σ) : Prop :=
  (u.held.isSome = true → Wire.holds u.port.wire = true) ∧ (u.held = none → u.queued = [])

/-- **There is nothing left to do** if readers, loop and writers rest. -/
theorem atRest_iff (u : InUse σ) : AtRest u ↔ ReadersRest u ∧ LoopRests u ∧ WritersRest u := by
  have hhear : perform .hear u = none ↔ LoopRests u := by
    cases hlistens : u.port.listens <;> cases hidle : Wire.idle u.port.wire <;>
      simp [perform, LoopRests, hlistens, hidle]
  have hserve : perform .serve u = none ↔ ReadersRest u := by
    rw [ReadersRest, ← Port.look_eq_empty_iff]
    cases hreaders : u.readers with
    | zero => simp [perform, hreaders]
    | succ n =>
        cases hlook : u.port.look with
        | mk found port => cases found <;> simp [perform, hreaders, hlook]
  have hresume : perform .resume u = none ↔
      (u.held.isSome = true → Wire.holds u.port.wire = true) := by
    cases hheld : u.held <;> cases hholds : Wire.holds u.port.wire <;>
      simp [perform, hheld, hholds]
  have hturn : (∀ i, perform (.turn i) u = none) ↔ (u.held = none → u.queued = []) := by
    cases hheld : u.held with
    | some bytes => simp [perform, hheld]
    | none =>
        cases hqueued : u.queued with
        | nil => simp [perform, hheld, hqueued]
        | cons bytes rest =>
            refine iff_of_false (fun h => ?_) (by simp)
            have hfirst := h 0
            simp [perform, hheld, hqueued] at hfirst
  rw [WritersRest, ← hhear, ← hserve, ← hresume, ← hturn]
  constructor
  · intro h
    exact ⟨h .serve, h .hear, h .resume, fun i => h (.turn i)⟩
  · rintro ⟨h1, h2, h3, h4⟩ t
    cases t with
    | hear => exact h2
    | serve => exact h1
    | resume => exact h3
    | turn i => exact h4 i

/-- Settling does nothing where there is nothing left to do. -/
theorem settle_of_atRest {u : InUse σ} (h : AtRest u) :
    u.settle = ([], u) := by
  obtain ⟨hreaders, hloop, hheld, -⟩ := (atRest_iff u).1 h
  have hwriters : u.serveWriters = ([], u) := by
    rw [serveWriters]
    split
    · rfl
    next bytes hsome => rw [if_pos (hheld (by simp [hsome]))]
  rw [settle, hwriters]
  simp only [serveReaders_of_readersRest hreaders, listen_of_loopRests hloop]
  rfl

/-! ## What settling leaves -/

section simulated

variable {u : InUse Simulated}

/-- A write that has its turn is held up only by a wire that holds writes up. -/
theorem holds_of_tryWrite (bytes : List UInt8) (hheld : u.held = none)
    (h : (u.tryWrite bytes).2.held ≠ none) :
    Wire.holds (u.tryWrite bytes).2.port.wire = true := by
  simp only [tryWrite] at h ⊢
  split
  next hclosed => simp [hclosed, hheld] at h
  next hopen =>
    split
    next hholds => exact hholds
    next hfree => simp [hopen, hfree, hheld] at h

/-- The waiting writes have their turns until one is held up. -/
theorem writersRest_serveQueued (writes : List (List UInt8)) (hheld : u.held = none) :
    WritersRest (serveQueued writes u).2 := by
  induction writes generalizing u with
  | nil => simp [WritersRest, serveQueued, hheld]
  | cons bytes writes ih =>
      have hholds := holds_of_tryWrite bytes hheld
      rw [serveQueued]
      split
      next ended v htry =>
      rw [htry] at hholds
      cases hv : v.held with
      | some waiting =>
          simp only [Option.isSome_some, if_true]
          exact ⟨fun _ => hholds (by simp [hv]), fun hnone => by simp at hnone⟩
      | none => exact ih hv

theorem writersRest_serveWriters (hqueued : u.held = none → u.queued = []) :
    WritersRest u.serveWriters.2 := by
  rw [serveWriters]
  split
  next hheld => exact ⟨fun h => by simp [hheld] at h, fun _ => hqueued hheld⟩
  next bytes hheld =>
  split
  next hholds => exact ⟨fun _ => hholds, fun h => by simp [hheld] at h⟩
  next => exact writersRest_serveQueued u.queued rfl

/-- A read does not let a held write go. -/
theorem writersRest_heard (h : WritersRest u) : WritersRest u.heard := by
  have hholds : Wire.holds u.heard.port.wire = Wire.holds u.port.wire := by simp [heard]
  exact ⟨fun hheld => hholds.trans (h.1 hheld), h.2⟩

theorem writersRest_serveReaders (h : WritersRest u) (n : Nat) :
    WritersRest (serveReaders n u).2 := by
  obtain ⟨inbox, counters, readers, heq⟩ := serveReaders_eq n u
  rw [heq]
  exact h

/-- **The loop comes to rest** if it may read more often than there are bytes. -/
theorem atRest_listen {n : Nat} (hchunk : 1 ≤ u.port.settings.chunkSize)
    (hn : u.port.wire.queue.length < n) (hreaders : ReadersRest u) (hwriters : WritersRest u) :
    AtRest (listen n u).2 := by
  induction n generalizing u with
  | zero => omega
  | succ n ih =>
      by_cases hloop : LoopRests u
      · rw [listen_of_loopRests hloop]
        exact (atRest_iff u).2 ⟨hreaders, hloop, hwriters⟩
      · rw [listen_of_not_loopRests hloop]
        let served := (serveReaders u.heard.readers u.heard).2
        have hreaders' : ReadersRest served := readersRest_serveReaders rfl
        have hwriters' : WritersRest served :=
          writersRest_serveReaders (writersRest_heard hwriters) u.heard.readers
        obtain ⟨inbox, counters, readers, hserved⟩ := serveReaders_eq u.heard.readers u.heard
        obtain ⟨b, bytes, hread, hless⟩ | ⟨-, -, hread⟩ | ⟨hqueue, hover, -⟩ :=
          u.port.wire.readChunk_cases hchunk
        · have hqueue : served.port.wire.queue.length < u.port.wire.queue.length := by
            simpa [served, hserved, heard, hread] using hless
          have hsettings : served.port.settings = u.port.settings := by
            simp [served, hserved, heard]
          have hn' := Nat.lt_of_lt_of_le hqueue (Nat.le_of_lt_succ hn)
          exact ih (by rwa [hsettings]) hn' hreaders' hwriters'
        · have hdeaf : served.port.listens = false := by
            cases hsession : u.port.session <;>
              simp [served, hserved, heard, hread, Port.hear, Port.endLoop, Port.listens, hsession]
          have hloop' : LoopRests served := fun h => by simp [hdeaf] at h
          rw [listen_of_loopRests hloop']
          exact (atRest_iff served).2 ⟨hreaders', hloop', hwriters'⟩
        · exact absurd (fun _ => (Simulated.idle_iff _).2 ⟨hqueue, hover⟩) hloop

/-- **Settling leaves nothing to do.** -/
theorem atRest_settle (hchunk : 1 ≤ u.port.settings.chunkSize)
    (hqueued : u.held = none → u.queued = []) : AtRest u.settle.2 := by
  let written := u.serveWriters.2
  let served := (serveReaders written.readers written).2
  have hwriters : WritersRest served :=
    writersRest_serveReaders (writersRest_serveWriters hqueued) written.readers
  have hleads : Leads u served := (leads_serveWriters u).trans (leads_serveReaders rfl)
  have hsettings := hleads.settings_eq
  have hsettle : u.settle.2 = (listen (served.port.wire.queue.length + 1) served).2 := rfl
  rw [hsettle]
  exact atRest_listen (by rwa [hsettings]) (Nat.lt_succ_self _) (readersRest_serveReaders rfl)
    hwriters

/-- **Work comes to an end**: from wherever the port is, some of it leaves nothing to do. -/
theorem exists_leads_atRest (hchunk : 1 ≤ u.port.settings.chunkSize) :
    ∃ v, Leads u v ∧ AtRest v := by
  cases hheld : u.held with
  | some bytes =>
      exact ⟨u.settle.2, leads_settle u, atRest_settle hchunk fun hnone => by simp [hheld] at hnone⟩
  | none =>
      let served := (serveQueued u.queued u).2
      have hleads : Leads u served := leads_serveQueued u.queued hheld
      have hsettings := hleads.settings_eq
      exact ⟨served.settle.2, hleads.trans (leads_settle served),
        atRest_settle (by rwa [hsettings]) (writersRest_serveQueued u.queued hheld).2⟩

end simulated

end InUse

end DongleLink

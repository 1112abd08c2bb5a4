import DongleLink.Proofs.Agreement
import DongleLink.Proofs.BoundedQueue
import DongleLink.Proofs.Refit

/-!
# DongleLink.Proofs.ChunkSize

How many bytes the receive loop of a port takes from a simulated dongle at a time.  Nobody can
tell, as long as the loop has taken in everything before anybody looks (`told_alike`).

* Chunk by chunk the loop comes to the port that it would come to with the whole queue at once
  (`listen_eq_drained`), and everything else that a port does has nothing to do with its chunk size
  (`Refit.Fits`).
* A chunk buffer may be so large that the loop dies over it.  Such a loop takes nothing in; but
  where it has caught up all the same, there was nothing for it, and a loop that reads would have
  found nothing either.  So one change of a port, `resizing`, covers all pairs of chunk sizes.
-/

namespace DongleLink

namespace Ring

/-- The evictions of two chunks are those of both together. -/
theorem pushAll_append_evicted (r : Ring) (first second : List UInt8) :
    (r.pushAll (first ++ second)).1 =
      (r.pushAll first).1 + ((r.pushAll first).2.pushAll second).1 := by
  induction first generalizing r with
  | nil => simp
  | cons b first ih =>
      simp only [List.cons_append, pushAll_cons, ih]
      omega

end Ring

namespace Port

@[simp] theorem ingest_nil {σ : Type} (p : Port σ) : p.ingest [] = p := by
  simp [ingest, Inbox.ingest]

/-- Two chunks are stored and counted as both together. -/
theorem ingest_append {σ : Type} (first second : List UInt8) (p : Port σ) :
    p.ingest (first ++ second) = (p.ingest first).ingest second := by
  simp [ingest, Inbox.ingest, Ring.pushAll_append, Ring.pushAll_append_evicted, UInt64.add_assoc]

theorem listens_endLoop {σ : Type} (p : Port σ) : p.endLoop.listens = false := by
  cases h : p.session <;> simp [endLoop, listens, h]

/-! ## Everything at once -/

/- A loop that takes in everything at once has no chunk size.  It is the middle between two loops
that have one: each comes to the same as it does. -/

variable {p : Port Simulated}

/-- The whole queue of the dongle is taken in at once. -/
def swallow (p : Port Simulated) : Port Simulated :=
  { p with wire := { p.wire with queue := [] } }.ingest p.wire.queue

/-- The loop, if it listens, has taken in all that there is, and the end of the stream if it is
over. -/
def drained (p : Port Simulated) : Port Simulated :=
  if p.listens then if p.wire.isOver then p.swallow.endLoop else p.swallow else p

theorem swallow_of_queue_nil (h : p.wire.queue = []) : p.swallow = p := by
  have hwire : ({ p.wire with queue := [] } : Simulated) = p.wire := by rw [← h]
  rw [swallow, hwire, h, ingest_nil]

theorem drained_of_deaf (h : p.listens = false) : p.drained = p := by
  simp [drained, h]

theorem drained_of_over (h : p.listens = true) (hover : p.wire.isOver = true) :
    p.drained = p.swallow.endLoop := by
  simp [drained, h, hover]

theorem drained_of_live (h : p.listens = true) (hover : p.wire.isOver = false) :
    p.drained = p.swallow := by
  simp [drained, h, hover]

/-- Nothing is taken in where there is nothing. -/
theorem drained_of_idle (h : p.listens = true → Wire.idle p.wire = true) : p.drained = p := by
  cases hlistens : p.listens with
  | false => exact drained_of_deaf hlistens
  | true =>
      obtain ⟨hqueue, hover⟩ := (Simulated.idle_iff _).1 (h hlistens)
      rw [drained_of_live hlistens hover, swallow_of_queue_nil hqueue]

/-- Once everything has been taken in, there is nothing left. -/
theorem drained_drained (p : Port Simulated) : p.drained.drained = p.drained := by
  refine drained_of_idle fun hlistens => ?_
  cases hl : p.listens with
  | false => rw [drained_of_deaf hl, hl] at hlistens; cases hlistens
  | true =>
      cases hover : p.wire.isOver with
      | true =>
          rw [drained_of_over hl hover, listens_endLoop] at hlistens
          cases hlistens
      | false =>
          rw [drained_of_live hl hover]
          exact (Simulated.idle_iff _).2 ⟨rfl, hover⟩

/-- One chunk, and then the rest. -/
theorem swallow_chunk (n : Nat) (p : Port Simulated) :
    ({ p with wire := { p.wire with queue := p.wire.queue.drop n } }.ingest
      (p.wire.queue.take n)).swallow = p.swallow := by
  have hall := ingest_append (p.wire.queue.take n) (p.wire.queue.drop n)
    { p with wire := { p.wire with queue := [] } }
  rw [List.take_append_drop] at hall
  exact hall.symm

theorem drained_chunk (n : Nat) (p : Port Simulated) (hlistens : p.listens = true) :
    ({ p with wire := { p.wire with queue := p.wire.queue.drop n } }.ingest
      (p.wire.queue.take n)).drained = p.drained := by
  let q := { p with wire := { p.wire with queue := p.wire.queue.drop n } }.ingest
    (p.wire.queue.take n)
  have hq : q.listens = true := hlistens
  have hswallow : q.swallow = p.swallow := swallow_chunk n p
  cases hover : p.wire.isOver with
  | true => rw [drained_of_over hq hover, hswallow, drained_of_over hlistens hover]
  | false => rw [drained_of_live hq hover, hswallow, drained_of_live hlistens hover]

/-- What has nothing to do with the queue can come before or after. -/
theorem drained_comm {f : Port Simulated → Port Simulated} (hlistens : (f p).listens = p.listens)
    (hover : (f p).wire.isOver = p.wire.isOver) (hswallow : (f p).swallow = f p.swallow)
    (hend : (f p.swallow).endLoop = f p.swallow.endLoop) : (f p).drained = f p.drained := by
  unfold drained
  rw [hlistens, hover, hswallow, hend]
  split
  · split <;> rfl
  · rfl

/-- How many writes are held up makes no difference to the loop. -/
theorem drained_blocked (k : Nat → Nat) (p : Port Simulated) :
    ({ p.drained with
      wire := { p.drained.wire with blocked := k p.drained.wire.blocked } } :
        Port Simulated).drained =
    ({ p with wire := { p.wire with blocked := k p.wire.blocked } } : Port Simulated).drained := by
  have hcomm := drained_comm (p := p)
    (f := fun q => { q with wire := { q.wire with blocked := k q.wire.blocked } }) rfl rfl rfl rfl
  rw [← hcomm, drained_drained]

theorem wire_drained (p : Port Simulated) :
    ∃ queue, p.drained.wire = { p.wire with queue := queue } := by
  unfold drained
  split
  · split <;> exact ⟨[], rfl⟩
  · exact ⟨p.wire.queue, rfl⟩

/-- A write that does not come through is counted, and nothing else. -/
theorem transmit_of_failing (bytes : List UInt8)
    (h : p.wire.failWrites = true ∨ p.wire.isOver = true) :
    (p.transmit bytes).2 = p.count (.failed Simulated.nothingYet) := by
  simp only [transmit, Wire.write, Simulated.write]
  cases hfail : p.wire.failWrites with
  | true => rfl
  | false =>
      have hover : p.wire.isOver = true := by simpa [hfail] using h
      simp only [hover, if_true]
      rfl

/-- **A write comes to the same** whether or not the loop has taken everything in before. -/
theorem drained_transmit (bytes : List UInt8) (p : Port Simulated) :
    (p.drained.transmit bytes).2.drained = (p.transmit bytes).2.drained := by
  obtain ⟨queue, hwire⟩ := p.wire_drained
  by_cases hfailing : p.wire.failWrites = true ∨ p.wire.isOver = true
  · have hfailing' : p.drained.wire.failWrites = true ∨ p.drained.wire.isOver = true := by
      rw [hwire]
      exact hfailing
    have hcomm := drained_comm (p := p) (f := fun q => q.count (.failed Simulated.nothingYet))
      rfl rfl rfl rfl
    rw [transmit_of_failing bytes hfailing, transmit_of_failing bytes hfailing', ← hcomm,
      drained_drained]
  · rw [not_or, Bool.not_eq_true, Bool.not_eq_true] at hfailing
    obtain ⟨hworks, hover⟩ := hfailing
    cases hlistens : p.listens with
    | false => rw [drained_of_deaf hlistens]
    | true =>
        let echoed : Port Simulated → List UInt8 := fun q => if q.wire.echo then bytes else []
        let done : Port Simulated → Port Simulated := fun q =>
          ({ q with
            wire := { q.wire with
              log := q.wire.log ++ [bytes]
              queue := q.wire.queue ++ echoed q } } : Port Simulated).count (.delivered bytes)
        have hwrite : ∀ q : Port Simulated, q.wire.failWrites = false → q.wire.isOver = false →
            (q.transmit bytes).2 = done q := by
          intro q hfail hover
          cases hecho : q.wire.echo <;>
            simp [transmit, Wire.write, Simulated.write, hfail, hover, done, echoed, hecho]
        have hdrained : ∀ q : Port Simulated, q.listens = true → q.wire.isOver = false →
            (done q).drained = (done q).swallow := fun q hl ho => drained_of_live hl ho
        -- the echo is taken in together with what was there before, or behind it
        have hall := ingest_append p.wire.queue (echoed p)
          { done p with wire := { (done p).wire with queue := [] } }
        rw [drained_of_live hlistens hover, hwrite p hworks hover, hwrite p.swallow hworks hover,
          hdrained p hlistens hover, hdrained p.swallow hlistens hover]
        exact hall.symm

end Port

namespace InUse

variable {u v : InUse Simulated} {n : Nat}

/-- The loop has taken in all that there is at once. -/
def drained (u : InUse Simulated) : InUse Simulated := { u with port := u.port.drained }

theorem drained_of_loopRests (h : LoopRests u) : drained u = u := by
  rw [drained, Port.drained_of_idle h]

/-- A chunk that is taken in belongs to all that there is. -/
theorem drained_heard (hchunk : 1 ≤ u.port.settings.chunkSize) (hloop : ¬ LoopRests u) :
    drained u.heard = drained u := by
  rw [LoopRests, Classical.not_imp] at hloop
  obtain ⟨hlistens, hidle⟩ := hloop
  let size := u.port.settings.chunkSize
  suffices hport : u.heard.port.drained = u.port.drained by
    rw [drained, hport]
    rfl
  by_cases hqueue : u.port.wire.queue = []
  · have hover : u.port.wire.isOver = true := by
      rw [← Bool.not_eq_false]
      exact fun hover => hidle ((Simulated.idle_iff _).2 ⟨hqueue, hover⟩)
    have hread : Wire.readChunk size u.port.wire = (.ended, u.port.wire) := by
      simp [Wire.readChunk, Simulated.readChunk, hqueue, hover]
    have hheard : u.heard.port = u.port.endLoop := by
      simp only [heard, size] at hread ⊢
      rw [hread]
      rfl
    rw [hheard, Port.drained_of_deaf (Port.listens_endLoop _), Port.drained_of_over hlistens hover,
      Port.swallow_of_queue_nil hqueue]
  · let left := { u.port.wire with queue := u.port.wire.queue.drop size }
    have hread : Wire.readChunk size u.port.wire =
        (.data (u.port.wire.queue.take size), left) := by
      simp [Wire.readChunk, Simulated.readChunk, hqueue, left]
    have htaken : u.port.wire.queue.take size ≠ [] := by
      simp [hqueue, size]
      omega
    have hheard : u.heard.port =
        { u.port with wire := left }.ingest (u.port.wire.queue.take size) := by
      simp only [heard, size] at hread ⊢
      rw [hread]
      simp [Port.hear, htaken, size]
    rw [hheard]
    exact Port.drained_chunk size u.port hlistens

/-- A read leaves less in the queue, or the loop has no more to do. -/
theorem queue_heard (hchunk : 1 ≤ u.port.settings.chunkSize) (hloop : ¬ LoopRests u) :
    LoopRests u.heard ∨ u.heard.port.wire.queue.length < u.port.wire.queue.length := by
  obtain ⟨b, bytes, hread, hless⟩ | ⟨-, -, hread⟩ | ⟨hqueue, hover, -⟩ :=
    u.port.wire.readChunk_cases hchunk
  · exact .inr (by simpa [heard, hread] using hless)
  · left
    intro hlistens
    simp [heard, hread, Port.hear, Port.listens_endLoop] at hlistens
  · exact absurd (fun _ => (Simulated.idle_iff _).2 ⟨hqueue, hover⟩) hloop

/-- **Chunk by chunk the loop comes to the same** as with everything at once, if no reader takes a
byte in between. -/
theorem listen_eq_drained {k : Nat} (hchunk : 1 ≤ u.port.settings.chunkSize)
    (hreaders : u.readers = 0) (hk : u.port.wire.queue.length < k) :
    listen k u = ([], drained u) := by
  induction k generalizing u with
  | zero => omega
  | succ k ih =>
      by_cases hloop : LoopRests u
      · rw [listen_of_loopRests hloop, drained_of_loopRests hloop]
      · rw [listen_succ hloop]
        have hheard : u.heard.readers = 0 := hreaders
        have hserve : serveReaders u.heard.readers u.heard = ([], u.heard) := by rw [hheard]; rfl
        have hrest : listen k u.heard = ([], drained u.heard) := by
          obtain hrests | hless := queue_heard hchunk hloop
          · rw [listen_of_loopRests hrests, drained_of_loopRests hrests]
          · exact ih (by simpa [heard] using hchunk) hheard (by omega)
        rw [hserve, hrest, drained_heard hchunk hloop]
        rfl

/-! ## Another chunk size -/

/-- The change of a port for one with another chunk size.  A loop that has not ended is one as it
starts with that size. -/
def resizing (n : Nat) : Refit Simulated where
  wire := id
  session s := s.map fun
    | .ended => .ended
    | .reading | .dead => Port.startedLoop n
  chunkSize := n

theorem fits_resizing (chunk n : Nat) : (resizing n).Fits chunk where
  connect o settings s := by simp only [Wire.connect, Simulated.connect, resizing, id]
  write bytes s := rfl
  shutdown s := rfl
  park s := rfl
  unpark s := rfl
  holds s := rfl
  isSome s := by simp [resizing]
  ended := rfl
  started := by
    have hlive : Port.startedLoop chunk ≠ .ended := by
      rw [Port.startedLoop]
      split <;> simp
    cases hl : Port.startedLoop chunk with
    | ended => exact absurd hl hlive
    | reading => rfl
    | dead => rfl

/-- The port in use with another chunk size. -/
def resized (n : Nat) (u : InUse Simulated) : InUse Simulated := u.refit (resizing n)

/-- A loop that has not ended is as it was started. -/
theorem eq_startedLoop {p : Port Simulated} (h : p.Coherent) {l : Loop} (hs : p.session = some l)
    (hl : l ≠ .ended) : l = Port.startedLoop p.settings.chunkSize := by
  have hdead := h.dead_iff l hs
  rw [Port.startedLoop]
  split
  · cases l with
    | reading => rfl
    | ended => exact absurd rfl hl
    | dead =>
        have hlarge := hdead.1 rfl
        omega
  · exact hdead.2 (by omega)

/-- Where both sizes start the same loop, the session stays as it is. -/
theorem session_resized (hcoherent : u.port.Coherent)
    (hsame : Port.startedLoop n = Port.startedLoop u.port.settings.chunkSize) :
    (u.resized n).port.session = u.port.session := by
  change u.port.session.map _ = u.port.session
  cases hs : u.port.session with
  | none => rfl
  | some l =>
      have hstarted := eq_startedLoop hcoherent hs
      rw [← hsame] at hstarted
      cases l with
      | ended => rfl
      | reading => exact congrArg some (hstarted (by simp)).symm
      | dead => exact congrArg some (hstarted (by simp)).symm

/-- Without a chunk buffer nobody listens. -/
theorem listens_resized_of_large (hlarge : largestBlock < n) (u : InUse Simulated) :
    (u.resized n).port.listens = false := by
  have hdead : Port.startedLoop n = .dead := by rw [Port.startedLoop, if_neg (by omega)]
  have hsession : (u.resized n).port.session ≠ some .reading := by
    simp only [resized, refit, Port.refit, resizing, hdead]
    cases u.port.session with
    | none => simp
    | some l => cases l <;> simp
  simp [Port.listens, hsession]

/-- A loop has nothing to take in where one without a chunk buffer has caught up in its place. -/
theorem loopRests_of_caughtUp (hlarge : largestBlock < n) (h : (u.resized n).caughtUp = true) :
    LoopRests u := by
  intro hlistens
  have hdead : Port.startedLoop n = .dead := by rw [Port.startedLoop, if_neg (by omega)]
  have hsession : (u.resized n).port.session = some .dead := by
    simp [resized, refit, Port.refit, resizing, Port.session_of_listens hlistens, hdead]
  simp only [caughtUp, hsession] at h
  exact h

/-- A loop that has caught up has nothing to take in in another's place. -/
theorem loopRests_resized (h : u.caughtUp = true) : LoopRests (u.resized n) := by
  intro hlistens
  have hsession := Port.session_of_listens hlistens
  simp only [resized, refit, Port.refit, resizing, Option.map_eq_some_iff] at hsession
  obtain ⟨l, hl, hstarted⟩ := hsession
  unfold caughtUp at h
  rw [hl] at h
  cases l with
  | ended => cases hstarted
  | reading => exact h
  | dead => exact h

theorem drained_resized (hcoherent : u.port.Coherent)
    (hsame : Port.startedLoop n = Port.startedLoop u.port.settings.chunkSize) :
    drained (u.resized n) = (drained u).resized n := by
  have hlistens : (u.port.refit (resizing n)).listens = u.port.listens := by
    have hsession : (u.port.refit (resizing n)).session = u.port.session :=
      session_resized hcoherent hsame
    simp only [Port.listens, hsession]
    rfl
  have hdrained := Port.drained_comm (p := u.port) (f := Port.refit (resizing n)) hlistens rfl rfl
    (Port.endLoop_refit (fits_resizing u.port.settings.chunkSize n) _)
  exact congrArg (fun port => ({ u with port := port } : InUse Simulated)) hdrained

/-- A coherent port with this chunk size stays one. -/
theorem coherent_sized_act {chunk : Nat} (p : Port Simulated) (a : Port.Action Simulated)
    (h : p.settings.chunkSize = chunk ∧ p.Coherent) :
    (p.act a).settings.chunkSize = chunk ∧ (p.act a).Coherent :=
  ⟨by rw [Port.settings_act, h.1], h.2.act a⟩

/-- **The loop takes in alike** what there is to be read with another chunk size.  If the other
loop is without its chunk buffer, that is so where it has caught up. -/
theorem listensAlike_resizing {chunk : Nat} (hchunk : 1 ≤ chunk) (hn : 1 ≤ n)
    (hlive : n ≤ largestBlock → chunk ≤ largestBlock) :
    ListensAlike (resizing n) (fun p => p.settings.chunkSize = chunk ∧ p.Coherent) 0
      fun v => v.caughtUp = true := by
  rintro u - ⟨hsize, hcoherent⟩ hreaders hcaught
  have hreaders : u.readers = 0 := Nat.le_zero.1 hreaders
  by_cases hsame : Port.startedLoop n = Port.startedLoop u.port.settings.chunkSize
  · have hlisten := listen_eq_drained (u := u) (by rwa [hsize]) hreaders (Nat.lt_succ_self _)
    have hlisten' := listen_eq_drained (u := u.resized n) hn hreaders (Nat.lt_succ_self _)
    rw [drained_resized hcoherent hsame] at hlisten'
    exact hlisten'.trans
      (congrArg (fun heard => (heard.1, heard.2.refit (resizing n))) hlisten.symm)
  · have hlarge : largestBlock < n := by
      by_contra hsmall
      have hle : n ≤ largestBlock := by omega
      exact hsame (by
        rw [Port.startedLoop, Port.startedLoop, if_pos hle, hsize, if_pos (hlive hle)])
    have hdeaf : LoopRests (u.resized n) := fun hlistens => by
      rw [listens_resized_of_large hlarge] at hlistens
      cases hlistens
    have hlisten : ∀ k, listen k (u.refit (resizing n)) = ([], u.resized n) :=
      listen_of_loopRests hdeaf
    rw [hlisten] at hcaught ⊢
    rw [listen_of_loopRests (loopRests_of_caughtUp hlarge hcaught)]
    rfl

/-- **Calls that never wait are told the same with another chunk size**, where the loop has caught
up after each of them. -/
theorem run_resized {calls : List (Action Simulated)} (hbrief : patientReads calls = 0)
    (hreaders : u.readers = 0) (hcoherent : u.port.Coherent)
    (hchunk : 1 ≤ u.port.settings.chunkSize) (hn : 1 ≤ n)
    (hlive : n ≤ largestBlock → u.port.settings.chunkSize ≤ largestBlock)
    (hcaught : Throughout (fun v => v.caughtUp = true) calls (u.resized n)) :
    run calls (u.resized n) = ((run calls u).1, (run calls u).2.resized n) := by
  refine run_refit (fits_resizing u.port.settings.chunkSize n) coherent_sized_act
    (listensAlike_resizing hchunk hn hlive) (fun _ h => h.1) ?_ ⟨rfl, hcoherent⟩ (by omega) hcaught
  refine List.forall₂_same.2 fun a _ => ?_
  cases a with
  | onWire f => exact .onWire fun _ => rfl
  | _ => exact .same (by simp)

/-! ## Work in any order -/

theorem leads_drained (hchunk : 1 ≤ u.port.settings.chunkSize) (hreaders : u.readers = 0) :
    Leads u (drained u) := by
  have hleads := leads_listen (u.port.wire.queue.length + 1) u
  rwa [listen_eq_drained hchunk hreaders (Nat.lt_succ_self _)] at hleads

theorem holds_drained (p : Port Simulated) :
    Wire.holds p.drained.wire = Wire.holds p.wire := by
  obtain ⟨queue, hwire⟩ := p.wire_drained
  rw [hwire]
  rfl

theorem accepts_drained (p : Port Simulated) : p.drained.accepts = p.accepts := by
  unfold Port.drained
  split
  · split <;> rfl
  · rfl

theorem drained_port {p q : Port Simulated} (h : p.drained = q.drained) (u : InUse Simulated)
    (held : Option (List UInt8)) (queued : List (List UInt8)) :
    drained { u with port := p, held := held, queued := queued } =
      drained { u with port := q, held := held, queued := queued } := by
  simp only [drained, h]

/-- A held write that goes on comes to the same before as after the loop. -/
theorem drained_finishHeld (u : InUse Simulated) :
    drained (drained u).finishHeld = drained u.finishHeld := by
  have hheld : (drained u).held = u.held := rfl
  unfold finishHeld
  rw [hheld]
  split
  next => exact drained_port (Port.drained_drained u.port) u u.held u.queued
  next bytes _ =>
    let free : Port Simulated → Port Simulated := fun p => { p with wire := Wire.unpark p.wire }
    have hfree : (free u.port.drained).drained = (free u.port).drained :=
      Port.drained_blocked (fun k => k - 1) u.port
    have htransmit : ((free u.port.drained).transmit bytes).2.drained =
        ((free u.port).transmit bytes).2.drained := by
      rw [← Port.drained_transmit, hfree, Port.drained_transmit]
    exact drained_port htransmit u none u.queued

/-- A write that has its turn comes to the same before as after the loop. -/
theorem drained_tryWrite (bytes : List UInt8) (u : InUse Simulated) :
    drained ((drained u).tryWrite bytes).2 = drained (u.tryWrite bytes).2 := by
  have haccepts : (drained u).port.accepts = u.port.accepts := accepts_drained u.port
  have hholds : Wire.holds (drained u).port.wire = Wire.holds u.port.wire := holds_drained u.port
  unfold tryWrite
  rw [haccepts, hholds]
  split
  · exact drained_port (Port.drained_drained u.port) u u.held u.queued
  · split
    · exact drained_port (Port.drained_blocked (fun k => k + 1) u.port) u (some bytes) u.queued
    · exact drained_port (Port.drained_transmit bytes u.port) u u.held u.queued

/-- Work that is not the loop's comes to the same whether or not the loop has taken everything in
before. -/
theorem perform_drained {t : Task} (ht : t ≠ .hear) (hreaders : u.readers = 0) :
    (perform t (drained u)).map drained = (perform t u).map drained := by
  have hholds : Wire.holds (drained u).port.wire = Wire.holds u.port.wire := holds_drained u.port
  have hheld : (drained u).held = u.held := rfl
  have hqueued : (drained u).queued = u.queued := rfl
  cases t with
  | hear => exact absurd rfl ht
  | serve =>
      have hreaders' : (drained u).readers = 0 := hreaders
      simp [perform, hreaders, hreaders']
  | resume =>
      simp only [perform, hheld, hholds]
      split
      · exact congrArg some (drained_finishHeld u)
      · rfl
  | turn i =>
      simp only [perform, hheld, hqueued]
      split
      next bytes _ _ =>
        exact congrArg some (drained_tryWrite bytes { u with queued := u.queued.eraseIdx i })
      · rfl

/-- What leads on from where this port is leads on from where the loop has taken everything in, and
the other way around. -/
theorem exists_perform_of_drained {w : InUse Simulated} {t : Task} (ht : t ≠ .hear)
    (hreaders : u.readers = 0) (hsame : drained w = drained u) (h : perform t u = some v) :
    ∃ x, perform t w = some x ∧ drained x = drained v := by
  have hw : w.readers = 0 := by
    have heq : (drained w).readers = (drained u).readers := by rw [hsame]
    exact heq.trans hreaders
  have hmap : (perform t w).map drained = some (drained v) := by
    rw [← perform_drained ht hw, hsame, perform_drained ht hreaders, h]
    rfl
  exact Option.map_eq_some_iff.1 hmap

/-- What has nothing to do but for its loop is at rest once the loop is. -/
theorem atRest_of_loopRests (h : AtRest v) {w : InUse Simulated} (hreaders : w.readers = 0)
    (hheld : w.held = v.held) (hqueued : w.queued = v.queued)
    (hholds : Wire.holds w.port.wire = Wire.holds v.port.wire) (hloop : LoopRests w) :
    AtRest w := by
  obtain ⟨-, -, hgo, hnext⟩ := (atRest_iff v).1 h
  refine (atRest_iff w).2 ⟨fun hpos => by omega, hloop, ?_, ?_⟩
  · rwa [hheld, hholds]
  · rwa [hheld, hqueued]

theorem perform_resized {t : Task} (ht : t ≠ .hear) (h : perform t u = some v) :
    perform t (u.resized n) = some (v.resized n) := by
  rw [resized, perform_refit (fits_resizing u.port.settings.chunkSize n) ht, h]
  rfl

section order

variable (hreaders : u.readers = 0)

include hreaders

/-- Between loops of one kind: along the work, the other port is where this one will be once its
loop has taken everything in. -/
theorem leads_resized_of_same (hcoherent : u.port.Coherent)
    (hchunk : 1 ≤ u.port.settings.chunkSize) (hn : 1 ≤ n)
    (hsame : Port.startedLoop n = Port.startedLoop u.port.settings.chunkSize) (h : Leads u v) :
    Leads (u.resized n) ((drained v).resized n) := by
  have hdrain : ∀ w : InUse Simulated, Leads u w → Leads (w.resized n) ((drained w).resized n) := by
    intro w hleads
    have hw : w.port.Coherent := by
      obtain ⟨actions, hactions⟩ := hleads.reaches
      rw [← hactions]
      exact hcoherent.run actions
    have hsame' : Port.startedLoop n = Port.startedLoop w.port.settings.chunkSize := by
      rwa [hleads.settings_eq]
    have hdrained := leads_drained (u := w.resized n) hn
      (Nat.le_zero.1 (hreaders ▸ hleads.readers_le))
    rwa [drained_resized hw hsame'] at hdrained
  obtain ⟨tasks, h⟩ := h
  refine (course_keeps (P := fun w => Leads u w ∧ Leads (u.resized n) ((drained w).resized n))
    ?_ ⟨.refl u, hdrain u (.refl u)⟩ h).2
  rintro t w w' ⟨hleads, hother⟩ ht
  refine ⟨hleads.trans (.perform ht), ?_⟩
  have hw : w.readers = 0 := Nat.le_zero.1 (hreaders ▸ hleads.readers_le)
  have hwchunk : 1 ≤ w.port.settings.chunkSize := by rwa [hleads.settings_eq]
  by_cases hhear : t = .hear
  · subst hhear
    have hloop := not_loopRests_of_perform ht
    rw [perform_hear hloop] at ht
    cases ht
    rwa [drained_heard hwchunk hloop]
  · have hsame := drained_port (Port.drained_drained w.port) w w.held w.queued
    obtain ⟨x, hx, hxw⟩ := exists_perform_of_drained hhear hw hsame ht
    have hend := hdrain x ((hleads.trans (leads_drained hwchunk hw)).trans (.perform hx))
    rw [hxw] at hend
    exact hother.trans ((Leads.perform (perform_resized hhear hx)).trans hend)

/-- Where the other loop is without its chunk buffer: along the work, the other port does what is
not the loop's, and is where it could be before the loop of this one has taken everything in. -/
theorem leads_resized_of_large (hchunk : 1 ≤ u.port.settings.chunkSize) (h : Leads u v) :
    ∃ x, Leads (u.resized n) (x.resized n) ∧ drained x = drained v := by
  obtain ⟨tasks, h⟩ := h
  refine (course_keeps (P := fun w => Leads u w ∧
    ∃ x, Leads (u.resized n) (x.resized n) ∧ drained x = drained w) ?_
    ⟨.refl u, u, .refl _, rfl⟩ h).2
  rintro t w w' ⟨hleads, x, hother, hsame⟩ ht
  refine ⟨hleads.trans (.perform ht), ?_⟩
  by_cases hhear : t = .hear
  · subst hhear
    have hloop := not_loopRests_of_perform ht
    rw [perform_hear hloop] at ht
    cases ht
    exact ⟨x, hother, by rw [hsame, drained_heard (by rwa [hleads.settings_eq]) hloop]⟩
  · have hw : w.readers = 0 := Nat.le_zero.1 (hreaders ▸ hleads.readers_le)
    obtain ⟨x', hx', hsame'⟩ := exists_perform_of_drained hhear hw hsame ht
    exact ⟨x', hother.trans (.perform (perform_resized hhear hx')), hsame'⟩

omit hreaders in
/-- Where this loop is without its chunk buffer, none of the work is the loop's. -/
theorem leads_resized_of_deaf (hcoherent : u.port.Coherent)
    (hlarge : largestBlock < u.port.settings.chunkSize) (h : Leads u v) :
    Leads (u.resized n) (v.resized n) := by
  obtain ⟨tasks, h⟩ := h
  refine (course_keeps (P := fun w => Leads u w ∧ Leads (u.resized n) (w.resized n)) ?_
    ⟨.refl u, .refl _⟩ h).2
  rintro t w w' ⟨hleads, hother⟩ ht
  refine ⟨hleads.trans (.perform ht), hother.trans (.perform (perform_resized ?_ ht))⟩
  rintro rfl
  obtain ⟨actions, hactions⟩ := hleads.reaches
  have hw : w.port.Coherent := by
    rw [← hactions]
    exact hcoherent.run actions
  have hlistens : w.port.listens = true := by
    by_contra hdeaf
    exact not_loopRests_of_perform ht fun hlistens => absurd hlistens hdeaf
  have hdead := (hw.dead_iff _ (Port.session_of_listens hlistens)).2 (by rwa [hleads.settings_eq])
  cases hdead

/-- **Whatever order the work is done in**, the other port can come to rest as well, and if its loop
has caught up then, it has come to the same. -/
theorem exists_leads_resized (hcoherent : u.port.Coherent)
    (hchunk : 1 ≤ u.port.settings.chunkSize) (hn : 1 ≤ n) (h : Leads u v) (hrest : AtRest v)
    (hcaught : v.caughtUp = true) :
    ∃ w, Leads (u.resized n) w ∧ AtRest w ∧ (w.caughtUp = true → w = v.resized n) := by
  have hreaders' : v.readers = 0 := Nat.le_zero.1 (hreaders ▸ h.readers_le)
  have hdrained : drained v = v := drained_of_loopRests ((atRest_iff v).1 hrest).2.1
  have hatRest : AtRest (v.resized n) :=
    atRest_of_loopRests hrest hreaders' rfl rfl rfl (loopRests_resized hcaught)
  by_cases hlarge : largestBlock < n
  · obtain ⟨x, hleads, hsame⟩ := leads_resized_of_large hreaders hchunk h
    rw [hdrained] at hsame
    have hdeaf : LoopRests (x.resized n) := fun hlistens => by
      rw [listens_resized_of_large hlarge] at hlistens
      cases hlistens
    have hholds : Wire.holds x.port.wire = Wire.holds v.port.wire := by
      rw [← hsame]
      exact (holds_drained x.port).symm
    refine ⟨x.resized n, hleads, atRest_of_loopRests hrest ?_ ?_ ?_ hholds hdeaf,
      fun hcaught' => ?_⟩
    · rw [← hreaders', ← hsame]
      rfl
    · rw [← hsame]
      rfl
    · rw [← hsame]
      rfl
    · rw [← hsame, drained_of_loopRests (loopRests_of_caughtUp hlarge hcaught')]
  · have hsmall : n ≤ largestBlock := by omega
    by_cases hlarge' : largestBlock < u.port.settings.chunkSize
    · exact ⟨v.resized n, leads_resized_of_deaf hcoherent hlarge' h, hatRest, fun _ => rfl⟩
    · have hsame : Port.startedLoop n = Port.startedLoop u.port.settings.chunkSize := by
        rw [Port.startedLoop, Port.startedLoop, if_pos hsmall, if_pos (by omega)]
      have hleads := leads_resized_of_same hreaders hcoherent hchunk hn hsame h
      rw [hdrained] at hleads
      exact ⟨v.resized n, hleads, hatRest, fun _ => rfl⟩

end order

/-- A call goes alike with another chunk size. -/
theorem receive_resized (call : Call) (u : InUse Simulated) :
    (u.resized n).receive call = (u.receive call).resized n := by
  have fits := fits_resizing u.port.settings.chunkSize n
  cases call with
  | openWith o thread => exact congrArg Prod.snd (openThreadedAlone_refit fits thread o rfl)
  | close => exact takeDown_refit fits u
  | purge => rfl
  | write bytes =>
      simp only [receive]
      split <;> rfl
  | read patience => exact congrArg Prod.snd (read_refit patience u)
  | control c => rfl

theorem readers_finishHeld (u : InUse Simulated) : u.finishHeld.readers = u.readers := by
  unfold finishHeld
  split <;> rfl

/-- A call leaves the settings as they are, and no reader waits because of it that cannot. -/
theorem receive_keeps {call : Call} (hcall : call ≠ .read .unlimited) (u : InUse Simulated) :
    (u.receive call).port.settings = u.port.settings ∧ (u.receive call).readers = u.readers := by
  have hattach : ∀ (o : LineOverrides) (w : InUse Simulated),
      (w.attach o).2.port.settings = w.port.settings ∧ (w.attach o).2.readers = w.readers := by
    intro o w
    obtain ⟨e, wire, -, heq⟩ | ⟨wire, -, heq⟩ := w.port.attach_cases o
    all_goals
      unfold attach
      rw [heq]
      exact ⟨rfl, rfl⟩
  have hdown : u.takeDown.readers = u.readers :=
    readers_finishHeld { u with port := u.port.teardown }
  cases call with
  | openWith o thread =>
      have hopen : (u.openAlone o).2.port.settings = u.port.settings ∧
          (u.openAlone o).2.readers = u.readers := by
        rw [openAlone]
        split
        · exact hattach o u
        · split
          · exact ⟨rfl, rfl⟩
          · obtain ⟨hsettings, hreaders⟩ := hattach o u.takeDown
            exact ⟨hsettings.trans (settings_takeDown u), hreaders.trans hdown⟩
      obtain heq | ⟨fault, -, -, heq⟩ := openThreadedAlone_cases thread o u
      · rwa [receive, heq]
      · rw [receive, heq]
        exact ⟨(Port.settings_teardown _).trans hopen.1, hopen.2⟩
  | close => exact ⟨settings_takeDown u, hdown⟩
  | purge => exact ⟨rfl, rfl⟩
  | write bytes =>
      simp only [receive]
      split <;> exact ⟨rfl, rfl⟩
  | read patience =>
      obtain ⟨actions, hactions⟩ := reaches_read patience u
      refine ⟨?_, ?_⟩
      · change (u.read patience).2.port.settings = u.port.settings
        rw [← hactions, Port.settings_run]
      · cases patience with
        | unlimited => exact absurd rfl hcall
        | brief =>
            simp only [receive, read]
            split <;> rfl
  | control c => exact ⟨rfl, rfl⟩

/-! ## Two chunk sizes -/

/-- A dongle nobody has used yet. -/
def freshDongle (name : String) (echo : Bool) : Simulated := { name := name, echo := echo }

/-- The receive loop has caught up after each of some calls. -/
def CatchesUp (calls : List Call) (u : InUse Simulated) : Prop :=
  Throughout (fun v => v.caughtUp = true) (calls.map Call.action) u

/-- A loop that has its chunk buffer always catches up. -/
theorem catchesUp_of_small {settings : Settings} {opens : List LineOverrides}
    (hchunk : 1 ≤ settings.chunkSize) (hsmall : settings.chunkSize ≤ largestBlock)
    (calls : List Call) (h : u.InStep settings opens) (hrest : AtRest u) : CatchesUp calls u := by
  induction calls generalizing u opens with
  | nil => trivial
  | cons c calls ih =>
      obtain ⟨hrest', hstep⟩ := inStep_act hchunk h hrest c
      exact ⟨hstep.caughtUp_of_atRest hsmall hrest', ih hstep hrest'⟩

theorem patientReads_eq_zero {calls : List Call} (h : ∀ call ∈ calls, call ≠ .read .unlimited) :
    patientReads (calls.map Call.action) = 0 := by
  rw [patientReads, List.countP_map, List.countP_eq_zero]
  intro call hmem
  have hne := h call hmem
  cases call with
  | read patience => cases patience <;> simp_all [Call.action]
  | _ => simp [Call.action]

/-- What two ports over equal dongles show after some calls, and what these were told. -/
structure ToldAlike (calls : List Call) (u v : InUse Simulated) : Prop where
  told_eq : (run (calls.map Call.action) u).1 = (run (calls.map Call.action) v).1
  isOpen_eq : (run (calls.map Call.action) u).2.port.isOpen =
    (run (calls.map Call.action) v).2.port.isOpen
  available_eq : (run (calls.map Call.action) u).2.port.available =
    (run (calls.map Call.action) v).2.port.available
  unread_eq : (run (calls.map Call.action) u).2.port.inbox.unread =
    (run (calls.map Call.action) v).2.port.inbox.unread
  counters_eq : (run (calls.map Call.action) u).2.port.counters =
    (run (calls.map Call.action) v).2.port.counters

theorem ToldAlike.symm {calls : List Call} {u v : InUse Simulated} (h : ToldAlike calls u v) :
    ToldAlike calls v u :=
  ⟨h.told_eq.symm, h.isOpen_eq.symm, h.available_eq.symm, h.unread_eq.symm, h.counters_eq.symm⟩

/-- A new port with another chunk size is a new port that was changed for it. -/
theorem create_resized {name : String} {echo : Bool} {settings : Settings} {c d : Nat}
    {p : Port Simulated}
    (h : Port.create (freshDongle name echo) { settings with chunkSize := c } = .ok p)
    (hd : 1 ≤ d) :
    Port.create (freshDongle name echo) { settings with chunkSize := d } =
      .ok (p.refit (resizing d)) := by
  obtain ⟨-, hle, hcap, rfl⟩ := Port.create_eq_ok_iff.1 h
  exact Port.create_eq_ok_iff.2 ⟨hd, hle, hcap, rfl⟩

/-- The port whose loop lives, if one of them does, is told what the other one is told. -/
theorem toldAlike_of_create {name : String} {echo : Bool} {settings : Settings} {c d : Nat}
    {p q : Port Simulated}
    (hp : Port.create (freshDongle name echo) { settings with chunkSize := c } = .ok p)
    (hq : Port.create (freshDongle name echo) { settings with chunkSize := d } = .ok q)
    (hlive : d ≤ largestBlock → c ≤ largestBlock) {calls : List Call}
    (hbrief : ∀ call ∈ calls, call ≠ .read .unlimited) (hcaught : CatchesUp calls { port := q }) :
    ToldAlike calls { port := p } { port := q } := by
  have hd : 1 ≤ d := (Port.create_eq_ok_iff.1 hq).1
  obtain rfl := Except.ok.inj ((create_resized hp hd).symm.trans hq)
  obtain ⟨hc, -, hcap, hport⟩ := Port.create_eq_ok_iff.1 hp
  have hsettings : p.settings.chunkSize = c := by rw [hport]
  have hrun : run (calls.map Call.action) { port := p.refit (resizing d) } = _ :=
    run_resized (u := { port := p }) (n := d) (patientReads_eq_zero hbrief) rfl
      (Port.coherent_create hp) (by rwa [hsettings]) hd (by rwa [hsettings]) hcaught
  constructor <;> rw [hrun] <;> rfl

/-- **The chunk size shows nowhere.**  Take two ports over dongles nobody has used yet, with
settings that differ in the chunk size alone, and any calls that never wait.  Where the receive
loops of both have caught up after each of the calls, every call is told the same on both, and both
show the same link, bytes and counters; and a loop that has its chunk buffer always catches up.
Moreover, in whatever order the work is done that a call leaves behind, the other port can come to
rest as well, and if its loop has caught up then, to the same. -/
theorem told_alike {name : String} {echo : Bool} {settings : Settings} {c d : Nat}
    {p : Port Simulated}
    (h : Port.create (freshDongle name echo) { settings with chunkSize := c } = .ok p)
    (hd : 1 ≤ d) :
    ∃ q, Port.create (freshDongle name echo) { settings with chunkSize := d } = .ok q ∧
      (∀ calls : List Call, (∀ call ∈ calls, call ≠ .read .unlimited) →
        CatchesUp calls { port := p } → CatchesUp calls { port := q } →
        ToldAlike calls { port := p } { port := q }) ∧
      (∀ calls, (c ≤ largestBlock → CatchesUp calls { port := p }) ∧
        (d ≤ largestBlock → CatchesUp calls { port := q })) ∧
      ∀ (u v : InUse Simulated) (call : Call), p.Reaches u.port → u.readers = 0 →
        call ≠ .read .unlimited → Leads (u.receive call) v → AtRest v → v.caughtUp = true →
        ∃ w, Leads ((u.resized d).receive call) w ∧ AtRest w ∧
          (w.caughtUp = true → w = v.resized d) := by
  have hq := create_resized h hd
  have hc : 1 ≤ c := (Port.create_eq_ok_iff.1 h).1
  have hsettings : p.settings.chunkSize = c := by
    obtain ⟨-, -, -, rfl⟩ := Port.create_eq_ok_iff.1 h
    rfl
  refine ⟨p.refit (resizing d), hq, fun calls hbrief hcaught hcaught' => ?_,
    fun calls => ⟨fun hsmall => ?_, fun hsmall => ?_⟩,
    fun u v call hreaches hreaders hcall hleads hrest hcaught => ?_⟩
  · by_cases hlive : d ≤ largestBlock → c ≤ largestBlock
    · exact toldAlike_of_create h hq hlive hbrief hcaught'
    · have hother : c ≤ largestBlock → d ≤ largestBlock := by omega
      exact (toldAlike_of_create hq h hother hbrief hcaught).symm
  · refine catchesUp_of_small ?_ ?_ calls (inStep_create h) (atRest_create h)
    · exact hc
    · exact hsmall
  · refine catchesUp_of_small ?_ ?_ calls (inStep_create hq) (atRest_create hq)
    · exact hd
    · exact hsmall
  · obtain ⟨actions, hactions⟩ := hreaches.trans (reaches_receive call u)
    have hcoherent : (u.receive call).port.Coherent := by
      rw [← hactions]
      exact (Port.coherent_create h).run actions
    have hchunk : 1 ≤ (u.receive call).port.settings.chunkSize := by
      rwa [← hactions, Port.settings_run, hsettings]
    rw [receive_resized call]
    exact exists_leads_resized ((receive_keeps hcall u).2.trans hreaders) hcoherent hchunk hd hleads
      hrest hcaught

/-- A closed port with this chunk size. -/
def chunkedPort (c : Nat) : Port Simulated :=
  { smallPort with settings := { ringCapacity := 3, chunkSize := c } }

/-- More bytes than the ring can hold come at once, and the dongle hangs up. -/
def overrun : List Call :=
  [.openWith {}, .control (.enqueue [1, 2, 3, 4, 5]), .control .disconnect, .read .brief]

theorem told_alike_after_overrun :
    Port.create (freshDongle "MOCK0" false) { ringCapacity := 3, chunkSize := 1 } =
        .ok (chunkedPort 1) ∧
      ∃ q,
        Port.create (freshDongle "MOCK0" false) { ringCapacity := 3, chunkSize := 1024 } = .ok q ∧
        (run (overrun.map Call.action) { port := q }).2.port.counters =
          { received := 5, delivered := 1, evicted := 3 } := by
  have hport : Port.create (freshDongle "MOCK0" false) { ringCapacity := 3, chunkSize := 1 } =
      .ok (chunkedPort 1) := rfl
  obtain ⟨q, hq, halike, hcatches, -⟩ :=
    @told_alike "MOCK0" false { ringCapacity := 3 } 1 1024 _ hport (by decide)
  obtain ⟨hcaught, hcaught'⟩ := hcatches overrun
  have hcounters := (halike overrun (by simp [overrun]) (hcaught (by decide))
    (hcaught' (by decide))).counters_eq
  exact ⟨hport, q, hq, hcounters.symm.trans (by decide)⟩

end InUse

end DongleLink

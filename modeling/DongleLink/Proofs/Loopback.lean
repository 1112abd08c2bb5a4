import DongleLink.Proofs.Agreement
import DongleLink.Proofs.ChunkSize
import DongleLink.Proofs.Drained
import DongleLink.Proofs.Ledger
import DongleLink.Proofs.Script

/-!
# DongleLink.Proofs.Loopback

What is written to a dongle with its echo on comes back.  A write passes the dongle, which
records it and queues it as received bytes; the loop takes it in by chunks, and the ring keeps the
newest bytes that fit.  In whatever order loop and write go on, once there is nothing left to do
the port is where it would be if the loop took everything in at once (`eq_drained_of_write`), and
that is computed in one step.

So what was written has come back wherever the loop has caught up (`comesBack`).  A loop that
died over its chunk buffer never does after a write: the echo is there for it, and it takes nothing
in (`listens_of_caughtUp`).
-/

namespace DongleLink

namespace InUse

/-! ## Reads of what there is -/

section reads

variable {σ : Type} {u : InUse σ} {patience : Patience}

/-- A reader takes the oldest byte, or is told of none where it must not wait. -/
theorem read_of_unread (h : u.port.inbox.unread ≠ [] ∨ patience = .brief) :
    (u.read patience).1 = .told u.port.inbox.unread.head? ∧
      (u.read patience).2.port.inbox.unread = u.port.inbox.unread.tail := by
  unfold read
  obtain ⟨b, inbox, hinbox, hlook⟩ | ⟨hunread, hlook⟩ := u.port.look_cases
  · simp [hlook, Inbox.unread_of_look hinbox]
  · obtain rfl := h.resolve_left fun hne => hne hunread
    cases hup : u.port.inbox.linkUp <;> simp [hlook, hup, hunread]

/-- **Reads take the unread bytes in order**, and are told of none when there are none left and
they must not wait. -/
theorem run_reads [Wire σ] (patiences : List Patience)
    (h : patiences.length ≤ u.port.inbox.unread.length ∨ ∀ p ∈ patiences, p = .brief) :
    readAnswers (run (patiences.map Action.read) u).1 =
        drain u.port.inbox.unread patiences.length ∧
      (run (patiences.map Action.read) u).2.port.inbox.unread =
        u.port.inbox.unread.drop patiences.length := by
  induction patiences generalizing u with
  | nil => exact ⟨rfl, rfl⟩
  | cons patience patiences ih =>
      have hfirst : u.port.inbox.unread ≠ [] ∨ patience = .brief := by
        obtain hlength | hbrief := h
        · left
          rintro hnil
          simp [hnil] at hlength
        · exact .inr (hbrief patience List.mem_cons_self)
      obtain ⟨htold, hunread⟩ := read_of_unread hfirst
      have hrest := ih (u := (u.read patience).2) (by
        rw [hunread, List.length_tail]
        obtain hlength | hbrief := h
        · exact .inl (Nat.le_sub_of_add_le hlength)
        · exact .inr fun p hp => hbrief p (List.mem_cons_of_mem _ hp))
      rw [hunread, List.drop_tail] at hrest
      have hanswers : readAnswers (run ((patience :: patiences).map Action.read) u).1 =
          (u.read patience).1 ::
            readAnswers (run (patiences.map Action.read) (u.read patience).2).1 := rfl
      rw [hanswers, htold, hrest.1, List.length_cons, drain_succ]
      exact ⟨rfl, hrest.2⟩

end reads

/-! ## One write -/

section write

variable {u v : InUse Simulated} {bytes : List UInt8}

/-- A write that is not held up has its turn, and nobody waits because of it. -/
theorem tryWrite_of_free (hfree : Wire.holds u.port.wire = false) (bytes : List UInt8) :
    (u.tryWrite bytes).2 =
      { u with port := if u.port.accepts then (u.port.transmit bytes).2 else u.port } := by
  cases haccepts : u.port.accepts <;> simp [tryWrite, haccepts, hfree]

/-- On a port at rest whose wire holds nothing up, no write waits. -/
theorem no_writes_of_free (hrest : AtRest u) (hfree : Wire.holds u.port.wire = false) :
    u.held = none ∧ u.queued = [] := by
  obtain ⟨-, -, hgo, hqueued⟩ := (atRest_iff u).1 hrest
  have hheld : u.held = none := by
    cases hheld : u.held with
    | none => rfl
    | some waiting => simp [hheld, hfree] at hgo
  exact ⟨hheld, hqueued hheld⟩

/-- Where no write waits, a write is the next to have its turn. -/
theorem turn_of_write (hheld : u.held = none) (hqueued : u.queued = []) (bytes : List UInt8) :
    perform (.turn 0) { u with queued := [bytes] } = some (u.tryWrite bytes).2 := by
  have hturn := perform_turn (u := { u with queued := [bytes] }) (i := 0) hheld rfl
  have hself : ({ u with queued := [] } : InUse Simulated) = u := by rw [← hqueued]
  rwa [show [bytes].eraseIdx 0 = [] from rfl, hself] at hturn

theorem receive_write (hqueued : u.queued = []) (hne : bytes ≠ []) :
    u.receive (.write bytes) = { u with queued := [bytes] } := by
  simp [receive, hne, hqueued]

/-- A write with all that it sets free is the call, and work. -/
theorem leads_write (hheld : u.held = none) (hqueued : u.queued = []) (hne : bytes ≠ []) :
    Leads (u.receive (.write bytes)) (u.write bytes).2 := by
  rw [receive_write hqueued hne, write, if_neg (by simpa using hne), if_neg (by simp [hheld])]
  exact (Leads.perform (turn_of_write hheld hqueued bytes)).trans (leads_settle _)

/-- **Whatever order the work is done in**, a write on a port at rest leads to where it has had its
turn and the loop has taken everything in. -/
theorem eq_drained_of_write (hchunk : 1 ≤ u.port.settings.chunkSize) (hrest : AtRest u)
    (hreaders : u.readers = 0) (hfree : Wire.holds u.port.wire = false) (hne : bytes ≠ [])
    (hleads : Leads (u.receive (.write bytes)) v) (hend : AtRest v) :
    v = drained (u.tryWrite bytes).2 := by
  have hloop := ((atRest_iff u).1 hrest).2.1
  obtain ⟨hheld, hqueued⟩ := no_writes_of_free hrest hfree
  have hsettings := settings_tryWrite bytes u
  -- until the write has its turn there is nothing else to do, and after it only the loop has work
  let P : InUse Simulated → Prop := fun w =>
    w = { u with queued := [bytes] } ∨
      w.readers = 0 ∧ w.held = none ∧ w.queued = [] ∧ 1 ≤ w.port.settings.chunkSize ∧
        drained w = drained (u.tryWrite bytes).2
  have hkeep : ∀ t w w', P w → perform t w = some w' → P w' := by
    rintro t w w' (rfl | ⟨hreaders, hheld, hqueued, hchunk, hsame⟩) ht
    · cases t with
      | hear =>
          have hrests : LoopRests { u with queued := [bytes] } := hloop
          exact absurd hrests (not_loopRests_of_perform ht)
      | serve => simp [perform, hreaders] at ht
      | resume => simp [perform, hheld] at ht
      | turn i =>
          cases i with
          | zero =>
              obtain rfl := Option.some.inj ((turn_of_write hheld hqueued bytes).symm.trans ht)
              right
              rw [hsettings, tryWrite_of_free hfree]
              exact ⟨hreaders, hheld, hqueued, hchunk, rfl⟩
          | succ i => simp [perform, hheld] at ht
    · cases t with
      | hear =>
          have hloop := not_loopRests_of_perform ht
          rw [perform_hear hloop] at ht
          cases ht
          refine .inr ⟨hreaders, hheld, hqueued, ?_, (drained_heard hchunk hloop).trans hsame⟩
          simpa [heard] using hchunk
      | serve => simp [perform, hreaders] at ht
      | resume => simp [perform, hheld] at ht
      | turn i => simp [perform, hheld, hqueued] at ht
  obtain ⟨tasks, hleads⟩ := hleads
  obtain rfl | ⟨-, -, -, -, hsame⟩ := course_keeps hkeep (.inl (receive_write hqueued hne)) hleads
  · have hturn := hend (.turn 0)
    simp [perform, hheld] at hturn
  · rw [← hsame, drained_of_loopRests ((atRest_iff v).1 hend).2.1]

end write

/-! ## The round trip -/

/-- What a write leaves once there is nothing left to do: `u` is the port before it, and `v`
afterwards. -/
structure ComesBack (settings : Settings) (bytes : List UInt8) (u v : InUse Simulated) :
    Prop where
  log_eq : v.port.wire.log = u.port.wire.log ++ [bytes]
  /-- the newest bytes that fit, as long as there are so many -/
  unread_eq : v.port.inbox.unread = (u.port.inbox.unread ++ bytes).rtake
    (min (u.port.inbox.unread.length + bytes.length) (settings.ringCapacity - 1))
  written_eq : v.port.counters.written = u.port.counters.written + .ofNat bytes.length
  received_eq : v.port.counters.received = u.port.counters.received + .ofNat bytes.length
  evicted_eq : v.port.counters.evicted = u.port.counters.evicted +
    .ofNat (u.port.inbox.unread.length + bytes.length - (settings.ringCapacity - 1))
  delivered_eq : v.port.counters.delivered = u.port.counters.delivered
  failures_eq : v.port.counters.writeFailures = u.port.counters.writeFailures
  /-- what fits comes back unchanged -/
  unread_of_fits : u.port.inbox.unread.length + bytes.length ≤ settings.ringCapacity - 1 →
    v.port.inbox.unread = u.port.inbox.unread ++ bytes
  /-- reads that need not wait are told of these bytes in order, and then of none -/
  reads_eq : ∀ patiences : List Patience,
    patiences.length ≤ v.port.inbox.unread.length ∨ (∀ p ∈ patiences, p = .brief) →
      readAnswers (run (patiences.map Action.read) v).1 =
        drain v.port.inbox.unread patiences.length

/-- A write that passes a dongle with its echo on is recorded, queued and counted. -/
theorem transmit_of_echo {p : Port Simulated} (hecho : p.wire.echo = true)
    (hfail : p.wire.failWrites = false) (hover : p.wire.isOver = false) (bytes : List UInt8) :
    (p.transmit bytes).2 =
      { p with
        wire := { p.wire with log := p.wire.log ++ [bytes], queue := p.wire.queue ++ bytes }
        counters := { p.counters with written := p.counters.written + .ofNat bytes.length } } := by
  simp [Port.transmit, Wire.write, Simulated.write, hecho, hfail, hover, Port.count]

/-- **A loop that listens takes in what the echo brings.** -/
theorem comesBack_of_listens {settings : Settings} {u : InUse Simulated}
    (hlistens : u.port.listens = true) (haccepts : u.port.accepts = true)
    (hroom : u.port.inbox.ring.usable = settings.ringCapacity - 1) (hrest : AtRest u)
    (hecho : u.port.wire.echo = true) (hfail : u.port.wire.failWrites = false)
    (hfree : Wire.holds u.port.wire = false) (bytes : List UInt8) :
    ComesBack settings bytes u (drained (u.tryWrite bytes).2) := by
  obtain ⟨hqueue, hover⟩ := (Simulated.idle_iff _).1 (((atRest_iff u).1 hrest).2.1 hlistens)
  have hsent := transmit_of_echo hecho hfail hover bytes
  rw [hqueue, List.nil_append] at hsent
  have hturn : (u.tryWrite bytes).2 = { u with port := (u.port.transmit bytes).2 } := by
    rw [tryWrite_of_free hfree, if_pos haccepts]
  have hport : (drained (u.tryWrite bytes).2).port = (u.port.transmit bytes).2.swallow := by
    have hlistens' : (u.port.transmit bytes).2.listens = true := by
      simpa [Port.listens] using hlistens
    have hover' : (u.port.transmit bytes).2.wire.isOver = false := by
      rw [hsent]
      exact hover
    rw [hturn]
    exact Port.drained_of_live hlistens' hover'
  rw [hsent] at hport
  let v := drained (u.tryWrite bytes).2
  have hinbox : v.port.inbox = (u.port.inbox.ingest bytes).2 := congrArg Port.inbox hport
  have hcounters : v.port.counters =
      { u.port.counters with
        written := u.port.counters.written + .ofNat bytes.length
        evicted := u.port.counters.evicted + .ofNat (u.port.inbox.ingest bytes).1
        received := u.port.counters.received + .ofNat bytes.length } :=
    congrArg Port.counters hport
  have hunread : v.port.inbox.unread = (u.port.inbox.unread ++ bytes).rtake
      (min (u.port.inbox.unread.length + bytes.length) (settings.ringCapacity - 1)) := by
    rw [hinbox, Inbox.unread_ingest, hroom]
  exact
    { log_eq := congrArg (fun p => p.wire.log) hport
      unread_eq := hunread
      written_eq := by rw [hcounters]
      received_eq := by rw [hcounters]
      evicted_eq := by rw [hcounters, ← hroom, ← Inbox.ingest_evicted]
      delivered_eq := by rw [hcounters]
      failures_eq := by rw [hcounters]
      unread_of_fits := fun hfits => by
        rw [hunread, Nat.min_eq_left hfits, ← List.length_append, List.rtake, Nat.sub_self,
          List.drop_zero]
      reads_eq := fun patiences hpatient => (run_reads patiences hpatient).1 }

/-- **Only a loop that listens catches up with an echo.**  To one that died over its chunk buffer
the bytes are there, and stay there. -/
theorem listens_of_caughtUp {u : InUse Simulated} {bytes : List UInt8} (hne : bytes ≠ [])
    (hsession : u.port.session = some .reading ∨ u.port.session = some .dead)
    (haccepts : u.port.accepts = true) (hecho : u.port.wire.echo = true)
    (hfail : u.port.wire.failWrites = false) (hfree : Wire.holds u.port.wire = false)
    (hcaught : (drained (u.tryWrite bytes).2).caughtUp = true) : u.port.listens = true := by
  rw [← Bool.not_eq_false]
  intro hdeaf
  have hturn : (u.tryWrite bytes).2 = { u with port := (u.port.transmit bytes).2 } := by
    rw [tryWrite_of_free hfree, if_pos haccepts]
  have hdeaf' : (u.port.transmit bytes).2.listens = false := by
    simpa [Port.listens] using hdeaf
  rw [hturn, drained, Port.drained_of_deaf hdeaf'] at hcaught
  have hidle : (u.port.transmit bytes).2.wire.queue = [] ∧
      (u.port.transmit bytes).2.wire.isOver = false := by
    obtain hsession | hsession := hsession
    all_goals
      exact idle_of_caughtUp hcaught ((Port.session_transmit bytes u.port).trans hsession) (by simp)
  -- a dongle that is not over afterwards was not over before, and so it sends the echo
  have hover : u.port.wire.isOver = false := by
    obtain ⟨log, queue, hwrite⟩ := u.port.wire.write_eq bytes
    rw [Port.wire_transmit, hwrite] at hidle
    exact hidle.2
  rw [transmit_of_echo hecho hfail hover] at hidle
  exact hne (List.append_eq_nil_iff.1 hidle.1).2

/-- **What is written comes back.**  On an open port with the echo on, where nothing is left to do
and nothing holds a write up or fails it, a write leads to rest.  In whatever order the work is
done, once nothing is left to do and the receive loop has caught up, all of it is recorded, received
and counted, and the newest bytes that fit can be read in order.  A loop that has its chunk buffer
has caught up then. -/
theorem comesBack {name : String} {echo : Bool} {settings : Settings} {p : Port Simulated}
    (h : Port.create { name := name, echo := echo } settings = .ok p) {events : List Event}
    {u : InUse Simulated} (hu : course happen events { port := p } = some u) (hrest : AtRest u)
    (hup : u.port.isOpen = true) (hecho : u.port.wire.echo = true)
    (hstall : u.port.wire.stall = false) (hfail : u.port.wire.failWrites = false)
    (hreaders : u.readers = 0) (bytes : List UInt8) (hne : bytes ≠ []) :
    (Leads (u.receive (.write bytes)) (u.write bytes).2 ∧ AtRest (u.write bytes).2) ∧
      ∀ v, Leads (u.receive (.write bytes)) v → AtRest v →
        (v.caughtUp = true → ComesBack settings bytes u v) ∧
          (settings.chunkSize ≤ largestBlock → v.caughtUp = true) := by
  obtain ⟨-, -, hcapacity, -⟩ := Port.create_eq_ok_iff.1 h
  have hchunk := (Port.create_eq_ok_iff.1 h).1
  have hstep : u.InStep settings (along happen opened events { port := p }) :=
    (show Brings { port := p } _ u from ⟨events, hu, rfl⟩).inStep hchunk (inStep_create h)
  have hchunk' : 1 ≤ u.port.settings.chunkSize := by rwa [hstep.port.settings_eq]
  have hroom : u.port.inbox.ring.usable = settings.ringCapacity - 1 := by
    obtain ⟨actions, hrun⟩ := reaches_course hu
    obtain ⟨-, -, _, hp⟩ := Port.create_eq_ok_iff.1 h
    rw [← hrun, Port.usable_run, hp]
    exact Ring.usable_ofCapacity _ hcapacity
  have hsession := hstep.port.coherent.linkUp_iff.1 hup
  have haccepts : u.port.accepts = true := by
    obtain hsession | hsession := hsession
    all_goals simp [Port.accepts, hstep.port.coherent.writer_eq, hstep.port.coherent.running_eq,
      hsession]
  have hfree : Wire.holds u.port.wire = false := by simp [Wire.holds, Simulated.holds, hstall]
  obtain ⟨hheld, hqueued⟩ := no_writes_of_free hrest hfree
  refine ⟨⟨leads_write hheld hqueued hne, (brings_write hchunk' (fun _ => hqueued) bytes).2⟩,
    fun v hleads hend => ⟨fun hcaught => ?_, fun hsmall => ?_⟩⟩
  · obtain rfl := eq_drained_of_write hchunk' hrest hreaders hfree hne hleads hend
    have hlistens := listens_of_caughtUp hne hsession haccepts hecho hfail hfree hcaught
    exact comesBack_of_listens hlistens haccepts hroom hrest hecho hfail hfree bytes
  · have hbrings : Brings (u.receive (.write bytes)) [] v := (Brings.refl _).leads hleads
    exact (hbrings.inStep hchunk (hstep.receive (.write bytes))).caughtUp_of_atRest hsmall hend

/-- A byte came back, and can be read. -/
def echoedByte : List Event :=
  [.call (.openWith {}), .call (.control (.echo true)), .call (.write [1]), .task (.turn 0),
    .task .hear]

/-- More bytes than a chunk or the ring can hold come back behind it: the ring keeps the last
two. -/
theorem comesBack_echoedByte :
    Port.create { name := "MOCK0" } smallSettings = .ok smallPort ∧
      ∃ u, course happen echoedByte { port := smallPort } = some u ∧ AtRest u ∧
        u.port.isOpen = true ∧ u.port.wire.echo = true ∧ u.port.wire.stall = false ∧
        u.port.wire.failWrites = false ∧ u.readers = 0 ∧ u.port.inbox.unread = [1] ∧
        ComesBack smallSettings [2, 3, 4] u (u.write [2, 3, 4]).2 ∧
        (u.write [2, 3, 4]).2.port.inbox.unread = [3, 4] := by
  have hport : Port.create { name := "MOCK0" } smallSettings = .ok smallPort := rfl
  have hview : (course happen echoedByte { port := smallPort }).map (fun u =>
      ([u.port.isOpen, u.port.wire.echo, u.port.wire.stall, u.port.wire.failWrites,
        u.held.isSome, u.queued.isEmpty, Wire.idle u.port.wire], u.readers,
        u.port.inbox.unread)) =
      some ([true, true, false, false, false, true, true], 0, [1]) := by decide
  obtain ⟨u, hu, hparts⟩ := Option.map_eq_some_iff.1 hview
  simp only [Prod.mk.injEq, List.cons.injEq] at hparts
  obtain ⟨⟨hup, hecho, hstall, hfail, hheld, hqueued, hidle, -⟩, hreaders, hunread⟩ := hparts
  have hrest : AtRest u := (atRest_iff u).2
    ⟨fun hpos => by simp [hreaders] at hpos, fun _ => hidle, fun h => by simp [hheld] at h,
      fun _ => List.isEmpty_iff.1 hqueued⟩
  obtain ⟨⟨hleads, hend⟩, hback⟩ :=
    comesBack hport hu hrest hup hecho hstall hfail hreaders [2, 3, 4] (by decide)
  obtain ⟨hall, hcaught⟩ := hback _ hleads hend
  have hall := hall (hcaught (by decide))
  refine ⟨hport, u, hu, hrest, hup, hecho, hstall, hfail, hreaders, hunread, hall, ?_⟩
  rw [hall.unread_eq, hunread]
  decide

end InUse

end DongleLink

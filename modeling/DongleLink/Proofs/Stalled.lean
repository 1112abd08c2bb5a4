import DongleLink.Proofs.Closing

/-!
# DongleLink.Proofs.Stalled

A write that the wire holds up keeps those behind it waiting for as long as it waits.  What becomes
of them all is the same whether the calls on the port are carried out one after the other with all
that they set free (`act_release`), or writers and others move in any order: when the dongle takes
writes again all are delivered, when it hangs up all fail, and when the port is closed only the one
that had its turn before fails, and the others are ignored.
-/

namespace DongleLink

/-- The call that releases the writes.  A port that is dropped is closed. -/
def Release.call : Release → InUse.Call
  | stallOff => .control (.stall false)
  | hangUp => .control .disconnect
  | shutDown => .close

namespace InUse

open Writers

variable {r : Release} {u v w : InUse Simulated} {first bytes : List UInt8}
  {ended more : List Ended}

/-! ## Writers -/

/-- A write that waited has its turn after a release. -/
theorem tryWrite_of_released (hr : Released r u.port) (bytes : List UInt8) :
    ∃ q, u.tryWrite bytes = ([.write (r.ofWaiting bytes)], { u with port := q }) ∧
      Released r q ∧ Spares u.port q ∧
      u.port.Gains q (delivered [r.ofWaiting bytes]) (failures [r.ofWaiting bytes]) := by
  cases haccepts : u.port.accepts with
  | false =>
      have hclosed := hr.accepts_eq.symm.trans haccepts
      have hfate : r.ofWaiting bytes = .ignored := by
        cases r with
        | shutDown => rfl
        | _ => cases hclosed
      rw [hfate]
      exact ⟨u.port, by simp [tryWrite, haccepts], hr, .refl u.port, .refl u.port⟩
  | true =>
      have hopen := hr.accepts_eq.symm.trans haccepts
      have hfate : r.ofWaiting bytes = (u.port.transmit bytes).1 := by
        rw [hr.transmit_fate]
        cases r with
        | shutDown => cases hopen
        | _ => rfl
      rw [hfate]
      exact ⟨(u.port.transmit bytes).2, by simp [tryWrite, haccepts, hr.holds_eq],
        hr.same (Port.sameForWriters_transmit bytes u.port), Port.spares_transmit bytes u.port,
        Port.gains_transmit bytes u.port⟩

/-- So have all that wait, in order. -/
theorem serveQueued_of_released (writes : List (List UInt8)) (hr : Released r u.port)
    (hheld : u.held = none) :
    ∃ q, serveQueued writes u =
        (writes.map fun bytes => .write (r.ofWaiting bytes), { u with port := q, queued := [] }) ∧
      Spares u.port q ∧
      u.port.Gains q (delivered (writes.map r.ofWaiting)) (failures (writes.map r.ofWaiting)) := by
  induction writes generalizing u with
  | nil => exact ⟨u.port, rfl, .refl u.port, .refl u.port⟩
  | cons bytes writes ih =>
      obtain ⟨p, htry, hp, hspares, hgains⟩ := tryWrite_of_released hr bytes
      obtain ⟨q, hserve, hspares', hgains'⟩ := ih (u := { u with port := p }) hp hheld
      refine ⟨q, ?_, hspares.trans hspares', ?_⟩
      · rw [serveQueued, htry]
        dsimp only
        rw [if_neg (by simp [hheld]), hserve]
        rfl
      · have hboth := hgains.trans hgains'
        rwa [← delivered_append, ← failures_append] at hboth

/-- **After a release the held write ends, and after it all that waited.** -/
theorem serveWriters_of_released (hr : Released r u.port) (hheld : u.held = some first) :
    ∃ q, u.serveWriters = (.write (r.ofParked first) ::
          u.queued.map fun bytes => .write (r.ofWaiting bytes),
        { u with port := q, held := none, queued := [] }) ∧
      Spares u.port q ∧ u.port.Gains q (r.entries first u.queued) (r.failed u.queued) := by
  let free : Port Simulated := { u.port with wire := Wire.unpark u.port.wire }
  have hfree : Released r free := hr.same (u.port.sameForWriters_unpark true)
  have hfate := hfree.transmit_fate first
  obtain ⟨q, hserve, hspares, hgains⟩ := serveQueued_of_released u.queued
    (u := { u with port := (free.transmit first).2, held := none })
    (hfree.same (Port.sameForWriters_transmit first free)) rfl
  refine ⟨q, ?_, ?_, ?_⟩
  · rw [serveWriters, hheld]
    simp only [hr.holds_eq, Bool.false_eq_true, if_false]
    rw [hserve, hfate]
  · have hwait : Spares u.port free := ⟨rfl, rfl, rfl, rfl, rfl, rfl, rfl, rfl⟩
    exact hwait.trans ((Port.spares_transmit first free).trans hspares)
  · have hboth := (Port.gains_transmit first free).trans hgains
    rw [hfate, ← delivered_append, ← failures_append] at hboth
    rw [← r.delivered_fates, ← r.failures_fates]
    exact ⟨hboth.log_eq, hboth.written_eq, hboth.failures_eq⟩

/-! ## Readers and loop -/

/-- Readers and loop were at work, which is nothing to the writers. -/
structure Aside (u : InUse Simulated) (ended : List Ended) (v : InUse Simulated) : Prop where
  fates_eq : writeFates ended = []
  gains : u.port.Gains v.port [] 0
  held_eq : v.held = u.held
  queued_eq : v.queued = u.queued

namespace Aside

theorem refl (u : InUse Simulated) : Aside u [] u := ⟨rfl, .refl u.port, rfl, rfl⟩

theorem trans (h : Aside u ended v) (k : Aside v more w) : Aside u (ended ++ more) w where
  fates_eq := by
    have hfirst := h.fates_eq
    have hsecond := k.fates_eq
    unfold writeFates at hfirst hsecond ⊢
    rw [List.filterMap_append, hfirst, hsecond]
    rfl
  gains := h.gains.trans k.gains
  held_eq := k.held_eq.trans h.held_eq
  queued_eq := k.queued_eq.trans h.queued_eq

theorem serveReaders (n : Nat) (u : InUse Simulated) :
    Aside u (serveReaders n u).1 (serveReaders n u).2 := by
  induction n generalizing u with
  | zero => exact .refl u
  | succ n ih =>
      have hlook := Port.gains_carryOut .look u.port
      rw [InUse.serveReaders]
      split
      · exact .refl u
      next port h =>
        rw [Port.carryOut, h] at hlook
        have hfirst : Aside u [.reader none] { u with port := port, readers := n } :=
          ⟨rfl, hlook, rfl, rfl⟩
        exact hfirst.trans (ih _)
      next b port h =>
        rw [Port.carryOut, h] at hlook
        have hfirst : Aside u [.reader (some b)] { u with port := port, readers := n } :=
          ⟨rfl, hlook, rfl, rfl⟩
        exact hfirst.trans (ih _)

theorem listen (n : Nat) (u : InUse Simulated) : Aside u (listen n u).1 (listen n u).2 := by
  induction n generalizing u with
  | zero => exact .refl u
  | succ n ih =>
      have hread := Port.gains_carryOut .read u.port
      have hhear := Port.gains_carryOut
        (.hear (Wire.readChunk u.port.settings.chunkSize u.port.wire).1) (u.port.carryOut .read)
      have hheard : Aside u [] u.heard := ⟨rfl, hread.trans hhear, rfl, rfl⟩
      rw [InUse.listen]
      split
      · exact .refl u
      · exact (hheard.trans (serveReaders u.heard.readers u.heard)).trans (ih _)

end Aside

/-- Readers and loop have their turns after the writers. -/
theorem settle_of_serveWriters (h : u.serveWriters = (ended, v)) :
    u.settle = (ended ++ (serveReaders v.readers v).1 ++
        (listen (Wire.backlog (serveReaders v.readers v).2.port.wire)
          (serveReaders v.readers v).2).1,
      (listen (Wire.backlog (serveReaders v.readers v).2.port.wire)
        (serveReaders v.readers v).2).2) := by
  rw [settle, h]

/-- **Whatever else is set free after a release**, the writes end as it has it. -/
theorem settle_of_released (hr : Released r u.port) (hheld : u.held = some first) :
    writeFates u.settle.1 = r.ofParked first :: u.queued.map r.ofWaiting ∧
      u.settle.2.held = none ∧ u.settle.2.queued = [] ∧
      u.port.Gains u.settle.2.port (r.entries first u.queued) (r.failed u.queued) := by
  obtain ⟨q, hserve, -, hgains⟩ := serveWriters_of_released hr hheld
  let written : InUse Simulated := { u with port := q, held := none, queued := [] }
  have haside : Aside written _ _ := (Aside.serveReaders written.readers written).trans
    (.listen (Wire.backlog (serveReaders written.readers written).2.port.wire) _)
  have hall := hgains.trans haside.gains
  rw [List.append_nil, Nat.add_zero] at hall
  have hnone := haside.fates_eq
  rw [settle_of_serveWriters hserve]
  refine ⟨?_, haside.held_eq, haside.queued_eq, hall⟩
  unfold writeFates at hnone ⊢
  rw [List.append_assoc, List.filterMap_append, hnone, List.append_nil]
  simp [List.filterMap_map]

/-- Readers that wait on a link that is down, with nothing unread, are all told so. -/
theorem serveReaders_of_down (hdown : u.port.inbox.linkUp = false)
    (hunread : 0 < u.readers → u.port.inbox.unread = []) :
    serveReaders u.readers u =
      (List.replicate u.readers (.reader none), { u with readers := 0 }) := by
  induction hn : u.readers generalizing u with
  | zero => rw [serveReaders, List.replicate_zero, ← hn]
  | succ n ih =>
      have hempty := hunread (by omega)
      have hlook : u.port.look = (.closed, u.port) := by
        obtain ⟨b, inbox, hbyte, -⟩ | ⟨-, heq⟩ := u.port.look_cases
        · have hsome := Inbox.unread_of_look hbyte
          simp [hempty] at hsome
        · rw [heq, hdown]
          rfl
      have hrest := ih (u := { u with readers := n }) hdown (fun _ => hempty) rfl
      rw [serveReaders, hlook]
      simp only [hrest]
      rfl

/-! ## The three releases -/

section releases

variable {settings : Settings} {opens : List LineOverrides}

/-- Writers find a stream to write to exactly while there is a session. -/
theorem accepts_of_coherent {p : Port Simulated} (h : p.Coherent) :
    p.accepts = p.session.isSome := by
  rw [Port.accepts, h.writer_eq, h.running_eq, Bool.and_self]

/-- A write is held up only while it finds a stream to write to. -/
theorem open_of_held (h : u.InStep settings opens) (hrest : AtRest u)
    (hheld : u.held = some first) :
    u.port.session.isSome = true ∧ u.port.accepts = true ∧ Wire.holds u.port.wire = true := by
  obtain ⟨-, -, hholds, -⟩ := (atRest_iff u).1 hrest
  have hsession : u.port.session.isSome = true :=
    Option.isSome_iff_ne_none.2 (h.session_of_held (by simp [hheld]))
  exact ⟨hsession, (accepts_of_coherent h.port.coherent).trans hsession, hholds (by simp [hheld])⟩

/-- The dongle counts no write that waits where none is held up. -/
theorem blocked_act (hchunk : 1 ≤ settings.chunkSize) (h : u.InStep settings opens)
    (hrest : AtRest u) (c : Call) (hnone : (u.act c.action).2.held = none) :
    (u.act c.action).2.port.wire.blocked = 0 := by
  have hblocked := (inStep_act hchunk h hrest c).2.blocked_eq
  rwa [hnone] at hblocked

/-- What each release makes of the port before anybody goes on. -/
theorem exists_released (h : u.InStep settings opens) (hrest : AtRest u)
    (hheld : u.held = some first) (hfail : u.port.wire.failWrites = false) (r : Release) :
    ∃ q, u.act r.call.action =
        ((.done, (settle { u with port := q }).1), (settle { u with port := q }).2) ∧
      Released r q ∧ u.port.Gains q [] 0 := by
  obtain ⟨hsession, haccepts, hholds⟩ := open_of_held h hrest hheld
  cases r with
  | stallOff =>
      exact ⟨_, rfl, Released.of_stallOff haccepts hholds hfail, .of_eq rfl rfl rfl⟩
  | hangUp => exact ⟨_, rfl, Released.of_hangUp haccepts hfail, .of_eq rfl rfl rfl⟩
  | shutDown =>
      refine ⟨u.port.teardown, rfl, .of_teardown hsession hfail, .of_eq ?_ (by simp) (by simp)⟩
      rw [Port.wire_teardown, if_pos hsession]
      rfl

/-- **Each release ends all writes**, the held one first. -/
theorem act_release (h : u.InStep settings opens) (hrest : AtRest u) (hheld : u.held = some first)
    (hfail : u.port.wire.failWrites = false) (r : Release) :
    let out := u.act r.call.action
    writeFates out.1.2 = r.ofParked first :: u.queued.map r.ofWaiting ∧
      out.2.held = none ∧ out.2.queued = [] ∧
      u.port.Gains out.2.port (r.entries first u.queued) (r.failed u.queued) := by
  obtain ⟨q, hact, hr, hgains⟩ := exists_released h hrest hheld hfail r
  obtain ⟨hfates, hnone, hqueued, hmore⟩ := settle_of_released (u := { u with port := q }) hr hheld
  have hall := hgains.trans hmore
  rw [List.nil_append, Nat.zero_add] at hall
  simp only [hact]
  exact ⟨hfates, hnone, hqueued, hall⟩

/-- **Closing leaves nobody waiting**, and no session. -/
theorem act_close (h : u.InStep settings opens) (hrest : AtRest u) (hheld : u.held = some first)
    (hfail : u.port.wire.failWrites = false) :
    let out := u.act Call.close.action
    out.1 = (.done, .write (.failed (.described .notConnected "stream is closed")) ::
        (u.queued.map fun _ => .write .ignored) ++ List.replicate u.readers (.reader none)) ∧
      out.2.readers = 0 ∧ out.2.port.session = none ∧ out.2.port.writer = false ∧
      out.2.port.inbox.linkUp = false := by
  obtain ⟨hsession, -, -⟩ := open_of_held h hrest hheld
  obtain ⟨hreaders, -⟩ := (atRest_iff u).1 hrest
  obtain ⟨q, hserve, hspares, -⟩ := serveWriters_of_released
    (u := { u with port := u.port.teardown }) (.of_teardown hsession hfail) hheld
  let written : InUse Simulated := { u with port := q, held := none, queued := [] }
  have hdown : written.port.inbox.linkUp = false := by
    simp [written, hspares.inbox_eq, Inbox.linkDown]
  have hreaders' := serveReaders_of_down (u := written) hdown fun hpos => by
    simpa [written, hspares.inbox_eq] using (hreaders hpos).1
  have hloop : LoopRests { written with readers := 0 } := fun hlistens => by
    simp [written, Port.listens, hspares.running_eq] at hlistens
  have hserve' : serveWriters { u with port := u.port.teardown } = (_, written) := hserve
  have hwriter : q.writer = false := by
    rw [hspares.writer_eq, Port.writer_teardown, ← Option.not_isSome, hsession]
    simp
  simp only [Call.action, act, close, Port.close]
  rw [settle_of_serveWriters hserve', hreaders', listen_of_loopRests hloop, List.append_nil]
  exact ⟨rfl, rfl, hspares.session_eq.trans (Port.session_teardown u.port), hwriter, hdown⟩

/-! ## Writes that come while writes are held up -/

/-- The first write that comes is held up. -/
theorem act_write_held (hrest : AtRest u) (hheld : u.held = none) (haccepts : u.port.accepts = true)
    (hholds : Wire.holds u.port.wire = true) (hbytes : bytes ≠ []) :
    (u.act (Call.write bytes).action).2 =
        { u with port.wire := Wire.park u.port.wire, held := some bytes } ∧
      AtRest (u.act (Call.write bytes).action).2 := by
  let parked : InUse Simulated :=
    { u with port.wire := Wire.park u.port.wire, held := some bytes }
  obtain ⟨hreaders, hloop, -⟩ := (atRest_iff u).1 hrest
  have hrest' : AtRest parked :=
    (atRest_iff parked).2 ⟨hreaders, hloop, fun _ => hholds, fun hnone => by simp [parked] at hnone⟩
  have htry : u.tryWrite bytes = ([], parked) := by simp [tryWrite, haccepts, hholds, parked]
  have hparks : (u.act (Call.write bytes).action).2 = parked := by
    simp only [Call.action, act, write]
    rw [if_neg (by simpa using hbytes), if_neg (by simp [hheld]), htry]
    simp only [settle_of_atRest hrest']
  exact ⟨hparks, by rwa [hparks]⟩

/-- The next one waits behind it. -/
theorem act_write_queued (hrest : AtRest u) (hheld : u.held = some first) (hbytes : bytes ≠ []) :
    (u.act (Call.write bytes).action).2 = { u with queued := u.queued ++ [bytes] } ∧
      AtRest (u.act (Call.write bytes).action).2 := by
  let waiting : InUse Simulated := { u with queued := u.queued ++ [bytes] }
  obtain ⟨hreaders, hloop, hholds, -⟩ := (atRest_iff u).1 hrest
  have hrest' : AtRest waiting := (atRest_iff waiting).2
    ⟨hreaders, hloop, hholds, fun hnone => by simp [waiting, hheld] at hnone⟩
  have hwaits : (u.act (Call.write bytes).action).2 = waiting := by
    simp only [Call.action, act, write]
    rw [if_neg (by simpa using hbytes), if_pos (by simp [hheld])]
    simp only [waiting, settle_of_atRest hrest']
  exact ⟨hwaits, by rwa [hwaits]⟩

theorem run_writes_queued {writes : List (List UInt8)} (hrest : AtRest u)
    (hheld : u.held = some first) (hwrites : ∀ bytes ∈ writes, bytes ≠ []) :
    (run ((writes.map Call.write).map Call.action) u).2 =
      { u with queued := u.queued ++ writes } := by
  induction writes generalizing u with
  | nil => simp [run]
  | cons bytes writes ih =>
      rw [List.forall_mem_cons] at hwrites
      obtain ⟨hwaits, hrest'⟩ := act_write_queued hrest hheld hwrites.1
      have hall := ih hrest' (by rw [hwaits]; exact hheld) hwrites.2
      simp only [List.map_cons, run]
      rw [hall, hwaits]
      simp

/-- **Writes on a stream that stalls wait**, in the order in which they come. -/
theorem run_writes_held {rest : List (List UInt8)} (hrest : AtRest u) (hheld : u.held = none)
    (haccepts : u.port.accepts = true) (hholds : Wire.holds u.port.wire = true)
    (hwrites : ∀ bytes ∈ first :: rest, bytes ≠ []) :
    (run (((first :: rest).map Call.write).map Call.action) u).2 =
      { u with
        port.wire := Wire.park u.port.wire
        held := some first
        queued := rest } := by
  rw [List.forall_mem_cons] at hwrites
  obtain ⟨hparks, hrest'⟩ := act_write_held hrest hheld haccepts hholds hwrites.1
  have hqueued : u.queued = [] := ((atRest_iff u).1 hrest).2.2.2 hheld
  have hall := run_writes_queued hrest' (by rw [hparks]) hwrites.2
  simp only [List.map_cons, run]
  rw [hall, hparks, hqueued]
  rfl

end releases

/-! ## Held up writes -/

/-- **Stalled writes are released, each in its way.**  A write is held up on an open port, by a
dongle that does not fail writes, and any number of others wait for the lock behind it.

In whatever order they have their turns, and whatever readers, loop and dongle do besides: when the
dongle takes writes again each is delivered whole, the parked one first; when it hangs up each
fails; and when the port is closed the parked one fails and the others are ignored, and no session,
no sending half and no parked write is left.  Nothing keeps writers and closer from that end.

So it is with whole calls: any payloads are held up by a dongle that stalls, the first one parked
and the others behind it, and each release leaves none of them waiting.  Closing tells all readers
that wait that there is no byte. -/
theorem stalled_writes_released :
    (∀ (s : Writers Simulated) (h : Holder), Stalled h s → s.port.accepts = true →
      (∀ moves t, (∀ m ∈ moves, m.isOrdinary = true) →
        course (step Simulated.Control.apply) (.onWire (.stall false) :: moves) s = some t →
        EndsAs .stallOff h s
          (along (step Simulated.Control.apply) notes (.onWire (.stall false) :: moves) s) t) ∧
      (∀ moves t, (∀ m ∈ moves, m.isOrdinary = true) →
        course (step Simulated.Control.apply) (.onWire .disconnect :: moves) s = some t →
        EndsAs .hangUp h s
          (along (step Simulated.Control.apply) notes (.onWire .disconnect :: moves) s) t) ∧
      ∀ moves t, (∀ m ∈ moves, m.isOfClosing = true) →
        course (step Simulated.Control.apply) moves s = some t →
        (closing moves = Port.takingDown ++ [.detach] →
          EndsAs .shutDown h s (along (step Simulated.Control.apply) notes moves s) t ∧
            t.holder = none ∧ t.port.session = none ∧ t.port.writer = false ∧
            t.port.inbox.linkUp = false) ∧
        ∀ remaining, closing moves ++ remaining = Port.takingDown ++ [.detach] →
          ∃ more u, (∀ m ∈ more, m.isOfClosing = true) ∧ closing more = remaining ∧
            course (step Simulated.Control.apply) more t = some u ∧
            u.holder = none ∧ u.queued = []) ∧
    ∀ (name : String) (echo : Bool) (settings : Settings) (p : Port Simulated),
      Port.create { name := name, echo := echo } settings = .ok p → ∀ calls : List Call,
      let u := (run (calls.map Call.action) { port := p }).2
      (u.held = none → u.port.isOpen = true → Wire.holds u.port.wire = true →
        ∀ first rest, (∀ bytes ∈ first :: rest, bytes ≠ []) →
        let v := (run (((first :: rest).map Call.write).map Call.action) u).2
        v.held = some first ∧ v.queued = rest ∧ v.readers = u.readers ∧
          v.port.wire.failWrites = u.port.wire.failWrites) ∧
      ∀ first, u.held = some first → u.port.wire.failWrites = false →
        (∀ r : Release,
          let out := u.act r.call.action
          writeFates out.1.2 = r.ofParked first :: u.queued.map r.ofWaiting ∧
            u.port.Gains out.2.port (r.entries first u.queued) (r.failed u.queued) ∧
            out.2.held = none ∧ out.2.queued = [] ∧ out.2.port.wire.blocked = 0) ∧
        let out := u.act Call.close.action
        out.1 = (.done, .write (.failed (.described .notConnected "stream is closed")) ::
            (u.queued.map fun _ => .write .ignored) ++ List.replicate u.readers (.reader none)) ∧
          out.2.readers = 0 ∧ out.2.port.session = none ∧ out.2.port.writer = false ∧
          out.2.port.inbox.linkUp = false := by
  refine ⟨fun s h hs haccepts =>
    ⟨fun moves t hmoves hcourse => ?_, fun moves t hmoves hcourse => ?_,
      fun moves t hmoves hcourse => ⟨fun hclosing => ?_, fun remaining hremaining => ?_⟩⟩,
    fun name echo settings p hp calls => ?_⟩
  · exact endsAs_of_control hs.holder_eq (.of_stallOff haccepts hs.holds_eq hs.failWrites_eq)
      (by simp) hmoves hcourse
  · exact endsAs_of_control hs.holder_eq (.of_hangUp haccepts hs.failWrites_eq) (by simp) hmoves
      hcourse
  · obtain ⟨hends, hdown⟩ := endsAs_of_closing hs hmoves hclosing hcourse
    exact ⟨hends, hdown.holder_eq (by decide), hdown.session_eq (by decide),
      hdown.writer_eq (by decide), hdown.linkUp_eq (by decide)⟩
  · exact exists_closed hs hmoves hremaining hcourse
  · have hchunk := (Port.create_eq_ok_iff.1 hp).1
    obtain ⟨hrest, hstep⟩ := inStep_run hchunk calls (inStep_create hp) (atRest_create hp)
    intro u
    refine ⟨fun hheld hopen hholds first rest hne => ?_, fun first hheld hfail => ⟨fun r => ?_,
      act_close hstep hrest hheld hfail⟩⟩
    · have hsession : u.port.session.isSome = true := by
        obtain hlive | hlive := hstep.port.coherent.linkUp_iff.1 hopen <;> simp [u, hlive]
      have haccepts := (accepts_of_coherent hstep.port.coherent).trans hsession
      have hwaits := run_writes_held hrest hheld haccepts hholds hne
      intro v
      have hv : v = _ := hwaits
      rw [hv]
      exact ⟨rfl, rfl, rfl, rfl⟩
    · obtain ⟨hfates, hnone, hqueued, hgains⟩ := act_release hstep hrest hheld hfail r
      exact ⟨hfates, hgains, hnone, hqueued, blocked_act hchunk hstep hrest r.call hnone⟩

/-- On an open port with a reader that waits, three writes, the first of which is held up. -/
def threeWrites : List Call :=
  [.openWith {}, .read .unlimited, .control (.stall true), .write [1], .write [2, 3], .write [4]]

/-- The same by moves. -/
def threeCalls : List (Move Simulated.Control) :=
  openingMoves ++ [.onWire (.stall true), .write [1], .turn 0, .goOn, .write [2, 3], .write [4]]

/-- Somebody closes the port.  The last call has its turn before the sending half is taken out of
its place, and the one that came before it has its turn after that. -/
def closedUnder : List (Move Simulated.Control) :=
  [.piece .leave, .piece .unwant, .piece .linkDown, .piece .shutdown, .goOn, .turn 1,
    .piece .detach, .turn 0]

/-- Three writes are delivered, fail, or are given up. -/
theorem released_on_threeWrites :
    Port.create { name := "MOCK0" } smallSettings = .ok smallPort ∧
      (let u := (run (threeWrites.map Call.action) { port := smallPort }).2
       u.held = some [1] ∧ u.queued = [[2, 3], [4]] ∧ u.readers = 1 ∧
        (u.act Release.stallOff.call.action).2.port.wire.log = [[1], [2, 3], [4]] ∧
        (u.act Release.stallOff.call.action).2.port.counters.written = 4 ∧
        (u.act Release.hangUp.call.action).2.port.counters.writeFailures = 3 ∧
        (u.act Release.shutDown.call.action).2.port.counters.writeFailures = 1 ∧
        (u.act Release.shutDown.call.action).1.2 =
          [.write (.failed (.described .notConnected "stream is closed")), .write .ignored,
            .write .ignored, .reader none]) ∧
      ∃ s t, course (step Simulated.Control.apply) threeCalls { port := smallPort } = some s ∧
        Stalled ⟨⟨0, [1]⟩, true⟩ s ∧
        course (step Simulated.Control.apply) closedUnder s = some t ∧
        t.holder = none ∧ t.queued = [] ∧ t.port.session = none ∧
        EndsAs .shutDown ⟨⟨0, [1]⟩, true⟩ s
          (along (step Simulated.Control.apply) notes closedUnder s) t := by
  have hport : Port.create { name := "MOCK0" } smallSettings = .ok smallPort := rfl
  refine ⟨hport, ?_, ?_⟩
  · intro u
    have hheld : u.held = some [1] := by decide
    have hqueued : u.queued = [[2, 3], [4]] := by decide
    have hreaders : u.readers = 1 := by decide
    have hlog : u.port.wire.log = [] := by decide
    have hcounters : u.port.counters.written = 0 ∧ u.port.counters.writeFailures = 0 := by decide
    obtain ⟨hends, htold, -⟩ := (stalled_writes_released.2 "MOCK0" false smallSettings smallPort
      hport threeWrites).2 [1] hheld (by decide)
    have hstallOff := (hends .stallOff).2.1
    have hhangUp := (hends .hangUp).2.1.failures_eq
    have hshutDown := (hends .shutDown).2.1.failures_eq
    have hlogged := hstallOff.log_eq
    have hwritten := hstallOff.written_eq
    rw [hqueued] at hlogged hwritten hhangUp hshutDown
    rw [hqueued, hreaders] at htold
    rw [hlog] at hlogged
    rw [hcounters.1] at hwritten
    rw [hcounters.2] at hhangUp hshutDown
    exact ⟨hheld, hqueued, hreaders, hlogged, hwritten, hhangUp, hshutDown, congrArg Prod.snd htold⟩
  · have hview : (course (step Simulated.Control.apply) threeCalls { port := smallPort }).map
        (fun s => (s.holder, Wire.holds s.port.wire, s.port.wire.failWrites, s.port.accepts,
          (course (step Simulated.Control.apply) closedUnder s).map
            fun t => (t.holder, t.queued))) =
        some (some ⟨⟨0, [1]⟩, true⟩, true, false, true, some (none, [])) := rfl
    obtain ⟨s, hs, hparts⟩ := Option.map_eq_some_iff.1 hview
    simp only [Prod.mk.injEq] at hparts
    obtain ⟨hholder, hholds, hfail, haccepts, hclosed⟩ := hparts
    obtain ⟨t, ht, htparts⟩ := Option.map_eq_some_iff.1 hclosed
    simp only [Prod.mk.injEq] at htparts
    have hstalled : Stalled ⟨⟨0, [1]⟩, true⟩ s := ⟨hholder, rfl, hholds, hfail⟩
    have hends := ((stalled_writes_released.1 s _ hstalled haccepts).2.2 closedUnder t (by decide)
      ht).1 rfl
    exact ⟨s, t, hs, hstalled, ht, htparts.1, htparts.2, hends.2.2.1, hends.1⟩

end InUse

end DongleLink

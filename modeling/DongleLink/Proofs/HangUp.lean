import DongleLink.Proofs.Agreement
import DongleLink.Proofs.ChunkSize
import DongleLink.Proofs.Parked
import DongleLink.Proofs.Sharing

/-!
# DongleLink.Proofs.HangUp

Readers that wait when the link ends.  A piece of work is a read of the loop, or a look of a reader,
or it is nothing to the readers (`perform_cases`); so where no byte is to come, work gives nobody
one, and lets readers go only once the link is down (`Fruitless.of_leads`).

Closing marks the link down itself.  That the dongle hung up is for the loop to hear: the readers
are let go wherever the loop has caught up with it (`hangUp_releases`).
-/

namespace DongleLink

namespace Port

/-! ## Writes to a dongle that hung up -/

/-- A write spares what is not its own, and all bytes once the dongle hung up. -/
structure SparesHungUp (p q : Port Simulated) : Prop extends Writers.Spares p q where
  hungUp_eq : q.wire.hungUp = p.wire.hungUp
  queue_eq : p.wire.hungUp = true → q.wire.queue = p.wire.queue

namespace SparesHungUp

variable {p q r : Port Simulated}

theorem refl (p : Port Simulated) : SparesHungUp p p := ⟨.refl p, rfl, fun _ => rfl⟩

theorem trans (h : SparesHungUp p q) (k : SparesHungUp q r) : SparesHungUp p r where
  toSpares := h.toSpares.trans k.toSpares
  hungUp_eq := k.hungUp_eq.trans h.hungUp_eq
  queue_eq hungUp := (k.queue_eq (h.hungUp_eq.trans hungUp)).trans (h.queue_eq hungUp)

/-- The dongle counts the writes that it holds up, and that is all. -/
theorem blocked (n : Nat) (p : Port Simulated) :
    SparesHungUp p { p with wire := { p.wire with blocked := n } } :=
  ⟨⟨rfl, rfl, rfl, rfl, rfl, rfl, rfl, rfl⟩, rfl, fun _ => rfl⟩

theorem transmit (bytes : List UInt8) (p : Port Simulated) :
    SparesHungUp p (p.transmit bytes).2 where
  toSpares := spares_transmit bytes p
  hungUp_eq := by
    obtain ⟨log, queue, hwrite⟩ := p.wire.write_eq bytes
    rw [wire_transmit, hwrite]
  queue_eq hungUp := by
    rw [transmit_of_failing bytes (.inr (by simp [Simulated.isOver, hungUp]))]
    rfl

end SparesHungUp

theorem listens_of_spares {p q : Port Simulated} (h : Writers.Spares p q) :
    q.listens = p.listens := by
  rw [listens, listens, h.running_eq, h.session_eq]

end Port

namespace InUse

variable {u v w : InUse Simulated}

theorem spares_finishHeld (u : InUse Simulated) :
    Port.SparesHungUp u.port u.finishHeld.port := by
  rw [finishHeld]
  split
  · exact .refl u.port
  · exact (Port.SparesHungUp.blocked _ u.port).trans (.transmit _ _)

theorem spares_tryWrite (bytes : List UInt8) (u : InUse Simulated) :
    Port.SparesHungUp u.port (u.tryWrite bytes).2.port := by
  rw [tryWrite]
  split
  · exact .refl u.port
  · split
    · exact .blocked _ u.port
    · exact .transmit bytes u.port

/-! ## Work where no byte is to come -/

/-- **What a piece of work is**: the loop reads what there is; or a reader looks that can be told
something; or a write goes on, which is nothing to the readers. -/
theorem perform_cases {t : Task} (h : perform t u = some v) :
    (u.port.listens = true ∧ Wire.idle u.port.wire = false ∧ v = u.heard) ∨
      (0 < u.readers ∧ u.port.look.1 ≠ .empty ∧
        v = { u with port := u.port.look.2, readers := u.readers - 1 }) ∨
      (v.readers = u.readers ∧ Port.SparesHungUp u.port v.port) := by
  cases t with
  | hear =>
      simp only [perform, Option.ite_none_right_eq_some, Bool.and_eq_true,
        Bool.not_eq_true'] at h
      exact .inl ⟨h.1.1, h.1.2, (Option.some.inj h.2).symm⟩
  | serve =>
      refine .inr (.inl ⟨?_, ?_, eq_of_perform_serve h⟩)
      · refine Nat.pos_of_ne_zero fun hzero => ?_
        simp [perform, hzero] at h
      · intro hempty
        have hlook : u.port.look = (.empty, u.port.look.2) := Prod.ext hempty rfl
        cases hreaders : u.readers with
        | zero => simp [perform, hreaders] at h
        | succ n =>
            rw [perform, hreaders, hlook] at h
            cases h
  | resume =>
      simp only [perform] at h
      split at h
      all_goals cases h
      exact .inr (.inr ⟨readers_finishHeld u, spares_finishHeld u⟩)
  | turn i =>
      simp only [perform] at h
      split at h
      all_goals cases h
      let turned : InUse Simulated := { u with queued := u.queued.eraseIdx i }
      exact .inr (.inr ⟨readers_tryWrite _ turned, spares_tryWrite _ turned⟩)

/-- No byte is to come: none is unread for the readers that wait, and a loop that listens will hear
that the dongle hung up. -/
structure Barren (u : InUse Simulated) : Prop where
  unread_of_readers : 0 < u.readers → u.port.inbox.unread = []
  over_of_listens : u.port.listens = true →
    u.port.wire.queue = [] ∧ u.port.wire.hungUp = true

/-- No byte was to come, and none is; nobody was given one; and readers were let go only if the link
is down. -/
structure Fruitless (u v : InUse Simulated) : Prop where
  barren : Barren v
  delivered_eq : v.port.counters.delivered = u.port.counters.delivered
  linkUp_of_linkUp : v.port.inbox.linkUp = true → u.port.inbox.linkUp = true
  hungUp_of_hungUp : u.port.wire.hungUp = true → v.port.wire.hungUp = true
  session_iff : v.port.session = none ↔ u.port.session = none
  readers_le : v.readers ≤ u.readers
  readers_eq : v.port.inbox.linkUp = true → v.readers = u.readers

namespace Fruitless

theorem refl (h : Barren u) : Fruitless u u := ⟨h, rfl, id, id, .rfl, le_rfl, fun _ => rfl⟩

theorem trans (h : Fruitless u v) (k : Fruitless v w) : Fruitless u w where
  barren := k.barren
  delivered_eq := k.delivered_eq.trans h.delivered_eq
  linkUp_of_linkUp hup := h.linkUp_of_linkUp (k.linkUp_of_linkUp hup)
  hungUp_of_hungUp hover := k.hungUp_of_hungUp (h.hungUp_of_hungUp hover)
  session_iff := k.session_iff.trans h.session_iff
  readers_le := k.readers_le.trans h.readers_le
  readers_eq hup := (k.readers_eq hup).trans (h.readers_eq (k.linkUp_of_linkUp hup))

/-- The loop hears that the dongle hung up. -/
theorem heard (h : Barren u) (hchunk : 1 ≤ u.port.settings.chunkSize)
    (hlistens : u.port.listens = true) : Fruitless u u.heard := by
  obtain ⟨hqueue, hungUp⟩ := h.over_of_listens hlistens
  have hover : u.port.wire.isOver = true := by simp [Simulated.isOver, hungUp]
  have hheard : u.heard = { u with port := u.port.endLoop } := by
    obtain ⟨b, bytes, -, hless⟩ | ⟨-, -, hread⟩ | ⟨-, hlive, -⟩ :=
      u.port.wire.readChunk_cases hchunk
    · simp [hqueue] at hless
    · simp [InUse.heard, hread, Port.hear]
    · rw [hover] at hlive
      cases hlive
  rw [hheard]
  exact
    { barren := ⟨h.unread_of_readers, fun hlistens => by simp [Port.listens_endLoop] at hlistens⟩
      delivered_eq := rfl
      linkUp_of_linkUp := fun hup => by simp [Port.endLoop, Inbox.linkDown] at hup
      hungUp_of_hungUp := id
      session_iff := by simp [Port.endLoop]
      readers_le := le_rfl
      readers_eq := fun _ => rfl }

/-- A reader that can be told something is told that there is no byte. -/
theorem look (h : Barren u) (hreaders : 0 < u.readers) (hlook : u.port.look.1 ≠ .empty) :
    Fruitless u { u with port := u.port.look.2, readers := u.readers - 1 } := by
  have hunread := h.unread_of_readers hreaders
  have hdown : u.port.inbox.linkUp = false := by
    rw [Bool.eq_false_iff]
    exact fun hup => hlook (u.port.look_eq_empty_iff.2 ⟨hunread, hup⟩)
  have hport : u.port.look.2 = u.port := by
    obtain ⟨b, inbox, hinbox, -⟩ | ⟨-, heq⟩ := u.port.look_cases
    · rw [Inbox.unread_of_look hinbox] at hunread
      cases hunread
    · rw [heq]
  rw [hport]
  exact
    { barren := ⟨fun _ => hunread, h.over_of_listens⟩
      delivered_eq := rfl
      linkUp_of_linkUp := id
      hungUp_of_hungUp := id
      session_iff := .rfl
      readers_le := Nat.sub_le _ _
      readers_eq := fun hup => by simp [hdown] at hup }

/-- A write goes on. -/
theorem write (h : Barren u) (hreaders : v.readers = u.readers)
    (hspares : Port.SparesHungUp u.port v.port) : Fruitless u v where
  barren := by
    refine ⟨fun hpos => ?_, fun hlistens => ?_⟩
    · rw [hspares.inbox_eq]
      exact h.unread_of_readers (hreaders ▸ hpos)
    · rw [Port.listens_of_spares hspares.toSpares] at hlistens
      obtain ⟨hqueue, hungUp⟩ := h.over_of_listens hlistens
      exact ⟨(hspares.queue_eq hungUp).trans hqueue, hspares.hungUp_eq.trans hungUp⟩
  delivered_eq := hspares.delivered_eq
  linkUp_of_linkUp hup := by rwa [hspares.inbox_eq] at hup
  hungUp_of_hungUp hungUp := hspares.hungUp_eq.trans hungUp
  session_iff := by rw [hspares.session_eq]
  readers_le := hreaders.le
  readers_eq _ := hreaders

/-- **Work gives nobody a byte** where none is to come. -/
theorem perform {t : Task} (h : Barren u) (hchunk : 1 ≤ u.port.settings.chunkSize)
    (ht : InUse.perform t u = some v) : Fruitless u v := by
  obtain ⟨hlistens, -, rfl⟩ | ⟨hreaders, hlook, rfl⟩ | ⟨hreaders, hspares⟩ := perform_cases ht
  · exact heard h hchunk hlistens
  · exact look h hreaders hlook
  · exact write h hreaders hspares

theorem of_leads (h : Barren u) (hchunk : 1 ≤ u.port.settings.chunkSize) (hleads : Leads u v) :
    Fruitless u v := by
  obtain ⟨tasks, htasks⟩ := hleads
  refine (course_keeps (P := fun w => 1 ≤ w.port.settings.chunkSize ∧ Fruitless u w)
    (fun t w w' hw ht => ⟨?_, hw.2.trans (perform hw.2.barren hw.1 ht)⟩)
    ⟨hchunk, refl h⟩ htasks).2
  rw [(Leads.perform ht).settings_eq]
  exact hw.1

end Fruitless

/-! ## The end of a link -/

/-- A stream that is taken down brings no byte to readers that rest. -/
theorem barren_takeDown (hreaders : ReadersRest u) : Barren u.takeDown := by
  have hspares := spares_finishHeld { u with port := u.port.teardown }
  refine ⟨fun hpos => ?_, fun hlistens => ?_⟩
  · rw [takeDown, hspares.inbox_eq]
    rw [takeDown, readers_finishHeld] at hpos
    simpa using (hreaders hpos).1
  · simp [Port.listens, session_takeDown] at hlistens

/-- Nor does a dongle that hangs up, to a loop that has nothing to read. -/
theorem barren_hangUp (hrest : AtRest u) : Barren (u.receive (.control .disconnect)) := by
  obtain ⟨hreaders, hloop, -⟩ := (atRest_iff u).1 hrest
  refine ⟨fun hpos => (hreaders hpos).1, fun hlistens => ⟨?_, rfl⟩⟩
  exact ((Simulated.idle_iff _).1 (hloop hlistens)).1

section released

variable {settings : Settings} {opens : List LineOverrides}

/-- **Closing lets every reader go**, and gives none of them a byte. -/
theorem close_releases (h : u.InStep settings opens) (hchunk : 1 ≤ settings.chunkSize)
    (hrest : AtRest u) (hleads : Leads (u.receive .close) v) (hend : AtRest v) :
    v.readers = 0 ∧ v.port.counters.delivered = u.port.counters.delivered := by
  have hspares := spares_finishHeld { u with port := u.port.teardown }
  have hdown : u.takeDown.port.inbox.linkUp = false := by
    rw [takeDown, hspares.inbox_eq]
    simp [Inbox.linkDown]
  have hsettings : u.takeDown.port.settings = settings := by
    rw [takeDown, hspares.settings_eq, Port.settings_teardown, h.port.settings_eq]
  have hfruitless : Fruitless u.takeDown v :=
    .of_leads (barren_takeDown ((atRest_iff u).1 hrest).1) (by rwa [hsettings]) hleads
  refine ⟨?_, ?_⟩
  · by_contra hreaders
    have hup := (((atRest_iff v).1 hend).1 (Nat.pos_of_ne_zero hreaders)).2
    rw [hfruitless.linkUp_of_linkUp hup] at hdown
    cases hdown
  · rw [hfruitless.delivered_eq, takeDown, hspares.delivered_eq, Port.counters_teardown]

/-- **A dongle that hangs up lets every reader go**, once the receive loop has caught up with it, as
one that has its chunk buffer has.  None of them is given a byte. -/
theorem hangUp_releases (h : u.InStep settings opens) (hchunk : 1 ≤ settings.chunkSize)
    (hrest : AtRest u) (hleads : Leads (u.receive (.control .disconnect)) v) (hend : AtRest v) :
    v.port.counters.delivered = u.port.counters.delivered ∧
      (v.caughtUp = true → v.readers = 0) ∧
      (settings.chunkSize ≤ largestBlock → v.caughtUp = true) := by
  have hbrings : Brings (u.receive (.control .disconnect)) [] v := (Brings.refl _).leads hleads
  have hstep := hbrings.inStep hchunk (h.receive (.control .disconnect))
  have hagrees := hstep.agrees hend
  have hsettings : u.port.settings = settings := h.port.settings_eq
  have hfruitless : Fruitless (u.receive (.control .disconnect)) v :=
    .of_leads (barren_hangUp hrest) (by simpa [receive, hsettings] using hchunk) hleads
  have hungUp : v.port.wire.hungUp = true := hfruitless.hungUp_of_hungUp rfl
  refine ⟨hfruitless.delivered_eq, fun hcaught => ?_, fun hsmall => ?_⟩
  · by_contra hreaders
    have hup := (hagrees.linkUp_of_readers (Nat.pos_of_ne_zero hreaders)).1
    obtain ⟨-, hlive⟩ := (hagrees.linkUp_iff hcaught).1 hup
    rw [hungUp] at hlive
    cases hlive
  · exact hstep.caughtUp_of_atRest hsmall hend

end released

end InUse

namespace Interleaving

/-! ## Blocked readers -/

/-- **What becomes of blocked readers.**  When a chunk comes, the newest bytes of it that fit are
shared out: in whatever order the readers look, once all have looked as many of them as there are
bytes have one byte each, in order, the others sleep on, and the rest is unread; and all of that is
counted.  When the link goes down instead, all of them are told of no byte.  They can always come to
look.  So closing lets every reader go without a byte, and a dongle that hangs up does so wherever
the receive loop has caught up with it; one that has its chunk buffer has, once nothing is left to
do. -/
theorem blocked_readers {capacity : Nat} (hcapacity : 2 ≤ capacity)
    {events : List Event} {s : State}
    (hevents : course happen events (.initial (.ofCapacity capacity hcapacity)) = some s)
    {waiting : List Nat} (hblocked : Blocked waiting s) :
    (∀ loop bytes rest t, s.loops loop = .storing bytes → bytes ≠ [] → s.running = true →
      (∀ e ∈ rest, UntilNextChunk loop e) →
      course happen (.move (.proceed loop) :: rest) s = some t →
      let kept := bytes.rtake (min bytes.length (capacity - 1))
      ((∃ more t', course happen more t = some t' ∧ (∀ e ∈ more, UntilNextChunk loop e) ∧
        Settled waiting t') ∧
        (Settled waiting t → ∃ served, SharedOut waiting served kept loop s t)) ∧
      (Settled waiting t → ∀ {σ : Type} [Wire σ] (p : Port σ), p.listens = true →
        p.inbox = s.inbox →
        let q := p.run (along happen onPort (.move (.proceed loop) :: rest) s)
        q.inbox = t.inbox ∧ q.counters =
          { p.counters with
            received := p.counters.received + .ofNat bytes.length
            delivered := p.counters.delivered + .ofNat (min waiting.length kept.length)
            evicted := p.counters.evicted + .ofNat (bytes.length - kept.length) })) ∧
    (∀ rest t, course happen rest s = some t → along happen storedBy rest s = [] →
      t.inbox.linkUp = false →
      (∃ more t', course happen more t = some t' ∧ along happen storedBy more t = [] ∧
        t'.inbox.linkUp = false ∧ Settled waiting t') ∧
      (Settled waiting t → ∀ reader ∈ waiting, t.readers reader = .answered none)) ∧
    ∀ name echo settings p calls u,
      Port.create { name := name, echo := echo } settings = .ok p →
      course InUse.happen calls { port := p } = some u → InUse.AtRest u →
      (∀ c, ∃ v, InUse.Leads (u.receive c) v ∧ InUse.AtRest v) ∧
      (∀ v, InUse.Leads (u.receive .close) v → InUse.AtRest v →
        v.readers = 0 ∧ v.port.counters.delivered = u.port.counters.delivered) ∧
      ∀ v, InUse.Leads (u.receive (.control .disconnect)) v → InUse.AtRest v →
        v.port.counters.delivered = u.port.counters.delivered ∧
          (v.caughtUp = true → v.readers = 0) ∧
          (settings.chunkSize ≤ largestBlock → v.caughtUp = true) := by
  have hstart := Sound.initial _ (Ring.toList_ofCapacity capacity hcapacity)
  have hs := hstart.course hevents
  have hnone : NoneForgotten s :=
    noneForgotten_course hstart (fun reader hreader => by cases hreader) hevents
  have hroom : s.inbox.ring.usable = capacity - 1 :=
    (usable_of_course hevents).trans (Ring.usable_ofCapacity _ hcapacity)
  refine ⟨fun loop bytes rest t hloop hne hrunning hnext h => ⟨?_, fun hsettled => ?_⟩,
    fun rest t => hblocked.released hs hnone,
    fun name echo settings p calls u hport hcalls hrest => ?_⟩
  · exact hblocked.sharedOut hs hnone (by rw [hroom]) hloop hne hrunning hnext h
  · intro σ _ p hlistens hinbox
    exact hblocked.counted hs hnone (by rw [hroom]) hloop hne hrunning hnext h hsettled hlistens
      hinbox
  · have hchunk := (Port.create_eq_ok_iff.1 hport).1
    have hstep := (show InUse.Brings { port := p } _ u from ⟨calls, hcalls, rfl⟩).inStep hchunk
      (InUse.inStep_create hport)
    refine ⟨fun c => ?_, fun v => InUse.close_releases hstep hchunk hrest,
      fun v => InUse.hangUp_releases hstep hchunk hrest⟩
    have hsettings := (hstep.receive c).port.settings_eq
    exact InUse.exists_leads_atRest (by rwa [hsettings])

/-- A user opens the port, three readers fall asleep, and the loop has read four bytes. -/
def threeAsleep : List Event :=
  [.beginOpen 0, .advance 0, .connect 0 true, .advance 0, .advance 0, .advance 0, .proceed 0,
    .call 0, .look 0, .call 1, .look 1, .call 2, .look 2, .read 0 (.data [1, 2, 3, 4])].map .move

/-- The loop wakes the readers; two of them look; the loop reads nothing in time; and the third
reader looks. -/
def looksInTurn : List Event :=
  [.proceed 0, .look 2, .look 0, .proceed 0, .read 0 (.failed Simulated.nothingYet),
    .look 1].map .move

/-- The port is closed before the bytes are stored, and the readers look. -/
def closedInstead : List Event :=
  [.beginClose 0, .advance 0, .advance 0, .advance 0, .look 1, .look 0, .look 2].map .move

/-- Where only one loop and one user ever were, nobody else owes a wake-up. -/
theorem not_wakeOwed_of_first {s : State} (hloop : (s.loops 0).owesWake = false)
    (huser : (s.users 0).owesWake = false)
    (hothers : ∀ n, s.loops (n + 1) = .unborn ∧ s.users (n + 1) = .idle) : ¬ WakeOwed s := by
  rintro (⟨_ | n, howes⟩ | ⟨_ | n, howes⟩)
  · simp [hloop] at howes
  · simp [(hothers n).1, LoopAt.owesWake] at howes
  · simp [huser] at howes
  · simp [(hothers n).2, UserAt.owesWake] at howes

/-- The three readers are blocked, and the bytes are about to be stored. -/
theorem blocked_of_threeAsleep {s : State}
    (hs : course happen threeAsleep (.initial (.ofCapacity 3 (by decide))) = some s) :
    Blocked [0, 1, 2] s ∧ s.loops 0 = .storing [1, 2, 3, 4] ∧ s.running = true := by
  have hview : (course happen threeAsleep (.initial (.ofCapacity 3 (by decide)))).map
      (fun s => ([s.readers 0, s.readers 1, s.readers 2], s.loops 0, s.users 0, s.inbox.linkUp,
        s.running)) =
      some ([.asleep, .asleep, .asleep], .storing [1, 2, 3, 4], .idle, true, true) := by decide
  have hothers (n : Nat) : (course happen threeAsleep (.initial (.ofCapacity 3 (by decide)))).map
      (fun s => (s.readers (n + 3), s.loops (n + 1), s.users (n + 1))) =
      some (.idle, .unborn, .idle) := rfl
  simp only [hs, Option.map_some, Option.some.injEq, Prod.mk.injEq, List.cons.injEq]
    at hview hothers
  obtain ⟨⟨h0, h1, h2, -⟩, hloop, huser, hup, hrunning⟩ := hview
  refine ⟨?_, hloop, hrunning⟩
  exact
    { nodup := by decide
      asleep_iff := by
        rintro (_ | _ | _ | n)
        · simp [h0]
        · simp [h1]
        · simp [h2]
        · simp [(hothers n).1]
      not_looking := by
        rintro (_ | _ | _ | n)
        · simp [h0]
        · simp [h1]
        · simp [h2]
        · simp [(hothers n).1]
      linkUp_eq := hup
      not_owed := not_wakeOwed_of_first (by rw [hloop]; rfl) (by rw [huser]; rfl)
        fun n => (hothers n).2
      unread_of_nobody := by simp }

/-- Once the readers have looked, two have a byte, and one sleeps. -/
theorem settled_of_looksInTurn {t : State}
    (ht : course happen (threeAsleep ++ .move (.proceed 0) :: looksInTurn)
      (.initial (.ofCapacity 3 (by decide))) = some t) :
    Settled [0, 1, 2] t ∧ [t.readers 0, t.readers 1, t.readers 2] =
      [.answered (some (4, 0)), .asleep, .answered (some (3, 0))] := by
  have hview : (course happen (threeAsleep ++ .move (.proceed 0) :: looksInTurn)
      (.initial (.ofCapacity 3 (by decide)))).map (fun t =>
        ([t.readers 0, t.readers 1, t.readers 2], t.loops 0, t.users 0)) =
      some ([.answered (some (4, 0)), .asleep, .answered (some (3, 0))], .checking, .idle) := by
    decide
  have hothers (n : Nat) : (course happen (threeAsleep ++ .move (.proceed 0) :: looksInTurn)
      (.initial (.ofCapacity 3 (by decide)))).map (fun t => (t.loops (n + 1), t.users (n + 1))) =
      some (.unborn, .idle) := rfl
  simp only [ht, Option.map_some, Option.some.injEq, Prod.mk.injEq] at hview hothers
  obtain ⟨hreaders, hloop, huser⟩ := hview
  have hplaces := hreaders
  simp only [List.cons.injEq] at hplaces
  obtain ⟨h0, h1, h2, -⟩ := hplaces
  have howed := not_wakeOwed_of_first (by rw [hloop]; rfl) (by rw [huser]; rfl) hothers
  exact ⟨⟨howed, by simp [h0, h1, h2]⟩, hreaders⟩

/-- Once they have looked at a port that was closed, the link is down, and the loop has yet to go
on. -/
theorem settled_of_closedInstead {u : State}
    (hu : course happen (threeAsleep ++ closedInstead) (.initial (.ofCapacity 3 (by decide))) =
      some u) : Settled [0, 1, 2] u ∧ u.inbox.linkUp = false := by
  have hview : (course happen (threeAsleep ++ closedInstead)
      (.initial (.ofCapacity 3 (by decide)))).map (fun u =>
        ([u.readers 0, u.readers 1, u.readers 2], u.loops 0, u.users 0, u.inbox.linkUp)) =
      some ([.answered none, .answered none, .answered none], .storing [1, 2, 3, 4],
        .joining 0 .close, false) := by decide
  have hothers (n : Nat) : (course happen (threeAsleep ++ closedInstead)
      (.initial (.ofCapacity 3 (by decide)))).map (fun u => (u.loops (n + 1), u.users (n + 1))) =
      some (.unborn, .idle) := rfl
  simp only [hu, Option.map_some, Option.some.injEq, Prod.mk.injEq, List.cons.injEq]
    at hview hothers
  obtain ⟨⟨h0, h1, h2, -⟩, hloop, huser, hdown⟩ := hview
  have howed := not_wakeOwed_of_first (by rw [hloop]; rfl) (by rw [huser]; rfl) hothers
  exact ⟨⟨howed, by simp [h0, h1, h2]⟩, hdown⟩

/-- A ring for two bytes keeps the last two, which go to the first two readers that look.  If the
port is closed instead, nobody gets a byte; and a dongle that hangs up lets the reader go. -/
theorem served_threeAsleep :
    ∃ s t u, course happen threeAsleep (.initial (.ofCapacity 3 (by decide))) = some s ∧
      Blocked [0, 1, 2] s ∧ course happen (.move (.proceed 0) :: looksInTurn) s = some t ∧
      Settled [0, 1, 2] t ∧ (∃ served, SharedOut [0, 1, 2] served [3, 4] 0 s t) ∧
      [t.readers 0, t.readers 1, t.readers 2] =
        [.answered (some (4, 0)), .asleep, .answered (some (3, 0))] ∧
      course happen closedInstead s = some u ∧ Settled [0, 1, 2] u ∧
      (∀ reader ∈ [0, 1, 2], u.readers reader = .answered none) ∧
      ∃ w v, course InUse.happen [.call (.openWith {}), .call (.read .unlimited)]
          { port := InUse.smallPort } = some w ∧ InUse.AtRest w ∧ w.readers = 1 ∧
        InUse.Leads (w.receive (.control .disconnect)) v ∧ InUse.AtRest v ∧ v.readers = 0 := by
  have hcourse : (course happen (threeAsleep ++ .move (.proceed 0) :: looksInTurn)
      (.initial (.ofCapacity 3 (by decide)))).isSome = true := by decide
  have hcourse' : (course happen (threeAsleep ++ closedInstead)
      (.initial (.ofCapacity 3 (by decide)))).isSome = true := by decide
  have hstored : along happen storedBy (threeAsleep ++ closedInstead)
      (.initial (.ofCapacity 3 (by decide))) = [] := by decide
  have hwaits : (course InUse.happen [.call (.openWith {}), .call (.read .unlimited)]
      { port := InUse.smallPort }).map (fun w => ([w.port.inbox.linkUp, Wire.idle w.port.wire,
        w.held.isSome, w.queued.isEmpty], w.readers, w.port.inbox.unread)) =
      some ([true, true, false, true], 1, []) := by decide
  obtain ⟨t, ht⟩ := Option.isSome_iff_exists.1 hcourse
  obtain ⟨u, hu⟩ := Option.isSome_iff_exists.1 hcourse'
  obtain ⟨w, hw, hparts⟩ := Option.map_eq_some_iff.1 hwaits
  obtain ⟨s, hs, hlooks⟩ := course_append_eq_some.1 ht
  obtain ⟨s', hs', hcloses⟩ := course_append_eq_some.1 hu
  obtain rfl := Option.some.inj (hs.symm.trans hs')
  rw [along_append hs, List.append_eq_nil_iff] at hstored
  simp only [Prod.mk.injEq, List.cons.injEq] at hparts
  obtain ⟨⟨hup, hidle, hheld, hqueued, -⟩, hreaders, hunread⟩ := hparts
  have hrest : InUse.AtRest w := (InUse.atRest_iff w).2
    ⟨fun _ => ⟨hunread, hup⟩, fun _ => hidle, fun h => by simp [hheld] at h,
      fun _ => List.isEmpty_iff.1 hqueued⟩
  obtain ⟨hblocked, hstoring, hrunning⟩ := blocked_of_threeAsleep hs
  obtain ⟨hsettled, hplaces⟩ := settled_of_looksInTurn ht
  obtain ⟨hsettled', hdown⟩ := settled_of_closedInstead hu
  have hnext : ∀ e ∈ looksInTurn, UntilNextChunk 0 e := by
    have htransient : Simulated.nothingYet.isTransient = true := rfl
    simp [looksInTurn, UntilNextChunk, htransient]
  obtain ⟨hchunk, hnoChunk, hends⟩ := blocked_readers (by decide) hs hblocked
  have hserved := (hchunk 0 [1, 2, 3, 4] looksInTurn t hstoring (by decide) hrunning hnext
    hlooks).1.2 hsettled
  have hreleased := (hnoChunk closedInstead u hcloses hstored.2 hdown).2 hsettled'
  obtain ⟨hexists, -, hhangUp⟩ := hends "MOCK0" false InUse.smallSettings _ _ w rfl hw hrest
  obtain ⟨v, hleads, hend⟩ := hexists (.control .disconnect)
  obtain ⟨-, hfree, hcaught⟩ := hhangUp v hleads hend
  exact ⟨s, t, u, hs, hblocked, hlooks, hsettled, hserved, hplaces, hcloses, hsettled', hreleased,
    w, v, hw, hrest, hreaders, hleads, hend, hfree (hcaught (by decide))⟩

end Interleaving

end DongleLink

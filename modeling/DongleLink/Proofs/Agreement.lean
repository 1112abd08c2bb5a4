import DongleLink.Proofs.InStep
import DongleLink.Proofs.Settle

/-!
# DongleLink.Proofs.Agreement

When there is nothing left to do, and the receive loop has caught up, a port and the simulated
dongle at the other end of its wire tell the same of their stream (`agrees_at_rest`).

* A loop that has its chunk buffer has caught up whenever there is nothing left to do
  (`caughtUp_of_atRest`); one that died over it has as long as the dongle has nothing for it.
* The dongle records every opening that connects, also one that gets no thread after that.
* All of this holds after events in any order.  And it holds after calls that are carried out
  together with all that they set free, since these are such events, and leave nothing to do.
-/

namespace DongleLink.InUse

variable {settings : Settings} {opens : List LineOverrides}

/-! ## Agreement at rest -/

/- A loop without its chunk buffer leaves the queue as it is and does not hear of a hang-up.  So
the two fields about them ask that the loop has caught up, and no other field does. -/

/-- Port and dongle tell the same of their stream and of the calls that wait. -/
structure Agrees (settings : Settings) (opens : List LineOverrides) (u : InUse Simulated) :
    Prop where
  linkUp_iff : u.caughtUp = true →
    (u.port.inbox.linkUp = true ↔ u.port.session.isSome = true ∧ u.port.wire.hungUp = false)
  queue_eq : u.caughtUp = true → u.port.inbox.linkUp = true → u.port.wire.queue = []
  shut_iff : u.port.wire.shut = true ↔ 0 < u.port.wire.connects ∧ u.port.session = none
  stalled_of_held : u.held.isSome = true → u.port.wire.stall = true ∧ u.port.inbox.linkUp = true
  /-- at most one write is held up, and the dongle counts it -/
  blocked_eq : u.port.wire.blocked = if u.held.isSome then 1 else 0
  linkUp_of_readers : 0 < u.readers → u.port.inbox.linkUp = true ∧ u.port.inbox.unread = []
  connects_eq : u.port.wire.connects = opens.length
  last_eq : u.port.wire.lastOverrides = opens.getLast?

/-- A loop that has its chunk buffer has caught up when there is nothing left to do. -/
theorem InStep.caughtUp_of_atRest {u : InUse Simulated} (h : u.InStep settings opens)
    (hsmall : settings.chunkSize ≤ largestBlock) (hrest : AtRest u) : u.caughtUp = true := by
  obtain ⟨-, hloop, -⟩ := (atRest_iff u).1 hrest
  unfold caughtUp
  split
  · rfl
  · rfl
  next hsession => exact hloop (h.port.coherent.listens_iff.2 hsession)
  next hsession =>
    have hlarge := (h.port.coherent.dead_iff _ hsession).1 rfl
    rw [h.port.settings_eq] at hlarge
    omega

/-- A loop that has caught up and has not ended is idle. -/
theorem idle_of_caughtUp {u : InUse Simulated} (h : u.caughtUp = true) {l : Loop}
    (hsession : u.port.session = some l) (hl : l ≠ .ended) :
    u.port.wire.queue = [] ∧ u.port.wire.isOver = false := by
  rw [← Simulated.idle_iff]
  cases l with
  | ended => exact absurd rfl hl
  | reading => simpa [caughtUp, hsession] using h
  | dead => simpa [caughtUp, hsession] using h

/-- **Port and dongle that are in step agree when there is nothing left to do.** -/
theorem InStep.agrees {u : InUse Simulated} (h : u.InStep settings opens) (hrest : AtRest u) :
    Agrees settings opens u := by
  obtain ⟨hreaders, -, hheld, -⟩ := (atRest_iff u).1 hrest
  have hlink := h.port.coherent.linkUp_iff
  have hended := h.port.hungUp_of_ended
  have hidle : u.caughtUp = true → ∀ l, u.port.session = some l → l ≠ .ended →
      u.port.wire.queue = [] ∧ u.port.wire.hungUp = false := by
    intro hcaught l hsession hl
    obtain ⟨hqueue, hover⟩ := idle_of_caughtUp hcaught hsession hl
    rw [Simulated.isOver, Bool.or_eq_false_iff] at hover
    exact ⟨hqueue, hover.1⟩
  refine
    { linkUp_iff := ?_
      queue_eq := ?_
      shut_iff := ?_
      stalled_of_held := ?_
      blocked_eq := h.blocked_eq
      linkUp_of_readers := fun hpos => (hreaders hpos).symm
      connects_eq := h.port.connects_eq
      last_eq := h.port.last_eq }
  · intro hcaught
    cases hsession : u.port.session with
    | none => simp [hlink, hsession]
    | some l =>
        cases l with
        | ended => simp [hlink, hsession, hended hsession]
        | reading => simp [hlink, hsession, hidle hcaught _ hsession]
        | dead => simp [hlink, hsession, hidle hcaught _ hsession]
  · intro hcaught hup
    obtain hsession | hsession := hlink.1 hup
    · exact (hidle hcaught _ hsession (by simp)).1
    · exact (hidle hcaught _ hsession (by simp)).1
  · rw [h.port.shut_iff, h.port.connects_eq, List.length_pos_iff]
  · intro hwaits
    have hholds := hheld hwaits
    simp only [Wire.holds, Simulated.holds, Simulated.isOver, Bool.and_eq_true, Bool.not_eq_true',
      Bool.or_eq_false_iff] at hholds
    refine ⟨hholds.1, hlink.2 ?_⟩
    have hsome := h.session_of_held (by rwa [← Option.isSome_iff_ne_none])
    cases hsession : u.port.session with
    | none => exact absurd hsession hsome
    | some l =>
        cases l with
        | reading => exact .inl rfl
        | dead => exact .inr rfl
        | ended => simp [hended hsession] at hholds

/-! ## Calls with all that they set free -/

/- `act` carries a call out at once, and `happen` bit by bit.  A call is shown to be some events
(`Brings`), and then what is known of all courses of events holds of it. -/

/-- Some events lead from one port in use to the other, and add these openings. -/
def Brings (u : InUse Simulated) (opens : List LineOverrides) (v : InUse Simulated) : Prop :=
  ∃ events, course happen events u = some v ∧ along happen opened events u = opens

namespace Brings

variable {u v w : InUse Simulated}

theorem refl (u : InUse Simulated) : Brings u [] u := ⟨[], rfl, rfl⟩

theorem trans {more : List LineOverrides} (h : Brings u opens v) (k : Brings v more w) :
    Brings u (opens ++ more) w := by
  obtain ⟨first, hfirst, rfl⟩ := h
  obtain ⟨second, hsecond, rfl⟩ := k
  exact ⟨first ++ second, course_append_eq_some.2 ⟨v, hfirst, hsecond⟩, along_append hfirst second⟩

theorem event {e : Event} (h : happen e u = some v) : Brings u (opened e u) v :=
  ⟨[e], course_cons_eq_some.2 ⟨v, h, rfl⟩, by simp [along, h]⟩

theorem leads (h : Brings u opens v) (k : Leads v w) : Brings u opens w := by
  obtain ⟨tasks, k⟩ := k
  induction tasks generalizing v opens with
  | nil =>
      cases k
      exact h
  | cons t tasks ih =>
      obtain ⟨x, hstep, hrest⟩ := course_cons_eq_some.1 k
      have hmore := h.trans (event (e := .task t) hstep)
      rw [show opened (.task t) v = [] from rfl, List.append_nil] at hmore
      exact ih hmore hrest

/-- What every event keeps is kept. -/
theorem inStep {before : List LineOverrides} (hchunk : 1 ≤ settings.chunkSize)
    (h : Brings u opens v) (hu : u.InStep settings before) :
    v.InStep settings (before ++ opens) := by
  obtain ⟨events, hcourse, rfl⟩ := h
  exact along_keeps (P := fun opens u => u.InStep settings opens)
    (fun _ _ _ _ hu he => hu.happen hchunk he) hu hcourse

end Brings

variable {u : InUse Simulated}

/-- Opening goes the same way whether it is carried out alone or not, where no write is held
up while a session is taken down. -/
theorem openAlone_eq (hheld : u.held.isSome = true → u.port.inbox.linkUp = true)
    (o : LineOverrides) :
    u.openAlone o = ((u.port.openWith o).1, { u with port := (u.port.openWith o).2 }) := by
  rw [openAlone, Port.openWith]
  cases hsession : u.port.session with
  | none => rfl
  | some l =>
      cases hup : u.port.inbox.linkUp with
      | true => rfl
      | false =>
          have hfree : u.held = none := by simpa [hup] using hheld
          have hdown : u.takeDown = { u with port := u.port.teardown } := by
            simp [takeDown, finishHeld, hfree]
          simp only [hdown, Bool.false_eq_true, if_false]
          rfl

theorem openThreadedAlone_eq (hheld : u.held.isSome = true → u.port.inbox.linkUp = true)
    (thread : Except IoFault Unit) (o : LineOverrides) :
    u.openThreadedAlone thread o = ((u.port.openThreaded thread o).1,
      { u with port := (u.port.openThreaded thread o).2 }) := by
  rw [openThreadedAlone, Port.openThreaded, openAlone_eq hheld]
  rcases u.port.openWith o with ⟨_ | _, p⟩
  · rfl
  · cases thread <;> rfl

/-- Reading leaves nothing to do. -/
theorem atRest_read (hrest : AtRest u) (patience : Patience) : AtRest (u.read patience).2 := by
  obtain ⟨hreaders, hloop, hwriters⟩ := (atRest_iff u).1 hrest
  have hempty := u.port.look_eq_empty_iff
  obtain ⟨b, inbox, hinbox, hlook⟩ | ⟨-, hlook⟩ := u.port.look_cases
  · -- whoever waits would have taken the byte
    have hnone : u.readers = 0 := by
      rw [hlook] at hempty
      exact Nat.eq_zero_of_not_pos fun hpos => Found.noConfusion (hempty.2 (hreaders hpos))
    rw [atRest_iff]
    simp only [read, hlook]
    exact ⟨fun hpos => absurd hpos (by simp [hnone]), hloop, hwriters⟩
  · cases hup : u.port.inbox.linkUp with
    | false => simpa [read, hlook, hup] using hrest
    | true =>
        cases patience with
        | brief => simpa [read, hlook, hup] using hrest
        | unlimited =>
            rw [hlook, hup] at hempty
            rw [atRest_iff]
            simp only [read, hlook, hup, if_true]
            exact ⟨fun _ => ⟨(hempty.1 rfl).1, hup⟩, hloop, hwriters⟩

/-- After settling there is nothing left to do. -/
theorem Brings.settle {v : InUse Simulated} (h : Brings u opens v)
    (hchunk : 1 ≤ v.port.settings.chunkSize) (hqueued : v.held = none → v.queued = []) :
    Brings u opens v.settle.2 ∧ AtRest v.settle.2 :=
  ⟨h.leads (leads_settle v), atRest_settle hchunk hqueued⟩

/-- A write waits for its turn, and has it at once if no write is held up. -/
theorem brings_write (hchunk : 1 ≤ u.port.settings.chunkSize)
    (hqueued : u.held = none → u.queued = []) (bytes : List UInt8) :
    Brings u [] (u.write bytes).2 ∧ AtRest (u.write bytes).2 := by
  have hcall : Brings u [] (u.receive (.write bytes)) := .event (e := .call (.write bytes)) rfl
  cases hempty : bytes.isEmpty with
  | true =>
      simp only [write, hempty, if_true]
      exact (Brings.refl u).settle hchunk hqueued
  | false =>
      simp only [receive, hempty, Bool.false_eq_true, if_false] at hcall
      cases hheld : u.held with
      | some waiting =>
          rw [write, if_neg (by simp [hempty]), if_pos (by simp [hheld])]
          exact hcall.settle hchunk fun hnone => by simp [hheld] at hnone
      | none =>
          have hsettings : (u.tryWrite bytes).2.port.settings = u.port.settings := by
            obtain ⟨actions, hrun⟩ := reaches_tryWrite bytes u
            rw [← hrun, Port.settings_run]
          have hfirst : ({ u with held := none, queued := [] } : InUse Simulated) = u := by
            rw [← hqueued hheld, ← hheld]
          have hlast : (u.tryWrite bytes).2.queued = u.queued := queued_tryWrite bytes u
          have hturn : perform (.turn 0) { u with queued := u.queued ++ [bytes] } =
              some (u.tryWrite bytes).2 := by
            simp [perform, hheld, hqueued hheld, hfirst]
          rw [write, if_neg (by simp [hempty]), if_neg (by simp [hheld])]
          exact (hcall.leads (.perform hturn)).settle (by rwa [hsettings])
            fun _ => hlast.trans (hqueued hheld)

/-- **A call, with all that it sets free, is some events, and leaves nothing to do.** -/
theorem brings_act (hstep : u.InStep settings opens) (hrest : AtRest u)
    (hchunk : 1 ≤ u.port.settings.chunkSize) (c : Call) :
    Brings u (openedIn [c] [(u.act c.action).1]) (u.act c.action).2 ∧
      AtRest (u.act c.action).2 := by
  have hqueued := ((atRest_iff u).1 hrest).2.2.2
  have hcall : Brings u (opened (.call c) u) (u.receive c) := .event rfl
  cases c with
  | openWith o thread =>
      have hsettings : (u.port.openThreaded thread o).2.settings = u.port.settings :=
        u.port.settings_act (.openWith o thread)
      have heq := openThreadedAlone_eq
        (fun hheld => ((hstep.agrees hrest).stalled_of_held hheld).2) thread o
      simp only [opened, receive, heq] at hcall
      have hopened : openedIn [.openWith o thread] [(u.act (.openWith o thread)).1] =
          openedBy o (u.port.openThreaded thread o).1 := by simp [openedIn, act, openThreaded]
      rw [Call.action, hopened]
      exact hcall.settle (by rwa [hsettings]) hqueued
  | close =>
      let down : InUse Simulated := { u with port := u.port.teardown }
      have hfree : down.held.isSome = true → Wire.holds down.port.wire = false := by
        intro hheld
        have hsession : u.port.session.isSome = true := by
          rw [Option.isSome_iff_ne_none] at hheld ⊢
          exact hstep.session_of_held hheld
        simp [down, Port.wire_teardown, hsession, Wire.holds, Simulated.holds, Simulated.isOver,
          Wire.shutdown, Simulated.shutdown]
      have hleads : Leads u.takeDown down.settle.2 :=
        (leads_of_finishHeld hfree).trans (leads_settle_of_serveWriters down)
      have hsettings : 1 ≤ down.port.settings.chunkSize := by simpa [down] using hchunk
      exact ⟨hcall.leads hleads, atRest_settle hsettings hqueued⟩
  | purge => exact hcall.settle hchunk hqueued
  | write bytes => exact brings_write hchunk hqueued bytes
  | read patience => exact ⟨hcall, atRest_read hrest patience⟩
  | control c => exact hcall.settle hchunk hqueued

theorem openedIn_cons (c : Call) (calls : List Call) (told : Answer × List Ended)
    (more : List (Answer × List Ended)) :
    openedIn (c :: calls) (told :: more) = openedIn [c] [told] ++ openedIn calls more := by
  simp [openedIn]

/-- **After every call there is nothing left to do, and port and dongle are in step.** -/
theorem inStep_act (hchunk : 1 ≤ settings.chunkSize) (h : u.InStep settings opens)
    (hrest : AtRest u) (c : Call) :
    AtRest (u.act c.action).2 ∧
      (u.act c.action).2.InStep settings (opens ++ openedIn [c] [(u.act c.action).1]) := by
  obtain ⟨hbrings, hrest'⟩ := brings_act h hrest (by rwa [h.port.settings_eq]) c
  exact ⟨hrest', hbrings.inStep hchunk h⟩

/-- After every run of calls as well. -/
theorem inStep_run (hchunk : 1 ≤ settings.chunkSize) (calls : List Call)
    (h : u.InStep settings opens) (hrest : AtRest u) :
    AtRest (run (calls.map Call.action) u).2 ∧
      (run (calls.map Call.action) u).2.InStep settings
        (opens ++ openedIn calls (run (calls.map Call.action) u).1) := by
  induction calls generalizing u opens with
  | nil => exact ⟨hrest, h.append_nil⟩
  | cons c calls ih =>
      obtain ⟨hrest', hstep'⟩ := inStep_act hchunk h hrest c
      obtain ⟨hend, hstep⟩ := ih hstep' hrest'
      refine ⟨hend, ?_⟩
      rw [List.map_cons, run, openedIn_cons, ← List.append_assoc]
      exact hstep

/-! ## Every run -/

/-- A new port has nothing to do. -/
theorem atRest_create {name : String} {echo : Bool} {p : Port Simulated}
    (h : Port.create { name := name, echo := echo } settings = .ok p) :
    AtRest ({ port := p } : InUse Simulated) := by
  obtain ⟨-, -, hcap, hp⟩ := Port.create_eq_ok_iff.1 h
  subst hp
  rw [atRest_iff]
  exact ⟨fun h => by simp at h, fun h => by simp [Port.listens] at h, fun h => by simp at h,
    fun _ => rfl⟩

/-- **Port and dongle agree whenever there is nothing left to do.**  Let calls and controls come
in any order, with the work that they leave behind done piece by piece in between: whatever
state that leads to, work alone leads on to one where nothing is left to do, and in every such
state both tell the same, where the receive loop has caught up; one that has its chunk buffer has.
So they do after calls that are carried out one after the other with all that they set free. -/
theorem agrees_at_rest {name : String} {echo : Bool} {p : Port Simulated}
    (h : Port.create { name := name, echo := echo } settings = .ok p) :
    (∀ events u, course happen events { port := p } = some u →
        (AtRest u → Agrees settings (along happen opened events { port := p }) u ∧
          (settings.chunkSize ≤ largestBlock → u.caughtUp = true)) ∧
          ∃ tasks v, course perform tasks u = some v ∧ AtRest v) ∧
      ∀ calls, AtRest (run (calls.map Call.action) { port := p }).2 ∧
        Agrees settings (openedIn calls (run (calls.map Call.action) { port := p }).1)
          (run (calls.map Call.action) { port := p }).2 := by
  have hchunk := (Port.create_eq_ok_iff.1 h).1
  have hstart := inStep_create h
  constructor
  · intro events u hcourse
    have hbrings : Brings { port := p } (along happen opened events { port := p }) u :=
      ⟨events, hcourse, rfl⟩
    have hstep := hbrings.inStep hchunk hstart
    have hsettings : 1 ≤ u.port.settings.chunkSize := by rwa [hstep.port.settings_eq]
    obtain ⟨v, ⟨tasks, htasks⟩, hrest⟩ := exists_leads_atRest hsettings
    exact ⟨fun hrest => ⟨hstep.agrees hrest, fun hsmall => hstep.caughtUp_of_atRest hsmall hrest⟩,
      tasks, v, htasks, hrest⟩
  · intro calls
    obtain ⟨hrest, hstep⟩ := inStep_run hchunk calls hstart (atRest_create h)
    exact ⟨hrest, hstep.agrees hrest⟩

/-- A ring for two bytes, and chunks of two. -/
def smallSettings : Settings := { ringCapacity := 3, chunkSize := 2 }

/-- A closed port with these settings. -/
def smallPort : Port Simulated where
  wire := { name := "MOCK0" }
  settings := smallSettings
  inbox := { ring := .ofCapacity 3 (by decide), linkUp := false }

/-- On a first link a write is held up, another waits behind it, and a reader gets the first of
three bytes.  The dongle hangs up, and both writes fail; an attempt to connect is turned down,
and one more works.  On the second link a reader waits and a write is held up. -/
def secondLink : List Event :=
  [.call (.openWith { baud := some 9600 }), .call (.read .unlimited),
    .call (.control (.stall true)), .call (.write [1]), .task (.turn 0), .call (.write [2]),
    .call (.control (.enqueue [7, 8, 9])), .task .hear, .task .serve, .task .hear,
    .call (.control .disconnect), .task .resume, .task (.turn 0), .task .hear,
    .call (.control (.turnDown .refused)), .call (.openWith {}), .call (.openWith {}),
    .call (.read .unlimited), .call (.write [3]), .task (.turn 0)]

/-- The dongle has recorded both links, and counts the write that the second one holds up. -/
theorem agrees_on_secondLink :
    Port.create { name := "MOCK0" } smallSettings = .ok smallPort ∧
      ∃ u, course happen secondLink { port := smallPort } = some u ∧ AtRest u ∧
        u.held = some [3] ∧ u.readers = 1 ∧ u.port.wire.blocked = 1 ∧
        Agrees smallSettings [{ baud := some 9600 }, {}] u := by
  have hport : Port.create { name := "MOCK0" } smallSettings = .ok smallPort := rfl
  have hview : (course happen secondLink { port := smallPort }).map (fun u =>
      (u.held, u.readers, u.port.inbox.unread, u.port.inbox.linkUp, Wire.idle u.port.wire,
        Wire.holds u.port.wire)) = some (some [3], 1, [], true, true, true) := by decide
  have hopens : along happen opened secondLink { port := smallPort } =
      [{ baud := some 9600 }, {}] := by decide
  obtain ⟨u, hu, hparts⟩ := Option.map_eq_some_iff.1 hview
  simp only [Prod.mk.injEq] at hparts
  obtain ⟨hheld, hreaders, hunread, hup, hidle, hholds⟩ := hparts
  have hrest : AtRest u :=
    (atRest_iff u).2 ⟨fun _ => ⟨hunread, hup⟩, fun _ => hidle, fun _ => hholds,
      fun hnone => by simp [hheld] at hnone⟩
  have hagrees := (((agrees_at_rest hport).1 secondLink u hu).1 hrest).1
  rw [hopens] at hagrees
  exact ⟨hport, u, hu, hrest, hheld, hreaders, by simpa [hheld] using hagrees.blocked_eq, hagrees⟩

/-- A port connects, and there is no thread for its loop. -/
def unthreaded : List Call := [.openWith { baud := some 9600 } (.error (.system 11))]

/-- No opening worked, as the callers were told, and yet the dongle has recorded one. -/
theorem connects_of_unthreaded :
    Port.create { name := "MOCK0" } smallSettings = .ok smallPort ∧
      let told := (run (unthreaded.map Call.action) { port := smallPort }).1
      let u := (run (unthreaded.map Call.action) { port := smallPort }).2
      told.map Prod.fst = [.opened (.error (.io (.system 11)))] ∧ AtRest u ∧ u.caughtUp = true ∧
        u.port.wire.connects = 1 ∧ u.port.wire.lastOverrides = some { baud := some 9600 } := by
  have hport : Port.create { name := "MOCK0" } smallSettings = .ok smallPort := rfl
  have hrest := (inStep_run (by decide) unthreaded (inStep_create hport) (atRest_create hport)).1
  exact ⟨hport, rfl, hrest, by decide, by decide, by decide⟩

end DongleLink.InUse

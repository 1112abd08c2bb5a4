import DongleLink.Proofs.Isolation

/-!
# DongleLink.Proofs.Release

What becomes of a reader that waits while the port is closed.  Closing marks the link
down and wakes the sleepers, but a reader that was woken looks only when its turn
comes, and the port may have been opened again by then.  If it was not, the reader is
told of no byte, or gets one that came with the session that was closed.  If it was,
the reader sleeps again or gets a byte of a later session, unless it finds an empty ring
and a link that is down, or its time is over (`released_iff`).

* As long as no stream is attached, the link stays down and there is no further session
  (`Shut.happen`).
* Once one is attached, the bytes of the sessions before are gone, and no more of them come
  (`Renewed.happen`), whether or not the loop of the new session gets its thread.
* `readers_of_happen` says what an event does to a reader that does not look.
-/

namespace DongleLink.Interleaving

/-! ## Opening again -/

/- What a reader finds depends on one thing that happens meanwhile: whether a user clears the ring
and marks the link up.  Whether the opening comes to a good end does not matter, since a user that
gets no thread marks the link down again itself. -/

/-- By this move a user clears the ring and marks the link up. -/
def attaches (e : Event) (s : State) : Bool :=
  match e with
  | .move (.advance user) => s.users user == .attaching
  | _ => false

/-- A new stream is attached in the course of some events. -/
def reopens : List Event → State → Bool
  | [], _ => false
  | e :: rest, s => attaches e s || (happen e s).any (reopens rest)

/-- A user that goes on without attaching is fresh if it was. -/
theorem isFresh_setUser {s : State} {u : Nat} {place : UserAt}
    (h : place.isFresh = (s.users u).isFresh) (v : Nat) :
    ((s.setUser u place).users v).isFresh = (s.users v).isFresh := by
  by_cases hv : v = u
  · simp [State.setUser, hv, h]
  · simp [State.setUser, hv]

/-- What a move that neither attaches a stream nor starts a loop does: there are no more
sessions than before, nobody is fresh who was not, and the link does not go up. -/
structure Quiet (s t : State) : Prop where
  sessions_eq : t.sessions = s.sessions
  isFresh_eq : ∀ v, (t.users v).isFresh = (s.users v).isFresh
  linkUp_le : t.inbox.linkUp = true → s.inbox.linkUp = true

theorem quiet_lookStep {s t : State} {reader : Nat} (hstep : lookStep reader s = some t) :
    Quiet s t := by
  rw [lookStep] at hstep
  split at hstep
  · split at hstep
    next b inbox hlook =>
      cases hstep
      exact ⟨rfl, fun _ => rfl, fun hup => (Inbox.linkUp_of_look hlook).symm.trans hup⟩
    all_goals
      cases hstep
      exact ⟨rfl, fun _ => rfl, id⟩
  · cases hstep

theorem quiet_proceedStep {s t : State} {loop : Nat} (hstep : proceedStep loop s = some t) :
    Quiet s t := by
  rw [proceedStep] at hstep
  split at hstep
  all_goals cases hstep
  · exact ⟨rfl, fun _ => rfl, id⟩
  · exact ⟨rfl, fun _ => rfl, id⟩
  · exact ⟨rfl, fun _ => rfl, id⟩
  · exact ⟨rfl, fun _ => rfl, fun hup => by cases hup⟩
  · exact ⟨rfl, fun _ => rfl, id⟩

theorem quiet_beginStep {s t : State} {user : Nat} {place : UserAt}
    (hplace : place.isFresh = false) (hstep : beginStep user place s = some t) : Quiet s t := by
  rw [beginStep] at hstep
  split at hstep
  next hfree =>
    cases hstep
    exact ⟨rfl, isFresh_setUser (by rw [hplace, hfree.1]; rfl), id⟩
  next => cases hstep

/-- Going on after the link was taken down is quiet. -/
theorem quiet_afterTeardown {s : State} {user : Nat} (aim : Aim)
    (huser : (s.users user).isFresh = false) : Quiet s (afterTeardown user aim s) := by
  cases aim with
  | close => exact ⟨rfl, isFresh_setUser (by rw [huser]; rfl), id⟩
  | reopen => exact ⟨rfl, isFresh_setUser (by rw [huser]; rfl), id⟩

/-- **What a user's next piece of work does**: it attaches a stream, or it starts the loop
of a session, or it is quiet. -/
theorem advanceStep_cases {s t : State} {user : Nat} (hstep : advanceStep user s = some t) :
    (s.users user = .attaching ∧ t = { s with inbox := s.inbox.attach, sources := [] }.setUser
        user .wanting) ∨
      (∃ n, s.users user = .starting n ∧ t.sessions = n + 1 ∧ t.inbox = s.inbox) ∨
      (s.users user ≠ .attaching ∧ Quiet s t) := by
  rw [advanceStep] at hstep
  split at hstep
  next hu =>
    split at hstep
    · cases hstep
      exact .inr (.inr ⟨by simp [hu], rfl, isFresh_setUser (by rw [hu]; rfl), id⟩)
    · split at hstep
      · cases hstep
        exact .inr (.inr ⟨by simp [hu], rfl, isFresh_setUser (by rw [hu]; rfl), id⟩)
      · cases hstep
        exact .inr (.inr ⟨by simp [hu], rfl, isFresh_setUser (by rw [hu]; rfl), id⟩)
  next session aim hu =>
    cases hstep
    exact .inr (.inr ⟨by simp [hu], rfl, isFresh_setUser (by rw [hu]; rfl), id⟩)
  next session aim hu =>
    cases hstep
    exact .inr (.inr ⟨by simp [hu], rfl, isFresh_setUser (by rw [hu]; rfl),
      fun hup => by cases hup⟩)
  next aim hu =>
    cases hstep
    have hquiet : Quiet s.wakeAll (afterTeardown user aim s.wakeAll) :=
      quiet_afterTeardown aim (by simp [hu, UserAt.isFresh])
    exact .inr (.inr ⟨by simp [hu], hquiet.sessions_eq, hquiet.isFresh_eq, hquiet.linkUp_le⟩)
  next session aim hu =>
    cases hstep
    exact .inr (.inr ⟨by simp [hu], rfl, isFresh_setUser (by simp [hu, UserAt.isFresh]), id⟩)
  next session aim hu =>
    split at hstep
    · cases hstep
      exact .inr (.inr ⟨by simp [hu], quiet_afterTeardown aim (by rw [hu]; rfl)⟩)
    · cases hstep
  next hu =>
    cases hstep
    exact .inl ⟨hu, rfl⟩
  next hu =>
    cases hstep
    exact .inr (.inr ⟨by simp [hu], rfl, isFresh_setUser (by rw [hu]; rfl), id⟩)
  next session hu =>
    cases hstep
    exact .inr (.inl ⟨session, hu, rfl, rfl⟩)
  all_goals cases hstep

/-- Every move but a user's next piece of work is quiet. -/
theorem quiet_step {s t : State} {m : Move} (hstep : step m s = some t)
    (hm : ∀ user, m ≠ .advance user) : Quiet s t := by
  cases m with
  | call reader =>
      simp only [step] at hstep
      split at hstep
      all_goals cases hstep
      · exact ⟨rfl, fun _ => rfl, id⟩
      · exact ⟨rfl, fun _ => rfl, id⟩
  | look reader => exact quiet_lookStep hstep
  | expire reader =>
      simp only [step] at hstep
      split at hstep
      all_goals cases hstep
      · exact ⟨rfl, fun _ => rfl, id⟩
      · exact ⟨rfl, fun _ => rfl, id⟩
  | read loop r =>
      simp only [step] at hstep
      split at hstep
      all_goals cases hstep
      exact ⟨rfl, fun _ => rfl, id⟩
  | proceed loop => exact quiet_proceedStep hstep
  | beginOpen user => exact quiet_beginStep rfl hstep
  | beginClose user =>
      simp only [step, Option.map_eq_some_iff] at hstep
      obtain ⟨_, hbegin, rfl⟩ := hstep
      obtain ⟨h1, h2, h3⟩ := quiet_beginStep rfl hbegin
      exact ⟨h1, h2, h3⟩
  | advance user => exact absurd rfl (hm user)
  | connect user works =>
      simp only [step] at hstep
      split at hstep
      next hu =>
        cases works with
        | true =>
            cases hstep
            exact ⟨rfl, isFresh_setUser (by rw [hu]; rfl), id⟩
        | false =>
            cases hstep
            exact ⟨rfl, isFresh_setUser (by rw [hu]; rfl), id⟩
      next => cases hstep
  | purge =>
      cases hstep
      exact ⟨rfl, fun _ => rfl, id⟩

/-- The link is down after so many sessions, and nobody is about to start another one. -/
structure Shut (n : Nat) (s : State) : Prop where
  sessions_eq : s.sessions = n
  isFresh_eq : ∀ v, (s.users v).isFresh = false
  linkUp_eq : s.inbox.linkUp = false

theorem Shut.quiet {n : Nat} {s t : State} (h : Shut n s) (hquiet : Quiet s t) : Shut n t where
  sessions_eq := hquiet.sessions_eq.trans h.sessions_eq
  isFresh_eq v := (hquiet.isFresh_eq v).trans (h.isFresh_eq v)
  linkUp_eq := by
    rw [Bool.eq_false_iff]
    intro hup
    have hdown := h.linkUp_eq
    rw [hquiet.linkUp_le hup] at hdown
    cases hdown

/-- **Only attaching a stream opens a port again.** -/
theorem Shut.happen {n : Nat} {e : Event} {s t : State} (h : Shut n s)
    (hevent : Interleaving.happen e s = some t) (hno : attaches e s = false) : Shut n t := by
  cases e with
  | move m =>
      by_cases hm : ∃ user, m = .advance user
      · obtain ⟨user, rfl⟩ := hm
        obtain ⟨hu, -⟩ | ⟨k, hu, -⟩ | ⟨-, hquiet⟩ := advanceStep_cases hevent
        · simp [attaches, hu] at hno
        · have hfresh := h.isFresh_eq user
          simp [hu, UserAt.isFresh] at hfresh
        · exact h.quiet hquiet
      · exact h.quiet (quiet_step hevent fun user heq => hm ⟨user, heq⟩)
  | threadless user =>
      simp only [Interleaving.happen] at hevent
      split at hevent
      next session hu =>
        have hfresh := h.isFresh_eq user
        simp [hu, UserAt.isFresh] at hfresh
      next => cases hevent
  | dies loop | stirs reader =>
      simp only [Interleaving.happen] at hevent
      split at hevent
      all_goals cases hevent
      all_goals exact h.quiet ⟨rfl, fun _ => rfl, id⟩

/-- A stream was attached after the first `n` sessions: they are over, and their bytes are gone. -/
structure Renewed (n : Nat) (s : State) : Prop where
  gone : Over n s
  le_of_mem : ∀ b ∈ s.tagged, n ≤ b.2

/-- The bytes of sessions that are over stay away. -/
theorem Renewed.happen {n : Nat} {e : Event} {s t : State} (h : Renewed n s) (hs : Sound s)
    (hevent : Interleaving.happen e s = some t) : Renewed n t where
  gone := h.gone.happen hs hevent
  le_of_mem b hb := by
    have hmem := (traffic_of_happen hs hevent).bytes.subset (List.mem_append_right _ hb)
    obtain hbefore | hstored := List.mem_append.1 hmem
    · exact h.le_of_mem b hbefore
    · exact le_of_mem_storedBy h.gone hstored

theorem Renewed.course {n : Nat} {events : List Event} {s t : State} (h : Renewed n s)
    (hs : Sound s) (hevents : course Interleaving.happen events s = some t) : Renewed n t :=
  (course_keeps (P := fun s => Sound s ∧ Renewed n s)
    (fun _ _ _ hs hevent => ⟨hs.1.happen hevent, hs.2.happen hs.1 hevent⟩) ⟨hs, h⟩ hevents).2

/-- Attaching a stream clears the ring, when no loop is live. -/
theorem renewed_of_attaches {n : Nat} {e : Event} {s t : State} (hn : n ≤ s.sessions)
    (hattaches : attaches e s = true) (ht : Sound t) (hevent : happen e s = some t) :
    Renewed n t := by
  unfold attaches at hattaches
  split at hattaches
  next user =>
    have hu : s.users user = .attaching := by simpa using hattaches
    simp only [happen, step, advanceStep, hu, Option.some.injEq] at hevent
    subst hevent
    refine ⟨⟨hn, fun k _ => ?_⟩, by simp [State.tagged, State.setUser]⟩
    exact ht.not_live_of_fresh (u := user) (by simp [State.setUser, UserAt.isFresh]) k
  next => cases hattaches

/-- **A port that was closed stays so, or was renewed**: which of them tells whether a stream was
attached. -/
theorem shut_or_renewed {n : Nat} {events : List Event} {s t : State} (hs : Sound s)
    (h : Shut n s) (hevents : course happen events s = some t) :
    (reopens events s = false ∧ Shut n t) ∨ (reopens events s = true ∧ Renewed n t) := by
  induction events generalizing s with
  | nil =>
      cases hevents
      exact .inl ⟨rfl, h⟩
  | cons e events ih =>
      obtain ⟨u, hevent, hrest⟩ := course_cons_eq_some.1 hevents
      have hu := hs.happen hevent
      have hreopens : reopens (e :: events) s = (attaches e s || reopens events u) := by
        simp [reopens, hevent]
      rw [hreopens]
      cases hattaches : attaches e s with
      | true =>
          have hrenewed := renewed_of_attaches h.sessions_eq.ge hattaches hu hevent
          exact .inr ⟨rfl, hrenewed.course hu hrest⟩
      | false => simpa using ih hu (h.happen hevent hattaches) hrest

/-! ## Waiting readers -/

namespace ReaderAt

/-- The reader is in the middle of a call: it sleeps, or it is about to look. -/
def Waits : ReaderAt → Prop
  | asleep | looking _ => True
  | idle | answered _ => False

/-- The reader is done, and has got no byte or one that came with the last of so many
sessions. -/
def Released (sessions : Nat) : ReaderAt → Prop
  | answered none => True
  | answered (some (_, session)) => session + 1 = sessions
  | idle | looking _ | asleep => False

end ReaderAt

theorem wakeReader_of_waits {place : ReaderAt} (h : place.Waits) :
    ∃ patient, State.wakeReader place = .looking patient := by
  cases place with
  | asleep => exact ⟨true, rfl⟩
  | looking patient => exact ⟨patient, rfl⟩
  | idle => cases h
  | answered result => cases h

theorem readers_setReader {s : State} {other reader : Nat} (place : ReaderAt)
    (hne : reader ≠ other) : (s.setReader other place).readers reader = s.readers reader := by
  simp [State.setReader, hne]

/-- A look is the affair of the reader that looks. -/
theorem readers_of_lookStep {s t : State} {other reader : Nat} (hne : reader ≠ other)
    (hstep : lookStep other s = some t) : t.readers reader = s.readers reader := by
  rw [lookStep] at hstep
  split at hstep
  · split at hstep
    all_goals
      cases hstep
      exact readers_setReader _ hne
  · cases hstep

/-- A loop that goes on leaves the readers alone, or wakes them. -/
theorem readers_of_proceedStep {s t : State} {loop : Nat} (hstep : proceedStep loop s = some t) :
    t.readers = s.readers ∨ t.readers = s.wakeAll.readers := by
  rw [proceedStep] at hstep
  split at hstep
  all_goals cases hstep
  · exact .inl rfl
  · exact .inl rfl
  · exact .inr rfl
  · exact .inl rfl
  · exact .inr rfl

theorem readers_afterTeardown (user : Nat) (aim : Aim) (s : State) :
    (afterTeardown user aim s).readers = s.readers := by
  cases aim <;> rfl

/-- A user that goes on leaves the readers alone, or wakes them. -/
theorem readers_of_advanceStep {s t : State} {user : Nat} (hstep : advanceStep user s = some t) :
    t.readers = s.readers ∨ t.readers = s.wakeAll.readers := by
  rw [advanceStep] at hstep
  split at hstep
  next =>
    split at hstep
    · cases hstep
      exact .inl rfl
    · split at hstep
      all_goals
        cases hstep
        exact .inl rfl
  next =>
    cases hstep
    exact .inl rfl
  next =>
    cases hstep
    exact .inl rfl
  next aim _ =>
    cases hstep
    exact .inr (readers_afterTeardown user aim s.wakeAll)
  next =>
    cases hstep
    exact .inr rfl
  next aim _ =>
    split at hstep
    · cases hstep
      exact .inl (readers_afterTeardown user aim s)
    · cases hstep
  next =>
    cases hstep
    exact .inl rfl
  next =>
    cases hstep
    exact .inl rfl
  next =>
    cases hstep
    exact .inl rfl
  all_goals cases hstep

/-- **What a move does to a reader that does not look**: it stays where it is, or it is
woken, or it is about to look afterwards. -/
theorem readers_of_step {s t : State} {m : Move} {reader : Nat} (hm : m ≠ .look reader)
    (hstep : step m s = some t) :
    t.readers reader = s.readers reader ∨
      t.readers reader = State.wakeReader (s.readers reader) ∨
      ∃ patient, t.readers reader = .looking patient := by
  have hcomes : ∀ other patient, t = s.setReader other (.looking patient) →
      t.readers reader = s.readers reader ∨ ∃ patient, t.readers reader = .looking patient := by
    rintro other patient rfl
    by_cases hne : reader = other
    · exact .inr ⟨patient, by simp [State.setReader, hne]⟩
    · exact .inl (readers_setReader _ hne)
  have hall : t.readers = s.readers ∨ t.readers = s.wakeAll.readers →
      t.readers reader = s.readers reader ∨
        t.readers reader = State.wakeReader (s.readers reader) := by
    rintro (h | h) <;> simp [h]
  cases m with
  | call other =>
      simp only [step] at hstep
      split at hstep
      all_goals cases hstep
      all_goals exact (hcomes other true rfl).imp id .inr
  | look other => exact .inl (readers_of_lookStep (fun h => hm (by rw [h])) hstep)
  | expire other =>
      simp only [step] at hstep
      split at hstep
      all_goals cases hstep
      all_goals exact (hcomes other false rfl).imp id .inr
  | read loop r =>
      simp only [step] at hstep
      split at hstep
      all_goals cases hstep
      exact .inl rfl
  | proceed loop => exact (hall (readers_of_proceedStep hstep)).imp id .inl
  | beginOpen user =>
      simp only [step, beginStep] at hstep
      split at hstep
      all_goals cases hstep
      exact .inl rfl
  | beginClose user =>
      simp only [step, beginStep] at hstep
      split at hstep
      all_goals cases hstep
      exact .inl rfl
  | advance user => exact (hall (readers_of_advanceStep hstep)).imp id .inl
  | connect user works =>
      simp only [step] at hstep
      split at hstep
      · cases works <;> cases hstep <;> exact .inl rfl
      · cases hstep
  | purge =>
      cases hstep
      exact .inl rfl

/-- Nor does any event do more to it. -/
theorem readers_of_happen {s t : State} {e : Event} {reader : Nat} (he : e ≠ .move (.look reader))
    (hevent : happen e s = some t) :
    t.readers reader = s.readers reader ∨
      t.readers reader = State.wakeReader (s.readers reader) ∨
      ∃ patient, t.readers reader = .looking patient := by
  cases e with
  | move m => exact readers_of_step (fun h => he (by rw [h])) hevent
  | threadless user | dies loop =>
      simp only [happen] at hevent
      split at hevent
      all_goals cases hevent
      all_goals exact .inl rfl
  | stirs other =>
      simp only [happen] at hevent
      split at hevent
      all_goals cases hevent
      by_cases hne : reader = other
      · exact .inr (.inr ⟨true, by simp [State.setReader, hne]⟩)
      · exact .inl (readers_setReader _ hne)

/-- While a user is at work, only its own moves bring a user anywhere. -/
theorem users_of_step {s t : State} {m : Move} {user : Nat} (hs : Sound s)
    (huser : s.users user ≠ .idle) (hstep : step m s = some t) :
    t.users = s.users ∨ m = .advance user ∨ ∃ works, m = .connect user works := by
  have hlock := hs.lock_of_busy user huser
  have hbegin : ∀ other place v, beginStep other place s ≠ some v := by
    intro other place v h
    simp [beginStep, hlock] at h
  cases m with
  | call reader | expire reader =>
      simp only [step] at hstep
      split at hstep
      all_goals cases hstep
      all_goals exact .inl rfl
  | look reader =>
      simp only [step, lookStep] at hstep
      split at hstep
      · split at hstep
        all_goals cases hstep
        all_goals exact .inl rfl
      · cases hstep
  | read loop r =>
      simp only [step] at hstep
      split at hstep
      all_goals cases hstep
      exact .inl rfl
  | proceed loop =>
      simp only [step, proceedStep] at hstep
      split at hstep
      all_goals cases hstep
      all_goals exact .inl rfl
  | beginOpen other => exact absurd hstep (hbegin other .opening t)
  | beginClose other =>
      simp only [step, Option.map_eq_some_iff] at hstep
      obtain ⟨v, hv, -⟩ := hstep
      exact absurd hv (hbegin other _ v)
  | advance other =>
      by_cases hother : other = user
      · rw [hother]
        exact .inr (.inl rfl)
      · simp [step, advanceStep, hs.idle_of_ne huser hother] at hstep
  | connect other works =>
      by_cases hother : other = user
      · rw [hother]
        exact .inr (.inr ⟨works, rfl⟩)
      · simp [step, hs.idle_of_ne huser hother] at hstep
  | purge =>
      cases hstep
      exact .inl rfl

/-- A user that has marked the link down stays where it is until it wakes the sleepers. -/
theorem waking_happen {s t : State} {e : Event} {user : Nat} {session : Option Nat} {aim : Aim}
    (hs : Sound s) (huser : s.users user = .waking session aim) (hevent : happen e s = some t) :
    t.users user = .waking session aim ∨
      ∀ reader, t.readers reader = State.wakeReader (s.readers reader) := by
  have hbusy : s.users user ≠ .idle := by simp [huser]
  cases e with
  | move m =>
      obtain husers | rfl | ⟨works, rfl⟩ := users_of_step hs hbusy hevent
      · exact .inl (by rw [husers, huser])
      · right
        intro reader
        simp only [happen, step, advanceStep, huser] at hevent
        cases session with
        | none =>
            cases hevent
            cases aim <;> rfl
        | some k =>
            cases hevent
            rfl
      · simp [happen, step, huser] at hevent
  | threadless other =>
      have hother : other ≠ user := by
        rintro rfl
        simp [happen, huser] at hevent
      simp [happen, hs.idle_of_ne hbusy hother] at hevent
  | dies loop | stirs reader =>
      simp only [happen] at hevent
      split at hevent
      all_goals cases hevent
      all_goals exact .inl huser

/-- **Closing wakes every reader that waits**: once the user that marked the link down has
gone on, a reader that waited then and did not look since is about to look. -/
theorem awake_course {s t : State} {events : List Event} {user reader : Nat}
    {session : Option Nat} {aim : Aim} (hs : Sound s) (hlook : .move (.look reader) ∉ events)
    (hevents : course happen events s = some t)
    (hstart : s.users user = .waking session aim ∧ (s.readers reader).Waits ∨
      ∃ patient, s.readers reader = .looking patient) :
    t.users user = .waking session aim ∧ (t.readers reader).Waits ∨
      ∃ patient, t.readers reader = .looking patient := by
  induction events generalizing s with
  | nil =>
      cases hevents
      exact hstart
  | cons e events ih =>
      obtain ⟨u, hevent, hrest⟩ := course_cons_eq_some.1 hevents
      rw [List.mem_cons, not_or] at hlook
      apply ih (hs.happen hevent) hlook.2 hrest
      have hreader := readers_of_happen (Ne.symm hlook.1) hevent
      obtain ⟨huser, hwaits⟩ | ⟨patient, hlooking⟩ := hstart
      · obtain husers | hwoken := waking_happen hs huser hevent
        · obtain hr | hr | hr := hreader
          · exact .inl ⟨husers, by rwa [hr]⟩
          · right
            rw [hr]
            exact wakeReader_of_waits hwaits
          · exact .inr hr
        · right
          rw [hwoken reader]
          exact wakeReader_of_waits hwaits
      · right
        obtain hr | hr | hr := hreader
        · exact ⟨patient, by rw [hr, hlooking]⟩
        · exact ⟨patient, by rw [hr, hlooking]; rfl⟩
        · exact hr

/-! ## What a reader finds -/

/-- **What a look ends in**: a byte of the last session if there are bytes; no byte if
there are none and the link is down or the reader must not wait; and sleep otherwise. -/
theorem look_cases {s : State} {reader : Nat} {patient : Bool} (hs : Sound s)
    (hreader : s.readers reader = .looking patient) :
    (∃ b k t, step (.look reader) s = some t ∧ s.inbox.unread ≠ [] ∧ k ∈ s.sources ∧
        t.readers reader = .answered (some (b, k))) ∨
      (s.inbox.unread = [] ∧ ∃ t, step (.look reader) s = some t ∧
        t.readers reader =
          if s.inbox.linkUp = true ∧ patient = true then .asleep else .answered none) := by
  cases hlook : s.inbox.look with
  | mk found inbox =>
      cases found with
      | byte b =>
          left
          have hunread := Inbox.unread_of_look hlook
          have hlen := hs.length_sources
          rw [hunread, List.length_cons] at hlen
          cases hsources : s.sources with
          | nil => simp [hsources] at hlen
          | cons k rest =>
              have hstep : step (.look reader) s =
                  some ({ s with inbox := inbox, sources := s.sources.tail }.setReader reader
                    (.answered (some (b, k)))) := by
                simp [step, lookStep, hreader, hlook, hsources]
              exact ⟨b, k, _, hstep, by simp [hunread], List.mem_cons_self,
                by simp [State.setReader]⟩
      | closed =>
          right
          obtain ⟨hempty, hdown⟩ := (Inbox.look_eq_closed_iff _).1 (congrArg Prod.fst hlook)
          have hstep : step (.look reader) s = some (s.setReader reader (.answered none)) := by
            simp [step, lookStep, hreader, hlook]
          exact ⟨hempty, _, hstep, by simp [State.setReader, hdown]⟩
      | empty =>
          right
          obtain ⟨hempty, hup⟩ := (Inbox.look_eq_empty_iff _).1 (congrArg Prod.fst hlook)
          have hstep : step (.look reader) s =
              some (s.setReader reader (if patient then .asleep else .answered none)) := by
            simp [step, lookStep, hreader, hlook]
          exact ⟨hempty, _, hstep, by simp [State.setReader, hup]⟩

theorem looking_of_step {s t : State} {reader : Nat} (hstep : step (.look reader) s = some t) :
    ∃ patient, s.readers reader = .looking patient := by
  simp only [step, lookStep] at hstep
  split at hstep
  next patient h => exact ⟨patient, h⟩
  next => cases hstep

/-! ## Closing -/

/-- A user marks the link down, and goes on to wake the sleepers; nobody else is at work. -/
theorem marking_step {s t : State} {user : Nat} {session : Option Nat} {aim : Aim} (hs : Sound s)
    (huser : s.users user = .marking session aim) (hstep : step (.advance user) s = some t) :
    t.users user = .waking session aim ∧ t.readers = s.readers ∧ Shut s.sessions t := by
  simp only [step, advanceStep, huser] at hstep
  cases hstep
  refine ⟨by simp [State.setUser], rfl, rfl, fun v => ?_, rfl⟩
  by_cases hv : v = user
  · simp [State.setUser, hv, UserAt.isFresh]
  · simp [State.setUser, hv, hs.idle_of_ne (u := user) (by simp [huser]) hv, UserAt.isFresh]

/-- Unread bytes that came with a session are kept with its number. -/
theorem exists_tagged {s : State} (hs : Sound s) {k : Nat} (hk : k ∈ s.sources) :
    ∃ b, (b, k) ∈ s.tagged := by
  rw [← List.map_snd_zip hs.length_sources.le] at hk
  obtain ⟨⟨b, _⟩, hb, rfl⟩ := List.mem_map.1 hk
  exact ⟨b, hb⟩

/-- Whether a reader is released when it looks depends on whether a stream was attached since the
port was closed; `n` sessions there had been until then. -/
theorem released_iff_of_look {n : Nat} {again : Bool} {t u : State} {reader : Nat} (ht : Sound t)
    (hmeanwhile : again = false ∧ Shut n t ∨ again = true ∧ Renewed n t)
    (hu : step (.look reader) t = some u) :
    (u.readers reader).Released n ↔
      again = false ∨
        t.inbox.unread = [] ∧ (t.inbox.linkUp = false ∨ t.readers reader = .looking false) := by
  obtain ⟨patient, hlooking⟩ := looking_of_step hu
  obtain ⟨b, k, u', hu', hne, hk, hanswer⟩ | ⟨hempty, u', hu', hanswer⟩ := look_cases ht hlooking
  · -- a byte of the last session, which is the closed one unless there was another since
    obtain rfl : u' = u := Option.some.inj (hu'.symm.trans hu)
    have hreleased : (u'.readers reader).Released n ↔ k + 1 = n := by
      rw [hanswer]
      rfl
    rw [hreleased]
    obtain ⟨hno, hshut⟩ | ⟨hagain, hrenewed⟩ := hmeanwhile
    · exact iff_of_true ((ht.sources_last k hk).trans hshut.sessions_eq) (.inl hno)
    · obtain ⟨_, htagged⟩ := exists_tagged ht hk
      have hle : n ≤ k := hrenewed.le_of_mem _ htagged
      refine iff_of_false (by omega) ?_
      simp [hagain, hne]
  · obtain rfl : u' = u := Option.some.inj (hu'.symm.trans hu)
    rw [hanswer, hlooking]
    cases hup : t.inbox.linkUp with
    | false => simp [ReaderAt.Released, hempty]
    | true =>
        cases patient with
        | false => simp [ReaderAt.Released, hempty]
        | true =>
            -- the link is up, so a stream was attached
            obtain ⟨-, hshut⟩ | ⟨hagain, -⟩ := hmeanwhile
            · rw [hshut.linkUp_eq] at hup
              cases hup
            · simp [ReaderAt.Released, hagain]

/-- **What closing does to a reader that waits.**  Let a user be about to mark the link
down for closing, or because it got no thread for a loop, while a reader waits; let anything
happen, the reader not looking.  Then the reader is awake unless the user has yet to wake it.
And when it looks next, it is told of no byte or gets one that came with the session that is
closed, exactly if no stream was attached meanwhile, or if there is no byte and the link is down
again or the reader's time is over. -/
theorem released_iff {capacity : Nat} (hcapacity : 2 ≤ capacity) {before events : List Event}
    {s t : State} {user reader : Nat} {session : Option Nat}
    (hbefore : course happen before (.initial (.ofCapacity capacity hcapacity)) = some s)
    (huser : s.users user = .marking session .close) (hreader : (s.readers reader).Waits)
    (hlook : .move (.look reader) ∉ events)
    (hevents : course happen (.move (.advance user) :: events) s = some t) :
    (∀ k, session = some k → k + 1 = s.sessions) ∧
      (t.users user = .waking session .close ∨ ∃ u, step (.look reader) t = some u) ∧
      ∀ u, step (.look reader) t = some u →
        ((u.readers reader).Released s.sessions ↔
          reopens (.move (.advance user) :: events) s = false ∨
            t.inbox.unread = [] ∧
              (t.inbox.linkUp = false ∨ t.readers reader = .looking false)) := by
  have hs : Sound s :=
    (Sound.initial _ (Ring.toList_ofCapacity capacity hcapacity)).course hbefore
  have ht : Sound t := hs.course hevents
  obtain ⟨v, hmark, hrest⟩ := course_cons_eq_some.1 hevents
  have hv : Sound v := hs.happen hmark
  obtain ⟨hvuser, hvreaders, hvshut⟩ := marking_step hs huser hmark
  have hreopens : reopens (.move (.advance user) :: events) s = reopens events v := by
    simp [reopens, attaches, huser, hmark]
  have hmeanwhile := shut_or_renewed hv hvshut hrest
  refine ⟨fun k hk => hs.takesDown_last user k (by rw [huser]; exact hk), ?_, ?_⟩
  · have hawake := awake_course hv hlook hrest (.inl ⟨hvuser, by rw [hvreaders]; exact hreader⟩)
    obtain ⟨hwaking, -⟩ | ⟨patient, hlooking⟩ := hawake
    · exact .inl hwaking
    · right
      obtain ⟨-, -, u, hu, -⟩ | ⟨-, u, hu, -⟩ := look_cases ht hlooking
      · exact ⟨u, hu⟩
      · exact ⟨u, hu⟩
  · intro u hu
    rw [hreopens]
    exact released_iff_of_look ht hmeanwhile hu

/-! ## Two schedules -/

/-- A closed port over a ring of four places. -/
def closedPort : State := .initial (.ofCapacity 4 (by decide))

/-- A user opens the port, a reader goes to sleep, the loop is about to store a byte, and
the user is about to mark the link down for closing. -/
def parked : List Event :=
  [.beginOpen 0, .advance 0, .connect 0 true, .advance 0, .advance 0, .advance 0,
    .call 0, .look 0, .proceed 0, .read 0 (.data [7]), .beginClose 0, .advance 0].map .move

/-- The user wakes the reader, the loop stores its byte and finishes, the user is done. -/
def lateByte : List Event :=
  [.advance 0, .proceed 0, .proceed 0, .proceed 0, .proceed 0, .proceed 0, .advance 0].map .move

/-- The user is done with closing before the reader looks, the byte having been purged,
and opens the port again. -/
def reopening : List Event :=
  lateByte ++ [.purge, .beginOpen 0, .advance 0, .connect 0 true, .advance 0, .advance 0,
    .advance 0].map .move

/-- The loop of the second session stores a byte. -/
def laterByte : List Event := [.proceed 1, .read 1 (.data [8]), .proceed 1].map .move

/-- A reader that waited is told of the byte that the loop still stored. -/
theorem released_with_lateByte :
    ∃ s t u, course happen parked closedPort = some s ∧ s.users 0 = .marking (some 0) .close ∧
      s.readers 0 = .asleep ∧ course happen (.move (.advance 0) :: lateByte) s = some t ∧
      step (.look 0) t = some u ∧ u.readers 0 = .answered (some (7, 0)) ∧
      (u.readers 0).Released s.sessions := by
  have hparked : (course happen parked closedPort).map (fun s =>
      (s.users 0, s.readers 0, reopens (.move (.advance 0) :: lateByte) s)) =
        some (.marking (some 0) .close, .asleep, false) := by decide
  have hlate : (course happen (parked ++ .move (.advance 0) :: lateByte) closedPort).map (fun t =>
      (step (.look 0) t).map (·.readers 0)) = some (some (.answered (some (7, 0)))) := by decide
  obtain ⟨s, hs, hplaces⟩ := Option.map_eq_some_iff.1 hparked
  simp only [Prod.mk.injEq] at hplaces
  obtain ⟨huser, hreader, hreopens⟩ := hplaces
  obtain ⟨t, hall, hlook⟩ := Option.map_eq_some_iff.1 hlate
  obtain ⟨s', hs', ht⟩ := course_append_eq_some.1 hall
  obtain rfl : s = s' := Option.some.inj (hs.symm.trans hs')
  obtain ⟨u, hu, hanswer⟩ := Option.map_eq_some_iff.1 hlook
  have hreleased := (released_iff (by decide) hs huser (by rw [hreader]; trivial)
    (by decide) ht).2.2 u hu
  exact ⟨s, t, u, hs, huser, hreader, ht, hu, hanswer, hreleased.2 (.inl hreopens)⟩

/-- A reader that waited when the port was closed sleeps again once it looks, or is told of
a byte of the session after, if the port was opened again before. -/
theorem not_released_of_reopening :
    (course happen parked closedPort).map (fun s => (s.users 0, s.readers 0)) =
        some (.marking (some 0) .close, .asleep) ∧
      (course happen (parked ++ .move (.advance 0) :: reopening ++ [.move (.look 0)])
          closedPort).map (fun s => (s.users 0, s.readers 0)) = some (.idle, .asleep) ∧
      (course happen (parked ++ .move (.advance 0) :: reopening ++ laterByte ++ [.move (.look 0)])
          closedPort).map (fun s => (s.users 0, s.readers 0)) =
        some (.idle, .answered (some (8, 1))) := by
  refine ⟨?_, ?_, ?_⟩ <;> decide

end DongleLink.Interleaving

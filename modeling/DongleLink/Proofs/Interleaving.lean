import DongleLink.Port.Interleaving.Event
import DongleLink.Proofs.BoundedQueue

/-!
# DongleLink.Proofs.Interleaving

What hangs together while users, readers and loops of a port move in any order.
`Sound` says it: only the user with the session lock is at work; a loop that has not
finished belongs to the last session, which is attached or being taken down; and
every unread byte came with the last session.

A move changes a few parts of the state at a time.  There is one lemma for each such
change (a loop that goes on, a user that goes on, a lock that is given back, bytes that
come and go), and `Sound.step` puts the moves together from them.
-/

namespace DongleLink.Interleaving

/-! ## Places -/

namespace LoopAt

/-- The loop has started and has not finished. -/
def isLive : LoopAt → Bool
  | unborn | finished => false
  | checking | reading | storing _ | announcing | leaving | parting => true

end LoopAt

namespace UserAt

/-- The session that the user takes down. -/
def takesDown : UserAt → Option Nat
  | stopping session _ | marking session _ | waking session _ => session
  | joining session _ => some session
  | idle | opening | connecting | attaching | wanting | starting _ => none

/-- The user has cleared the ring for a stream whose loop has not started. -/
def isFresh : UserAt → Bool
  | wanting | starting _ => true
  | _ => false

end UserAt

namespace State

@[simp] theorem users_wakeAll (s : State) : s.wakeAll.users = s.users := rfl

@[simp] theorem loops_wakeAll (s : State) : s.wakeAll.loops = s.loops := rfl

@[simp] theorem readers_wakeAll (s : State) (reader : Nat) :
    s.wakeAll.readers reader = wakeReader (s.readers reader) := rfl

end State

/-! ## What hangs together -/

/- The lock says which user is at work, and where that user is decides what can be said of the
rest.  The fields are about all users and loops; each holds because at most one user is busy and at
most one loop is live. -/

/-- What holds of every state that can be reached. -/
structure Sound (s : State) : Prop where
  lock_of_busy : ∀ u, s.users u ≠ .idle → s.lock = some u
  /-- the session is taken out of its place before anything is done to it -/
  attached_of_busy : ∀ u, s.users u ≠ .idle → s.users u ≠ .opening → s.attached = none
  attached_last : ∀ k, s.attached = some k → k + 1 = s.sessions
  takesDown_last : ∀ u k, (s.users u).takesDown = some k → k + 1 = s.sessions
  live : ∀ k, (s.loops k).isLive = true →
    s.attached = some k ∨ ∃ u, (s.users u).takesDown = some k
  unborn : ∀ k, s.sessions ≤ k → s.loops k = .unborn
  starting_next : ∀ u n, s.users u = .starting n → n = s.sessions
  sources_last : ∀ k ∈ s.sources, k + 1 = s.sessions
  sources_fresh : ∀ u, (s.users u).isFresh = true → s.sources = []
  length_sources : s.sources.length = s.inbox.unread.length

namespace Sound

variable {s : State}

/-- One user at a time is at work. -/
theorem idle_of_ne (h : Sound s) {u v : Nat} (hu : s.users u ≠ .idle) (hne : v ≠ u) :
    s.users v = .idle := by
  by_contra hv
  have h1 := h.lock_of_busy u hu
  have h2 := h.lock_of_busy v hv
  rw [h1] at h2
  exact hne (Option.some.inj h2).symm

theorem idle_of_unlocked (h : Sound s) (hlock : s.lock = none) (u : Nat) : s.users u = .idle := by
  by_contra hu
  have := h.lock_of_busy u hu
  rw [hlock] at this
  cases this

/-- Only the last session has a loop that has not finished. -/
theorem live_last (h : Sound s) {k : Nat} (hk : (s.loops k).isLive = true) :
    k + 1 = s.sessions := by
  obtain ha | ⟨u, hu⟩ := h.live k hk
  · exact h.attached_last k ha
  · exact h.takesDown_last u k hu

/-- A session that is taken down is taken down by the user at work. -/
theorem takesDown_of_live (h : Sound s) {u k : Nat} (hu : s.users u ≠ .idle)
    (hopening : s.users u ≠ .opening) (hk : (s.loops k).isLive = true) :
    (s.users u).takesDown = some k := by
  obtain ha | ⟨v, hv⟩ := h.live k hk
  · rw [h.attached_of_busy u hu hopening] at ha
    cases ha
  · by_cases hvu : v = u
    · rwa [hvu] at hv
    · rw [h.idle_of_ne hu hvu] at hv
      cases hv

/-- No loop is there while a user attaches a stream. -/
theorem not_live_of_fresh (h : Sound s) {u : Nat} (hu : (s.users u).isFresh = true) (k : Nat) :
    (s.loops k).isLive = false := by
  by_contra hk
  have hlive : (s.loops k).isLive = true := by simpa using hk
  cases hp : s.users u with
  | wanting =>
      have := h.takesDown_of_live (u := u) (by simp [hp]) (by simp [hp]) hlive
      simp [hp, UserAt.takesDown] at this
  | starting n =>
      have := h.takesDown_of_live (u := u) (by simp [hp]) (by simp [hp]) hlive
      simp [hp, UserAt.takesDown] at this
  | _ => simp [hp, UserAt.isFresh] at hu

/-! ## Changes -/

/-- Readers, the link and the wish for a loop do not matter. -/
theorem of_eq {t : State} (h : Sound s) (husers : t.users = s.users) (hloops : t.loops = s.loops)
    (hlock : t.lock = s.lock) (hsessions : t.sessions = s.sessions)
    (hattached : t.attached = s.attached) (hsources : t.sources = s.sources)
    (hunread : t.inbox.unread = s.inbox.unread) : Sound t := by
  obtain ⟨h1, h2, h3, h4, h5, h6, h7, h8, h9, h10⟩ := h
  constructor
  · rwa [husers, hlock]
  · rwa [husers, hattached]
  · rwa [hattached, hsessions]
  · rwa [husers, hsessions]
  · rwa [hloops, hattached, husers]
  · rwa [hloops, hsessions]
  · rwa [husers, hsessions]
  · rwa [hsources, hsessions]
  · rwa [husers, hsources]
  · rwa [hsources, hunread]

/-- A loop goes on. -/
theorem setLoop (h : Sound s) {loop : Nat} (hlive : (s.loops loop).isLive = true)
    (place : LoopAt) : Sound (s.setLoop loop place) := by
  refine { h with live := ?_, unborn := ?_ }
  · intro k hk
    by_cases hkl : k = loop
    · rw [hkl]
      exact h.live loop hlive
    · simp only [State.setLoop, if_neg hkl] at hk
      exact h.live k hk
  · intro k hk
    have hne : k ≠ loop := by
      have := h.live_last hlive
      simp only [State.setLoop] at hk
      omega
    simp only [State.setLoop, if_neg hne]
    exact h.unborn k hk

/-- Bytes come and go; those that come are a live loop's. -/
theorem setBytes (h : Sound s) (inbox : Inbox) (sources : List Nat)
    (hlen : sources.length = inbox.unread.length)
    (hfrom : ∀ k ∈ sources, k ∈ s.sources ∨ (s.loops k).isLive = true) :
    Sound { s with inbox := inbox, sources := sources } := by
  refine { h with sources_last := ?_, sources_fresh := ?_, length_sources := hlen }
  · intro k hk
    obtain hold | hlive := hfrom k hk
    · exact h.sources_last k hold
    · exact h.live_last hlive
  · intro u hu
    apply List.eq_nil_iff_forall_not_mem.2
    intro k hk
    obtain hold | hlive := hfrom k hk
    · rw [h.sources_fresh u hu] at hold
      cases hold
    · rw [h.not_live_of_fresh hu k] at hlive
      cases hlive

theorem idle_of_lock (h : Sound s) {u v : Nat} (hlock : s.lock = some u) (hne : v ≠ u) :
    s.users v = .idle := by
  by_contra hv
  have := h.lock_of_busy v hv
  rw [hlock] at this
  exact hne (Option.some.inj this).symm

/-- The user with the lock goes on.  What it takes down it keeps taking down until the
loop of that session has finished. -/
theorem setUser (h : Sound s) {u : Nat} (hlock : s.lock = some u) (place : UserAt)
    (hpast : place ≠ .idle → place ≠ .opening → s.attached = none)
    (hkeep : ∀ k, (s.users u).takesDown = some k → (s.loops k).isLive = true →
      place.takesDown = some k)
    (hlast : ∀ k, place.takesDown = some k → k + 1 = s.sessions)
    (hnext : ∀ n, place = .starting n → n = s.sessions)
    (hfresh : place.isFresh = true → s.sources = []) :
    Sound (s.setUser u place) := by
  have hsame : (s.setUser u place).users u = place := by simp [State.setUser]
  have hother : ∀ v, v ≠ u → (s.setUser u place).users v = s.users v := by
    intro v hv
    simp [State.setUser, hv]
  refine { h with lock_of_busy := ?_, attached_of_busy := ?_, takesDown_last := ?_
                  live := ?_, starting_next := ?_, sources_fresh := ?_ }
  · intro v hv
    by_cases hvu : v = u
    · rw [hvu]
      exact hlock
    · rw [hother v hvu] at hv
      exact h.lock_of_busy v hv
  · intro v hv hopening
    by_cases hvu : v = u
    · rw [hvu, hsame] at hv hopening
      exact hpast hv hopening
    · rw [hother v hvu] at hv hopening
      exact h.attached_of_busy v hv hopening
  · intro v k hv
    by_cases hvu : v = u
    · rw [hvu, hsame] at hv
      exact hlast k hv
    · rw [hother v hvu] at hv
      exact h.takesDown_last v k hv
  · intro k hk
    obtain ha | ⟨v, hv⟩ := h.live k hk
    · exact .inl ha
    · by_cases hvu : v = u
      · rw [hvu] at hv
        exact .inr ⟨u, by rw [hsame]; exact hkeep k hv hk⟩
      · exact .inr ⟨v, by rw [hother v hvu]; exact hv⟩
  · intro v n hv
    by_cases hvu : v = u
    · rw [hvu, hsame] at hv
      exact hnext n hv
    · rw [hother v hvu] at hv
      exact h.starting_next v n hv
  · intro v hv
    by_cases hvu : v = u
    · rw [hvu, hsame] at hv
      exact hfresh hv
    · rw [hother v hvu] at hv
      exact h.sources_fresh v hv

/-- While nobody is at work the lock can be taken or given back. -/
theorem setLock (h : Sound s) (hidle : ∀ u, s.users u = .idle) (lock : Option Nat) :
    Sound { s with lock := lock } := by
  refine { h with lock_of_busy := ?_ }
  intro u hu
  exact absurd (hidle u) hu

/-- A user gives the lock back, with nothing left to take down. -/
theorem release (h : Sound s) {u : Nat} (hlock : s.lock = some u)
    (hdone : ∀ k, (s.users u).takesDown = some k → (s.loops k).isLive = false) :
    Sound (s.release u) := by
  have hidle : Sound (s.setUser u .idle) := by
    refine h.setUser hlock .idle (fun hne => absurd rfl hne) ?_ ?_ ?_ ?_
    · intro k hk hlive
      rw [hdone k hk] at hlive
      cases hlive
    · intro k hk
      cases hk
    · intro n hn
      cases hn
    · intro hf
      cases hf
  apply hidle.setLock
  intro v
  by_cases hvu : v = u
  · simp [State.setUser, hvu]
  · simp only [State.setUser, if_neg hvu]
    exact h.idle_of_lock hlock hvu

/-- The user with the lock takes the session out of its place, to take it down. -/
theorem detach (h : Sound s) {u : Nat} (hlock : s.lock = some u)
    (htakes : (s.users u).takesDown = none) (aim : Aim) :
    Sound ({ s with attached := none }.setUser u (.stopping s.attached aim)) := by
  have hsame : ({ s with attached := none }.setUser u (.stopping s.attached aim)).users u =
      .stopping s.attached aim := by simp [State.setUser]
  have hother : ∀ v, v ≠ u →
      ({ s with attached := none }.setUser u (.stopping s.attached aim)).users v = .idle := by
    intro v hv
    simp only [State.setUser, if_neg hv]
    exact h.idle_of_lock hlock hv
  constructor
  · intro v hv
    by_cases hvu : v = u
    · rw [hvu]
      exact hlock
    · exact absurd (hother v hvu) hv
  · intro v _ _
    rfl
  · intro k hk
    cases hk
  · intro v k hv
    by_cases hvu : v = u
    · rw [hvu, hsame] at hv
      exact h.attached_last k hv
    · rw [hother v hvu] at hv
      cases hv
  · intro k hk
    obtain ha | ⟨v, hv⟩ := h.live k hk
    · exact .inr ⟨u, by rw [hsame]; exact ha⟩
    · by_cases hvu : v = u
      · rw [hvu, htakes] at hv
        cases hv
      · rw [h.idle_of_lock hlock hvu] at hv
        cases hv
  · exact h.unborn
  · intro v n hv
    by_cases hvu : v = u
    · rw [hvu, hsame] at hv
      cases hv
    · rw [hother v hvu] at hv
      cases hv
  · exact h.sources_last
  · intro v hv
    by_cases hvu : v = u
    · rw [hvu, hsame] at hv
      cases hv
    · rw [hother v hvu] at hv
      cases hv
  · exact h.length_sources

/-- A user starts the loop of a new session and gives the lock back. -/
theorem start (h : Sound s) {u session : Nat} (hu : s.users u = .starting session) :
    Sound ({ s.setLoop session .checking with
      sessions := session + 1
      attached := some session }.release u) := by
  have hnext := h.starting_next u session hu
  have hlock : s.lock = some u := h.lock_of_busy u (by simp [hu])
  have hempty := h.sources_fresh u (by simp [hu, UserAt.isFresh])
  have hnone := h.not_live_of_fresh (u := u) (by simp [hu, UserAt.isFresh])
  have hidle : ∀ v, (State.release { s.setLoop session .checking with
      sessions := session + 1
      attached := some session } u).users v = .idle := by
    intro v
    by_cases hvu : v = u
    · simp [State.release, State.setUser, hvu]
    · simp only [State.release, State.setUser, State.setLoop, if_neg hvu]
      exact h.idle_of_lock hlock hvu
  constructor
  · intro v hv
    exact absurd (hidle v) hv
  · intro v hv
    exact absurd (hidle v) hv
  · intro k hk
    cases hk
    rfl
  · intro v k hv
    rw [hidle v] at hv
    cases hv
  · intro k hk
    by_cases hks : k = session
    · exact .inl (by rw [hks]; rfl)
    · simp only [State.release, State.setUser, State.setLoop, if_neg hks] at hk
      rw [hnone k] at hk
      cases hk
  · intro k hk
    simp only [State.release, State.setUser, State.setLoop] at hk ⊢
    rw [if_neg (by omega)]
    exact h.unborn k (by omega)
  · intro v n hv
    rw [hidle v] at hv
    cases hv
  · intro k hk
    simp only [State.release, State.setUser, State.setLoop, hempty] at hk
    cases hk
  · intro v hv
    rw [hidle v] at hv
    cases hv
  · exact h.length_sources

/-! ## Moves -/

/-- A closed port that nobody uses. -/
theorem initial (ring : Ring) (hempty : ring.toList = []) : Sound (.initial ring) := by
  constructor
  · intro u hu
    exact absurd rfl hu
  · intro u hu
    exact absurd rfl hu
  · intro k hk
    cases hk
  · intro u k hk
    cases hk
  · intro k hk
    cases hk
  · intro k _
    rfl
  · intro u n hu
    cases hu
  · intro k hk
    cases hk
  · intro u _
    rfl
  · simp [State.initial, Inbox.unread, hempty]

/-- A reader looks. -/
theorem look {t : State} (h : Sound s) {reader : Nat} (hstep : lookStep reader s = some t) :
    Sound t := by
  rw [lookStep] at hstep
  split at hstep
  next patient _ =>
    split at hstep
    next b inbox hlook =>
      cases hstep
      have hunread := congrArg List.length (Inbox.unread_of_look hlook)
      have hlen := h.length_sources
      have hbytes := h.setBytes inbox s.sources.tail
        (by simp only [List.length_tail, List.length_cons] at hunread ⊢; omega)
        (fun k hk => .inl (List.mem_of_mem_tail hk))
      exact hbytes.of_eq rfl rfl rfl rfl rfl rfl rfl
    next =>
      cases hstep
      exact h.of_eq rfl rfl rfl rfl rfl rfl rfl
    next =>
      cases hstep
      exact h.of_eq rfl rfl rfl rfl rfl rfl rfl
  · cases hstep

/-- The sources of stored bytes are as many as the bytes that are unread then. -/
theorem length_storedSources (h : Sound s) (loop : Nat) (bytes : List UInt8) :
    (storedSources s loop bytes.length).length = (s.inbox.ingest bytes).2.unread.length := by
  have hlen := h.length_sources
  simp only [storedSources, Inbox.ingest, Inbox.unread, Ring.toList_pushAll, List.length_drop,
    List.length_append, List.length_replicate, Ring.length_toList] at hlen ⊢
  rw [hlen]

/-- A loop goes on with what it has begun. -/
theorem proceed {t : State} (h : Sound s) {loop : Nat} (hstep : proceedStep loop s = some t) :
    Sound t := by
  rw [proceedStep] at hstep
  split at hstep
  next hl =>
    cases hstep
    exact h.setLoop (by simp [hl, LoopAt.isLive]) _
  next bytes hl =>
    cases hstep
    have hlive : (s.loops loop).isLive = true := by simp [hl, LoopAt.isLive]
    have hbytes := h.setBytes (s.inbox.ingest bytes).2 (storedSources s loop bytes.length)
      (h.length_storedSources loop bytes) (by
        intro k hk
        obtain hold | hnew := List.mem_append.1 (List.mem_of_mem_drop hk)
        · exact .inl hold
        · exact .inr (by rw [(List.mem_replicate.1 hnew).2]; exact hlive))
    exact hbytes.setLoop hlive _
  next hl =>
    cases hstep
    have hwoken : Sound s.wakeAll := h.of_eq rfl rfl rfl rfl rfl rfl rfl
    exact hwoken.setLoop (by simp [hl, LoopAt.isLive]) _
  next hl =>
    cases hstep
    have hdown : Sound { s with inbox := s.inbox.linkDown } := h.of_eq rfl rfl rfl rfl rfl rfl rfl
    exact hdown.setLoop (by simp [hl, LoopAt.isLive]) _
  next hl =>
    cases hstep
    have hwoken : Sound s.wakeAll := h.of_eq rfl rfl rfl rfl rfl rfl rfl
    exact hwoken.setLoop (by simp [hl, LoopAt.isLive]) _
  all_goals cases hstep

/-- A user that took the link down closes, or goes on to connect. -/
theorem afterTeardown (h : Sound s) {u : Nat} (hlock : s.lock = some u)
    (hattached : s.attached = none)
    (hdone : ∀ k, (s.users u).takesDown = some k → (s.loops k).isLive = false) (aim : Aim) :
    Sound (afterTeardown u aim s) := by
  cases aim with
  | close => exact h.release hlock hdone
  | reopen =>
      refine h.setUser hlock .connecting (fun _ _ => hattached) ?_ ?_ ?_ ?_
      · intro k hk hlive
        rw [hdone k hk] at hlive
        cases hlive
      · intro k hk
        cases hk
      · intro n hn
        cases hn
      · intro hf
        cases hf

/-- A user goes on with the same session to take down, or with none as before. -/
theorem goOn (h : Sound s) {u : Nat} (hlock : s.lock = some u) {place : UserAt}
    (hattached : s.attached = none) (hsame : place.takesDown = (s.users u).takesDown)
    (hnext : ∀ n, place = .starting n → n = s.sessions)
    (hfresh : place.isFresh = true → s.sources = []) : Sound (s.setUser u place) :=
  h.setUser hlock place (fun _ _ => hattached) (fun _ hk _ => hsame.trans hk)
    (fun k hk => h.takesDown_last u k (hsame.symm.trans hk)) hnext hfresh

/-- A user goes on with what it has begun. -/
theorem advance {t : State} (h : Sound s) {u : Nat} (hstep : advanceStep u s = some t) :
    Sound t := by
  have hlock : s.users u ≠ .idle → s.lock = some u := h.lock_of_busy u
  have hnone : s.users u ≠ .idle → s.users u ≠ .opening → s.attached = none :=
    h.attached_of_busy u
  rw [advanceStep] at hstep
  split at hstep
  next hu =>
    rw [hu] at hlock
    split at hstep
    next hattached =>
      cases hstep
      exact h.goOn (hlock (by simp)) hattached (by simp [hu, UserAt.takesDown]) (by simp)
        (by simp [UserAt.isFresh])
    next session hattached =>
      split at hstep
      · cases hstep
        exact h.release (hlock (by simp)) (by simp [hu, UserAt.takesDown])
      · cases hstep
        have hdetached := h.detach (hlock (by simp)) (by simp [hu, UserAt.takesDown]) .reopen
        rwa [hattached] at hdetached
  next session aim hu =>
    cases hstep
    rw [hu] at hlock hnone
    have hstopped : Sound { s with running := false } := h.of_eq rfl rfl rfl rfl rfl rfl rfl
    exact hstopped.goOn (hlock (by simp)) (hnone (by simp) (by simp))
      (by simp [hu, UserAt.takesDown]) (by simp) (by simp [UserAt.isFresh])
  next session aim hu =>
    cases hstep
    rw [hu] at hlock hnone
    have hdown : Sound { s with inbox := s.inbox.linkDown } := h.of_eq rfl rfl rfl rfl rfl rfl rfl
    exact hdown.goOn (hlock (by simp)) (hnone (by simp) (by simp))
      (by simp [hu, UserAt.takesDown]) (by simp) (by simp [UserAt.isFresh])
  next aim hu =>
    cases hstep
    rw [hu] at hlock hnone
    have hwoken : Sound s.wakeAll := h.of_eq rfl rfl rfl rfl rfl rfl rfl
    exact hwoken.afterTeardown (hlock (by simp)) (hnone (by simp) (by simp))
      (by simp [hu, UserAt.takesDown]) aim
  next session aim hu =>
    cases hstep
    rw [hu] at hlock hnone
    have hwoken : Sound s.wakeAll := h.of_eq rfl rfl rfl rfl rfl rfl rfl
    exact hwoken.goOn (hlock (by simp)) (hnone (by simp) (by simp))
      (by simp [hu, UserAt.takesDown]) (by simp) (by simp [UserAt.isFresh])
  next session aim hu =>
    rw [hu] at hlock hnone
    split at hstep
    next hfinished =>
      cases hstep
      refine h.afterTeardown (hlock (by simp)) (hnone (by simp) (by simp)) ?_ aim
      intro k hk
      simp only [hu, UserAt.takesDown, Option.some.injEq] at hk
      rw [← hk, hfinished]
      rfl
    next => cases hstep
  next hu =>
    cases hstep
    rw [hu] at hlock hnone
    have hbytes := h.setBytes s.inbox.attach [] (by simp) (by simp)
    exact hbytes.goOn (hlock (by simp)) (hnone (by simp) (by simp))
      (by simp [hu, UserAt.takesDown]) (by simp) (fun _ => rfl)
  next hu =>
    cases hstep
    rw [hu] at hlock hnone
    have hwanted : Sound { s with running := true } := h.of_eq rfl rfl rfl rfl rfl rfl rfl
    exact hwanted.goOn (hlock (by simp)) (hnone (by simp) (by simp))
      (by simp [hu, UserAt.takesDown]) (by simp)
      (fun _ => h.sources_fresh u (by simp [hu, UserAt.isFresh]))
  next session hu =>
    cases hstep
    exact h.start hu
  all_goals cases hstep

/-- A user takes the lock. -/
theorem begin {t : State} (h : Sound s) {u : Nat} {place : UserAt}
    (hstep : beginStep u place s = some t) :
    Sound { s with lock := some u } ∧ t = { s with lock := some u }.setUser u place ∧
      s.users u = .idle := by
  rw [beginStep] at hstep
  split at hstep
  next hfree =>
    cases hstep
    exact ⟨h.setLock (h.idle_of_unlocked hfree.2) (some u), rfl, hfree.1⟩
  next => cases hstep

/-- **Every move keeps what hangs together.** -/
theorem step {m : Move} {t : State} (h : Sound s) (hstep : step m s = some t) : Sound t := by
  cases m with
  | call reader =>
      simp only [Interleaving.step] at hstep
      split at hstep
      · cases hstep
        exact h.of_eq rfl rfl rfl rfl rfl rfl rfl
      · cases hstep
        exact h.of_eq rfl rfl rfl rfl rfl rfl rfl
      · cases hstep
  | look reader => exact h.look hstep
  | expire reader =>
      simp only [Interleaving.step] at hstep
      split at hstep
      · cases hstep
        exact h.of_eq rfl rfl rfl rfl rfl rfl rfl
      · cases hstep
        exact h.of_eq rfl rfl rfl rfl rfl rfl rfl
      · cases hstep
  | read loop r =>
      simp only [Interleaving.step] at hstep
      split at hstep
      next hl =>
        cases hstep
        exact h.setLoop (by simp [hl, LoopAt.isLive]) _
      next => cases hstep
  | proceed loop => exact h.proceed hstep
  | beginOpen user =>
      obtain ⟨hlocked, rfl, hidle⟩ := h.begin hstep
      exact hlocked.setUser rfl .opening (fun _ hne => absurd rfl hne)
        (by simp [hidle, UserAt.takesDown]) (by simp [UserAt.takesDown]) (by simp)
        (by simp [UserAt.isFresh])
  | beginClose user =>
      simp only [Interleaving.step, Option.map_eq_some_iff] at hstep
      obtain ⟨_, hbegin, rfl⟩ := hstep
      obtain ⟨hlocked, rfl, hidle⟩ := h.begin hbegin
      exact hlocked.detach rfl (by simp [hidle, UserAt.takesDown]) .close
  | advance user => exact h.advance hstep
  | connect user works =>
      simp only [Interleaving.step] at hstep
      split at hstep
      next hu =>
        have hlock := h.lock_of_busy user (by simp [hu])
        have hnone := h.attached_of_busy user (by simp [hu]) (by simp [hu])
        cases works with
        | true =>
            cases hstep
            exact h.goOn hlock hnone (by simp [hu, UserAt.takesDown]) (by simp)
              (by simp [UserAt.isFresh])
        | false =>
            cases hstep
            exact h.release hlock (by simp [hu, UserAt.takesDown])
      next => cases hstep
  | purge =>
      cases hstep
      exact h.setBytes s.inbox.purge [] (by simp) (by simp)

/-! ## Events -/

/-- Every event keeps what hangs together. -/
theorem happen {e : Event} {t : State} (h : Sound s) (hevent : happen e s = some t) : Sound t := by
  cases e with
  | move m => exact h.step hevent
  | threadless user =>
      simp only [Interleaving.happen] at hevent
      split at hevent
      next session hu =>
        cases hevent
        exact h.goOn (h.lock_of_busy user (by simp [hu]))
          (h.attached_of_busy user (by simp [hu]) (by simp [hu]))
          (by simp [hu, UserAt.takesDown]) (by simp) (by simp [UserAt.isFresh])
      next => cases hevent
  | dies loop =>
      simp only [Interleaving.happen] at hevent
      split at hevent
      next hl =>
        cases hevent
        exact h.setLoop (by simp [hl, LoopAt.isLive]) _
      next hl =>
        cases hevent
        exact h.setLoop (by simp [hl, LoopAt.isLive]) _
      next => cases hevent
  | stirs reader =>
      simp only [Interleaving.happen] at hevent
      split at hevent
      next =>
        cases hevent
        exact h.of_eq rfl rfl rfl rfl rfl rfl rfl
      next => cases hevent

/-- Every course of events keeps what hangs together. -/
theorem course {events : List Event} {t : State} (h : Sound s)
    (hevents : course Interleaving.happen events s = some t) : Sound t :=
  course_keeps (fun _ _ _ hs hevent => hs.happen hevent) h hevents

end Sound

end DongleLink.Interleaving

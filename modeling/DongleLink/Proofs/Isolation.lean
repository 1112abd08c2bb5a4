import DongleLink.Proofs.Interleaving

/-!
# DongleLink.Proofs.Isolation

Sessions do not reach into each other.  A user that attaches a stream has waited for the
loop of the session before, so from then on no older loop makes a move, and whatever is
read after the ring was cleared was stored by the loop of that session or of a later one.

`traffic_of_happen` says what an event does to the loops and to the bytes; a course of events
is the sum of its events.  Bytes are kept with their origin: what readers are given, and what
is left in the ring, is in order some of what the loops have stored, and each byte goes with
the number of the loop that stored it.
-/

namespace DongleLink.Interleaving

/-! ## Bytes with their origin -/

/-- The unread bytes, each with the number of the session it came with, oldest first. -/
def State.tagged (s : State) : List (UInt8 × Nat) := s.inbox.unread.zip s.sources

/-- A reader takes the oldest byte, with its number. -/
theorem tagged_of_look {s : State} {b : UInt8} {inbox : Inbox} (hs : Sound s)
    (hlook : s.inbox.look = (.byte b, inbox)) :
    s.tagged = (b, s.sources.headD 0) :: inbox.unread.zip s.sources.tail := by
  have hunread := Inbox.unread_of_look hlook
  have hlen := hs.length_sources
  rw [hunread, List.length_cons] at hlen
  rw [State.tagged, hunread]
  cases hsources : s.sources with
  | nil => simp [hsources] at hlen
  | cons k rest => rfl

/-- The bytes that a loop stores are appended with its number, and as many as do not fit are
dropped at the old end. -/
theorem tagged_of_ingest {s : State} (hs : Sound s) (loop : Nat) (bytes : List UInt8) :
    (s.inbox.ingest bytes).2.unread.zip (storedSources s loop bytes.length) =
      (s.tagged ++ bytes.map (·, loop)).drop
        (s.sources.length + bytes.length - s.inbox.ring.usable) := by
  have hnew : bytes.zip (List.replicate bytes.length loop) = bytes.map (·, loop) := by
    rw [← List.map_const', List.map_prod_left_eq_zip]
  have hlen : s.inbox.unread.length = s.sources.length := hs.length_sources.symm
  have hunread : (s.inbox.ingest bytes).2.unread = (s.inbox.unread ++ bytes).drop
      (s.sources.length + bytes.length - s.inbox.ring.usable) := by
    have hcount : s.sources.length = s.inbox.ring.length := by
      rw [hs.length_sources, Inbox.unread, Ring.length_toList]
    rw [hcount]
    exact Ring.toList_pushAll s.inbox.ring bytes
  rw [hunread, storedSources, List.zip, ← List.drop_zipWith, State.tagged, ← hnew]
  exact congrArg _ (List.zip_append hlen)

/-! ## What an event does to loops and bytes -/

/- Order is what matters here.  So the bytes are compared as lists: what an event takes out, and
behind it what it leaves, is a part of what there was, and behind it what it stores. -/

/-- Loops that have finished stay so, a loop is started only as the next one, and bytes leave
the ring in the order in which they came. -/
structure Traffic (e : Event) (s t : State) : Prop where
  sessions_le : s.sessions ≤ t.sessions
  loops : ∀ k, t.loops k = s.loops k ∨ (s.loops k).isLive = true ∨ k = s.sessions
  bytes : (poppedBy e s ++ t.tagged).Sublist (s.tagged ++ storedBy e s)

/-- An event that is nothing to loops and bytes, but for bytes that are forgotten. -/
theorem Traffic.of_eq {e : Event} {s t : State} (hpopped : poppedBy e s = [])
    (hsessions : t.sessions = s.sessions) (hloops : t.loops = s.loops)
    (hbytes : t.tagged = s.tagged ∨ t.tagged = []) : Traffic e s t := by
  refine ⟨hsessions.ge, fun k => .inl (congrFun hloops k), ?_⟩
  obtain h | h := hbytes
  · rw [hpopped, h]
    exact List.sublist_append_left _ _
  · rw [hpopped, h]
    exact List.nil_sublist _

/-- A live loop goes on. -/
theorem Traffic.of_loop {e : Event} {s t : State} {loop : Nat} {place : LoopAt}
    (hlive : (s.loops loop).isLive = true) (hsessions : t.sessions = s.sessions)
    (hloops : t.loops = (s.setLoop loop place).loops)
    (hbytes : (poppedBy e s ++ t.tagged).Sublist (s.tagged ++ storedBy e s)) :
    Traffic e s t := by
  refine ⟨hsessions.ge, ?_, hbytes⟩
  intro k
  by_cases hk : k = loop
  · exact .inr (.inl (by rw [hk]; exact hlive))
  · left
    rw [hloops]
    simp only [State.setLoop, if_neg hk]

theorem traffic_of_lookStep {s t : State} {reader : Nat} (hs : Sound s)
    (hstep : lookStep reader s = some t) : Traffic (.move (.look reader)) s t := by
  have hgiven : poppedBy (.move (.look reader)) s = (t.readers reader).given := by
    simp only [poppedBy, hstep, Option.elim_some]
  rw [lookStep] at hstep
  split at hstep
  next patient hreader =>
    split at hstep
    next b inbox hlook =>
      cases hstep
      simp only [State.setReader, if_true] at hgiven
      refine ⟨Nat.le_refl _, fun k => .inl rfl, ?_⟩
      rw [hgiven, tagged_of_look hs hlook]
      exact List.sublist_append_left _ _
    next =>
      cases hstep
      simp only [State.setReader, if_true] at hgiven
      exact .of_eq hgiven rfl rfl (.inl rfl)
    next =>
      cases hstep
      simp only [State.setReader, if_true] at hgiven
      refine .of_eq ?_ rfl rfl (.inl rfl)
      cases patient <;> exact hgiven
  · cases hstep

theorem traffic_of_proceedStep {s t : State} {loop : Nat} (hs : Sound s)
    (hstep : proceedStep loop s = some t) : Traffic (.move (.proceed loop)) s t := by
  have hkept : s.tagged.Sublist (s.tagged ++ storedBy (.move (.proceed loop)) s) :=
    List.sublist_append_left _ _
  rw [proceedStep] at hstep
  split at hstep
  next hl =>
    cases hstep
    exact .of_loop (by simp [hl, LoopAt.isLive]) rfl rfl hkept
  next bytes hl =>
    cases hstep
    have hstored : storedBy (.move (.proceed loop)) s = bytes.map (·, loop) := by
      simp only [storedBy, hl]
    refine .of_loop (by simp [hl, LoopAt.isLive]) rfl rfl ?_
    have hkept := List.drop_sublist (s.sources.length + bytes.length - s.inbox.ring.usable)
      (s.tagged ++ bytes.map (·, loop))
    rw [← tagged_of_ingest hs loop bytes] at hkept
    rw [hstored]
    exact hkept
  next hl =>
    cases hstep
    exact .of_loop (by simp [hl, LoopAt.isLive]) rfl rfl hkept
  next hl =>
    cases hstep
    exact .of_loop (by simp [hl, LoopAt.isLive]) rfl rfl hkept
  next hl =>
    cases hstep
    exact .of_loop (by simp [hl, LoopAt.isLive]) rfl rfl hkept
  all_goals cases hstep

theorem traffic_of_advanceStep {s t : State} {user : Nat} (hs : Sound s)
    (hstep : advanceStep user s = some t) : Traffic (.move (.advance user)) s t := by
  have hkept : ∀ {t : State}, t.sessions = s.sessions → t.loops = s.loops →
      t.tagged = s.tagged ∨ t.tagged = [] → Traffic (.move (.advance user)) s t := .of_eq rfl
  rw [advanceStep] at hstep
  split at hstep
  next hu =>
    split at hstep
    · cases hstep
      exact hkept rfl rfl (.inl rfl)
    · split at hstep
      all_goals
        cases hstep
        exact hkept rfl rfl (.inl rfl)
  next =>
    cases hstep
    exact hkept rfl rfl (.inl rfl)
  next =>
    cases hstep
    exact hkept rfl rfl (.inl rfl)
  next aim _ =>
    cases hstep
    cases aim <;> exact hkept rfl rfl (.inl rfl)
  next =>
    cases hstep
    exact hkept rfl rfl (.inl rfl)
  next aim _ =>
    split at hstep
    · cases hstep
      cases aim <;> exact hkept rfl rfl (.inl rfl)
    · cases hstep
  next =>
    cases hstep
    exact hkept rfl rfl (.inr (by simp [State.tagged, State.setUser]))
  next =>
    cases hstep
    exact hkept rfl rfl (.inl rfl)
  next session hu =>
    cases hstep
    have hnext := hs.starting_next user session hu
    refine ⟨by simp [State.release, State.setUser, hnext], ?_, List.sublist_append_left _ _⟩
    intro k
    by_cases hk : k = session
    · exact .inr (.inr (hk.trans hnext))
    · left
      simp only [State.release, State.setUser, State.setLoop, if_neg hk]
  all_goals cases hstep

theorem traffic_of_step {s t : State} {m : Move} (hs : Sound s) (hstep : step m s = some t) :
    Traffic (.move m) s t := by
  cases m with
  | call reader =>
      simp only [step] at hstep
      split at hstep
      all_goals cases hstep
      all_goals exact .of_eq rfl rfl rfl (.inl rfl)
  | look reader => exact traffic_of_lookStep hs hstep
  | expire reader =>
      simp only [step] at hstep
      split at hstep
      all_goals cases hstep
      all_goals exact .of_eq rfl rfl rfl (.inl rfl)
  | read loop r =>
      simp only [step] at hstep
      split at hstep
      next hl =>
        cases hstep
        exact .of_loop (by simp [hl, LoopAt.isLive]) rfl rfl (List.sublist_append_left _ _)
      next => cases hstep
  | proceed loop => exact traffic_of_proceedStep hs hstep
  | beginOpen user =>
      simp only [step, beginStep] at hstep
      split at hstep
      all_goals cases hstep
      exact .of_eq rfl rfl rfl (.inl rfl)
  | beginClose user =>
      simp only [step, beginStep] at hstep
      split at hstep
      all_goals cases hstep
      exact .of_eq rfl rfl rfl (.inl rfl)
  | advance user => exact traffic_of_advanceStep hs hstep
  | connect user works =>
      simp only [step] at hstep
      split at hstep
      · cases works <;> cases hstep <;> exact .of_eq rfl rfl rfl (.inl rfl)
      · cases hstep
  | purge =>
      cases hstep
      exact .of_eq rfl rfl rfl (.inr (by simp [State.tagged]))

/-- **What an event does to loops and bytes.** -/
theorem traffic_of_happen {e : Event} {s t : State} (hs : Sound s)
    (hevent : happen e s = some t) : Traffic e s t := by
  cases e with
  | move m => exact traffic_of_step hs hevent
  | threadless user =>
      simp only [happen] at hevent
      split at hevent
      all_goals cases hevent
      exact .of_eq rfl rfl rfl (.inl rfl)
  | dies loop =>
      simp only [happen] at hevent
      split at hevent
      next hl =>
        cases hevent
        exact .of_loop (by simp [hl, LoopAt.isLive]) rfl rfl (List.sublist_append_left _ _)
      next hl =>
        cases hevent
        exact .of_loop (by simp [hl, LoopAt.isLive]) rfl rfl (List.sublist_append_left _ _)
      next => cases hevent
  | stirs reader =>
      simp only [happen] at hevent
      split at hevent
      all_goals cases hevent
      exact .of_eq rfl rfl rfl (.inl rfl)

/-! ## Courses of events -/

/-- What readers were given, and what is unread at the end, is in order some of what was unread
and of what was stored. -/
theorem popped_append_tagged_sublist {events : List Event} {s t : State} (hs : Sound s)
    (hevents : course happen events s = some t) :
    (along happen poppedBy events s ++ t.tagged).Sublist
      (s.tagged ++ along happen storedBy events s) := by
  induction events generalizing s with
  | nil =>
      cases hevents
      simp [along]
  | cons e events ih =>
      obtain ⟨u, hevent, hrest⟩ := course_cons_eq_some.1 hevents
      have hfirst := (traffic_of_happen hs hevent).bytes
      have hlater := ih (hs.happen hevent) hrest
      simp only [along, hevent, Option.elim_some, List.append_assoc]
      calc (poppedBy e s ++ (along happen poppedBy events u ++ t.tagged)).Sublist
              (poppedBy e s ++ (u.tagged ++ along happen storedBy events u)) :=
            hlater.append_left _
        _ = ((poppedBy e s ++ u.tagged) ++ along happen storedBy events u) := by
            rw [List.append_assoc]
        List.Sublist _ ((s.tagged ++ storedBy e s) ++ along happen storedBy events u) :=
            hfirst.append_right _
        _ = (s.tagged ++ (storedBy e s ++ along happen storedBy events u)) := by
            rw [List.append_assoc]

/-- The first so many sessions are over: their loops are not live. -/
structure Over (n : Nat) (s : State) : Prop where
  le_sessions : n ≤ s.sessions
  not_live : ∀ k < n, (s.loops k).isLive = false

/-- Sessions that are over stay so. -/
theorem Over.happen {n : Nat} {e : Event} {s t : State} (h : Over n s) (hs : Sound s)
    (hevent : happen e s = some t) : Over n t := by
  have htraffic := traffic_of_happen hs hevent
  refine ⟨h.le_sessions.trans htraffic.sessions_le, ?_⟩
  intro k hk
  obtain hsame | hlive | hnext := htraffic.loops k
  · rw [hsame]
    exact h.not_live k hk
  · rw [h.not_live k hk] at hlive
    cases hlive
  · have := h.le_sessions
    omega

theorem Over.course {n : Nat} {events : List Event} {s t : State} (h : Over n s) (hs : Sound s)
    (hevents : course Interleaving.happen events s = some t) : Over n t :=
  (course_keeps (P := fun s => Sound s ∧ Over n s)
    (fun _ _ _ hs hevent => ⟨hs.1.happen hevent, hs.2.happen hs.1 hevent⟩) ⟨hs, h⟩ hevents).2

/-- A loop that is not live makes no move. -/
theorem step_loop_eq_none {s : State} {k : Nat} (hk : (s.loops k).isLive = false) :
    step (.proceed k) s = none ∧ ∀ r, step (.read k r) s = none := by
  cases hl : s.loops k with
  | unborn => simp [step, proceedStep, hl]
  | finished => simp [step, proceedStep, hl]
  | _ => simp [hl, LoopAt.isLive] at hk

/-- Bytes are stored by live loops. -/
theorem le_of_mem_storedBy {n : Nat} {e : Event} {s : State} (h : Over n s) {b : UInt8 × Nat}
    (hb : b ∈ storedBy e s) : n ≤ b.2 := by
  by_contra hlt
  have hdead := h.not_live b.2 (by omega)
  simp only [storedBy] at hb
  split at hb
  next loop =>
    split at hb
    next bytes hl =>
      obtain ⟨_, -, rfl⟩ := List.mem_map.1 hb
      simp [hl, LoopAt.isLive] at hdead
    next => cases hb
  next => cases hb

theorem le_of_mem_stored {n : Nat} {events : List Event} {s : State} (h : Over n s) (hs : Sound s)
    {b : UInt8 × Nat} (hb : b ∈ along happen storedBy events s) : n ≤ b.2 := by
  induction events generalizing s with
  | nil => cases hb
  | cons e events ih =>
      rw [along, List.mem_append] at hb
      obtain hfirst | hlater := hb
      · exact le_of_mem_storedBy h hfirst
      · cases hevent : Interleaving.happen e s with
        | none =>
            rw [hevent] at hlater
            cases hlater
        | some u =>
            rw [hevent] at hlater
            exact ih (h.happen hs hevent) (hs.happen hevent) hlater

/-- **Sessions are kept apart.**  Whatever happens to a port and its users: at most one loop
has started and not finished.  And when a user clears the ring for a new stream and marks the
link up, no loop of that session or of a later one has started; afterwards, whatever happens,
no loop of an earlier session makes any move, so that all bytes that are stored come from that
session's loop or a later one's; and the bytes that readers are given are, in order and each
with its origin, some of those. -/
theorem sessions_kept_apart {capacity : Nat} (hcapacity : 2 ≤ capacity) {events : List Event}
    {s : State}
    (hevents : course happen events (.initial (.ofCapacity capacity hcapacity)) = some s) :
    (∀ j k, (s.loops j).isLive = true → (s.loops k).isLive = true → j = k) ∧
      ∀ user t, s.users user = .attaching → step (.advance user) s = some t →
        (t.inbox.unread = [] ∧ t.inbox.linkUp = true) ∧
          (∀ k, s.sessions ≤ k → t.loops k = .unborn) ∧
          ∀ later u, course happen later t = some u →
            (∀ k < s.sessions,
                step (.proceed k) u = none ∧ ∀ r, step (.read k r) u = none) ∧
              (∀ b ∈ along happen storedBy later t, s.sessions ≤ b.2) ∧
              (along happen poppedBy later t ++ u.tagged).Sublist
                (along happen storedBy later t) := by
  have hs : Sound s :=
    (Sound.initial _ (Ring.toList_ofCapacity capacity hcapacity)).course hevents
  refine ⟨?_, ?_⟩
  · intro j k hj hk
    have h1 := hs.live_last hj
    have h2 := hs.live_last hk
    omega
  · intro user t huser hstep
    have ht : Sound t := hs.step hstep
    simp only [step, advanceStep, huser, Option.some.injEq] at hstep
    subst hstep
    refine ⟨⟨Inbox.unread_attach s.inbox, rfl⟩, hs.unborn, ?_⟩
    intro later u hlater
    -- the user that attaches has nothing to take down, so no loop is live
    have hover : Over s.sessions ({ s with inbox := s.inbox.attach, sources := [] }.setUser user
        .wanting) :=
      ⟨Nat.le_refl _, fun k _ => ht.not_live_of_fresh (u := user)
        (by simp [State.setUser, UserAt.isFresh]) k⟩
    refine ⟨fun k hk => step_loop_eq_none ((hover.course ht hlater).not_live k hk),
      fun b hb => le_of_mem_stored hover ht hb, ?_⟩
    simpa only [State.tagged, State.setUser, List.zip_nil_right, List.nil_append] using
      popped_append_tagged_sublist ht hlater

/-- The loop of a session stores a byte that nobody reads, and its stream ends; another user
opens the port, waits for the loop and connects. -/
def hungUpAndReopened : List Event :=
  [.beginOpen 0, .advance 0, .connect 0 true, .advance 0, .advance 0, .advance 0,
    .proceed 0, .read 0 (.data [7]), .proceed 0, .beginOpen 1, .proceed 0, .proceed 0,
    .read 0 .ended, .proceed 0, .advance 1, .advance 1, .advance 1, .advance 1, .proceed 0,
    .advance 1, .connect 1 true].map .move

/-- The loop of the second session stores a byte, and a reader takes it. -/
def secondSession : List Event :=
  [.advance 1, .advance 1, .proceed 1, .read 1 (.data [8]), .proceed 1, .call 0, .look 0].map .move

/-- The byte of the first session is gone, and its loop makes no more moves. -/
theorem sessions_kept_apart_of_secondSession :
    ∃ s t u, course happen hungUpAndReopened (.initial (.ofCapacity 4 (by decide))) = some s ∧
      s.users 1 = .attaching ∧ s.tagged = [(7, 0)] ∧ s.sessions = 1 ∧
      step (.advance 1) s = some t ∧ course happen secondSession t = some u ∧
      along happen poppedBy secondSession t = [(8, 1)] ∧ step (.proceed 0) u = none ∧
      ∀ b ∈ along happen storedBy secondSession t, 1 ≤ b.2 := by
  have hfirst : (course happen hungUpAndReopened (.initial (.ofCapacity 4 (by decide)))).map
      (fun s => (s.users 1, s.tagged, s.sessions)) = some (.attaching, [(7, 0)], 1) := by decide
  have hsecond : ((course happen hungUpAndReopened (.initial (.ofCapacity 4 (by decide)))).bind
      (step (.advance 1))).map (fun t => ((course happen secondSession t).isSome,
        along happen poppedBy secondSession t)) = some (true, [(8, 1)]) := by decide
  obtain ⟨s, hs, hplaces⟩ := Option.map_eq_some_iff.1 hfirst
  simp only [Prod.mk.injEq] at hplaces
  obtain ⟨huser, htagged, hsessions⟩ := hplaces
  rw [hs, Option.bind_some] at hsecond
  obtain ⟨t, ht, hlater⟩ := Option.map_eq_some_iff.1 hsecond
  simp only [Prod.mk.injEq] at hlater
  obtain ⟨u, hu⟩ := Option.isSome_iff_exists.1 hlater.1
  have hapart := ((sessions_kept_apart (by decide) hs).2 1 t huser ht).2.2 secondSession u hu
  rw [hsessions] at hapart
  exact ⟨s, t, u, hs, huser, htagged, hsessions, ht, hu, hlater.2, (hapart.1 0 (by decide)).1,
    hapart.2.1⟩

end DongleLink.Interleaving

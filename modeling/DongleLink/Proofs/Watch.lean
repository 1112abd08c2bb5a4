import DongleLink.Course
import DongleLink.Dump
import DongleLink.Dump.Watch
import DongleLink.Proofs.Ledger
import Mathlib.Data.List.Induction

/-!
# DongleLink.Proofs.Watch

What is shown of the bytes that come while a watcher watches.  Everything that the loop
stores is shown, or evicted, or still unread, in the order in which it came.

A watcher stops when it finds the link down, but it looks at the link after it was told of no
byte, and the loop may store more bytes and end between the two looks.  These are never
shown: they are what is left in the ring, and nothing is left exactly if there were none
(`shown_until_stop`).
-/

namespace DongleLink.Dump.Watch

/-! ## What moves bring -/

/-- A watcher at an inbox to which a stream was just attached. -/
def opened (inbox : Inbox) : Watch := { inbox := inbox.attach }

/-- The bytes that the loop stores. -/
def stored (moves : List Move) : List UInt8 :=
  moves.flatMap fun
    | .store bytes => bytes
    | .linkDown | .look | .doubt => []

/-- What the watcher is told when it looks for a byte. -/
def told (m : Move) (w : Watch) : List Look :=
  match m with
  | .look =>
    match w.inbox.look.1 with
    | .byte b => [some b]
    | .closed | .empty => [none]
  | .store _ | .linkDown | .doubt => []

/-- The bytes that leave the ring, with their fates. -/
def removed (m : Move) (w : Watch) : List (Port.ByteFate × UInt8) :=
  match m with
  | .store bytes =>
    ((w.inbox.unread ++ bytes).take (w.inbox.ingest bytes).1).map (.evicted, ·)
  | .look =>
    match w.inbox.look.1 with
    | .byte b => [(.delivered, b)]
    | .closed | .empty => []
  | .linkDown | .doubt => []

/-- What is shown in a run, put together. -/
def shownIn (moves : List Move) (w : Watch) : List UInt8 :=
  (lines [] (along step told moves w)).flatten

/-! ## The fate of each byte -/

/-- What a move does to the bytes. -/
theorem removed_append_unread {m : Move} {w v : Watch} (hstep : step m w = some v) :
    (removed m w).map Prod.snd ++ v.inbox.unread = w.inbox.unread ++ stored [m] := by
  cases m with
  | store bytes =>
      simp only [step] at hstep
      split at hstep
      · cases hstep
        have h := w.inbox.take_evicted_append_unread bytes
        simpa [removed, stored, Function.comp_def] using h
      · cases hstep
  | linkDown =>
      simp only [step] at hstep
      split at hstep
      · cases hstep
        simp [removed, stored]
      · cases hstep
  | look =>
      simp only [step] at hstep
      split at hstep
      · split at hstep
        next b inbox hlook =>
          cases hstep
          have hunread := Inbox.unread_of_look hlook
          simp [removed, stored, hlook, hunread]
        next inbox hlook =>
          cases hstep
          simp [removed, stored, hlook]
        next inbox hlook =>
          cases hstep
          simp [removed, stored, hlook]
      · cases hstep
  | doubt =>
      simp only [step] at hstep
      split at hstep
      · cases hstep
        simp [removed, stored]
      · cases hstep

/-- A byte is delivered when the watcher is told of it, and at no other time. -/
theorem withFate_removed (m : Move) (w : Watch) :
    Port.withFate .delivered (removed m w) = bytesOf (told m w) := by
  cases m with
  | store bytes => rw [removed, Port.withFate_map]; rfl
  | look =>
      simp only [removed, told]
      cases w.inbox.look.1 <;> rfl
  | linkDown => rfl
  | doubt => rfl

theorem stored_cons (m : Move) (moves : List Move) :
    stored (m :: moves) = stored [m] ++ stored moves := by
  simp [stored]

/-- What left the ring and what is unread then are what was unread and what was stored. -/
theorem removals_append_unread {moves : List Move} {w v : Watch}
    (hrun : course step moves w = some v) :
    (along step removed moves w).map Prod.snd ++ v.inbox.unread =
      w.inbox.unread ++ stored moves := by
  induction moves generalizing w with
  | nil =>
      cases hrun
      simp [along, stored]
  | cons m moves ih =>
      obtain ⟨u, hstep, hrest⟩ := course_cons_eq_some.1 hrun
      calc (along step removed (m :: moves) w).map Prod.snd ++ v.inbox.unread
        _ = (removed m w).map Prod.snd ++
              ((along step removed moves u).map Prod.snd ++ v.inbox.unread) := by
            simp [along, hstep]
        _ = ((removed m w).map Prod.snd ++ u.inbox.unread) ++ stored moves := by
            rw [ih hrest, List.append_assoc]
        _ = w.inbox.unread ++ stored (m :: moves) := by
            rw [removed_append_unread hstep, List.append_assoc, ← stored_cons]

/-- What is shown is what was delivered. -/
theorem withFate_removals (moves : List Move) (w : Watch) :
    Port.withFate .delivered (along step removed moves w) = shownIn moves w := by
  rw [shownIn, flatten_lines, List.nil_append]
  induction moves generalizing w with
  | nil => rfl
  | cons m moves ih =>
      cases hstep : step m w with
      | none => simp [along, hstep, withFate_removed]
      | some u =>
          simp only [along, hstep, Option.elim_some, Port.withFate_append, withFate_removed, ih]
          simp [bytesOf]

/-! ## What a move does -/

/-- The loop makes this move. -/
def Move.isOfLoop : Move → Bool
  | store _ | linkDown => true
  | look | doubt => false

/-- The loop moves while the link is up, and stores what it stores. -/
theorem step_of_loop {m : Move} {w v : Watch} (hm : m.isOfLoop = true)
    (hstep : step m w = some v) :
    w.inbox.linkUp = true ∧ v.watcher = w.watcher ∧
      v.inbox.ring = (w.inbox.ring.pushAll (stored [m])).2 := by
  cases m with
  | store bytes =>
      simp only [step] at hstep
      split at hstep
      next hup =>
        cases hstep
        exact ⟨hup, rfl, by simp [stored, Inbox.ingest]⟩
      next => cases hstep
  | linkDown =>
      simp only [step] at hstep
      split at hstep
      next hup =>
        cases hstep
        exact ⟨hup, rfl, rfl⟩
      next => cases hstep
  | look => cases hm
  | doubt => cases hm

/-- A watcher that looks goes on, or has found the ring empty. -/
theorem step_look {w v : Watch} (hstep : step .look w = some v) :
    v.inbox.ring.usable = w.inbox.ring.usable ∧
      (v.watcher = .looking ∨
        (v = { w with watcher := .doubting } ∧ w.inbox.unread = [])) := by
  simp only [step] at hstep
  split at hstep
  next hlooking =>
    cases hpop : w.inbox.ring.pop with
    | some p =>
        simp only [Inbox.look, hpop, Option.some.injEq] at hstep
        subst hstep
        exact ⟨Ring.usable_pop hpop, .inl hlooking⟩
    | none =>
        have hempty := (Ring.pop_eq_none_iff w.inbox.ring).1 hpop
        cases hup : w.inbox.linkUp <;> simp only [Inbox.look, hpop, hup] at hstep <;>
          cases hstep <;> exact ⟨rfl, .inr ⟨rfl, hempty⟩⟩
  next => cases hstep

/-- A watcher in doubt goes on if the link is up and stops if it is down. -/
theorem step_doubt {w v : Watch} (hstep : step .doubt w = some v) :
    w.watcher = .doubting ∧ v.inbox = w.inbox ∧
      (v.watcher = .looking ∨ (v.watcher = .stopped ∧ w.inbox.linkUp = false)) := by
  simp only [step] at hstep
  split at hstep
  next hdoubting =>
    cases hstep
    cases hup : w.inbox.linkUp <;> simp [hdoubting]
  next => cases hstep

/-- No move changes how many bytes fit. -/
theorem usable_step {m : Move} {w v : Watch} (hstep : step m w = some v) :
    v.inbox.ring.usable = w.inbox.ring.usable := by
  cases hm : m.isOfLoop with
  | true =>
      obtain ⟨-, -, hring⟩ := step_of_loop hm hstep
      rw [hring, Ring.usable_pushAll]
  | false =>
      cases m with
      | look => exact (step_look hstep).1
      | doubt => rw [(step_doubt hstep).2.1]
      | store bytes => cases hm
      | linkDown => cases hm

theorem usable_course {moves : List Move} {w v : Watch} (hrun : course step moves w = some v) :
    v.inbox.ring.usable = w.inbox.ring.usable :=
  course_keeps (P := fun u => u.inbox.ring.usable = w.inbox.ring.usable)
    (fun _ _ _ h hstep => (usable_step hstep).trans h) rfl hrun

/-! ## The last look -/

/- The watcher looks twice before it stops, for a byte and at the link, and the loop may move in
between.  What it stores then is the difference between what was received and what is shown. -/

/-- The watcher looked and found the ring empty, and since then the loop alone has moved. -/
structure SinceLook (w : Watch) (moves : List Move) (v : Watch) (before between : List Move) :
    Prop where
  moves_eq : moves = before ++ .look :: between
  of_loop : ∀ m ∈ between, m.isOfLoop = true
  ring_eq : ∃ u, course step before w = some u ∧ u.inbox.unread = [] ∧
    v.inbox.ring = (u.inbox.ring.pushAll (stored between)).2

/-- The loop makes one more move. -/
theorem SinceLook.concat {w u v : Watch} {moves before between : List Move} {m : Move}
    (h : SinceLook w moves u before between) (hm : m.isOfLoop = true)
    (hstep : step m u = some v) : SinceLook w (moves ++ [m]) v before (between ++ [m]) := by
  obtain ⟨-, -, hring⟩ := step_of_loop hm hstep
  obtain ⟨x, hx, hempty, hsince⟩ := h.ring_eq
  refine ⟨by simp [h.moves_eq], ?_, x, hx, hempty, ?_⟩
  · intro other hother
    obtain hold | hnew := List.mem_append.1 hother
    · exact h.of_loop other hold
    · rwa [List.mem_singleton.1 hnew]
  · have hstored : stored (between ++ [m]) = stored between ++ stored [m] := by simp [stored]
    rw [hring, hsince, hstored, Ring.pushAll_append]

/-- The watcher looks for a byte; or its last look brought none, and the loop alone has moved
since; or so it was until it found the link down and stopped. -/
inductive Whereabouts (w : Watch) (moves : List Move) (v : Watch) : Prop where
  | looking (h : v.watcher = .looking)
  | doubting (h : v.watcher = .doubting) (before between : List Move)
      (since : SinceLook w moves v before between)
  | stopped (h : v.watcher = .stopped) (down : v.inbox.linkUp = false)
      (watched before between : List Move) (moves_eq : moves = watched ++ [.doubt])
      (since : SinceLook w watched v before between)

/-- **Where the watcher is tells of its last look.** -/
theorem whereabouts {w v : Watch} (hw : w.watcher = .looking) {moves : List Move}
    (hrun : course step moves w = some v) : Whereabouts w moves v := by
  induction moves using List.reverseRecOn generalizing v with
  | nil =>
      cases hrun
      exact .looking hw
  | append_singleton moves m ih =>
      obtain ⟨u, hbefore, hlast⟩ := course_append_eq_some.1 hrun
      obtain ⟨_, hstep, hend⟩ := course_cons_eq_some.1 hlast
      cases hend
      cases hm : m.isOfLoop with
      | true =>
          obtain ⟨hup, hsame, -⟩ := step_of_loop hm hstep
          obtain hu | ⟨hu, before, between, hsince⟩ | ⟨-, hdown, -⟩ := ih hbefore
          · exact .looking (hsame.trans hu)
          · exact .doubting (hsame.trans hu) before (between ++ [m]) (hsince.concat hm hstep)
          · rw [hdown] at hup
            cases hup
      | false =>
          cases m with
          | look =>
              obtain ⟨-, hv | ⟨rfl, hempty⟩⟩ := step_look hstep
              · exact .looking hv
              · exact .doubting rfl moves [] ⟨rfl, by simp, u, hbefore, hempty, rfl⟩
          | doubt =>
              obtain ⟨hdoubting, hinbox, hv | ⟨hv, hdown⟩⟩ := step_doubt hstep
              · exact .looking hv
              · obtain hu | ⟨-, before, between, hsince⟩ | ⟨hu, -⟩ := ih hbefore
                · rw [hdoubting] at hu
                  cases hu
                · exact .stopped hv (by rw [hinbox, hdown]) moves before between rfl
                    ⟨hsince.moves_eq, hsince.of_loop, by rw [hinbox]; exact hsince.ring_eq⟩
                · rw [hdoubting] at hu
                  cases hu
          | store bytes => cases hm
          | linkDown => cases hm

/-- What is unread is as much as fits of what was stored since the last look. -/
theorem SinceLook.unread_eq {w v : Watch} {moves before between : List Move}
    (h : SinceLook w moves v before between) :
    v.inbox.unread =
      (stored between).drop ((stored between).length - w.inbox.ring.usable) := by
  obtain ⟨u, hu, hempty, hring⟩ := h.ring_eq
  have hlen : u.inbox.ring.length = 0 := by
    rw [← Ring.length_toList]
    exact List.length_eq_zero_iff.2 hempty
  rw [Inbox.unread, hring, Ring.toList_pushAll, hlen, usable_course hu, Nat.zero_add]
  exact congrArg (fun bytes => (bytes ++ stored between).drop _) hempty

/-- Nothing is stored while the link is down. -/
theorem stored_eq_nil_of_linkDown {moves : List Move} {w v : Watch}
    (hrun : course step moves w = some v) (hdown : w.inbox.linkUp = false) : stored moves = [] := by
  induction moves generalizing w with
  | nil => rfl
  | cons m moves ih =>
      obtain ⟨u, hstep, hrest⟩ := course_cons_eq_some.1 hrun
      cases m with
      | store bytes => simp [step, hdown] at hstep
      | linkDown => simp [step, hdown] at hstep
      | look =>
          refine ih hrest ?_
          simp only [step] at hstep
          split at hstep
          · split at hstep
            next b inbox hlook =>
              cases hstep
              exact (Inbox.linkUp_of_look hlook).trans hdown
            next =>
              cases hstep
              exact hdown
            next =>
              cases hstep
              exact hdown
          · cases hstep
      | doubt => exact ih hrest (by rw [(step_doubt hstep).2.1, hdown])

/-! ## The end -/

/-- **What is shown until the link drops.**  Whatever the loop and the watcher do, from a
stream just attached until the watcher has stopped because it found the link down: all bytes
that were stored are shown or evicted, in the order in which they came, but for those still
unread.  And these are as many as fit of the bytes that were stored between the watcher's last
look for a byte and its look at the link: there are none exactly if nothing was stored then,
and so whenever that look for a byte found the link down already. -/
theorem shown_until_stop {inbox : Inbox} {moves : List Move} {w : Watch}
    (hrun : run moves (opened inbox) = some w) (hstop : w.watcher = .stopped) :
    ((along step removed moves (opened inbox)).map Prod.snd ++ w.inbox.unread = stored moves ∧
        Port.withFate .delivered (along step removed moves (opened inbox)) =
          shownIn moves (opened inbox)) ∧
      ∃ before between, moves = before ++ .look :: (between ++ [.doubt]) ∧
        (∀ m ∈ between, m.isOfLoop = true) ∧
        w.inbox.unread =
          (stored between).drop ((stored between).length - inbox.ring.usable) ∧
        (w.inbox.unread = [] ↔ stored between = []) ∧
        ∀ v, run before (opened inbox) = some v → v.inbox.linkUp = false →
          w.inbox.unread = [] := by
  have hcourse : course step moves (opened inbox) = some w := hrun
  have hfates := removals_append_unread hcourse
  rw [show (opened inbox).inbox.unread = [] from Inbox.unread_attach inbox,
    List.nil_append] at hfates
  refine ⟨⟨hfates, withFate_removals moves (opened inbox)⟩, ?_⟩
  obtain hw | ⟨hw, -⟩ | ⟨-, -, watched, before, between, hmoves, hsince⟩ :=
    whereabouts (w := opened inbox) rfl hcourse
  · rw [hw] at hstop
    cases hstop
  · rw [hw] at hstop
    cases hstop
  · have hall : moves = before ++ .look :: (between ++ [.doubt]) := by
      rw [hmoves, hsince.moves_eq]; simp
    have hunread : w.inbox.unread =
        (stored between).drop ((stored between).length - inbox.ring.usable) := hsince.unread_eq
    have hiff : w.inbox.unread = [] ↔ stored between = [] := by
      have hpos := inbox.ring.usable_pos
      rw [hunread, List.drop_eq_nil_iff, ← List.length_eq_zero_iff]
      omega
    refine ⟨before, between, hall, hsince.of_loop, hunread, hiff, ?_⟩
    intro v hv hdown
    obtain ⟨v', hv', hrest⟩ := course_append_eq_some.1 (hall ▸ hcourse)
    obtain rfl : v' = v := Option.some.inj (hv'.symm.trans hv)
    have hnone := stored_eq_nil_of_linkDown hrest hdown
    have hparts : stored (.look :: (between ++ [.doubt])) = stored between := by simp [stored]
    exact hiff.2 (hparts.symm.trans hnone)

/-- A ring for four bytes, and a closed link. -/
def smallInbox : Inbox := { ring := .ofCapacity 5 (by decide), linkUp := false }

/-- Two bytes are stored; the watcher takes one, and two are evicted; it takes the others, is
told of none, and again, and then the link is down. -/
def quietEnd : List Move :=
  [.store [1, 2], .look, .store [3, 4, 5, 6, 7], .look, .look, .look, .look, .look, .doubt,
    .linkDown, .look, .doubt]

/-- All bytes but those evicted are shown. -/
theorem shown_of_quietEnd :
    ∃ w, run quietEnd (opened smallInbox) = some w ∧ w.watcher = .stopped ∧
      shownIn quietEnd (opened smallInbox) = [1, 4, 5, 6, 7] ∧
      along step removed quietEnd (opened smallInbox) =
        [(.delivered, 1), (.evicted, 2), (.evicted, 3), (.delivered, 4), (.delivered, 5),
          (.delivered, 6), (.delivered, 7)] ∧ w.inbox.unread = [] := by
  have hview : (run quietEnd (opened smallInbox)).map (fun w => (w.watcher, w.inbox.linkUp)) =
      some (.stopped, false) := by decide
  obtain ⟨w, hw, hplaces⟩ := Option.map_eq_some_iff.1 hview
  simp only [Prod.mk.injEq] at hplaces
  have hfates := (shown_until_stop hw hplaces.1).1.1
  rw [show along step removed quietEnd (opened smallInbox) =
    [(.delivered, 1), (.evicted, 2), (.evicted, 3), (.delivered, 4), (.delivered, 5),
      (.delivered, 6), (.delivered, 7)] by decide] at hfates
  exact ⟨w, hw, hplaces.1, by decide, by decide, by simpa [stored, quietEnd] using hfates⟩

/-- The watcher is told of no byte in time; before it looks at the link, the loop stores a
byte and ends. -/
def lateChunk : List Move := [.look, .store [7], .linkDown, .doubt]

/-- The watcher stops with a byte unread that was not evicted and is not shown. -/
theorem unread_of_lateChunk :
    (run lateChunk (opened smallInbox)).map (fun w => (w.watcher, w.inbox.unread)) =
        some (.stopped, [7]) ∧
      shownIn lateChunk (opened smallInbox) = [] ∧
      along step removed lateChunk (opened smallInbox) = [] := by
  refine ⟨?_, ?_, ?_⟩ <;> decide

end DongleLink.Dump.Watch

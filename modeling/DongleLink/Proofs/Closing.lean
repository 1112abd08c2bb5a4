import DongleLink.Proofs.Parked

/-!
# DongleLink.Proofs.Closing

Closing a port under a call that the wire holds up.  As long as the stream is not shut down the
call stays parked, and by the shutdown no loop is wanted any more; the parked call does not look
at that again, but the others do (`letGo_of_shutdown`).  What is done of a closing stays done
(`TakenDown.step`), and there is always a way to its end (`exists_closed`).
-/

namespace DongleLink

open Writers

/-- A bystander brings up neither session nor link. -/
theorem Port.down_carryOut {piece : Piece} (h : piece.isBystanders = true) (p : Port Simulated) :
    (p.session = none → (p.carryOut piece).session = none) ∧
      (p.inbox.linkUp = false → (p.carryOut piece).inbox.linkUp = false) := by
  cases piece with
  | hear r =>
      refine ⟨(session_hear_eq_none_iff r p).2, fun hdown => ?_⟩
      simp only [carryOut]
      obtain ⟨bytes, -, -, heq⟩ | ⟨-, heq | heq⟩ := hear_cases r p <;> rw [heq]
      · exact hdown
      · rfl
      · exact hdown
  | look =>
      refine ⟨fun hnone => (session_look p).trans hnone, fun hdown => ?_⟩
      simp only [carryOut]
      obtain ⟨b, inbox, hlook, heq⟩ | ⟨-, heq⟩ := p.look_cases <;> rw [heq]
      · exact (Inbox.linkUp_of_look hlook).trans hdown
      · exact hdown
  | read | purge => exact ⟨id, id⟩
  | _ => cases h

namespace Writers

variable {h : Holder} {s t : Writers Simulated} {m : Move Simulated.Control}
  {moves : List (Move Simulated.Control)}

/-! ## What stays done -/

/-- What is done of a closing stays done. -/
structure TakenDown (done : List Port.Piece) (s : Writers Simulated) : Prop where
  session_eq : .leave ∈ done → s.port.session = none
  running_eq : .unwant ∈ done → s.port.running = false
  linkUp_eq : .linkDown ∈ done → s.port.inbox.linkUp = false
  writer_eq : .detach ∈ done → s.port.writer = false
  holder_eq : .detach ∈ done → s.holder = none

namespace TakenDown

variable {done : List Port.Piece}

theorem nil (s : Writers Simulated) : TakenDown [] s := by
  constructor <;> intro hmem <;> cases hmem

theorem congr (hd : TakenDown done s) (hsession : s.port.session = none → t.port.session = none)
    (hrunning : t.port.running = s.port.running)
    (hlink : s.port.inbox.linkUp = false → t.port.inbox.linkUp = false)
    (hwriter : t.port.writer = s.port.writer)
    (hholder : .detach ∈ done → t.holder = none) : TakenDown done t where
  session_eq hmem := hsession (hd.session_eq hmem)
  running_eq hmem := hrunning.trans (hd.running_eq hmem)
  linkUp_eq hmem := hlink (hd.linkUp_eq hmem)
  writer_eq hmem := hwriter.trans (hd.writer_eq hmem)
  holder_eq := hholder

/-- Writers leave the session, the link and their own place alone. -/
theorem spares (hd : TakenDown done s) (h : Spares s.port t.port)
    (hholder : .detach ∈ done → t.holder = none) : TakenDown done t :=
  hd.congr (fun hnone => h.session_eq.trans hnone) h.running_eq
    (fun hdown => by rw [h.inbox_eq, hdown]) h.writer_eq hholder

/-- A further piece is done. -/
theorem closers {piece : Port.Piece} (hd : TakenDown done s) (hpiece : piece.isClosers = true)
    (hfree : piece.needsLock = true → s.holder = none) :
    TakenDown (done ++ [piece]) { s with port := s.port.carryOut piece } := by
  obtain ⟨hsession, hrunning, hlink, hwriter, hholder⟩ := hd
  cases piece with
  | leave | unwant | linkDown | shutdown | detach =>
      constructor <;> simp_all [Port.carryOut, Inbox.linkDown, Port.Piece.needsLock]
  | _ => cases hpiece

/-- A writer does not get the lock where there is no sending half any more. -/
theorem holder_of_writers (hd : TakenDown done s) (hm : m.isWriters = true)
    (hstep : Writers.step Simulated.Control.apply m s = some t) (hmem : .detach ∈ done) :
    t.holder = none := by
  have hnone := hd.holder_eq hmem
  cases does_of_step hstep with
  | empty _ ht => rw [ht, hnone]
  | comes _ _ _ ht => rw [ht]; exact hnone
  | locks _ _ _ _ _ haccepts => simp [Port.accepts, hd.writer_eq hmem] at haccepts
  | ignored _ _ _ _ _ _ ht => rw [ht]; exact hnone
  | parks _ _ hsome => simp [hnone] at hsome
  | ends _ _ _ _ ht => rw [ht]; rfl
  | piece _ hmove => rw [hmove] at hm; cases hm
  | onWire _ hmove => rw [hmove] at hm; cases hm

/-- **What is done of a closing stays done**, whatever writers, readers and loop do meanwhile. -/
theorem step (hd : TakenDown done s) (hm : m.isOfClosing = true)
    (hstep : Writers.step Simulated.Control.apply m s = some t) :
    TakenDown (done ++ m.closing.toList) t := by
  cases hwriters : m.isWriters with
  | true =>
      have hnone : m.closing = none := by cases m <;> simp_all [Move.isWriters, Move.closing]
      rw [hnone, Option.toList_none, List.append_nil]
      exact hd.spares (spares_of_step hstep hwriters) (hd.holder_of_writers hwriters hstep)
  | false =>
      cases does_of_step hstep with
      | piece p hmove hfree ht hnotes =>
          rw [ht, hmove]
          rw [hmove, Move.isOfClosing, Bool.or_eq_true] at hm
          obtain hordinary | hclosing := hm
          · have hnone : (Move.piece p : Move Simulated.Control).closing = none := by
              cases p <;> simp_all [Move.isOrdinary, Port.Piece.isBystanders, Move.closing,
                Port.Piece.isClosers]
            have hsame := Port.sameForWriters_carryOut hordinary s.port
            obtain ⟨hsession, hlink⟩ := s.port.down_carryOut hordinary
            rw [hnone, Option.toList_none, List.append_nil]
            exact hd.congr hsession hsame.running_eq hlink hsame.writer_eq hd.holder_eq
          · have hpiece : p.isClosers = true := by simpa [Move.closing] using hclosing
            rw [Move.closing, if_pos hpiece]
            exact hd.closers hpiece hfree
      | onWire c hmove ht hnotes =>
          rw [ht, hmove, show (Move.onWire c : Move _).closing = none from rfl, Option.toList_none,
            List.append_nil]
          exact hd.congr id rfl id rfl hd.holder_eq
      | _ => simp_all [Move.isWriters]

theorem of_course (hd : TakenDown done s) (hmoves : ∀ m ∈ moves, m.isOfClosing = true)
    (hcourse : course (Writers.step Simulated.Control.apply) moves s = some t) :
    TakenDown (done ++ closing moves) t := by
  induction moves generalizing s done with
  | nil =>
      cases hcourse
      simpa [closing] using hd
  | cons m moves ih =>
      obtain ⟨x, hstep, hrest⟩ := course_cons_eq_some.1 hcourse
      rw [List.forall_mem_cons] at hmoves
      have hall := ih (hd.step hmoves.1 hstep) hmoves.2 hrest
      rw [List.append_assoc] at hall
      convert hall using 2
      cases hm : m.closing <;> simp [closing, hm]

end TakenDown

/-! ## The calls under a closing -/

/-- A piece that is done of a closing is one of the moves. -/
theorem eq_of_closing {piece : Port.Piece} (hm : m.closing = some piece) : m = .piece piece := by
  cases m with
  | piece p =>
      simp only [Move.closing, Option.ite_none_right_eq_some, Option.some.injEq] at hm
      rw [hm.2]
  | _ => cases hm

/-- **From the shutdown on a closing lets the writes go**; by then no loop is wanted. -/
theorem letGo_of_shutdown (hs : Stalled h s) (hmoves : ∀ m ∈ moves, m.isOfClosing = true)
    (hdone : Port.takingDown <+: closing moves)
    (hcourse : course (step Simulated.Control.apply) moves s = some t) :
    Released .shutDown t.port ∧
      LetGo .shutDown h s.queued (along (step Simulated.Control.apply) notes moves s) t := by
  obtain ⟨rest, hrest⟩ := hdone
  have hsplit : closing moves = [.leave, .unwant, .linkDown] ++ .shutdown :: rest := hrest.symm
  obtain ⟨first, second, rfl, hfirst, hsecond⟩ := List.filterMap_eq_append_iff.1 hsplit
  obtain ⟨mid, m, after, rfl, hmid, hm, -⟩ := List.filterMap_eq_cons_iff.1 hsecond
  obtain rfl := eq_of_closing hm
  rw [← List.append_assoc] at hmoves hcourse ⊢
  -- what comes before the shutdown, and the shutdown itself
  have hbefore : closing (first ++ mid) = [.leave, .unwant, .linkDown] := by
    rw [closing_append, closing, closing, hfirst, List.filterMap_eq_nil_iff.2 hmid]
    rfl
  obtain ⟨x, hx, hafter⟩ := course_append_eq_some.1 hcourse
  obtain ⟨y, hy, hafter⟩ := course_cons_eq_some.1 hafter
  rw [List.forall_mem_append, List.forall_mem_cons] at hmoves
  obtain ⟨hmoves, -, hmoves'⟩ := hmoves
  have hlive : ∀ m ∈ first ++ mid,
      m.isOrdinary = true ∨ m.closing.isSome = true ∧ m ≠ .piece .shutdown := by
    intro m hmem
    have hm := hmoves m hmem
    rw [Move.isOfClosing, Bool.or_eq_true] at hm
    refine hm.imp_right fun hclosing => ⟨hclosing, ?_⟩
    rintro rfl
    have hshut : .shutdown ∈ closing (first ++ mid) := List.mem_filterMap.2 ⟨_, hmem, rfl⟩
    simp [hbefore] at hshut
  obtain ⟨hstalled, hqueued, hended⟩ := hs.of_course hlive hx
  have hdown := (TakenDown.nil s).of_course hmoves hx
  have hrunning : x.port.running = false := hdown.running_eq (by simp [hbefore])
  obtain rfl : y = { x with port := x.port.carryOut .shutdown } := (Option.some.inj hy).symm
  have hreleased : Released .shutDown (x.port.carryOut .shutdown) :=
    .of_shutdown hrunning hstalled.failWrites_eq
  have hheld : LetGo .shutDown h s.queued
      (along (step Simulated.Control.apply) notes (first ++ mid) s)
      { x with port := x.port.carryOut .shutdown } :=
    .held hended hstalled.holder_eq hqueued
  have hall := LetGo.of_course hreleased hheld (fun m hmem => by
    have hm := hmoves' m hmem
    rw [Move.isOfClosing, Bool.or_eq_true] at hm
    exact hm.imp_right fun hclosing => ⟨rfl, hclosing⟩) hafter
  rw [along_append hx]
  simpa [along, hy, notes] using hall

/-- **A closing lets the writes go**, and leaves nothing of what it takes down. -/
theorem endsAs_of_closing (hs : Stalled h s) (hmoves : ∀ m ∈ moves, m.isOfClosing = true)
    (hclosing : closing moves = Port.takingDown ++ [.detach])
    (hcourse : course (step Simulated.Control.apply) moves s = some t) :
    EndsAs .shutDown h s (along (step Simulated.Control.apply) notes moves s) t ∧
      TakenDown (Port.takingDown ++ [.detach]) t := by
  obtain ⟨hr, hl⟩ := letGo_of_shutdown hs hmoves ⟨[.detach], hclosing.symm⟩ hcourse
  have hgains := gains_of_course (fun m hm => ne_clearLog_of_isOfClosing (hmoves m hm)) hcourse
  have hdown := (TakenDown.nil s).of_course hmoves hcourse
  rw [List.nil_append, hclosing] at hdown
  exact ⟨hl.endsAs hr hgains, hdown⟩

/-! ## The way to the end -/

/-- Pieces that need no lock can be done at any time, and the others while nobody has it. -/
theorem course_pieces (pieces : List Port.Piece)
    (hfree : ∀ p ∈ pieces, p.needsLock = true → s.holder = none) :
    course (step Simulated.Control.apply) (pieces.map .piece) s =
      some { s with port := s.port.carryAll pieces } := by
  induction pieces generalizing s with
  | nil => rfl
  | cons p pieces ih =>
      rw [List.forall_mem_cons] at hfree
      have hallowed : (p.needsLock && s.holder.isSome) = false := by
        cases hneeds : p.needsLock with
        | false => rfl
        | true => simp [hfree.1 hneeds]
      have hstep : step Simulated.Control.apply (.piece p) s =
          some { s with port := s.port.carryOut p } := by simp [step, hallowed]
      exact course_cons_eq_some.2
        ⟨_, hstep, ih (s := { s with port := s.port.carryOut p }) hfree.2⟩

theorem closing_pieces {κ : Type} {pieces : List Port.Piece}
    (hpieces : ∀ p ∈ pieces, p.isClosers = true) :
    closing (pieces.map (.piece : Port.Piece → Move κ)) = pieces := by
  rw [closing, List.filterMap_map]
  induction pieces with
  | nil => rfl
  | cons p pieces ih =>
      rw [List.forall_mem_cons] at hpieces
      simp [Move.closing, hpieces.1, ih hpieces.2]

/-- A closing goes on with the pieces up to the shutdown, lets the calls end, and then does what
needs the lock. -/
theorem exists_closed_of_append (down last : List Port.Piece) (hs : Stalled h s)
    (hmoves : ∀ m ∈ moves, m.isOfClosing = true)
    (hcourse : course (step Simulated.Control.apply) moves s = some t)
    (hdone : Port.takingDown <+: closing moves ++ down) (hdown : ∀ p ∈ down, p ∈ Port.takingDown)
    (hlast : ∀ p ∈ last, p = .detach) :
    ∃ more u, (∀ m ∈ more, m.isOfClosing = true) ∧ closing more = down ++ last ∧
      course (step Simulated.Control.apply) more t = some u ∧ u.holder = none ∧ u.queued = [] := by
  have hpieces : ∀ p ∈ Port.takingDown, p.isClosers = true ∧ p.needsLock = false := by decide
  have hclosers : ∀ p ∈ down, p.isClosers = true := fun p hp => (hpieces p (hdown p hp)).1
  have hclosers' : ∀ p ∈ last, p.isClosers = true := fun p hp => by rw [hlast p hp]; rfl
  have hmove : ∀ pieces : List Port.Piece, (∀ p ∈ pieces, p.isClosers = true) →
      ∀ m ∈ pieces.map (.piece : Port.Piece → Move Simulated.Control), m.isOfClosing = true := by
    intro pieces hall m hm
    obtain ⟨p, hp, rfl⟩ := List.mem_map.1 hm
    simp [Move.isOfClosing, Move.closing, hall p hp]
  have hx := course_pieces (s := t) down
    fun p hp hneeds => by simp [(hpieces p (hdown p hp)).2] at hneeds
  have hdown' : Port.takingDown <+: closing (moves ++ down.map .piece) := by
    rwa [closing_append, closing_pieces hclosers]
  have hreleased := (letGo_of_shutdown hs
    (List.forall_mem_append.2 ⟨hmoves, hmove down hclosers⟩) hdown'
    (course_append_eq_some.2 ⟨t, hcourse, hx⟩)).1
  obtain ⟨work, y, hwork, hnone, hy, -, hholder, hqueued⟩ := exists_finish hreleased
  have hu := course_pieces (s := y) last fun _ _ _ => hholder
  refine ⟨down.map .piece ++ (work ++ last.map .piece), { y with port := y.port.carryAll last },
    ?_, ?_, course_append_eq_some.2 ⟨_, hx, course_append_eq_some.2 ⟨y, hy, hu⟩⟩, hholder, hqueued⟩
  · rw [List.forall_mem_append, List.forall_mem_append]
    exact ⟨hmove down hclosers, fun m hm => by simp [Move.isOfClosing, hwork m hm],
      hmove last hclosers'⟩
  · rw [closing_append, closing_append, closing_pieces hclosers, hnone, closing_pieces hclosers']
    rfl

/-- **A closing can always go on to its end**, however many calls are held up under it. -/
theorem exists_closed {remaining : List Port.Piece} (hs : Stalled h s)
    (hmoves : ∀ m ∈ moves, m.isOfClosing = true)
    (hremaining : closing moves ++ remaining = Port.takingDown ++ [.detach])
    (hcourse : course (step Simulated.Control.apply) moves s = some t) :
    ∃ more u, (∀ m ∈ more, m.isOfClosing = true) ∧ closing more = remaining ∧
      course (step Simulated.Control.apply) more t = some u ∧ u.holder = none ∧ u.queued = [] := by
  obtain ⟨down, hdone, rfl⟩ | ⟨done, hdone, hlast⟩ := List.append_eq_append_iff.1 hremaining
  · exact exists_closed_of_append down _ hs hmoves hcourse ⟨[], by simp [hdone]⟩
      (fun p hp => by rw [hdone]; exact List.mem_append_right _ hp) (by simp)
  · have hdetach : ∀ p ∈ remaining, p = .detach := fun p hp =>
      List.mem_singleton.1 (hlast ▸ List.mem_append_right done hp)
    exact exists_closed_of_append [] remaining hs hmoves hcourse ⟨done, by simp [hdone]⟩ (by simp)
      hdetach

end Writers

end DongleLink

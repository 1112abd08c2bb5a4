import DongleLink.Proofs.Agreement
import DongleLink.Proofs.Writers

/-!
# DongleLink.Proofs.WriteAccount

Every call on a port in use, with all that it sets free, is some moves of writers and others, and
what its writers are told is what the notes tell (`goes_act`).  So the account that moves keep in
whatever order they come (`Writers.Accounts`) is also that of the calls as they are carried out.
-/

namespace DongleLink

open Writers

/-! ## What opening and closing are made of -/

namespace Port

variable {σ : Type} [Wire σ]

/-- The port after pieces of work in order. -/
def carryAll (pieces : List Piece) (p : Port σ) : Port σ :=
  pieces.foldl (fun p piece => p.carryOut piece) p

/-- A session that is taken down, but for its sending half. -/
def takingDown : List Piece := [.leave, .unwant, .linkDown, .shutdown]

/-- What attaches a stream once it is connected. -/
def attaching : List Piece := [.linkUp, .want, .start, .equip]

theorem teardown_of_none {p : Port σ} (h : p.session = none) :
    p.teardown = p.carryAll [.unwant, .linkDown] := by
  simp [teardown, h, carryAll, carryOut]

/-- The sending half is taken out of its place last, when nobody writes to it. -/
theorem teardown_of_some {p : Port σ} {l : Loop} (h : p.session = some l) :
    p.teardown = p.carryAll (takingDown ++ [.detach]) := by
  simp [teardown, h, takingDown, carryAll, carryOut]

theorem attached_eq (wire : σ) (p : Port σ) :
    p.attached wire = ({ p with wire := wire } : Port σ).carryAll attaching := by
  simp [attached, attaching, carryAll, carryOut, startedLoop]

/-- Who writes does not look at the place that the sending half came from. -/
theorem transmit_detach (bytes : List UInt8) (p : Port σ) :
    (p.carryOut .detach).transmit bytes =
      ((p.transmit bytes).1, (p.transmit bytes).2.carryOut .detach) := by
  rw [transmit, transmit]
  simp only [carryOut]
  split <;> simp [count]

end Port

namespace InUse

/-! ## Moves behind a call -/

/-- What became of the writes that came to their end. -/
def writeFates (ended : List Ended) : List WriteFate :=
  ended.filterMap fun
    | .write fate => some fate
    | .reader _ => none

/-- Writers and others stand as the port in use has it. -/
structure Shown (s : Writers Simulated) (u : InUse Simulated) : Prop where
  port_eq : s.port = u.port
  queued_eq : s.queued.map WriteCall.bytes = u.queued
  holder_eq : s.holder.map (fun h => (h.call.bytes, h.parked)) = u.held.map (·, true)

namespace Shown

variable {s : Writers Simulated} {u : InUse Simulated}

theorem holder_eq_none (h : Shown s u) (hheld : u.held = none) : s.holder = none := by
  simpa [hheld] using h.holder_eq

/-- The held write is that of the call with the lock. -/
theorem exists_holder (h : Shown s u) {bytes : List UInt8} (hheld : u.held = some bytes) :
    ∃ holder, s.holder = some holder ∧ holder.call.bytes = bytes ∧ holder.parked = true := by
  have hholder := h.holder_eq
  rw [hheld, Option.map_some, Option.map_eq_some_iff] at hholder
  obtain ⟨holder, hs, hparts⟩ := hholder
  exact ⟨holder, hs, (Prod.mk.inj hparts).1, (Prod.mk.inj hparts).2⟩

end Shown

/-- Moves lead from the one to the other; these calls come in between, and these endings. -/
def Comes (s : Writers Simulated) (calls : List (List UInt8)) (ended : List WriteFate)
    (t : Writers Simulated) : Prop :=
  ∃ moves, course (step Simulated.Control.apply) moves s = some t ∧
    (called (along (step Simulated.Control.apply) notes moves s)).map WriteCall.bytes = calls ∧
    fates (along (step Simulated.Control.apply) notes moves s) = ended

namespace Comes

variable {s t x : Writers Simulated} {calls more : List (List UInt8)}
  {ended after : List WriteFate}

theorem refl (s : Writers Simulated) : Comes s [] [] s := ⟨[], rfl, rfl, rfl⟩

theorem trans (h : Comes s calls ended t) (k : Comes t more after x) :
    Comes s (calls ++ more) (ended ++ after) x := by
  obtain ⟨first, hfirst, rfl, rfl⟩ := h
  obtain ⟨second, hsecond, rfl, rfl⟩ := k
  refine ⟨first ++ second, course_append_eq_some.2 ⟨t, hfirst, hsecond⟩, ?_, ?_⟩
  · rw [along_append hfirst, called_append, List.map_append]
  · rw [along_append hfirst, fates_append]

theorem move {m : Move Simulated.Control} (h : step Simulated.Control.apply m s = some t)
    (hcalls : (called (notes m s)).map WriteCall.bytes = calls)
    (hended : fates (notes m s) = ended) : Comes s calls ended t :=
  ⟨[m], course_cons_eq_some.2 ⟨t, h, rfl⟩, by simpa [along, h] using hcalls,
    by simpa [along, h] using hended⟩

end Comes

/-- However writers and others stand behind the one port in use, moves bring them to stand behind
the other; these calls come in between, and these writes end. -/
def Goes (u : InUse Simulated) (calls : List (List UInt8)) (ended : List Ended)
    (v : InUse Simulated) : Prop :=
  ∀ s, Shown s u → ∃ t, Comes s calls (writeFates ended) t ∧ Shown t v

namespace Goes

variable {u v w : InUse Simulated} {calls more : List (List UInt8)} {ended after : List Ended}

theorem refl (u : InUse Simulated) : Goes u [] [] u := fun s hs => ⟨s, .refl s, hs⟩

theorem trans (h : Goes u calls ended v) (k : Goes v more after w) :
    Goes u (calls ++ more) (ended ++ after) w := by
  intro s hs
  obtain ⟨t, hfirst, ht⟩ := h s hs
  obtain ⟨x, hsecond, hx⟩ := k t ht
  refine ⟨x, ?_, hx⟩
  rw [writeFates, List.filterMap_append]
  exact hfirst.trans hsecond

/-! ### Those who do not write -/

theorem piece (p : Port.Piece) (u : InUse Simulated)
    (hfree : p.needsLock = true → u.held = none) :
    Goes u [] [] { u with port := u.port.carryOut p } := by
  intro s hs
  have hallowed : (p.needsLock && s.holder.isSome) = false := by
    cases hneeds : p.needsLock with
    | false => rfl
    | true => simp [hs.holder_eq_none (hfree hneeds)]
  have hstep : step Simulated.Control.apply (.piece p) s =
      some { s with port := s.port.carryOut p } := by simp [step, hallowed]
  exact ⟨_, .move hstep rfl rfl, by rw [hs.port_eq], hs.queued_eq, hs.holder_eq⟩

theorem pieces {pieces : List Port.Piece} (u : InUse Simulated)
    (hfree : ∀ p ∈ pieces, p.needsLock = true → u.held = none) :
    Goes u [] [] { u with port := u.port.carryAll pieces } := by
  induction pieces generalizing u with
  | nil => exact refl u
  | cons p pieces ih =>
      rw [List.forall_mem_cons] at hfree
      exact (piece p u hfree.1).trans (ih { u with port := u.port.carryOut p } hfree.2)

theorem control (c : Simulated.Control) (u : InUse Simulated) :
    Goes u [] [] { u with port.wire := c.apply u.port.wire } := by
  intro s hs
  have hstep : step Simulated.Control.apply (.onWire c) s =
      some { s with port.wire := c.apply s.port.wire } := rfl
  exact ⟨_, .move hstep rfl rfl, by rw [hs.port_eq], hs.queued_eq, hs.holder_eq⟩

/-- How many readers wait is nothing to the writers. -/
theorem readers (h : Goes u calls ended v) (n : Nat) :
    Goes u calls ended { v with readers := n } := by
  intro s hs
  obtain ⟨t, hmoves, ht⟩ := h s hs
  exact ⟨t, hmoves, ht.port_eq, ht.queued_eq, ht.holder_eq⟩

/-! ### Writers -/

/-- A call comes and waits. -/
theorem comes {bytes : List UInt8} (hbytes : bytes ≠ []) (u : InUse Simulated) :
    Goes u [bytes] [] { u with queued := u.queued ++ [bytes] } := by
  intro s hs
  have hempty : bytes.isEmpty = false := by simpa using hbytes
  refine ⟨s.receive bytes, .move (m := .write bytes) rfl ?_ ?_, ?_⟩
  · simp [notes, hempty, called]
  · simp [notes, hempty, fates, endings, writeFates]
  · simp only [Writers.receive, hempty, Bool.false_eq_true, if_false]
    exact ⟨hs.port_eq, by simp [hs.queued_eq], hs.holder_eq⟩

/-- The held write is let go and ends. -/
theorem resumes {bytes : List UInt8} (hheld : u.held = some bytes)
    (hfree : Wire.holds u.port.wire = false) :
    Goes u [] [.write (({ u.port with wire := Wire.unpark u.port.wire }.transmit bytes).1)]
      u.finishHeld := by
  intro s hs
  obtain ⟨holder, hholder, hbytes, hparked⟩ := hs.exists_holder hheld
  have hfree' : Wire.holds s.port.wire = false := by rw [hs.port_eq]; exact hfree
  have hcarry : carry holder s.port =
      { u.port with wire := Wire.unpark u.port.wire }.transmit bytes := by
    rw [carry, hparked, hbytes, hs.port_eq, if_pos rfl]
  refine ⟨s.finish holder, .move (goOn_ends hholder hfree') ?_ ?_, ?_⟩
  · simp [notes, hholder, hfree', called]
  · simp [notes, hholder, hfree', fates, endings, writeFates, hcarry]
  · simp only [finish, finishHeld, hheld, hcarry]
    exact ⟨rfl, hs.queued_eq, rfl⟩

/-- The first of the waiting writes has its turn: it is ignored, or it gets the lock and goes on
at once, and is held up or ends. -/
theorem turn {u : InUse Simulated} (hheld : u.held = none) (bytes : List UInt8)
    (rest : List (List UInt8)) :
    Goes { u with queued := bytes :: rest } [] (u.tryWrite bytes).1
      { (u.tryWrite bytes).2 with queued := rest } := by
  intro s hs
  have hholder := hs.holder_eq_none hheld
  have hport : s.port = u.port := hs.port_eq
  have hwaiting := hs.queued_eq
  rw [List.map_eq_cons_iff] at hwaiting
  obtain ⟨call, calls, hcalls, hbytes, hrest⟩ := hwaiting
  have hcall : s.queued[0]? = some call := by simp [hcalls]
  cases haccepts : u.port.accepts with
  | false =>
      have hignored :
          step Simulated.Control.apply (.turn 0) s = some { s with queued := calls } := by
        simp [step, giveTurn, hholder, hcalls, hport, haccepts]
      simp only [tryWrite, haccepts, Bool.not_false, if_true]
      refine ⟨_, .move hignored ?_ ?_, hport, hrest, by rw [hholder, hheld]; rfl⟩
      · simp [notes, hcall, hport, haccepts, called]
      · simp [notes, hcall, hport, haccepts, fates, endings, writeFates]
  | true =>
      let locked : Writers Simulated := { s with queued := calls, holder := some { call := call } }
      have hlocks : step Simulated.Control.apply (.turn 0) s = some locked := by
        simp [step, giveTurn, hholder, hcalls, hport, haccepts, locked]
      have hfirst : Comes s [] [] locked := by
        refine .move hlocks ?_ ?_
        · simp [notes, hcall, hport, haccepts, called]
        · simp [notes, hcall, hport, haccepts, fates, endings]
      cases hholds : Wire.holds u.port.wire with
      | true =>
          have hparks : step Simulated.Control.apply .goOn locked =
              some (locked.park { call := call }) := by
            simp [step, locked, hport, hholds]
          have hsecond : Comes locked [] [] (locked.park { call := call }) :=
            .move hparks (by simp [notes, locked, hport, hholds, called])
              (by simp [notes, locked, hport, hholds, fates, endings])
          simp only [tryWrite, haccepts, hholds, Bool.not_true, Bool.false_eq_true, if_false,
            if_true]
          exact ⟨_, hfirst.trans hsecond, by simp [Writers.park, locked, hport], hrest,
            by simp [Writers.park, hbytes]⟩
      | false =>
          have hends : step Simulated.Control.apply .goOn locked =
              some (locked.finish { call := call }) :=
            goOn_ends rfl (by simpa [locked, hport] using hholds)
          have hcarry : carry { call := call } locked.port = u.port.transmit bytes := by
            simp [carry, locked, hport, hbytes]
          have hsecond : Comes locked [] [(u.port.transmit bytes).1]
              (locked.finish { call := call }) := by
            refine .move hends ?_ ?_
            · simp [notes, locked, hport, hholds, called]
            · simp [notes, locked, hport, hholds, fates, endings, carry, hbytes]
          simp only [tryWrite, haccepts, hholds, Bool.not_true, Bool.false_eq_true, if_false]
          exact ⟨_, hfirst.trans hsecond, by rw [Writers.finish, hcarry], hrest,
            by simp [Writers.finish, hheld]⟩

end Goes

/-! ## Calls with all that they set free -/

variable {settings : Settings} {opens : List LineOverrides}
variable {u v : InUse Simulated} {calls : List (List UInt8)} {ended : List Ended}

theorem goes_serveQueued (writes : List (List UInt8)) (hheld : u.held = none) :
    Goes { u with queued := writes } [] (serveQueued writes u).1 (serveQueued writes u).2 := by
  induction writes generalizing u with
  | nil => exact .refl _
  | cons bytes writes ih =>
      have hturn := Goes.turn hheld bytes writes
      rw [serveQueued]
      split
      next fate v h =>
      rw [h] at hturn
      split
      · exact hturn
      next hfree => exact hturn.trans (ih (by simpa using hfree))

theorem goes_serveWriters (u : InUse Simulated) :
    Goes u [] u.serveWriters.1 u.serveWriters.2 := by
  rw [serveWriters]
  cases hheld : u.held with
  | none => exact .refl u
  | some bytes =>
      cases hholds : Wire.holds u.port.wire with
      | true => exact .refl u
      | false =>
          have hresume := Goes.resumes hheld hholds
          simp only [finishHeld, hheld] at hresume
          exact hresume.trans (goes_serveQueued u.queued (u := { u with
            port := ({ u.port with wire := Wire.unpark u.port.wire }.transmit bytes).2
            held := none }) rfl)

theorem goes_look (u : InUse Simulated) : Goes u [] [] { u with port := u.port.look.2 } :=
  .piece .look u (fun h => by cases h)

/-- Readers are told something, and no write ends by that. -/
theorem goes_serveReaders (n : Nat) (u : InUse Simulated) :
    Goes u [] (serveReaders n u).1 (serveReaders n u).2 := by
  induction n generalizing u with
  | zero => exact .refl u
  | succ n ih =>
      have hlook := (goes_look u).readers n
      rw [serveReaders]
      split
      · exact .refl u
      next port h =>
        rw [h] at hlook
        exact hlook.trans (ih _)
      next b port h =>
        rw [h] at hlook
        exact hlook.trans (ih _)

theorem goes_listen (n : Nat) (u : InUse Simulated) :
    Goes u [] (listen n u).1 (listen n u).2 := by
  induction n generalizing u with
  | zero => exact .refl u
  | succ n ih =>
      have hread := Goes.piece .read u (fun h => by cases h)
      have hhear := Goes.piece
        (.hear (Wire.readChunk u.port.settings.chunkSize u.port.wire).1)
        { u with port := u.port.carryOut .read } (fun h => by cases h)
      rw [listen]
      split
      · exact .refl u
      · exact ((hread.trans hhear).trans (goes_serveReaders _ _)).trans (ih _)

/-- Readers and loop have their turns after the writers. -/
theorem Goes.settle_of_serveWriters {before : List Ended}
    (h : Goes u calls (before ++ v.serveWriters.1) v.serveWriters.2) :
    Goes u calls (before ++ v.settle.1) v.settle.2 := by
  have hread := h.trans (goes_serveReaders v.serveWriters.2.readers v.serveWriters.2)
  have hall := hread.trans (goes_listen (Wire.backlog
    (serveReaders v.serveWriters.2.readers v.serveWriters.2).2.port.wire) _)
  simp only [List.append_nil, List.append_assoc] at hall
  simpa only [InUse.settle, List.append_assoc] using hall

theorem Goes.settle (h : Goes u calls ended v) : Goes u calls (ended ++ v.settle.1) v.settle.2 := by
  have hwritten := h.trans (goes_serveWriters v)
  rw [List.append_nil] at hwritten
  exact hwritten.settle_of_serveWriters

/-! ### Opening and closing -/

/-- A session is taken down while nobody writes. -/
theorem goes_teardown (hheld : u.held = none) :
    Goes u [] [] { u with port := u.port.teardown } := by
  cases hsession : u.port.session with
  | none =>
      rw [Port.teardown_of_none hsession]
      exact .pieces u fun _ _ _ => hheld
  | some l =>
      rw [Port.teardown_of_some hsession]
      exact .pieces u fun _ _ _ => hheld

/-- Where nobody writes, opening is pieces of work. -/
theorem goes_openWith (hheld : u.held = none) (o : LineOverrides) :
    Goes u [] [] { u with port := (u.port.openWith o).2 } := by
  have hvacated : Goes u [] [] { u with port := u.port.vacated } := by
    rw [Port.vacated]
    split
    · exact goes_teardown hheld
    · exact .refl u
  have hconnect := hvacated.trans
    (Goes.piece (.connect o) { u with port := u.port.vacated } (fun h => by cases h))
  obtain ⟨-, -, heq⟩ | ⟨-, ⟨e, wire, hwire, heq⟩ | ⟨wire, hwire, heq⟩⟩ := u.port.openWith_cases o
  · rw [heq]
    exact .refl u
  · rw [← u.port.settings_vacated] at hwire
    simp only [Port.carryOut, hwire] at hconnect
    rw [heq]
    exact hconnect
  · rw [← u.port.settings_vacated] at hwire
    simp only [Port.carryOut, hwire] at hconnect
    rw [heq, Port.attached_eq]
    exact hconnect.trans (.pieces { u with port := { u.port.vacated with wire := wire } }
      fun _ _ _ => hheld)

/-- So is opening where there may be no thread: the new stream is then taken down again. -/
theorem goes_openThreaded (hheld : u.held = none) (thread : Except IoFault Unit)
    (o : LineOverrides) : Goes u [] [] { u with port := (u.port.openThreaded thread o).2 } := by
  have hopen := goes_openWith hheld o
  obtain heq | ⟨fault, -, -, heq⟩ := Port.openThreaded_cases thread o u.port
  · rwa [heq]
  · rw [heq]
    exact hopen.trans (goes_teardown (u := { u with port := (u.port.openWith o).2 }) hheld)

/-- Closing under a held write: the stream is shut down, which lets the write go, and only when it
has ended is the sending half taken out of its place. -/
theorem goes_close_of_held {bytes : List UInt8} (hheld : u.held = some bytes)
    (hsession : u.port.session.isSome = true) :
    Goes u [] (serveWriters { u with port := u.port.teardown }).1
      (serveWriters { u with port := u.port.teardown }).2 := by
  obtain ⟨l, hl⟩ := Option.isSome_iff_exists.1 hsession
  let down := u.port.carryAll Port.takingDown
  let free := { down with wire := Wire.unpark down.wire }
  have hteardown : u.port.teardown = down.carryOut .detach := by
    rw [Port.teardown_of_some hl, Port.carryAll, List.foldl_append]
    rfl
  have hholds : Wire.holds down.wire = false := by
    simp [down, Port.takingDown, Port.carryAll, Port.carryOut, Wire.holds, Simulated.holds,
      Simulated.isOver, Wire.shutdown, Simulated.shutdown]
  have hdown : Goes u [] [] { u with port := down } :=
    .pieces u fun p hp hneeds => by
      simp only [Port.takingDown, List.mem_cons, List.not_mem_nil, or_false] at hp
      obtain rfl | rfl | rfl | rfl := hp <;> cases hneeds
  have hresume := hdown.trans (Goes.resumes (u := { u with port := down }) hheld hholds)
  simp only [finishHeld, hheld] at hresume
  have hdetach := hresume.trans (Goes.piece .detach
    { u with port := (free.transmit bytes).2, held := none } fun _ => rfl)
  have hserve := hdetach.trans (goes_serveQueued u.queued (u := { u with
    port := (free.transmit bytes).2.carryOut .detach, held := none }) rfl)
  have hsame : ({ down.carryOut .detach with
      wire := Wire.unpark (down.carryOut .detach).wire } : Port Simulated).transmit bytes =
        ((free.transmit bytes).1, (free.transmit bytes).2.carryOut .detach) :=
    Port.transmit_detach bytes free
  have hfree : Wire.holds (down.carryOut .detach).wire = false := hholds
  rw [hteardown, serveWriters]
  simp only [hheld, hfree, hsame, Bool.false_eq_true, if_false]
  exact hserve

/-! ### Every call -/

/-- The bytes of a call that has something to write. -/
def Call.payload : Call → List (List UInt8)
  | .write bytes => if bytes.isEmpty then [] else [bytes]
  | _ => []

theorem goes_read (patience : Patience) (u : InUse Simulated) :
    Goes u [] [] (u.read patience).2 := by
  have hlook := goes_look u
  cases h : u.port.look with
  | mk found port =>
      rw [h] at hlook
      cases found with
      | byte b => simpa [read, h] using hlook
      | closed => simpa [read, h] using Goes.refl u
      | empty =>
          have hwaits := (Goes.refl u).readers (u.readers + 1)
          cases patience with
          | brief => simpa [read, h] using Goes.refl u
          | unlimited => simpa [read, h] using hwaits

/-- A write waits for its turn, and has it at once if no write is held up. -/
theorem goes_write (hrest : AtRest u) (bytes : List UInt8) :
    Goes u (Call.write bytes).payload (u.write bytes).1 (u.write bytes).2 := by
  cases hempty : bytes.isEmpty with
  | true =>
      rw [write, if_pos hempty, Call.payload, if_pos hempty]
      exact (Goes.refl u).settle
  | false =>
      have hbytes : bytes ≠ [] := by simpa using hempty
      have hcomes := Goes.comes hbytes u
      rw [write, if_neg (by simp [hempty]), Call.payload, if_neg (by simp [hempty])]
      obtain hheld | ⟨waiting, hheld⟩ := Option.eq_none_or_eq_some u.held
      · have hqueued := ((atRest_iff u).1 hrest).2.2.2 hheld
        have hturn := Goes.turn hheld bytes []
        rw [show ({ (u.tryWrite bytes).2 with queued := [] } : InUse Simulated) =
          (u.tryWrite bytes).2 by rw [← hqueued, ← queued_tryWrite bytes u]] at hturn
        rw [hqueued] at hcomes
        rw [if_neg (by simp [hheld])]
        exact (hcomes.trans hturn).settle
      · rw [if_pos (by simp [hheld])]
        exact hcomes.settle

/-- **A call, with all that it sets free, is some moves**, and what its writers are told is what
these moves tell. -/
theorem goes_act (hstep : u.InStep settings opens) (hrest : AtRest u) (c : Call) :
    Goes u c.payload (u.act c.action).1.2 (u.act c.action).2 := by
  have hsession : ∀ {bytes}, u.held = some bytes → u.port.session.isSome = true := by
    intro bytes hheld
    rw [Option.isSome_iff_ne_none]
    exact hstep.session_of_held (by simp [hheld])
  cases c with
  | openWith o thread =>
      have hopen : Goes u [] [] { u with port := (u.port.openThreaded thread o).2 } := by
        obtain hheld | ⟨bytes, hheld⟩ := Option.eq_none_or_eq_some u.held
        · exact goes_openThreaded hheld thread o
        · -- a write is held up on a live link only, which is left alone
          have hup := ((hstep.agrees hrest).stalled_of_held (by simp [hheld])).2
          obtain ⟨-, -, heq⟩ | ⟨hnone | hdown, -⟩ := u.port.openWith_cases o
          · simp only [Port.openThreaded, heq]
            exact .refl u
          · simpa [hnone] using hsession hheld
          · simp [hdown] at hup
      exact hopen.settle
  | close =>
      obtain hheld | ⟨bytes, hheld⟩ := Option.eq_none_or_eq_some u.held
      · exact (goes_teardown hheld).settle
      · let down : InUse Simulated := { u with port := u.port.teardown }
        have hdown : Goes u [] ([] ++ down.serveWriters.1) down.serveWriters.2 :=
          goes_close_of_held hheld (hsession hheld)
        exact hdown.settle_of_serveWriters
  | purge => exact (Goes.piece .purge u fun h => by cases h).settle
  | write bytes => exact goes_write hrest bytes
  | read patience => exact goes_read patience u
  | control c => exact (Goes.control c u).settle

/-- **So is a run of calls.** -/
theorem goes_run (hchunk : 1 ≤ settings.chunkSize) (calls : List Call)
    (h : u.InStep settings opens) (hrest : AtRest u) :
    Goes u (calls.flatMap Call.payload)
      ((run (calls.map Call.action) u).1.flatMap Prod.snd)
      (run (calls.map Call.action) u).2 := by
  induction calls generalizing u opens with
  | nil => exact .refl u
  | cons c calls ih =>
      obtain ⟨hrest', hstep'⟩ := inStep_act hchunk h hrest c
      exact (goes_act h hrest c).trans (ih hstep' hrest')

/-! ## The account -/

/-- At the beginning nobody has called. -/
theorem shown_new (p : Port Simulated) : Shown { port := p } { port := p } := ⟨rfl, rfl, rfl⟩

/-- As many calls came as ended, are held up or wait. -/
theorem length_of_comes {p : Port Simulated} {wire : Simulated}
    (hp : Port.create wire settings = .ok p) {s : Writers Simulated} {ended : List WriteFate}
    (h : Comes { port := p } calls ended s) (hs : Shown s u) :
    calls.length = ended.length + u.held.toList.length + u.queued.length := by
  obtain ⟨moves, hcourse, rfl, rfl⟩ := h
  have haccounts := accounts_of_course hp hcourse
  have hcalled := haccounts.perm_called.length_eq
  have htaken := congrArg List.length haccounts.taken_eq
  have hholder := congrArg (fun o => o.toList.length) hs.holder_eq
  simp only [List.length_append, List.length_map, Option.toList_map] at hcalled htaken hholder
  rw [← hs.queued_eq, List.length_map, List.length_map, fates, List.length_map]
  omega

/-- **Every write is accounted for.**  Over any stream, and in whatever order writers and others
move: each call that has something to write waits, has the lock or has ended, once, as delivered,
failed or ignored; it is ignored exactly if there is no sending half or no loop is wanted when it
gets the lock; the counters are what the endings add up to; and writers leave the rest of the port
alone.  Over a simulated dongle the log is what was delivered since it was cleared, and all that
comes back is the echo of it.  Calls that are carried out one after the other, with all that they
set free, are such moves. -/
theorem writes_accounted :
    (∀ {σ κ : Type} [Wire σ] (far : κ → σ → σ) (wire : σ) (settings : Settings) (p : Port σ),
      Port.create wire settings = .ok p → ∀ moves s,
        course (step far) moves { port := p } = some s →
        Orderly far (along (step far) notes moves { port := p }) s) ∧
    (∀ (name : String) (echo : Bool) (settings : Settings) (p : Port Simulated),
      Port.create { name := name, echo := echo } settings = .ok p →
      (∀ moves s, course (step Simulated.Control.apply) moves { port := p } = some s →
        s.port.wire.log = delivered (fates (sinceClear
          (along (step Simulated.Control.apply) notes moves { port := p }))) ∧
        ∀ m t, step Simulated.Control.apply m s = some t → m.isWriters = true →
          t.port.wire.queue = s.port.wire.queue ++
            if s.port.wire.echo then (delivered (fates (notes m s))).flatten else []) ∧
      ∀ calls : List Call,
        let after := (run (calls.map Call.action) { port := p }).2
        let ended := writeFates
          ((run (calls.map Call.action) { port := p }).1.flatMap Prod.snd)
        (∃ s, Comes { port := p } (calls.flatMap Call.payload) ended s ∧ Shown s after) ∧
          CountsTo after.port.counters ended ∧
          (calls.flatMap Call.payload).length =
            ended.length + after.held.toList.length + after.queued.length ∧
          after.act (.write []) = ((.done, []), after)) ∧
    ∀ {σ : Type} [Wire σ] (b : UInt8) (u : InUse σ), u.writeByte b = u.write [b] := by
  refine ⟨fun far wire settings p hp moves s hcourse => orderly_of_course hp hcourse,
    fun name echo settings p hp => ⟨fun moves s hcourse => ?_, fun calls => ?_⟩,
    fun b u => rfl⟩
  · have hlog : p.wire.log = [] := by
      obtain ⟨-, -, -, rfl⟩ := Port.create_eq_ok_iff.1 hp
      rfl
    exact ⟨log_of_course hlog hcourse, fun m t hstep hm => (trace_of_step hstep hm).2⟩
  · have hchunk := (Port.create_eq_ok_iff.1 hp).1
    have hgoes := goes_run hchunk calls (inStep_create hp) (atRest_create hp)
    have hrest := (inStep_run hchunk calls (inStep_create hp) (atRest_create hp)).1
    obtain ⟨s, hcomes, hs⟩ := hgoes { port := p } (shown_new p)
    refine ⟨⟨s, hcomes, hs⟩, ?_, length_of_comes hp hcomes hs, ?_⟩
    · obtain ⟨moves, hcourse, -, hended⟩ := hcomes
      rw [← hended, ← hs.port_eq]
      exact (accounts_of_course hp hcourse).counts
    · have hsettle := settle_of_atRest hrest
      simp only [act, write, List.isEmpty_nil, if_true, hsettle]

/-- The pieces of an opening that works. -/
def openingMoves : List (Move Simulated.Control) :=
  [.piece (.connect {}), .piece .linkUp, .piece .want, .piece .start, .piece .equip]

/-- A call on the closed port; on the first link one that is delivered, one that fails, and one that
overtakes another and is held up until the stream is shut down under it, by somebody who does not
want a loop when the other has its turn; and on the second link, after the log was cleared, one
that comes back. -/
def sixWrites : List (Move Simulated.Control) :=
  [.write [9], .turn 0] ++ openingMoves ++
    [.write [1, 2], .turn 0, .goOn,
      .onWire (.failWrites true), .write [3], .turn 0, .goOn, .onWire (.failWrites false),
      .onWire (.stall true), .write [4], .write [5, 6], .turn 1, .goOn,
      .piece .leave, .piece .unwant, .piece .linkDown, .piece .shutdown,
      .goOn, .turn 0, .piece .detach, .onWire .clearLog, .onWire (.stall false)] ++
    openingMoves ++ [.onWire (.echo true), .write [7, 8], .turn 0, .goOn]

/-- What became of the calls, in the order in which they had their turns. -/
def sixFates : List (WriteCall × WriteFate) :=
  [(⟨0, [9]⟩, .ignored), (⟨1, [1, 2]⟩, .delivered [1, 2]),
    (⟨2, [3]⟩, .failed (.described .brokenPipe "simulated write failure")),
    (⟨4, [5, 6]⟩, .failed (.described .notConnected "stream is closed")), (⟨3, [4]⟩, .ignored),
    (⟨5, [7, 8]⟩, .delivered [7, 8])]

/-- Four bytes are counted as written and two calls as failed, and the log has one entry. -/
theorem accounted_on_sixWrites :
    Port.create { name := "MOCK0" } smallSettings = .ok smallPort ∧
      ∃ s, course (step Simulated.Control.apply) sixWrites { port := smallPort } = some s ∧
        endings (along (step Simulated.Control.apply) notes sixWrites { port := smallPort }) =
          sixFates ∧
        s.port.counters.written = 4 ∧ s.port.counters.writeFailures = 2 ∧
        s.port.wire.log = [[7, 8]] ∧ s.port.wire.queue = [7, 8] := by
  have hport : Port.create { name := "MOCK0" } smallSettings = .ok smallPort := rfl
  have hqueue : (course (step Simulated.Control.apply) sixWrites { port := smallPort }).map
      (fun s => s.port.wire.queue) = some [7, 8] := by decide
  have hended : endings (along (step Simulated.Control.apply) notes sixWrites
      { port := smallPort }) = sixFates := by decide
  have hsince : fates (sinceClear (along (step Simulated.Control.apply) notes sixWrites
      { port := smallPort })) = [.delivered [7, 8]] := by decide
  obtain ⟨s, hs, hback⟩ := Option.map_eq_some_iff.1 hqueue
  have horderly := writes_accounted.1 Simulated.Control.apply { name := "MOCK0" } smallSettings
    smallPort hport sixWrites s hs
  have hlog := ((writes_accounted.2.1 "MOCK0" false smallSettings smallPort hport).1
    sixWrites s hs).1
  have hcounts := horderly.accounts.counts
  rw [fates, hended] at hcounts
  rw [hsince] at hlog
  exact ⟨hport, s, hs, hended, hcounts.written_eq, hcounts.failures_eq, hlog, hback⟩

end InUse

end DongleLink

import DongleLink.Proofs.WriteAccount

/-!
# DongleLink.Proofs.Parked

A call that the wire holds up, and the calls that wait for the lock behind it.  Three things let
them go: the dongle stops holding writes up, it hangs up, or the stream is shut down.

What becomes of the calls depends on what their writes find on the port, and that is the same
from the release on (`Released`), whatever readers, the receive loop and the rest of the far end do
meanwhile.  So the parked call ends first and the others after it, in the order of their turns
(`LetGo`).  Until then nobody who waits can move (`Stalled.step`).
-/

namespace DongleLink

open Writers

/-! ## What writers find -/

namespace Port

/-- Who comes to write finds the same on both ports. -/
structure SameForWriters (p q : Port Simulated) : Prop where
  writer_eq : q.writer = p.writer
  running_eq : q.running = p.running
  failWrites_eq : q.wire.failWrites = p.wire.failWrites
  isOver_eq : q.wire.isOver = p.wire.isOver
  stall_eq : q.wire.stall = p.wire.stall

namespace SameForWriters

theorem accepts_eq {p q : Port Simulated} (h : SameForWriters p q) : q.accepts = p.accepts := by
  rw [accepts, accepts, h.writer_eq, h.running_eq]

theorem holds_eq {p q : Port Simulated} (h : SameForWriters p q) :
    Wire.holds q.wire = Wire.holds p.wire := by
  simp only [Wire.holds, Simulated.holds, h.stall_eq, h.isOver_eq]

end SameForWriters

/-- A piece of the work of readers, of the receive loop, or of a purge. -/
def Piece.isBystanders : Piece → Bool
  | read | hear _ | look | purge => true
  | _ => false

/-- A piece of what closing an open port is made of. -/
def Piece.isClosers : Piece → Bool
  | leave | unwant | linkDown | shutdown | detach => true
  | _ => false

theorem sameForWriters_carryOut {piece : Piece} (h : piece.isBystanders = true)
    (p : Port Simulated) : SameForWriters p (p.carryOut piece) := by
  cases piece with
  | read =>
      obtain ⟨queue, hread⟩ := p.wire.readChunk_eq p.settings.chunkSize
      simp only [carryOut, hread]
      exact ⟨rfl, rfl, rfl, rfl, rfl⟩
  | hear r =>
      simp only [carryOut]
      obtain ⟨bytes, -, -, heq⟩ | ⟨-, heq | heq⟩ := hear_cases r p <;> rw [heq] <;>
        exact ⟨rfl, rfl, rfl, rfl, rfl⟩
  | look =>
      simp only [carryOut]
      obtain ⟨b, inbox, -, heq⟩ | ⟨-, heq⟩ := p.look_cases <;> rw [heq] <;>
        exact ⟨rfl, rfl, rfl, rfl, rfl⟩
  | purge => exact ⟨rfl, rfl, rfl, rfl, rfl⟩
  | _ => cases h

/-- One write leaves what the next one finds. -/
theorem sameForWriters_transmit (bytes : List UInt8) (p : Port Simulated) :
    SameForWriters p (p.transmit bytes).2 := by
  obtain ⟨log, queue, hwrite⟩ := p.wire.write_eq bytes
  refine ⟨by simp, by simp, ?_, ?_, ?_⟩ <;> rw [wire_transmit, hwrite]
  rfl

/-- So does one that ends its wait. -/
theorem sameForWriters_unpark (parked : Bool) (p : Port Simulated) :
    SameForWriters p { p with wire := if parked then Wire.unpark p.wire else p.wire } := by
  cases parked <;> exact ⟨rfl, rfl, rfl, rfl, rfl⟩

theorem spares_transmit (bytes : List UInt8) (p : Port Simulated) :
    Spares p (p.transmit bytes).2 := by
  obtain ⟨hreceived, hdelivered, hevicted⟩ := p.counters_transmit bytes
  exact ⟨by simp, by simp, by simp, by simp, by simp, hreceived, hdelivered, hevicted⟩

/-- From the one port to the other these entries were made in the log, and counted, and so many
writes failed. -/
structure Gains (p q : Port Simulated) (entries : List (List UInt8)) (failed : Nat) : Prop where
  log_eq : q.wire.log = p.wire.log ++ entries
  written_eq : q.counters.written = p.counters.written + .ofNat entries.flatten.length
  failures_eq : q.counters.writeFailures = p.counters.writeFailures + .ofNat failed

namespace Gains

variable {p q r : Port Simulated} {entries more : List (List UInt8)} {failed also : Nat}

/-- Nothing was logged and nothing counted. -/
theorem of_eq (hlog : q.wire.log = p.wire.log)
    (hwritten : q.counters.written = p.counters.written)
    (hfailures : q.counters.writeFailures = p.counters.writeFailures) : Gains p q [] 0 :=
  ⟨by simp [hlog], by simp [hwritten], by simp [hfailures]⟩

theorem refl (p : Port Simulated) : Gains p p [] 0 := of_eq rfl rfl rfl

theorem trans (h : Gains p q entries failed) (k : Gains q r more also) :
    Gains p r (entries ++ more) (failed + also) := by
  refine ⟨?_, ?_, ?_⟩
  · rw [k.log_eq, h.log_eq, List.append_assoc]
  · rw [k.written_eq, h.written_eq, List.flatten_append, List.length_append, UInt64.ofNat_add,
      UInt64.add_assoc]
  · rw [k.failures_eq, h.failures_eq, UInt64.ofNat_add, UInt64.add_assoc]

end Gains

theorem gains_carryOut (piece : Piece) (p : Port Simulated) : Gains p (p.carryOut piece) [] 0 :=
  .of_eq (log_carryOut piece p) (writeCounters_carryOut piece p).1
    (writeCounters_carryOut piece p).2

theorem gains_transmit (bytes : List UInt8) (p : Port Simulated) :
    Gains p (p.transmit bytes).2 (delivered [(p.transmit bytes).1])
      (failures [(p.transmit bytes).1]) := by
  refine ⟨(trace_write bytes p).1, ?_, ?_⟩ <;>
    obtain ⟨wire, -, heq⟩ | ⟨fault, wire, -, heq⟩ := p.transmit_cases bytes <;>
    simp [heq, delivered, failures]

end Port

/-! ## What lets writes go -/

/- The three releases differ in what they leave to the calls behind the parked one: they go
through, fail as it does, or find nothing to write to.  All that depends on this is said here, in
one place. -/

/-- What ends the wait of a write that the wire holds up. -/
inductive Release where
  /-- the dongle holds writes up no more -/
  | stallOff
  | hangUp
  /-- the stream is shut down, where no loop is wanted any more -/
  | shutDown
  deriving DecidableEq

namespace Release

/-- What becomes of the write that was held up. -/
def ofParked (r : Release) (bytes : List UInt8) : WriteFate :=
  match r with
  | stallOff => .delivered bytes
  | hangUp | shutDown => .failed (.described .notConnected "stream is closed")

/-- What becomes of a write that waited behind it. -/
def ofWaiting (r : Release) (bytes : List UInt8) : WriteFate :=
  match r with
  | shutDown => .ignored
  | _ => r.ofParked bytes

/-- Writes still find a stream to write to. -/
def accepts : Release → Bool
  | shutDown => false
  | _ => true

/-- The stream is over. -/
def isOver : Release → Bool
  | stallOff => false
  | _ => true

/-- The writes that make an entry in the log. -/
def entries (r : Release) (parked : List UInt8) (waiting : List (List UInt8)) :
    List (List UInt8) :=
  match r with
  | stallOff => parked :: waiting
  | _ => []

/-- How many of the writes fail. -/
def failed (r : Release) (waiting : List (List UInt8)) : Nat :=
  match r with
  | stallOff => 0
  | hangUp => waiting.length + 1
  | shutDown => 1

theorem delivered_fates (r : Release) (parked : List UInt8) (waiting : List (List UInt8)) :
    delivered (r.ofParked parked :: waiting.map r.ofWaiting) = r.entries parked waiting := by
  cases r with
  | stallOff =>
      simp [delivered, entries, ofWaiting, ofParked, List.filterMap_map, Function.comp_def]
  | hangUp => simp [delivered, entries, ofWaiting, ofParked]
  | shutDown => simp [delivered, entries, ofWaiting, ofParked]

theorem failures_fates (r : Release) (parked : List UInt8) (waiting : List (List UInt8)) :
    failures (r.ofParked parked :: waiting.map r.ofWaiting) = r.failed waiting := by
  cases r with
  | stallOff => simp [failures, failed, ofWaiting, ofParked]
  | hangUp => simp [failures, failed, ofWaiting, ofParked, List.countP_map, Function.comp_def]
  | shutDown => simp [failures, failed, ofWaiting, ofParked, List.countP_map, Function.comp_def]

end Release

/-- What writes find after a release. -/
structure Released (r : Release) (p : Port Simulated) : Prop where
  accepts_eq : p.accepts = r.accepts
  isOver_eq : p.wire.isOver = r.isOver
  failWrites_eq : p.wire.failWrites = false
  holds_eq : Wire.holds p.wire = false

namespace Released

variable {r : Release} {p q : Port Simulated}

theorem same (h : Released r p) (k : p.SameForWriters q) : Released r q where
  accepts_eq := k.accepts_eq.trans h.accepts_eq
  isOver_eq := k.isOver_eq.trans h.isOver_eq
  failWrites_eq := k.failWrites_eq.trans h.failWrites_eq
  holds_eq := k.holds_eq.trans h.holds_eq

/-- A write that has the lock does not look whether a loop is wanted. -/
theorem transmit_fate (h : Released r p) (bytes : List UInt8) :
    (p.transmit bytes).1 = r.ofParked bytes := by
  have hover := h.isOver_eq
  have hfail := h.failWrites_eq
  cases r <;>
    simp_all [Port.transmit, Wire.write, Simulated.write, Release.ofParked, Release.isOver]

theorem carry_fate (h : Released r p) (holder : Holder) :
    (carry holder p).1 = r.ofParked holder.call.bytes :=
  (h.same (p.sameForWriters_unpark holder.parked)).transmit_fate holder.call.bytes

theorem carried (h : Released r p) (holder : Holder) : Released r (carry holder p).2 :=
  (h.same (p.sameForWriters_unpark holder.parked)).same (Port.sameForWriters_transmit _ _)

/-- The dongle holds writes up no more. -/
theorem of_stallOff (haccepts : p.accepts = true) (hholds : Wire.holds p.wire = true)
    (hfail : p.wire.failWrites = false) :
    Released .stallOff { p with wire := (Simulated.Control.stall false).apply p.wire } where
  accepts_eq := haccepts
  isOver_eq := by
    simp only [Wire.holds, Simulated.holds, Bool.and_eq_true, Bool.not_eq_true'] at hholds
    exact hholds.2
  failWrites_eq := hfail
  holds_eq := rfl

/-- The dongle hangs up, of which nobody tells the writers. -/
theorem of_hangUp (haccepts : p.accepts = true) (hfail : p.wire.failWrites = false) :
    Released .hangUp { p with wire := Simulated.Control.disconnect.apply p.wire } where
  accepts_eq := haccepts
  isOver_eq := rfl
  failWrites_eq := hfail
  holds_eq := by
    simp [Simulated.Control.apply, Wire.holds, Simulated.holds, Simulated.isOver]

/-- The stream is shut down, while no loop is wanted. -/
theorem of_shutdown (hrunning : p.running = false) (hfail : p.wire.failWrites = false) :
    Released .shutDown (p.carryOut .shutdown) where
  accepts_eq := by simp [Port.accepts, Port.carryOut, hrunning, Release.accepts]
  isOver_eq := by
    simp [Port.carryOut, Wire.shutdown, Simulated.shutdown, Simulated.isOver, Release.isOver]
  failWrites_eq := hfail
  holds_eq := by
    simp [Port.carryOut, Wire.shutdown, Simulated.shutdown, Wire.holds, Simulated.holds,
      Simulated.isOver]

/-- Closing is nothing new to who writes after the stream was shut down. -/
theorem carryOut {piece : Port.Piece} (h : Released .shutDown p)
    (hpiece : piece.isClosers = true) : Released .shutDown (p.carryOut piece) := by
  obtain ⟨haccepts, hover, hfail, hholds⟩ := h
  cases piece with
  | leave | linkDown => exact ⟨haccepts, hover, hfail, hholds⟩
  | unwant | detach => exact ⟨by simp [Port.accepts, Port.carryOut, Release.accepts], hover, hfail,
      hholds⟩
  | shutdown =>
      have hshut : (Wire.shutdown p.wire).isOver = true := by
        simp [Wire.shutdown, Simulated.shutdown, Simulated.isOver]
      refine ⟨haccepts, hshut, hfail, ?_⟩
      simp [Port.carryOut, Wire.holds, Simulated.holds, hshut]
  | _ => cases hpiece

/-- An open port is closed. -/
theorem of_teardown (hsession : p.session.isSome = true) (hfail : p.wire.failWrites = false) :
    Released .shutDown p.teardown := by
  obtain ⟨l, hl⟩ := Option.isSome_iff_exists.1 hsession
  rw [Port.teardown_of_some hl]
  have hshut : Released .shutDown (p.carryAll Port.takingDown) :=
    of_shutdown (p := p.carryAll [.leave, .unwant, .linkDown]) rfl hfail
  have hdetach : Port.Piece.detach.isClosers = true := rfl
  exact hshut.carryOut hdetach

end Released

/-! ## Moves that leave a release alone -/

/-- What is done to the dongle that writers do not notice. -/
def Simulated.Control.sparesWriters : Simulated.Control → Bool
  | enqueue _ | echo _ | turnDown _ => true
  | _ => false

theorem Port.sameForWriters_control {c : Simulated.Control} (h : c.sparesWriters = true)
    (p : Port Simulated) : SameForWriters p { p with wire := c.apply p.wire } := by
  cases c with
  | enqueue | echo | turnDown => exact ⟨rfl, rfl, rfl, rfl, rfl⟩
  | _ => cases h

namespace Writers

/-- A move of the calls that have come, or one that they do not notice. -/
def Move.isOrdinary : Move Simulated.Control → Bool
  | .write _ => false
  | .turn _ | .goOn => true
  | .piece p => p.isBystanders
  | .onWire c => c.sparesWriters

/-- The piece of a closing that a move is. -/
def Move.closing {κ : Type} : Move κ → Option Port.Piece
  | .piece p => if p.isClosers then some p else none
  | _ => none

/-- What of a closing is done in these moves, in order. -/
def closing {κ : Type} (moves : List (Move κ)) : List Port.Piece := moves.filterMap Move.closing

/-- A move of somebody who closes the port, or an ordinary one. -/
def Move.isOfClosing (m : Move Simulated.Control) : Bool := m.isOrdinary || m.closing.isSome

variable {r : Release} {h : Holder} {waiting : List WriteCall} {s t : Writers Simulated}
  {m : Move Simulated.Control} {moves : List (Move Simulated.Control)}
  {told more : List (Note Simulated.Control)}

theorem closing_append (first second : List (Move Simulated.Control)) :
    closing (first ++ second) = closing first ++ closing second :=
  List.filterMap_append

/-! ### What is logged and counted -/

/-- A call that ends is counted. -/
theorem counts_of_ends {p q : Port Simulated} {call : WriteCall} {fate : WriteFate}
    (h : Ends p q call fate) :
    q.counters.written = p.counters.written + .ofNat (delivered [fate]).flatten.length ∧
      q.counters.writeFailures = p.counters.writeFailures + .ofNat (failures [fate]) := by
  cases h with
  | delivered hwritten hfailures => simp [delivered, failures, hwritten, hfailures]
  | failed _ hwritten hfailures => simp [delivered, failures, hwritten, hfailures]
  | ignored hport => simp [delivered, failures, hport]

theorem gains_of_step (hstep : step Simulated.Control.apply m s = some t)
    (hm : m ≠ .onWire .clearLog) :
    Port.Gains s.port t.port (delivered (fates (notes m s))) (failures (fates (notes m s))) := by
  have hlog := log_of_step hstep hm
  obtain ⟨hended, hwritten, hfailures⟩ | ⟨call, fate, hended, hends⟩ := ends_of_step hstep
  · have hnone : fates (notes m s) = [] := by rw [fates, hended]; rfl
    rw [hnone] at hlog ⊢
    exact .of_eq (hlog.trans (List.append_nil _)) hwritten hfailures
  · have hone : fates (notes m s) = [fate] := by rw [fates, hended]; rfl
    rw [hone] at hlog ⊢
    obtain ⟨hwritten, hfailures⟩ := counts_of_ends hends
    exact ⟨hlog, hwritten, hfailures⟩

/-- The log is not cleared in ordinary moves, nor by who closes the port. -/
theorem ne_clearLog_of_isOfClosing (hm : m.isOfClosing = true) : m ≠ .onWire .clearLog := by
  rintro rfl
  cases hm

/-- **What is logged and counted in a course of moves** is what the endings tell. -/
theorem gains_of_course (hmoves : ∀ m ∈ moves, m ≠ .onWire .clearLog)
    (hcourse : course (step Simulated.Control.apply) moves s = some t) :
    Port.Gains s.port t.port
      (delivered (fates (along (step Simulated.Control.apply) notes moves s)))
      (failures (fates (along (step Simulated.Control.apply) notes moves s))) := by
  have hall := along_keeps_of_forall notes (Q := (· ≠ .onWire .clearLog))
    (P := fun told x => Port.Gains s.port x.port (delivered (fates told)) (failures (fates told)))
    (fun told m x y hm hx hstep => by
      have hmore := hx.trans (gains_of_step hstep hm)
      rwa [← delivered_append, ← failures_append, ← fates_append] at hmore)
    hmoves [] (.refl s.port) hcourse
  simpa using hall

/-! ### The calls that were held up -/

/-- How far the calls have come that `h` held up: it holds them up still, or it has ended, and some
of the others have too. -/
inductive LetGo (r : Release) (h : Holder) (waiting : List WriteCall)
    (told : List (Note Simulated.Control)) (t : Writers Simulated) : Prop where
  | held (hended : endings told = []) (hholder : t.holder = some h) (hqueued : t.queued = waiting)
  | going (rest : List WriteCall)
      (hended : endings told = (h.call, r.ofParked h.call.bytes) ::
        rest.map fun call => (call, r.ofWaiting call.bytes))
      (hperm : (rest ++ (t.holder.toList.map Holder.call ++ t.queued)).Perm waiting)
      (hholder : r = .shutDown → t.holder = none)

namespace LetGo

theorem congr (hl : LetGo r h waiting told s) (hended : endings more = endings told)
    (hholder : t.holder = s.holder) (hqueued : t.queued = s.queued) :
    LetGo r h waiting more t := by
  cases hl with
  | held hnone hs hwaiting =>
      exact .held (hended.trans hnone) (hholder.trans hs) (hqueued.trans hwaiting)
  | going rest hsome hperm hs =>
      exact .going rest (hended.trans hsome) (by rwa [hholder, hqueued]) (by rwa [hholder])

/-- A call that had its turn ends, or has the lock. -/
theorem perm_of_turn {rest queued waiting : List WriteCall} {i : Nat} {call : WriteCall}
    (hcall : queued[i]? = some call) (hperm : (rest ++ queued).Perm waiting) :
    (rest ++ (call :: queued.eraseIdx i)).Perm waiting := by
  obtain ⟨hi, rfl⟩ := List.getElem?_eq_some_iff.1 hcall
  exact ((List.getElem_cons_eraseIdx_perm hi).append_left rest).trans hperm

/-- One more of the calls has ended. -/
theorem endings_concat {rest : List WriteCall} {call : WriteCall} {fate : WriteFate}
    (htold : endings told = (h.call, r.ofParked h.call.bytes) ::
      rest.map fun call => (call, r.ofWaiting call.bytes))
    (hmore : endings more = [(call, fate)]) (hfate : r.ofWaiting call.bytes = fate) :
    endings (told ++ more) = (h.call, r.ofParked h.call.bytes) ::
      (rest ++ [call]).map fun call => (call, r.ofWaiting call.bytes) := by
  rw [endings_append, htold, hmore, List.map_append, List.map_singleton, hfate]
  rfl

/-- **After a release every call ends as the release has it**, the parked one first. -/
theorem step (hr : Released r s.port) (hl : LetGo r h waiting told s)
    (hm : m.isOrdinary = true ∨ r = .shutDown ∧ m.closing.isSome = true)
    (hstep : Writers.step Simulated.Control.apply m s = some t) :
    Released r t.port ∧ LetGo r h waiting (told ++ notes m s) t := by
  cases does_of_step hstep with
  | empty hmove => simp [hmove, Move.isOrdinary, Move.closing] at hm
  | comes bytes hmove => simp [hmove, Move.isOrdinary, Move.closing] at hm
  | locks i call _ hnone hcall haccepts ht hnotes =>
      rw [ht, hnotes]
      refine ⟨hr, ?_⟩
      cases hl with
      | held _ hholder => simp [hnone] at hholder
      | going rest hended hperm _ =>
          have hopen := hr.accepts_eq.symm.trans haccepts
          refine .going rest (by simpa [endings] using hended) ?_ ?_
          · exact perm_of_turn hcall (by simpa [hnone] using hperm)
          · rintro rfl
            cases hopen
  | ignored i call _ hnone hcall haccepts ht hnotes =>
      rw [ht, hnotes]
      refine ⟨hr, ?_⟩
      cases hl with
      | held _ hholder => simp [hnone] at hholder
      | going rest hended hperm _ =>
          have hclosed := hr.accepts_eq.symm.trans haccepts
          have hfate : r.ofWaiting call.bytes = .ignored := by
            cases r with
            | shutDown => rfl
            | _ => cases hclosed
          have hturn := perm_of_turn hcall (by simpa [hnone] using hperm)
          exact .going (rest ++ [call]) (endings_concat hended rfl hfate)
            (by simpa [hnone] using hturn) fun _ => hnone
  | parks _ _ _ _ hholds => simp [hr.holds_eq] at hholds
  | ends holder _ hholder _ ht hnotes =>
      rw [ht, hnotes]
      refine ⟨hr.carried holder, ?_⟩
      rw [hr.carry_fate holder]
      cases hl with
      | held hended hfirst hqueued =>
          obtain rfl : holder = h := Option.some.inj (hholder.symm.trans hfirst)
          refine .going [] ?_ ?_ fun _ => rfl
          · rw [endings_append, hended]
            rfl
          · simp [finish, hqueued]
      | going rest hended hperm hfree =>
          have hfate : r.ofWaiting holder.call.bytes = r.ofParked holder.call.bytes := by
            cases r with
            | shutDown => simp [hfree rfl] at hholder
            | _ => rfl
          exact .going (rest ++ [holder.call]) (endings_concat hended rfl hfate)
            (by simpa [finish, hholder] using hperm) fun _ => rfl
  | piece p hmove _ ht hnotes =>
      rw [ht, hnotes, List.append_nil]
      refine ⟨?_, hl.congr rfl rfl rfl⟩
      rw [hmove] at hm
      obtain hordinary | ⟨rfl, hclosing⟩ := hm
      · exact hr.same (Port.sameForWriters_carryOut hordinary s.port)
      · exact hr.carryOut (by simpa [Move.closing] using hclosing)
  | onWire c hmove ht hnotes =>
      rw [ht, hnotes]
      refine ⟨?_, hl.congr (by simp [endings]) rfl rfl⟩
      rw [hmove] at hm
      have hspares : c.sparesWriters = true := by simpa [Move.isOrdinary, Move.closing] using hm
      exact hr.same (Port.sameForWriters_control hspares s.port)

theorem of_course (hr : Released r s.port) (hl : LetGo r h waiting told s)
    (hmoves : ∀ m ∈ moves, m.isOrdinary = true ∨ r = .shutDown ∧ m.closing.isSome = true)
    (hcourse : course (Writers.step Simulated.Control.apply) moves s = some t) :
    Released r t.port ∧ LetGo r h waiting
      (told ++ along (Writers.step Simulated.Control.apply) notes moves s) t :=
  along_keeps_of_forall notes (P := fun told s => Released r s.port ∧ LetGo r h waiting told s)
    (fun _ _ _ _ hm hs hstep => LetGo.step hs.1 hs.2 hm hstep) hmoves told ⟨hr, hl⟩ hcourse

end LetGo

/-! ### Nobody is left waiting -/

/-- After a release the call with the lock, if there is one, can end. -/
theorem exists_free (hr : Released r s.port) :
    ∃ moves t, (∀ m ∈ moves, m.isOrdinary = true) ∧ closing moves = [] ∧
      course (step Simulated.Control.apply) moves s = some t ∧
      Released r t.port ∧ t.holder = none ∧ t.queued = s.queued := by
  cases hholder : s.holder with
  | none => exact ⟨[], s, by simp, rfl, rfl, hr, hholder, rfl⟩
  | some holder =>
      have hends : step Simulated.Control.apply .goOn s = some (s.finish holder) :=
        goOn_ends hholder hr.holds_eq
      exact ⟨[.goOn], s.finish holder, by simp [Move.isOrdinary], rfl,
        course_cons_eq_some.2 ⟨_, hends, rfl⟩, hr.carried holder, rfl, rfl⟩

/-- After a release the calls that wait can all have their turns, one after the other. -/
theorem exists_finish (hr : Released r s.port) :
    ∃ moves t, (∀ m ∈ moves, m.isOrdinary = true) ∧ closing moves = [] ∧
      course (step Simulated.Control.apply) moves s = some t ∧
      Released r t.port ∧ t.holder = none ∧ t.queued = [] := by
  induction hn : s.queued.length generalizing s with
  | zero =>
      obtain ⟨moves, t, hmoves, hclosing, hcourse, ht, hholder, hqueued⟩ := exists_free hr
      rw [List.length_eq_zero_iff.1 hn] at hqueued
      exact ⟨moves, t, hmoves, hclosing, hcourse, ht, hholder, hqueued⟩
  | succ n ih =>
      obtain ⟨first, x, hfirst, hnone, hcourse, hx, hholder, hqueued⟩ := exists_free hr
      have hlength : x.queued.length = n + 1 := by rw [hqueued, hn]
      have hsome : (step Simulated.Control.apply (.turn 0) x).isSome = true :=
        turn_isSome hholder (by omega)
      obtain ⟨y, hturn⟩ := Option.isSome_iff_exists.1 hsome
      have hy : Released r y.port ∧ y.queued.length = n := by
        cases does_of_step hturn with
        | locks i call hmove _ _ _ ht =>
            cases hmove
            rw [ht]
            exact ⟨hx, by simp [hlength]⟩
        | ignored i call hmove _ _ _ ht =>
            cases hmove
            rw [ht]
            exact ⟨hx, by simp [hlength]⟩
        | _ => simp_all
      obtain ⟨second, t, hsecond, hnone', hrest, ht, hfree, hempty⟩ := ih hy.1 hy.2
      refine ⟨first ++ .turn 0 :: second, t, ?_, ?_, ?_, ht, hfree, hempty⟩
      · simpa [or_imp, forall_and, Move.isOrdinary] using ⟨hfirst, hsecond⟩
      · rw [closing_append, hnone]
        exact hnone'
      · exact course_append_eq_some.2 ⟨x, hcourse, course_cons_eq_some.2 ⟨y, hturn, hrest⟩⟩

/-- The calls that `h` held up end as the release has it, in the order of their turns, and nothing
keeps them from it. -/
structure EndsAs (r : Release) (h : Holder) (s : Writers Simulated)
    (told : List (Note Simulated.Control)) (t : Writers Simulated) : Prop where
  can_finish : ∃ moves u, (∀ m ∈ moves, m.isOrdinary = true) ∧
    course (step Simulated.Control.apply) moves t = some u ∧ u.holder = none ∧ u.queued = []
  outcome : t.holder = none → t.queued = [] →
    ∃ rest : List WriteCall, rest.Perm s.queued ∧
      endings told = (h.call, r.ofParked h.call.bytes) ::
        rest.map (fun call => (call, r.ofWaiting call.bytes)) ∧
      s.port.Gains t.port (r.entries h.call.bytes (rest.map WriteCall.bytes))
        (r.failed (rest.map WriteCall.bytes))

theorem LetGo.endsAs (hr : Released r t.port) (hl : LetGo r h s.queued told t)
    (hgains : s.port.Gains t.port (delivered (fates told)) (failures (fates told))) :
    EndsAs r h s told t where
  can_finish := by
    obtain ⟨moves, u, hmoves, -, hcourse, -, hholder, hqueued⟩ := exists_finish hr
    exact ⟨moves, u, hmoves, hcourse, hholder, hqueued⟩
  outcome hholder hqueued := by
    cases hl with
    | held _ hsome => simp [hholder] at hsome
    | going rest hended hperm =>
        have hfates : fates told =
            r.ofParked h.call.bytes :: (rest.map WriteCall.bytes).map r.ofWaiting := by
          simp [fates, hended, Function.comp_def]
        rw [hfates, r.delivered_fates, r.failures_fates] at hgains
        exact ⟨rest, by simpa [hholder, hqueued] using hperm, hended, hgains⟩

/-- **The dongle lets a parked call go**, and whoever can moves. -/
theorem endsAs_of_control {c : Simulated.Control} (hheld : s.holder = some h)
    (hr : Released r { s.port with wire := c.apply s.port.wire }) (hc : c ≠ .clearLog)
    (hmoves : ∀ m ∈ moves, m.isOrdinary = true)
    (hcourse : course (step Simulated.Control.apply) (.onWire c :: moves) s = some t) :
    EndsAs r h s (along (step Simulated.Control.apply) notes (.onWire c :: moves) s) t := by
  obtain ⟨x, hx, hrest⟩ := course_cons_eq_some.1 hcourse
  cases hx
  have hstart : LetGo r h s.queued [.onWire c]
      { s with port := { s.port with wire := c.apply s.port.wire } } := .held rfl hheld rfl
  obtain ⟨ht, hl⟩ := LetGo.of_course hr hstart (fun m hm => .inl (hmoves m hm)) hrest
  have hkept : ∀ m ∈ Move.onWire c :: moves, m ≠ .onWire .clearLog :=
    List.forall_mem_cons.2 ⟨by simpa using hc, fun m hm =>
      ne_clearLog_of_isOfClosing (by simp [Move.isOfClosing, hmoves m hm])⟩
  exact LetGo.endsAs ht hl (gains_of_course hkept hcourse)

/-! ## Under a parked call -/

/-- A call is held up by the wire, and nothing but that keeps it from its end. -/
structure Stalled (h : Holder) (s : Writers Simulated) : Prop where
  holder_eq : s.holder = some h
  parked_eq : h.parked = true
  holds_eq : Wire.holds s.port.wire = true
  failWrites_eq : s.port.wire.failWrites = false

namespace Stalled

/-- A parked call, with all that wait behind it, stays as it is until the wire lets it go. -/
theorem step (hs : Stalled h s)
    (hm : m.isOrdinary = true ∨ m.closing.isSome = true ∧ m ≠ .piece .shutdown)
    (hstep : Writers.step Simulated.Control.apply m s = some t) :
    Stalled h t ∧ t.queued = s.queued ∧ endings (notes m s) = [] := by
  have hholder := hs.holder_eq
  cases does_of_step hstep with
  | empty hmove => simp [hmove, Move.isOrdinary, Move.closing] at hm
  | comes bytes hmove => simp [hmove, Move.isOrdinary, Move.closing] at hm
  | locks i call _ hnone => simp [hholder] at hnone
  | ignored i call _ hnone => simp [hholder] at hnone
  | parks holder _ hsome hfree =>
      obtain rfl : holder = h := Option.some.inj (hsome.symm.trans hholder)
      simp [hs.parked_eq] at hfree
  | ends _ _ _ hholds => simp [hs.holds_eq] at hholds
  | piece p hmove hfree ht hnotes =>
      rw [ht, hnotes]
      refine ⟨?_, rfl, rfl⟩
      rw [hmove] at hm
      obtain hordinary | ⟨hclosing, hlive⟩ := hm
      · have hsame := Port.sameForWriters_carryOut hordinary s.port
        exact ⟨hholder, hs.parked_eq, hsame.holds_eq.trans hs.holds_eq,
          hsame.failWrites_eq.trans hs.failWrites_eq⟩
      · cases p with
        | leave | unwant | linkDown =>
            exact ⟨hholder, hs.parked_eq, hs.holds_eq, hs.failWrites_eq⟩
        | shutdown => exact absurd rfl hlive
        | detach => simp [hholder] at hfree; simp [Port.Piece.needsLock] at hfree
        | _ => cases hclosing
  | onWire c hmove ht hnotes =>
      rw [ht, hnotes]
      refine ⟨?_, rfl, rfl⟩
      rw [hmove] at hm
      have hspares : c.sparesWriters = true := by simpa [Move.isOrdinary, Move.closing] using hm
      have hsame := Port.sameForWriters_control hspares s.port
      exact ⟨hholder, hs.parked_eq, hsame.holds_eq.trans hs.holds_eq,
        hsame.failWrites_eq.trans hs.failWrites_eq⟩

theorem of_course (hs : Stalled h s)
    (hmoves : ∀ m ∈ moves, m.isOrdinary = true ∨ m.closing.isSome = true ∧ m ≠ .piece .shutdown)
    (hcourse : course (Writers.step Simulated.Control.apply) moves s = some t) :
    Stalled h t ∧ t.queued = s.queued ∧
      endings (along (Writers.step Simulated.Control.apply) notes moves s) = [] := by
  have hall := along_keeps_of_forall notes
    (Q := fun m => m.isOrdinary = true ∨ m.closing.isSome = true ∧ m ≠ .piece .shutdown)
    (P := fun told x => Stalled h x ∧ x.queued = s.queued ∧ endings told = [])
    (fun told m x y hm hx hstep => by
      obtain ⟨hy, hqueued, hended⟩ := hx.1.step hm hstep
      exact ⟨hy, hqueued.trans hx.2.1, by rw [endings_append, hx.2.2, hended]; rfl⟩)
    hmoves [] ⟨hs, rfl, rfl⟩ hcourse
  simpa using hall

end Stalled

end Writers

end DongleLink

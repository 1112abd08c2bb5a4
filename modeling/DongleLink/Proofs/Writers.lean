import DongleLink.Port.Writers
import DongleLink.Proofs.Port
import DongleLink.Proofs.Simulated
import Mathlib.Data.List.DropRight
import Mathlib.Data.List.Perm.Basic

/-!
# DongleLink.Proofs.Writers

What a move of writers and others does (`step_cases`), and from it what the notes of a whole
course of moves have to do with the port that it leads to (`Accounts`): every call waits, has the
lock or has ended, and is told of once; and the counters are what the endings add up to.

Over a simulated dongle the log holds what was delivered since it was cleared
(`log_of_course`).
-/

namespace DongleLink

variable {σ κ : Type}

/-! ## The work of others -/

namespace Port

/-- Only writers count what they write. -/
theorem writeCounters_carryOut [Wire σ] (piece : Piece) (p : Port σ) :
    (p.carryOut piece).counters.written = p.counters.written ∧
      (p.carryOut piece).counters.writeFailures = p.counters.writeFailures := by
  cases piece with
  | hear r =>
      simp only [carryOut]
      obtain ⟨bytes, -, -, heq⟩ | ⟨-, heq | heq⟩ := hear_cases r p <;> rw [heq] <;>
        exact ⟨rfl, rfl⟩
  | look =>
      simp only [carryOut]
      obtain ⟨b, inbox, -, heq⟩ | ⟨-, heq⟩ := p.look_cases <;> rw [heq] <;> exact ⟨rfl, rfl⟩
  | _ => exact ⟨rfl, rfl⟩

/-- Only writers make entries in the log. -/
theorem log_carryOut (piece : Piece) (p : Port Simulated) :
    (p.carryOut piece).wire.log = p.wire.log := by
  cases piece with
  | connect o =>
      obtain ⟨e, -, h⟩ | h := p.wire.connect_cases o p.settings <;> simp only [carryOut, h]
  | read =>
      obtain ⟨queue, h⟩ := p.wire.readChunk_eq p.settings.chunkSize
      simp only [carryOut, h]
  | hear r => simp only [carryOut, wire_hear]
  | look => simp only [carryOut, wire_look]
  | _ => rfl

section transmit

variable [Wire σ]

/-- Bytes that are handed to the wire are delivered, and counted as written, or fail, and are
counted as a failure. -/
theorem transmit_cases (bytes : List UInt8) (p : Port σ) :
    (∃ wire, Wire.write bytes p.wire = (.ok (), wire) ∧
        p.transmit bytes = (.delivered bytes,
          { p with
            wire := wire
            counters :=
              { p.counters with written := p.counters.written + .ofNat bytes.length } })) ∨
      ∃ fault wire, Wire.write bytes p.wire = (.error fault, wire) ∧
        p.transmit bytes = (.failed fault,
          { p with
            wire := wire
            counters :=
              { p.counters with writeFailures := p.counters.writeFailures + 1 } }) := by
  rw [transmit]
  obtain ⟨result, wire⟩ := Wire.write bytes p.wire
  cases result with
  | ok u => exact .inl ⟨wire, rfl, rfl⟩
  | error fault => exact .inr ⟨fault, wire, rfl, rfl⟩

end transmit

end Port

namespace Writers

open Port

/-! ## Notes of several moves -/

section notes

variable (first second : List (Note κ))

@[simp] theorem called_append : called (first ++ second) = called first ++ called second :=
  List.filterMap_append

@[simp] theorem taken_append : taken (first ++ second) = taken first ++ taken second :=
  List.filterMap_append

@[simp] theorem endings_append :
    endings (first ++ second) = endings first ++ endings second :=
  List.filterMap_append

@[simp] theorem fates_append : fates (first ++ second) = fates first ++ fates second := by
  simp [fates]

@[simp] theorem delivered_append (fates more : List WriteFate) :
    delivered (fates ++ more) = delivered fates ++ delivered more :=
  List.filterMap_append

@[simp] theorem failures_append (fates more : List WriteFate) :
    failures (fates ++ more) = failures fates + failures more :=
  List.countP_append

end notes

/-! ## The account -/

/- The notes are told of the whole course, and the state knows only the calls that have not ended.
The account says how the two belong together, move by move. -/

/-- What can become of a call. -/
def MayEnd (call : WriteCall) (fate : WriteFate) : Prop :=
  fate = .delivered call.bytes ∨ (∃ fault, fate = .failed fault) ∨ fate = .ignored

/-- The counters of a port are what these endings add up to. -/
structure CountsTo (counters : Counters) (ended : List WriteFate) : Prop where
  written_eq : counters.written = .ofNat (delivered ended).flatten.length
  failures_eq : counters.writeFailures = .ofNat (failures ended)

/-- What is told of the calls is where they are, and what is counted. -/
structure Accounts (told : List (Note κ)) (s : Writers σ) : Prop where
  /-- the calls are numbered as they come -/
  numbers_eq : (called told).map WriteCall.number = List.range s.calls
  ne_nil_of_called : ∀ call ∈ called told, call.bytes ≠ []
  /-- each call waits, or had its turn -/
  perm_called : (taken told ++ s.queued).Perm (called told)
  /-- each call that had its turn has ended, in the order of the turns, but for the one that has
  the lock -/
  taken_eq : taken told = (endings told).map Prod.fst ++ s.holder.toList.map Holder.call
  mayEnd : ∀ e ∈ endings told, MayEnd e.1 e.2
  counts : CountsTo s.port.counters (fates told)

section accounts

variable {told : List (Note κ)} {s t : Writers σ}

/-- What is told of the calls, where they are, and what is counted, is all that matters. -/
theorem Accounts.congr {more : List (Note κ)} (h : Accounts told s)
    (hcalled : called more = called told) (htaken : taken more = taken told)
    (hendings : endings more = endings told) (hcalls : t.calls = s.calls)
    (hqueued : t.queued = s.queued)
    (hholder : t.holder.map Holder.call = s.holder.map Holder.call)
    (hwritten : t.port.counters.written = s.port.counters.written)
    (hfailures : t.port.counters.writeFailures = s.port.counters.writeFailures) :
    Accounts more t where
  numbers_eq := by rw [hcalled, hcalls, h.numbers_eq]
  ne_nil_of_called := by rw [hcalled]; exact h.ne_nil_of_called
  perm_called := by rw [hcalled, htaken, hqueued]; exact h.perm_called
  taken_eq := by
    rw [htaken, hendings, ← Option.toList_map, hholder, Option.toList_map]
    exact h.taken_eq
  mayEnd := by rw [hendings]; exact h.mayEnd
  counts := by
    rw [fates, hendings]
    exact ⟨hwritten.trans h.counts.written_eq, hfailures.trans h.counts.failures_eq⟩

/-- A call that has its turn no longer waits. -/
theorem Accounts.perm_of_turn (h : Accounts told s) {i : Nat} {call : WriteCall}
    (hcall : s.queued[i]? = some call) :
    (taken told ++ [call] ++ s.queued.eraseIdx i).Perm (called told) := by
  obtain ⟨hi, rfl⟩ := List.getElem?_eq_some_iff.1 hcall
  have hperm : (s.queued[i] :: s.queued.eraseIdx i).Perm s.queued :=
    List.getElem_cons_eraseIdx_perm hi
  rw [List.append_assoc]
  exact (hperm.append_left (taken told)).trans h.perm_called

/-- A call comes and waits. -/
theorem Accounts.comes (h : Accounts told s) {bytes : List UInt8} (hbytes : bytes ≠ []) :
    Accounts (told ++ [.called ⟨s.calls, bytes⟩])
      { s with calls := s.calls + 1, queued := s.queued ++ [⟨s.calls, bytes⟩] } where
  numbers_eq := by simp [called, List.range_succ, ← h.numbers_eq]
  ne_nil_of_called := by
    rw [called_append, List.forall_mem_append]
    exact ⟨h.ne_nil_of_called, by simpa [called] using hbytes⟩
  perm_called := by
    have hperm := h.perm_called.append_right [⟨s.calls, bytes⟩]
    simpa [called, taken] using hperm
  taken_eq := by simpa [taken, endings] using h.taken_eq
  mayEnd := by simpa [endings] using h.mayEnd
  counts := by simpa [fates, endings] using h.counts

/-- A call that waited gets the lock. -/
theorem Accounts.locks (h : Accounts told s) {i : Nat} {call : WriteCall}
    (hcall : s.queued[i]? = some call) (hholder : s.holder = none) :
    Accounts (told ++ [.took call])
      { s with queued := s.queued.eraseIdx i, holder := some { call := call } } where
  numbers_eq := by simpa [called] using h.numbers_eq
  ne_nil_of_called := by simpa [called] using h.ne_nil_of_called
  perm_called := by simpa [called, taken] using h.perm_of_turn hcall
  taken_eq := by
    have htaken := h.taken_eq
    simpa [taken, endings, hholder] using htaken
  mayEnd := by simpa [endings] using h.mayEnd
  counts := by simpa [fates, endings] using h.counts

/-- The call with the lock ends. -/
theorem Accounts.ends (h : Accounts told s) {holder : Holder} (hholder : s.holder = some holder)
    {fate : WriteFate} (hfate : MayEnd holder.call fate) (port : Port σ)
    (hcounts : CountsTo port.counters (fates told ++ [fate])) :
    Accounts (told ++ [.ended holder.call fate]) { s with port := port, holder := none } where
  numbers_eq := by simpa [called] using h.numbers_eq
  ne_nil_of_called := by simpa [called] using h.ne_nil_of_called
  perm_called := by simpa [called, taken] using h.perm_called
  taken_eq := by
    have htaken := h.taken_eq
    simpa [taken, endings, hholder] using htaken
  mayEnd := by
    rw [endings_append, List.forall_mem_append]
    exact ⟨h.mayEnd, by simpa [endings] using hfate⟩
  counts := by simpa [fates, endings] using hcounts

/-- Nobody has called yet, and nothing is counted. -/
theorem accounts_of_create {wire : σ} {settings : Settings} {p : Port σ}
    (h : Port.create wire settings = .ok p) :
    Accounts ([] : List (Note κ)) ({ port := p } : Writers σ) := by
  obtain ⟨-, -, -, rfl⟩ := create_eq_ok_iff.1 h
  exact
    { numbers_eq := rfl
      ne_nil_of_called := fun _ h => absurd h List.not_mem_nil
      perm_called := .refl _
      taken_eq := rfl
      mayEnd := fun _ h => absurd h List.not_mem_nil
      counts := ⟨rfl, rfl⟩ }

end accounts

/-! ## What writers spare -/

/-- But for the wire and the counts of writes the ports are the same. -/
structure Spares (p q : Port σ) : Prop where
  settings_eq : q.settings = p.settings
  inbox_eq : q.inbox = p.inbox
  running_eq : q.running = p.running
  session_eq : q.session = p.session
  writer_eq : q.writer = p.writer
  received_eq : q.counters.received = p.counters.received
  delivered_eq : q.counters.delivered = p.counters.delivered
  evicted_eq : q.counters.evicted = p.counters.evicted

theorem Spares.refl (p : Port σ) : Spares p p := ⟨rfl, rfl, rfl, rfl, rfl, rfl, rfl, rfl⟩

theorem Spares.trans {p q r : Port σ} (h : Spares p q) (k : Spares q r) : Spares p r where
  settings_eq := k.settings_eq.trans h.settings_eq
  inbox_eq := k.inbox_eq.trans h.inbox_eq
  running_eq := k.running_eq.trans h.running_eq
  session_eq := k.session_eq.trans h.session_eq
  writer_eq := k.writer_eq.trans h.writer_eq
  received_eq := k.received_eq.trans h.received_eq
  delivered_eq := k.delivered_eq.trans h.delivered_eq
  evicted_eq := k.evicted_eq.trans h.evicted_eq

variable [Wire σ] {far : κ → σ → σ} {m : Move κ} {s t : Writers σ}

/-! ## One move -/

/-- The call with the lock writes through the wire that has let it go. -/
theorem carry_cases (h : Holder) (p : Port σ) :
    (∃ wire, carry h p = (.delivered h.call.bytes,
        { p with
          wire := wire
          counters :=
            { p.counters with written := p.counters.written + .ofNat h.call.bytes.length } })) ∨
      ∃ fault wire, carry h p = (.failed fault,
        { p with
          wire := wire
          counters :=
            { p.counters with writeFailures := p.counters.writeFailures + 1 } }) := by
  rw [carry]
  let free := { p with wire := if h.parked then Wire.unpark p.wire else p.wire }
  obtain ⟨wire, -, heq⟩ | ⟨fault, wire, -, heq⟩ := free.transmit_cases h.call.bytes
  · exact .inl ⟨wire, heq⟩
  · exact .inr ⟨fault, wire, heq⟩

/-- What a move does, and what there is to tell of it. -/
inductive Does (far : κ → σ → σ) (m : Move κ) (s t : Writers σ) : Prop where
  /-- a call with nothing to write is over -/
  | empty (hm : m = .write []) (ht : t = s) (hnotes : notes m s = [])
  | comes (bytes : List UInt8) (hm : m = .write bytes) (hbytes : bytes ≠ [])
      (ht : t = { s with calls := s.calls + 1, queued := s.queued ++ [⟨s.calls, bytes⟩] })
      (hnotes : notes m s = [.called ⟨s.calls, bytes⟩])
  | locks (i : Nat) (call : WriteCall) (hm : m = .turn i) (hholder : s.holder = none)
      (hcall : s.queued[i]? = some call) (haccepts : s.port.accepts = true)
      (ht : t = { s with queued := s.queued.eraseIdx i, holder := some { call := call } })
      (hnotes : notes m s = [.took call])
  | ignored (i : Nat) (call : WriteCall) (hm : m = .turn i) (hholder : s.holder = none)
      (hcall : s.queued[i]? = some call) (haccepts : s.port.accepts = false)
      (ht : t = { s with queued := s.queued.eraseIdx i })
      (hnotes : notes m s = [.took call, .ended call .ignored])
  | parks (h : Holder) (hm : m = .goOn) (hholder : s.holder = some h) (hparked : h.parked = false)
      (hholds : Wire.holds s.port.wire = true) (ht : t = s.park h) (hnotes : notes m s = [])
  | ends (h : Holder) (hm : m = .goOn) (hholder : s.holder = some h)
      (hholds : Wire.holds s.port.wire = false) (ht : t = s.finish h)
      (hnotes : notes m s = [.ended h.call (carry h s.port).1])
  | piece (p : Piece) (hm : m = .piece p) (hfree : p.needsLock = true → s.holder = none)
      (ht : t = { s with port := s.port.carryOut p }) (hnotes : notes m s = [])
  | onWire (c : κ) (hm : m = .onWire c) (ht : t = { s with port.wire := far c s.port.wire })
      (hnotes : notes m s = [.onWire c])

/-- **A move does one of these things.** -/
theorem does_of_step (h : step far m s = some t) : Does far m s t := by
  cases m with
  | write bytes =>
      cases h
      cases bytes with
      | nil => exact .empty rfl rfl rfl
      | cons b bytes => exact .comes (b :: bytes) rfl (List.cons_ne_nil _ _) rfl rfl
  | turn i =>
      simp only [step] at h
      split at h
      next call hholder hcall =>
        cases h
        cases haccepts : s.port.accepts with
        | true =>
            exact .locks i call rfl hholder hcall haccepts (by simp [giveTurn, haccepts])
              (by simp [notes, hcall, haccepts])
        | false =>
            exact .ignored i call rfl hholder hcall haccepts
              (by simp [giveTurn, haccepts, hholder]) (by simp [notes, hcall, haccepts])
      next => cases h
  | goOn =>
      simp only [step] at h
      split at h
      · cases h
      next holder hholder =>
        split at h
        next hholds =>
          split at h
          · cases h
          next hparked =>
            cases h
            exact .parks holder rfl hholder (by simpa using hparked) hholds rfl
              (by simp [notes, hholder, hholds])
        next hholds =>
          cases h
          have hfree : Wire.holds s.port.wire = false := by simpa using hholds
          exact .ends holder rfl hholder hfree rfl (by simp [notes, hholder, hfree])
  | piece p =>
      simp only [step] at h
      split at h
      · cases h
      next hfree =>
        cases h
        exact .piece p rfl (fun hneeds => by simpa [hneeds] using hfree) rfl rfl
  | onWire c =>
      cases h
      exact .onWire c rfl rfl rfl

/-! ## Every move keeps the account -/

/-- One more ending. -/
theorem CountsTo.carry {p : Port σ} {ended : List WriteFate} (hp : CountsTo p.counters ended)
    (h : Holder) : CountsTo (Writers.carry h p).2.counters (ended ++ [(Writers.carry h p).1]) := by
  obtain ⟨wire, heq⟩ | ⟨fault, wire, heq⟩ := carry_cases h p <;> rw [heq]
  · exact ⟨by simp [delivered, hp.written_eq], by simp [failures, hp.failures_eq]⟩
  · exact ⟨by simp [delivered, hp.written_eq], by simp [failures, hp.failures_eq]⟩

/-- A call that writes is not ignored. -/
theorem mayEnd_carry (h : Holder) (p : Port σ) : MayEnd h.call (carry h p).1 := by
  obtain ⟨wire, heq⟩ | ⟨fault, wire, heq⟩ := carry_cases h p <;> rw [heq]
  · exact .inl rfl
  · exact .inr (.inl ⟨fault, rfl⟩)

/-- **Every move keeps the account.** -/
theorem Accounts.step {told : List (Note κ)} (h : Accounts told s) (hstep : step far m s = some t) :
    Accounts (told ++ notes m s) t := by
  cases does_of_step hstep with
  | empty hm ht hnotes =>
      rw [hnotes, List.append_nil, ht]
      exact h
  | comes bytes hm hbytes ht hnotes =>
      rw [hnotes, ht]
      exact h.comes hbytes
  | locks i call hm hholder hcall haccepts ht hnotes =>
      rw [hnotes, ht]
      exact h.locks hcall hholder
  | ignored i call hm hholder hcall haccepts ht hnotes =>
      -- the call gets the lock only to give it back
      have hcounts : CountsTo s.port.counters (fates told ++ [.ignored]) :=
        ⟨by simpa [delivered] using h.counts.written_eq,
          by simpa [failures] using h.counts.failures_eq⟩
      have hends := (h.locks hcall hholder).ends rfl (.inr (.inr rfl)) s.port
        (by simpa [fates, endings] using hcounts)
      rw [hnotes, ht, hholder]
      simpa using hends
  | parks holder hm hholder hparked hholds ht hnotes =>
      rw [hnotes, List.append_nil, ht]
      exact h.congr rfl rfl rfl rfl rfl (by simp [park, hholder]) rfl rfl
  | ends holder hm hholder hholds ht hnotes =>
      rw [hnotes, ht]
      exact h.ends hholder (mayEnd_carry holder s.port) _ (h.counts.carry holder)
  | piece p hm hfree ht hnotes =>
      obtain ⟨hwritten, hfailures⟩ := writeCounters_carryOut p s.port
      rw [hnotes, List.append_nil, ht]
      exact h.congr rfl rfl rfl rfl rfl rfl hwritten hfailures
  | onWire c hm ht hnotes =>
      rw [hnotes, ht]
      exact h.congr (by simp [called]) (by simp [taken]) (by simp [endings]) rfl rfl rfl rfl rfl

/-- **The account of a whole course.** -/
theorem accounts_of_course {wire : σ} {settings : Settings} {p : Port σ}
    (h : Port.create wire settings = .ok p) {moves : List (Move κ)}
    (hcourse : course (step far) moves { port := p } = some s) :
    Accounts (along (step far) notes moves { port := p }) s := by
  have hall := along_keeps (P := Accounts) (fun _ _ _ _ hs hstep => hs.step hstep)
    (accounts_of_create h) hcourse
  simpa using hall

/-! ## What a move of a writer changes -/

/-- A move of somebody who writes. -/
def Move.isWriters : Move κ → Bool
  | .write _ | .turn _ | .goOn => true
  | .piece _ | .onWire _ => false

/-- **A writer leaves the rest of the port alone.** -/
theorem spares_of_step (h : step far m s = some t) (hm : m.isWriters = true) :
    Spares s.port t.port := by
  cases does_of_step h with
  | empty _ ht => rw [ht]; exact .refl s.port
  | comes _ _ _ ht => rw [ht]; exact .refl s.port
  | locks _ _ _ _ _ _ ht => rw [ht]; exact .refl s.port
  | ignored _ _ _ _ _ _ ht => rw [ht]; exact .refl s.port
  | parks holder _ _ _ _ ht => rw [ht]; exact ⟨rfl, rfl, rfl, rfl, rfl, rfl, rfl, rfl⟩
  | ends holder _ _ _ ht =>
      rw [ht]
      obtain ⟨wire, heq⟩ | ⟨fault, wire, heq⟩ := carry_cases holder s.port <;>
        simp only [finish, heq] <;> exact ⟨rfl, rfl, rfl, rfl, rfl, rfl, rfl, rfl⟩
  | piece p hmove => rw [hmove] at hm; cases hm
  | onWire c hmove => rw [hmove] at hm; cases hm

/-- What a call comes to its end with, and what is counted then. -/
inductive Ends (p q : Port σ) (call : WriteCall) : WriteFate → Prop where
  | delivered (hwritten : q.counters.written = p.counters.written + .ofNat call.bytes.length)
      (hfailures : q.counters.writeFailures = p.counters.writeFailures) :
      Ends p q call (.delivered call.bytes)
  | failed (fault : IoFault) (hwritten : q.counters.written = p.counters.written)
      (hfailures : q.counters.writeFailures = p.counters.writeFailures + 1) :
      Ends p q call (.failed fault)
  | ignored (hport : q = p) : Ends p q call .ignored

/-- **With a move at most one call ends, and nothing else counts writes.** -/
theorem ends_of_step (h : step far m s = some t) :
    (endings (notes m s) = [] ∧ t.port.counters.written = s.port.counters.written ∧
        t.port.counters.writeFailures = s.port.counters.writeFailures) ∨
      ∃ call fate, endings (notes m s) = [(call, fate)] ∧ Ends s.port t.port call fate := by
  cases does_of_step h with
  | empty _ ht hnotes => rw [hnotes, ht]; exact .inl ⟨rfl, rfl, rfl⟩
  | comes _ _ _ ht hnotes => rw [hnotes, ht]; exact .inl ⟨rfl, rfl, rfl⟩
  | locks _ _ _ _ _ _ ht hnotes => rw [hnotes, ht]; exact .inl ⟨rfl, rfl, rfl⟩
  | ignored _ call _ _ _ _ ht hnotes =>
      rw [hnotes, ht]
      exact .inr ⟨call, .ignored, rfl, .ignored rfl⟩
  | parks _ _ _ _ _ ht hnotes => rw [hnotes, ht]; exact .inl ⟨rfl, rfl, rfl⟩
  | ends holder _ _ _ ht hnotes =>
      rw [hnotes, ht]
      refine .inr ⟨holder.call, (carry holder s.port).1, rfl, ?_⟩
      obtain ⟨wire, heq⟩ | ⟨fault, wire, heq⟩ := carry_cases holder s.port <;>
        simp only [finish, heq]
      · exact .delivered rfl rfl
      · exact .failed fault rfl rfl
  | piece p _ _ ht hnotes =>
      obtain ⟨hwritten, hfailures⟩ := writeCounters_carryOut p s.port
      rw [hnotes, ht]
      exact .inl ⟨rfl, hwritten, hfailures⟩
  | onWire _ _ ht hnotes => rw [hnotes, ht]; exact .inl ⟨rfl, rfl, rfl⟩

/-- **A call is ignored** exactly if it finds no sending half, or a loop that is not wanted, when
it has its turn. -/
theorem ignored_iff_of_step (h : step far m s = some t) :
    .ignored ∈ fates (notes m s) ↔
      (∃ i, m = .turn i) ∧ (s.port.writer = false ∨ s.port.running = false) := by
  have haccepts : s.port.accepts = false ↔ s.port.writer = false ∨ s.port.running = false := by
    rw [accepts, Bool.and_eq_false_iff]
  rw [← haccepts]
  cases does_of_step h with
  | locks i call hm _ _ hopen _ hnotes => simp [hnotes, hopen, fates, endings]
  | ignored i call hm _ _ hclosed _ hnotes =>
      rw [hnotes, hclosed, hm]
      exact iff_of_true (by simp [fates, endings]) ⟨⟨i, rfl⟩, rfl⟩
  | ends holder hm _ _ _ hnotes =>
      rw [hnotes, hm]
      refine iff_of_false ?_ (by simp)
      obtain ⟨wire, heq⟩ | ⟨fault, wire, heq⟩ := carry_cases holder s.port <;>
        simp [heq, fates, endings]
  | _ => simp_all [fates, endings]

/-! ### Whoever waits can go on -/

/-- A call that waits can have its turn while nobody has the lock. -/
theorem turn_isSome (hholder : s.holder = none) {i : Nat} (hi : i < s.queued.length) :
    (step far (.turn i) s).isSome = true := by
  simp [step, hholder, List.getElem?_eq_getElem hi]

/-- The call with the lock ends at its next move, unless the wire holds it up. -/
theorem goOn_ends {h : Holder} (hholder : s.holder = some h)
    (hholds : Wire.holds s.port.wire = false) : step far .goOn s = some (s.finish h) := by
  simp [step, hholder, hholds]

/-- What can be said of writers wherever a course of moves has led. -/
structure Orderly (far : κ → σ → σ) (told : List (Note κ)) (s : Writers σ) : Prop where
  accounts : Accounts told s
  /-- a call with nothing to write changes nothing -/
  empty_eq : step far (.write []) s = some s
  ends : ∀ m t, step far m s = some t →
    (endings (notes m s) = [] ∧ t.port.counters.written = s.port.counters.written ∧
        t.port.counters.writeFailures = s.port.counters.writeFailures) ∨
      ∃ call fate, endings (notes m s) = [(call, fate)] ∧ Ends s.port t.port call fate
  ignored_iff : ∀ m t, step far m s = some t →
    (.ignored ∈ fates (notes m s) ↔
      (∃ i, m = .turn i) ∧ (s.port.writer = false ∨ s.port.running = false))
  spares : ∀ m t, step far m s = some t → m.isWriters = true → Spares s.port t.port
  can_turn : s.holder = none → ∀ i < s.queued.length, (step far (.turn i) s).isSome = true
  can_end : ∀ h, s.holder = some h → Wire.holds s.port.wire = false →
    step far .goOn s = some (s.finish h)

/-- **Writers are orderly** wherever a course of moves leads from a new port. -/
theorem orderly_of_course {wire : σ} {settings : Settings} {p : Port σ}
    (h : Port.create wire settings = .ok p) {moves : List (Move κ)}
    (hcourse : course (step far) moves { port := p } = some s) :
    Orderly far (along (step far) notes moves { port := p }) s where
  accounts := accounts_of_course h hcourse
  empty_eq := rfl
  ends _ _ hstep := ends_of_step hstep
  ignored_iff _ _ hstep := ignored_iff_of_step hstep
  spares _ _ hstep hm := spares_of_step hstep hm
  can_turn hholder _ hi := turn_isSome hholder hi
  can_end _ hholder hholds := goOn_ends hholder hholds

/-! ## Over a simulated dongle -/

section simulated

variable {m : Move Simulated.Control} {s t : Writers Simulated}

/-- What was told since the log was cleared. -/
def sinceClear (told : List (Note Simulated.Control)) : List (Note Simulated.Control) :=
  told.rtakeWhile (· ≠ .onWire .clearLog)

/-- A delivered write makes one entry, with all of its bytes, and comes back if there is an
echo; one that fails leaves no trace. -/
theorem trace_write (bytes : List UInt8) (p : Port Simulated) :
    (p.transmit bytes).2.wire.log = p.wire.log ++ delivered [(p.transmit bytes).1] ∧
      (p.transmit bytes).2.wire.queue = p.wire.queue ++
        if p.wire.echo then (delivered [(p.transmit bytes).1]).flatten else [] := by
  obtain ⟨wire, hwrite, heq⟩ | ⟨fault, wire, hwrite, heq⟩ := p.transmit_cases bytes <;>
    simp only [heq] <;> simp only [Wire.write, Simulated.write] at hwrite
  · split at hwrite
    · cases hwrite
    · split at hwrite
      · cases hwrite
      · cases hwrite
        cases p.wire.echo <;> simp [delivered]
  · split at hwrite
    · cases hwrite
      simp [delivered]
    · split at hwrite
      · cases hwrite
        simp [delivered]
      · cases hwrite

theorem trace_carry (h : Holder) (p : Port Simulated) :
    (carry h p).2.wire.log = p.wire.log ++ delivered [(carry h p).1] ∧
      (carry h p).2.wire.queue = p.wire.queue ++
        if p.wire.echo then (delivered [(carry h p).1]).flatten else [] := by
  have hfree := trace_write h.call.bytes
    { p with wire := if h.parked then Wire.unpark p.wire else p.wire }
  cases hparked : h.parked <;> simpa [carry, hparked, Wire.unpark, Simulated.unpark] using hfree

/-- What a writer adds to the log is what is delivered, and what it adds to what can be read is
the echo of that. -/
theorem trace_of_step (h : step Simulated.Control.apply m s = some t) (hm : m.isWriters = true) :
    t.port.wire.log = s.port.wire.log ++ delivered (fates (notes m s)) ∧
      t.port.wire.queue = s.port.wire.queue ++
        if s.port.wire.echo then (delivered (fates (notes m s))).flatten else [] := by
  cases does_of_step h with
  | empty _ ht hnotes => simp [hnotes, ht, delivered, fates, endings]
  | comes _ _ _ ht hnotes => simp [hnotes, ht, delivered, fates, endings]
  | locks _ _ _ _ _ _ ht hnotes => simp [hnotes, ht, delivered, fates, endings]
  | ignored _ _ _ _ _ _ ht hnotes => simp [hnotes, ht, delivered, fates, endings]
  | parks _ _ _ _ _ ht hnotes =>
      simp [hnotes, ht, delivered, fates, endings, park, Wire.park, Simulated.park]
  | ends holder _ _ _ ht hnotes =>
      rw [hnotes, ht]
      exact trace_carry holder s.port
  | piece p hmove => rw [hmove] at hm; cases hm
  | onWire c hmove => rw [hmove] at hm; cases hm

/-- The log grows by what is delivered, until it is cleared. -/
theorem log_of_step (h : step Simulated.Control.apply m s = some t)
    (hm : m ≠ .onWire .clearLog) :
    t.port.wire.log = s.port.wire.log ++ delivered (fates (notes m s)) := by
  cases hwriters : m.isWriters with
  | true => exact (trace_of_step h hwriters).1
  | false =>
      cases does_of_step h with
      | piece p _ _ ht hnotes => simp [hnotes, ht, delivered, fates, endings, log_carryOut]
      | onWire c hmove ht hnotes =>
          cases c <;> simp_all [delivered, fates, endings, Simulated.Control.apply]
      | _ => simp_all [Move.isWriters]

/-- Nothing is told of a clearing but that. -/
theorem sinceClear_clear (told : List (Note Simulated.Control)) :
    sinceClear (told ++ [.onWire .clearLog]) = [] := by
  rw [sinceClear, List.rtakeWhile_concat_neg]
  simp

/-- What is told without a clearing comes after the last one. -/
theorem sinceClear_append (told : List (Note Simulated.Control))
    {more : List (Note Simulated.Control)} (h : .onWire .clearLog ∉ more) :
    sinceClear (told ++ more) = sinceClear told ++ more := by
  have hmore : ∀ n ∈ more.reverse, decide (n ≠ .onWire .clearLog) = true := fun n hn => by
    rw [List.mem_reverse] at hn
    exact decide_eq_true fun heq => h (heq ▸ hn)
  rw [sinceClear, List.rtakeWhile, List.reverse_append, List.takeWhile_append_of_pos hmore,
    List.reverse_append, List.reverse_reverse]
  rfl

/-- Only the far end clears the log. -/
theorem clearLog_notMem_notes (h : step Simulated.Control.apply m s = some t)
    (hm : m ≠ .onWire .clearLog) : .onWire .clearLog ∉ notes m s := by
  cases does_of_step h with
  | onWire c hmove _ hnotes =>
      rw [hnotes, List.mem_singleton]
      intro heq
      cases heq
      exact hm hmove
  | _ => simp_all

/-- **The log is what was delivered since it was cleared**, call by call. -/
theorem log_of_course {p : Port Simulated} (hp : p.wire.log = [])
    {moves : List (Move Simulated.Control)}
    (h : course (step Simulated.Control.apply) moves { port := p } = some s) :
    s.port.wire.log =
      delivered (fates (sinceClear
        (along (step Simulated.Control.apply) notes moves { port := p }))) := by
  have hkeep : ∀ told m (s t : Writers Simulated),
      s.port.wire.log = delivered (fates (sinceClear told)) →
      step Simulated.Control.apply m s = some t →
      t.port.wire.log = delivered (fates (sinceClear (told ++ notes m s))) := by
    intro told m s t hs hstep
    by_cases hm : m = .onWire .clearLog
    · subst hm
      cases hstep
      exact (congrArg (fun told => delivered (fates told)) (sinceClear_clear told)).symm
    · rw [log_of_step hstep hm, hs, sinceClear_append told (clearLog_notMem_notes hstep hm),
        fates_append, delivered_append]
  have hstart : ({ port := p } : Writers Simulated).port.wire.log =
      delivered (fates (sinceClear [])) := hp
  have hall := along_keeps
    (P := fun told s => s.port.wire.log = delivered (fates (sinceClear told))) hkeep hstart h
  simpa using hall

end simulated

end Writers

end DongleLink

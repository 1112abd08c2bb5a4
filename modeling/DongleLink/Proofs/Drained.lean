import DongleLink.Port.Interleaving.Event
import DongleLink.Proofs.Lifecycle
import DongleLink.Proofs.Release
import DongleLink.Proofs.Settle

/-!
# DongleLink.Proofs.Drained

Reading on a link that is down.  What was received before can still be read, byte by byte and in
order, and then every reader is told at once that there is none.  Closings, and openings that are
turned down, change nothing about that: they leave the ring alone.  An opening that connects and
then gets no thread fails as well, but has emptied the ring by then, so that there is nothing to be
read from then on (`Down.act`).

A reader is told that there is no byte only over an empty ring, and only if the link is down or its
own time is over.  That holds however readers, users and loops interleave (`none_of_happen`,
`expired_of_course`).
-/

namespace DongleLink

namespace InUse

variable {σ : Type}

/-! ## Answers -/

/- A read that is told at once has its answer among those of the calls; one that waits has it among
the ended calls.  On a link that is down nobody waits, so the answers of the calls are all there
are. -/

/-- What a reader is told that asks for a number; none as long as it waits. -/
def ReadAnswer.code? : ReadAnswer → Option Int
  | .told result => some (codeOf result)
  | .waits => none

/-- The number of the byte at an index, and -1 behind the last one. -/
def codeAt (bytes : List UInt8) (i : Nat) : Int :=
  if h : i < bytes.length then bytes[i].toNat else -1

theorem codeOf_getElem? (bytes : List UInt8) (i : Nat) : codeOf bytes[i]? = codeAt bytes i := by
  unfold codeAt
  by_cases h : i < bytes.length
  · rw [dif_pos h, List.getElem?_eq_getElem h]
    rfl
  · rw [dif_neg h, List.getElem?_eq_none (by omega)]
    rfl

def Action.isRead : Action σ → Bool
  | .read _ => true
  | _ => false

/-- It is an opening that connects, and so empties the ring, whatever comes of its thread. -/
def Action.connects [Wire σ] (a : Action σ) (u : InUse σ) : Bool :=
  match a with
  | .openWith o _ => (u.port.openWith o).1.isOk
  | _ => false

/-- Those of some calls that come before the first opening that connects. -/
def beforeLink [Wire σ] : List (Action σ) → InUse σ → List (Action σ)
  | [], _ => []
  | a :: calls, u => if a.connects u then [] else a :: beforeLink calls (u.act a).2

/-- How many of some calls are reads. -/
def reads (calls : List (Action σ)) : Nat := calls.countP Action.isRead

/-- The answers to those calls that are reads. -/
def readAnswers (told : List (Answer × List Ended)) : List ReadAnswer :=
  told.filterMap fun
    | (.read answer, _) => some answer
    | _ => none

/-- The answers to `n` reads where these bytes are to be had and no others: one byte for each as
long as there are any, and then none. -/
def drain (bytes : List UInt8) (n : Nat) : List ReadAnswer :=
  (List.range n).map fun i => .told bytes[i]?

theorem drain_succ (bytes : List UInt8) (n : Nat) :
    drain bytes (n + 1) = .told bytes.head? :: drain bytes.tail n := by
  unfold drain
  rw [List.range_succ_eq_map, List.map_cons, List.map_map, List.head?_eq_getElem?]
  have htail : ∀ i, bytes.tail[i]? = bytes[i + 1]? := fun i => List.getElem?_tail
  simp [Function.comp_def, htail]

theorem code?_drain (bytes : List UInt8) (n : Nat) :
    (drain bytes n).map ReadAnswer.code? = (List.range n).map fun i => some (codeAt bytes i) := by
  simp [drain, ReadAnswer.code?, codeOf_getElem?, Function.comp_def]

/-- **A reader that does not wait is told of no byte** exactly if there is none and the link is down
or it must not wait. -/
theorem told_none_iff (u : InUse σ) (patience : Patience) :
    (u.read patience).1 = .told none ↔
      u.port.inbox.unread = [] ∧ (u.port.inbox.linkUp = false ∨ patience = .brief) := by
  have hempty := u.port.look_eq_empty_iff
  unfold read
  obtain ⟨b, inbox, hinbox, hlook⟩ | ⟨hunread, hlook⟩ := u.port.look_cases
  · have hne : u.port.inbox.unread ≠ [] := by simp [Inbox.unread_of_look hinbox]
    simp [hlook, hne]
  · cases hup : u.port.inbox.linkUp <;> cases patience <;> simp [hlook, hup, hunread]

/-! ## A link that is down -/

/-- The link is down, nobody listens on it or waits for a byte, and these bytes are unread. -/
structure Down (bytes : List UInt8) (u : InUse σ) : Prop where
  linkUp_eq : u.port.inbox.linkUp = false
  listens_eq : u.port.listens = false
  readers_eq : u.readers = 0
  unread_eq : u.port.inbox.unread = bytes

namespace Down

variable {bytes : List UInt8} {u v : InUse σ}

/-- Nothing of this is a matter of the wire, of the writers or of the counters. -/
theorem of_eq (h : Down bytes u) (hinbox : v.port.inbox = u.port.inbox)
    (hlistens : v.port.listens = u.port.listens) (hreaders : v.readers = u.readers) :
    Down bytes v where
  linkUp_eq := by rw [hinbox, h.linkUp_eq]
  listens_eq := by rw [hlistens, h.listens_eq]
  readers_eq := by rw [hreaders, h.readers_eq]
  unread_eq := by rw [hinbox, h.unread_eq]

/-- A reader takes the oldest byte, or is told at once that there is none. -/
theorem read (h : Down bytes u) (patience : Patience) :
    (u.read patience).1 = .told bytes.head? ∧ Down bytes.tail (u.read patience).2 := by
  unfold InUse.read
  obtain ⟨b, inbox, hinbox, hlook⟩ | ⟨hunread, hlook⟩ := u.port.look_cases
  · have hbytes : bytes = b :: inbox.unread := by rw [← h.unread_eq, Inbox.unread_of_look hinbox]
    have hup : inbox.linkUp = false := by rw [Inbox.linkUp_of_look hinbox, h.linkUp_eq]
    simp only [hlook, hbytes, List.head?_cons, List.tail_cons, true_and]
    exact ⟨hup, h.listens_eq, h.readers_eq, rfl⟩
  · have hbytes : bytes = [] := by rw [← h.unread_eq, hunread]
    subst hbytes
    simp only [hlook, h.linkUp_eq]
    exact ⟨rfl, h⟩

variable [Wire σ]

theorem transmit (h : Down bytes u) (payload : List UInt8) (held : Option (List UInt8))
    (queued : List (List UInt8)) :
    Down bytes { u with port := (u.port.transmit payload).2, held := held, queued := queued } := by
  have hlistens : (u.port.transmit payload).2.listens = u.port.listens := by simp [Port.listens]
  exact h.of_eq (Port.inbox_transmit payload u.port) hlistens rfl

theorem tryWrite (h : Down bytes u) (payload : List UInt8) :
    Down bytes (u.tryWrite payload).2 := by
  unfold InUse.tryWrite
  split
  · exact h
  · split
    · exact h.of_eq rfl rfl rfl
    · exact h.transmit payload u.held u.queued

/-- All the work that there can be is that of writers. -/
theorem perform {t : Task} (h : Down bytes u) (ht : InUse.perform t u = some v) : Down bytes v := by
  cases t with
  | hear => simp [InUse.perform, h.listens_eq] at ht
  | serve => simp [InUse.perform, h.readers_eq] at ht
  | resume =>
      simp only [InUse.perform] at ht
      split at ht
      · cases ht
        unfold InUse.finishHeld
        split
        · exact h
        next payload hheld =>
          have hfree : Down bytes { u with port.wire := Wire.unpark u.port.wire } :=
            h.of_eq rfl rfl rfl
          exact hfree.transmit payload none u.queued
      · cases ht
  | turn i =>
      simp only [InUse.perform] at ht
      split at ht
      next payload hheld hqueued =>
        cases ht
        have hturned : Down bytes { u with queued := u.queued.eraseIdx i } := h.of_eq rfl rfl rfl
        exact hturned.tryWrite payload
      · cases ht

theorem leads (h : Down bytes u) (k : Leads u v) : Down bytes v := by
  obtain ⟨tasks, k⟩ := k
  exact course_keeps (P := Down bytes) (fun _ _ _ hs hstep => hs.perform hstep) h k

theorem settle (h : Down bytes u) : Down bytes u.settle.2 := h.leads (leads_settle u)

theorem teardown (h : Down bytes u) : Down bytes { u with port := u.port.teardown } where
  linkUp_eq := by simp [Inbox.linkDown]
  listens_eq := by simp [Port.listens]
  readers_eq := h.readers_eq
  unread_eq := by simp [h.unread_eq]

/-- An opening that does not work leaves the link down.  What is unread stays where it is, unless
the opening connected. -/
theorem openThreaded (h : Down bytes u) {thread : Except IoFault Unit} {o : LineOverrides}
    (hresult : (u.port.openThreaded thread o).1 ≠ .ok ()) :
    Down (if (u.port.openWith o).1.isOk then [] else bytes)
      { u with port := (u.port.openThreaded thread o).2 } := by
  have hvacated : Down bytes { u with port := u.port.vacated } := by
    unfold Port.vacated
    split
    · exact h.teardown
    · exact h
  obtain heq | ⟨fault, -, hok, heq⟩ := Port.openThreaded_cases thread o u.port
  · rw [heq] at hresult ⊢
    obtain ⟨-, hup, -⟩ | ⟨-, ⟨e, wire, -, hopen⟩ | ⟨wire, -, hopen⟩⟩ := u.port.openWith_cases o
    · rw [h.linkUp_eq] at hup
      cases hup
    · rw [hopen]
      exact hvacated.of_eq rfl rfl rfl
    · simp [hopen] at hresult
  · obtain ⟨-, -, hopen⟩ | ⟨-, ⟨e, wire, -, hopen⟩ | ⟨wire, -, hopen⟩⟩ := u.port.openWith_cases o
    · simp [hopen] at hok
    · simp [hopen] at hok
    · rw [heq, hopen]
      constructor
      · simp [Inbox.linkDown]
      · simp [Port.listens]
      · exact h.readers_eq
      · simp [Port.attached, Except.isOk, Except.toBool]

theorem write (h : Down bytes u) (payload : List UInt8) : Down bytes (u.write payload).2 := by
  unfold InUse.write
  split
  · exact h.settle
  · split
    · have hqueued : Down bytes { u with queued := u.queued ++ [payload] } := h.of_eq rfl rfl rfl
      exact hqueued.settle
    · exact (h.tryWrite payload).settle

/-- **A call leaves all unread bytes to the readers**, unless it is a purge or an opening that
connects. -/
theorem act (h : Down bytes u) {a : Action σ} (hread : a.isRead = false) (hpurge : a ≠ .purge)
    (hopened : (u.act a).1.1 ≠ .opened (.ok ())) :
    Down (if a.connects u then [] else bytes) (u.act a).2 := by
  cases a with
  | openWith o thread =>
      have hresult : (u.port.openThreaded thread o).1 ≠ .ok () := fun heq =>
        hopened (by simp [InUse.act, InUse.openThreaded, heq])
      exact (h.openThreaded hresult).settle
  | close => exact h.teardown.settle
  | purge => exact absurd rfl hpurge
  | write payload => exact h.write payload
  | read patience => cases hread
  | onWire f =>
      have hwired : Down bytes { u with port.wire := f u.port.wire } := h.of_eq rfl rfl rfl
      exact hwired.settle

/-- Of a call that is no read, no reader is told anything. -/
theorem readAnswers_act {a : Action σ} (hread : a.isRead = false) (u : InUse σ) :
    readAnswers [(u.act a).1] = [] := by
  cases a with
  | read patience => cases hread
  | _ => rfl

/-- **The bytes are read in order, and then there are none.**  There are none either after an
opening that connects, so that only the reads before it get bytes. -/
theorem run (h : Down bytes u) (calls : List (Action σ)) (hpurge : ∀ a ∈ calls, a ≠ .purge)
    (hopened : ∀ t ∈ (InUse.run calls u).1, t.1 ≠ .opened (.ok ())) :
    readAnswers (InUse.run calls u).1 =
        drain (bytes.take (reads (beforeLink calls u))) (reads calls) ∧
      Down (if (beforeLink calls u).length = calls.length then bytes.drop (reads calls) else [])
        (InUse.run calls u).2 := by
  induction calls generalizing bytes u with
  | nil => exact ⟨rfl, h⟩
  | cons a calls ih =>
      rw [List.forall_mem_cons] at hpurge
      simp only [InUse.run, List.forall_mem_cons] at hopened ⊢
      obtain ⟨hfirst, hrest⟩ := hopened
      have hcons : readAnswers ((u.act a).1 :: (InUse.run calls (u.act a).2).1) =
          readAnswers [(u.act a).1] ++ readAnswers (InUse.run calls (u.act a).2).1 := by
        rw [← List.singleton_append]
        exact List.filterMap_append
      cases hread : a.isRead with
      | false =>
          have hdown := h.act hread hpurge.1 hfirst
          have hcount : ∀ rest, reads (a :: rest) = reads rest := by simp [reads, hread]
          rw [hcons, readAnswers_act hread, hcount, List.nil_append, beforeLink]
          cases hconnects : a.connects u with
          | true =>
              have hempty : Down [] (u.act a).2 := by simpa [hconnects] using hdown
              obtain ⟨hanswers, hend⟩ := ih hempty hpurge.2 hrest
              rw [List.take_nil] at hanswers
              rw [List.drop_nil, ite_self] at hend
              exact ⟨hanswers, hend⟩
          | false =>
              have hsame : Down bytes (u.act a).2 := by simpa [hconnects] using hdown
              obtain ⟨hanswers, hend⟩ := ih hsame hpurge.2 hrest
              simp only [Bool.false_eq_true, if_false, hcount, List.length_cons,
                Nat.add_right_cancel_iff]
              exact ⟨hanswers, hend⟩
      | true =>
          have hcount : ∀ rest, reads (a :: rest) = reads rest + 1 := by simp [reads, hread]
          cases a with
          | read patience =>
              obtain ⟨htold, hread⟩ := h.read patience
              have hdown : Down bytes.tail (u.act (.read patience)).2 := hread
              obtain ⟨hanswers, hend⟩ := ih hdown hpurge.2 hrest
              have hanswer : readAnswers [(u.act (.read patience)).1] = [.told bytes.head?] := by
                simp [readAnswers, InUse.act, htold]
              have hbefore : beforeLink (.read patience :: calls) u =
                  .read patience :: beforeLink calls (u.act (.read patience)).2 := rfl
              rw [hcons, hanswer, hbefore, hcount, hcount, drain_succ, hanswers]
              simp only [List.length_cons, Nat.add_right_cancel_iff]
              rw [List.drop_tail] at hend
              cases bytes with
              | nil => exact ⟨by simp, hend⟩
              | cons b bytes => exact ⟨rfl, hend⟩
          | _ => cases hread

end Down

/-! ## Where whole calls lead -/

section rest

variable [Wire σ] {u : InUse σ}

theorem readersRest_listen (h : ReadersRest u) (n : Nat) : ReadersRest (listen n u).2 := by
  induction n generalizing u with
  | zero => exact h
  | succ n ih =>
      by_cases hloop : LoopRests u
      · rwa [listen_of_loopRests hloop]
      · rw [listen_of_not_loopRests hloop]
        exact ih (readersRest_serveReaders rfl)

theorem readersRest_settle (u : InUse σ) : ReadersRest u.settle.2 :=
  readersRest_listen (readersRest_serveReaders rfl) _

omit [Wire σ] in
theorem readersRest_read (h : ReadersRest u) (patience : Patience) :
    ReadersRest (u.read patience).2 := by
  have hempty := u.port.look_eq_empty_iff
  unfold read
  split
  next b port hlook =>
    -- whoever waits would have taken the byte
    intro hpos
    rw [hlook] at hempty
    exact Found.noConfusion (hempty.2 (h hpos))
  next => exact h
  next port hlook =>
    rw [hlook] at hempty
    cases patience with
    | brief => exact h
    | unlimited => exact fun _ => hempty.1 rfl

theorem readersRest_write (u : InUse σ) (payload : List UInt8) :
    ReadersRest (u.write payload).2 := by
  unfold write
  split
  · exact readersRest_settle u
  · split
    · exact readersRest_settle { u with queued := u.queued ++ [payload] }
    · exact readersRest_settle (u.tryWrite payload).2

/-- **After a call with all that it sets free, no reader waits who could be told something.** -/
theorem readersRest_act (h : ReadersRest u) (a : Action σ) : ReadersRest (u.act a).2 := by
  cases a with
  | read patience => exact readersRest_read h patience
  | write payload => exact readersRest_write u payload
  | openWith o thread =>
      exact readersRest_settle { u with port := (u.port.openThreaded thread o).2 }
  | close => exact readersRest_settle { u with port := u.port.close }
  | purge => exact readersRest_settle { u with port := u.port.purge }
  | onWire f => exact readersRest_settle { u with port.wire := f u.port.wire }

theorem readersRest_run (h : ReadersRest u) (calls : List (Action σ)) :
    ReadersRest (run calls u).2 := by
  induction calls generalizing u with
  | nil => exact h
  | cons a calls ih => exact ih (readersRest_act h a)

/-- A link that is down is so whatever led there, if no reader is about to be told something. -/
theorem down_of_reaches {wire : σ} {settings : Settings} {p : Port σ}
    (h : Port.create wire settings = .ok p) (hreaches : p.Reaches u.port) (hrest : ReadersRest u)
    (hdown : u.port.inbox.linkUp = false) : Down u.port.inbox.unread u := by
  obtain ⟨actions, hrun⟩ := hreaches
  have hcoherent : u.port.Coherent := by
    rw [← hrun]
    exact (Port.coherent_create h).run actions
  have hlistens : u.port.listens = false := by
    rw [Bool.eq_false_iff]
    intro hlistens
    have hup := hcoherent.linkUp_iff.2 (.inl (Port.session_of_listens hlistens))
    rw [hdown] at hup
    cases hup
  have hreaders : u.readers = 0 := by
    by_contra hne
    have hup := (hrest (Nat.pos_of_ne_zero hne)).2
    rw [hdown] at hup
    cases hup
  exact ⟨hdown, hlistens, hreaders, rfl⟩

end rest

end InUse

namespace Interleaving

/-! ## Readers among all others -/

variable {s t : State} {e : Event} {reader : Nat}

/-- What becomes of one reader with an event. -/
inductive ReaderGoes (e : Event) (reader : Nat) (s t : State) : Prop where
  | stays (he : e ≠ .move (.call reader)) (ht : t.readers reader = s.readers reader)
  /-- it comes, or it is woken -/
  | looks (ht : t.readers reader = .looking true)
  | expires (he : e = .move (.expire reader)) (ht : t.readers reader = .looking false)
  | sleeps (he : e = .move (.look reader)) (ht : t.readers reader = .asleep)
  | takes (he : e = .move (.look reader)) (tagged : UInt8 × Nat)
      (ht : t.readers reader = .answered (some tagged))
  | givesUp (he : e = .move (.look reader)) (ht : t.readers reader = .answered none)
      (hunread : s.inbox.unread = [])
      (hwhy : s.inbox.linkUp = false ∨ s.readers reader = .looking false)

theorem ReaderGoes.of_woken (he : e ≠ .move (.call reader))
    (h : t.readers = s.readers ∨ t.readers = s.wakeAll.readers) : ReaderGoes e reader s t := by
  obtain h | h := h
  · exact .stays he (congrFun h reader)
  · have ht : t.readers reader = State.wakeReader (s.readers reader) := congrFun h reader
    cases hs : s.readers reader with
    | asleep => exact .looks (by rw [ht, hs]; rfl)
    | _ => exact .stays he (by rw [ht, hs]; rfl)

theorem readerGoes_of_look (hstep : step (.look reader) s = some t) :
    ReaderGoes (.move (.look reader)) reader s t := by
  obtain ⟨patient, hlooking⟩ := looking_of_step hstep
  simp only [step, lookStep, hlooking] at hstep
  cases hlook : s.inbox.look with
  | mk found inbox =>
      have hfound : s.inbox.look.1 = found := by rw [hlook]
      rw [hlook] at hstep
      cases found with
      | byte b =>
          cases hstep
          exact .takes rfl (b, s.sources.headD 0) (by simp [State.setReader])
      | closed =>
          cases hstep
          obtain ⟨hunread, hdown⟩ := (Inbox.look_eq_closed_iff _).1 hfound
          exact .givesUp rfl (by simp [State.setReader]) hunread (.inl hdown)
      | empty =>
          cases hstep
          obtain ⟨hunread, -⟩ := (Inbox.look_eq_empty_iff _).1 hfound
          cases patient with
          | true => exact .sleeps rfl (by simp [State.setReader])
          | false => exact .givesUp rfl (by simp [State.setReader]) hunread (.inr hlooking)

/-- **What becomes of a reader with an event.** -/
theorem readerGoes_of_happen (reader : Nat) (he : happen e s = some t) :
    ReaderGoes e reader s t := by
  have hother : ∀ other place, t = s.setReader other place → reader ≠ other →
      e ≠ .move (.call reader) → ReaderGoes e reader s t := by
    rintro other place rfl hne hcall
    exact .stays hcall (readers_setReader place hne)
  cases e with
  | move m =>
      cases m with
      | call other =>
          simp only [happen, step] at he
          split at he
          all_goals cases he
          all_goals
            by_cases hne : reader = other
            · exact .looks (by simp [State.setReader, hne])
            · exact hother other _ rfl hne (by simp [Ne.symm hne])
      | look other =>
          by_cases hne : reader = other
          · subst hne
            exact readerGoes_of_look he
          · exact .stays (by simp) (readers_of_lookStep hne he)
      | expire other =>
          simp only [happen, step] at he
          split at he
          all_goals cases he
          all_goals
            by_cases hne : reader = other
            · exact .expires (by simp [hne]) (by simp [State.setReader, hne])
            · exact hother other _ rfl hne (by simp)
      | proceed loop => exact .of_woken (by simp) (readers_of_proceedStep he)
      | advance user => exact .of_woken (by simp) (readers_of_advanceStep he)
      | read loop r =>
          simp only [happen, step] at he
          split at he
          all_goals cases he
          exact .stays (by simp) rfl
      | beginOpen user =>
          simp only [happen, step, beginStep] at he
          split at he
          all_goals cases he
          exact .stays (by simp) rfl
      | beginClose user =>
          simp only [happen, step, beginStep] at he
          split at he
          all_goals cases he
          exact .stays (by simp) rfl
      | connect user works =>
          simp only [happen, step] at he
          split at he
          · cases works <;> cases he <;> exact .stays (by simp) rfl
          · cases he
      | purge =>
          cases he
          exact .stays (by simp) rfl
  | threadless user =>
      simp only [happen] at he
      split at he
      all_goals cases he
      exact .stays (by simp) rfl
  | dies loop =>
      simp only [happen] at he
      split at he
      all_goals cases he
      all_goals exact .stays (by simp) rfl
  | stirs other =>
      simp only [happen] at he
      split at he
      all_goals cases he
      by_cases hne : reader = other
      · exact .looks (by simp [State.setReader, hne])
      · exact hother other _ rfl hne (by simp)

/-- The time of a reader ended during these events, and it did not come again since. -/
def Expired (reader : Nat) (events : List Event) : Prop :=
  ∃ before after, events = before ++ .move (.expire reader) :: after ∧
    .move (.call reader) ∉ after

/-- **A reader must not wait longer only once its time is over.** -/
theorem expired_of_course {events : List Event} (hstart : s.readers reader = .idle)
    (h : course happen events s = some t) (ht : t.readers reader = .looking false) :
    Expired reader events := by
  induction events using List.reverseRecOn generalizing t with
  | nil =>
      cases h
      rw [hstart] at ht
      cases ht
  | append_singleton events e ih =>
      obtain ⟨u, hu, hlast⟩ := course_append_eq_some.1 h
      obtain ⟨v, he, hv⟩ := course_cons_eq_some.1 hlast
      cases hv
      cases readerGoes_of_happen reader he with
      | stays hcall heq =>
          obtain ⟨before, after, rfl, hafter⟩ := ih hu (heq.symm.trans ht)
          refine ⟨before, after ++ [e], by simp, ?_⟩
          simp [hafter, Ne.symm hcall]
      | expires hexpire _ => exact ⟨events, [], by rw [hexpire], List.not_mem_nil⟩
      | looks heq | sleeps _ heq | takes _ _ heq | givesUp _ heq =>
          rw [ht] at heq
          cases heq

/-- **A reader is told of no byte** only when it looks at an empty ring, and the link is down or
its time is over. -/
theorem none_of_happen {ring : Ring} {events : List Event}
    (h : course happen events (.initial ring) = some s) (he : happen e s = some t)
    (hbefore : s.readers reader ≠ .answered none) (hafter : t.readers reader = .answered none) :
    e = .move (.look reader) ∧ s.inbox.unread = [] ∧
      (s.inbox.linkUp = false ∨ Expired reader events) := by
  cases readerGoes_of_happen reader he with
  | givesUp hlook _ hunread hwhy =>
      exact ⟨hlook, hunread, hwhy.imp id (expired_of_course rfl h)⟩
  | stays _ heq => exact absurd (heq.symm.trans hafter) hbefore
  | looks heq | expires _ heq | sleeps _ heq | takes _ _ heq =>
      rw [hafter] at heq
      cases heq

end Interleaving

namespace InUse

variable {σ : Type} [Wire σ]

/-! ## Reading on a link that is down -/

/-- **Drained, then nothing.**  Let the link of a port be down, whatever led there, with no reader
about to be told something; so it is after every run of whole calls.  Then, as long as the ring is
not purged and no opening works, the reads are told the unread bytes in order, and after the last
one that there is none; none of them waits, however patient.  Openings that are turned down change
nothing about that.  One that connects and then gets no thread leaves the link down over an empty
ring: the reads before it get bytes, and no read after it.  As numbers these are the values of the
bytes, and then -1.  In any state a reader that does not wait is told of no byte exactly if there is
none and the link is down or it must not wait; and among all others a reader is told so only when it
looks at an empty ring, with the link down or its time over. -/
theorem drained_then_nothing {wire : σ} {settings : Settings} {p : Port σ}
    (h : Port.create wire settings = .ok p) :
    (∀ (u : InUse σ) (calls : List (Action σ)), p.Reaches u.port → ReadersRest u →
      u.port.inbox.linkUp = false → (∀ a ∈ calls, a ≠ .purge) →
      (∀ t ∈ (run calls u).1, t.1 ≠ .opened (.ok ())) →
      let bytes := u.port.inbox.unread.take (reads (beforeLink calls u))
      readAnswers (run calls u).1 = drain bytes (reads calls) ∧
        (readAnswers (run calls u).1).map ReadAnswer.code? =
          ((List.range (reads calls)).map fun i => some (codeAt bytes i)) ∧
        (run calls u).2.port.inbox.unread =
          (if (beforeLink calls u).length = calls.length then
            u.port.inbox.unread.drop (reads calls) else []) ∧
        (run calls u).2.port.inbox.linkUp = false) ∧
    (∀ calls : List (Action σ),
      p.Reaches (run calls { port := p }).2.port ∧ ReadersRest (run calls { port := p }).2) ∧
    (∀ (u : InUse σ) patience, (u.read patience).1 = .told none ↔
      u.port.inbox.unread = [] ∧ (u.port.inbox.linkUp = false ∨ patience = .brief)) ∧
    ∀ ring events s e t reader,
      course Interleaving.happen events (.initial ring) = some s →
      Interleaving.happen e s = some t → s.readers reader ≠ .answered none →
      t.readers reader = .answered none →
      e = .move (.look reader) ∧ s.inbox.unread = [] ∧
        (s.inbox.linkUp = false ∨ Interleaving.Expired reader events) := by
  refine ⟨fun u calls hreaches hrest hdown hpurge hopened => ?_, fun calls => ?_, told_none_iff,
    fun ring events s e t reader => Interleaving.none_of_happen⟩
  · have hstart := down_of_reaches h hreaches hrest hdown
    obtain ⟨hanswers, hend⟩ := hstart.run calls hpurge hopened
    refine ⟨hanswers, ?_, hend.unread_eq, hend.linkUp_eq⟩
    rw [hanswers, code?_drain]
  · have hrest : ReadersRest { port := p } := fun hpos => absurd hpos (Nat.lt_irrefl 0)
    exact ⟨reaches_run { port := p } calls, readersRest_run hrest calls⟩

/-- The dongle hangs up with three bytes unread, and will turn the next connection down. -/
def hangingUp : List (Action Simulated) :=
  [.openWith {}, .onWire (Simulated.Control.enqueue [1, 200, 3]).apply,
    .onWire Simulated.Control.disconnect.apply,
    .onWire (Simulated.Control.turnDown .refused).apply]

/-- Patient and impatient reads, an opening that is turned down, and two closings. -/
def drainingReads : List (Action Simulated) :=
  [.read .unlimited, .openWith {}, .read .brief, .close, .read .unlimited, .read .unlimited, .close,
    .read .brief]

/-- A closed port whose loop reads two bytes at a time. -/
def pairsPort : Port Simulated where
  wire := { name := "MOCK0" }
  settings := { chunkSize := 2 }
  inbox := { ring := .standard, linkUp := false }

/-- The state in which the dongle has hung up. -/
def hungUp : InUse Simulated := (run hangingUp { port := pairsPort }).2

theorem drained_after_hangingUp :
    Port.create { name := "MOCK0" } { chunkSize := 2 } = .ok pairsPort ∧
      hungUp.port.inbox.linkUp = false ∧ hungUp.port.inbox.unread = [1, 200, 3] ∧
      readAnswers (run drainingReads hungUp).1 =
        [.told (some 1), .told (some 200), .told (some 3), .told none, .told none] ∧
      (readAnswers (run drainingReads hungUp).1).map ReadAnswer.code? =
        [some 1, some 200, some 3, some (-1), some (-1)] := by
  have hport : Port.create { name := "MOCK0" } { chunkSize := 2 } =
      .ok pairsPort := rfl
  obtain ⟨hdrained, hwhole, -, -⟩ := drained_then_nothing hport
  obtain ⟨hreaches, hrest⟩ := hwhole hangingUp
  have hdown : hungUp.port.inbox.linkUp = false := by decide
  have hunread : hungUp.port.inbox.unread = [1, 200, 3] := by decide
  have htold : (run drainingReads hungUp).1.map Prod.fst =
      [.read (.told (some 1)), .opened (.error (.refused "MOCK0")), .read (.told (some 200)), .done,
        .read (.told (some 3)), .read (.told none), .done, .read (.told none)] := rfl
  have hopened : ∀ t ∈ (run drainingReads hungUp).1, t.1 ≠ .opened (.ok ()) := by
    intro t ht heq
    have hmem := List.mem_map_of_mem (f := Prod.fst) ht
    rw [htold, heq] at hmem
    simp at hmem
  obtain ⟨hanswers, hcodes, -, -⟩ :=
    hdrained hungUp drainingReads hreaches hrest hdown (by simp [drainingReads]) hopened
  rw [hunread] at hanswers hcodes
  exact ⟨hport, hdown, hunread, hanswers.trans (by decide), hcodes.trans (by decide)⟩

/-- Two openings: one is turned down, and one connects and gets no thread. -/
def failedOpenings : List (Action Simulated) :=
  [.openWith {}, .openWith {} (.error (.system 11))]

/-- Both openings fail, and yet three bytes that were unread before cannot be read after them. -/
theorem none_after_failedOpenings :
    Port.create { name := "MOCK0" } { chunkSize := 2 } = .ok pairsPort ∧
      hungUp.port.inbox.linkUp = false ∧ hungUp.port.inbox.unread = [1, 200, 3] ∧
      (run (failedOpenings ++ [.read .unlimited]) hungUp).1.map Prod.fst =
        [.opened (.error (.refused "MOCK0")), .opened (.error (.io (.system 11))),
          .read (.told none)] :=
  ⟨rfl, by decide, by decide, rfl⟩

end InUse

end DongleLink

import Mathlib.Data.List.Perm.Subperm
import DongleLink.Port.Action
import DongleLink.Proofs.Drained
import DongleLink.Proofs.Isolation
import DongleLink.Proofs.Ledger
import DongleLink.Proofs.Overdue

/-!
# DongleLink.Proofs.Sharing

Readers that sleep when a chunk comes.  All of them are woken, however few bytes there are, and
they look in any order.  What every event keeps until the next chunk comes is this
(`Sharing.happen`): the readers that looked in time have one byte each, in the order in which they
looked; the others sleep or are about to look; and the rest of the chunk is unread.  Once all who
were woken have looked, nobody sleeps over an unread byte, and so as many are served as there are
readers and bytes (`Sharing.sharedOut`).

If the link goes down instead, none of them gets a byte, and none sleeps on (`Emptyhanded.happen`).
-/

namespace DongleLink.Interleaving

/-! ## Blocked readers -/

/-- These readers are blocked on an open port: they sleep, nobody else does or is about to look,
and nobody is about to wake them. -/
structure Blocked (waiting : List Nat) (s : State) : Prop where
  nodup : waiting.Nodup
  asleep_iff : ∀ reader, s.readers reader = .asleep ↔ reader ∈ waiting
  not_looking : ∀ reader patient, s.readers reader ≠ .looking patient
  linkUp_eq : s.inbox.linkUp = true
  not_owed : ¬ WakeOwed s
  /-- readers that sleep have seen that no byte is unread; without any, none may be either -/
  unread_of_nobody : waiting = [] → s.inbox.unread = []

/-- The reader sleeps, or was woken and is about to look. -/
def ReaderAt.IsPatient (place : ReaderAt) : Prop := place = .asleep ∨ place = .looking true

theorem ReaderAt.IsPatient.waits {place : ReaderAt} (h : place.IsPatient) : place.Waits := by
  obtain rfl | rfl := h <;> trivial

/-- Who is not asleep is left alone when the sleepers are woken. -/
theorem wakeReader_cases (place : ReaderAt) :
    State.wakeReader place = place ∨ place.IsPatient ∧ (State.wakeReader place).IsPatient := by
  cases place with
  | asleep => exact .inr ⟨.inl rfl, .inr rfl⟩
  | _ => exact .inl rfl

/-- A reader that waits goes on waiting, and the others stay where they are. -/
theorem patient_setReader {s : State} {reader : Nat} {place : ReaderAt}
    (hbefore : (s.readers reader).IsPatient) (hplace : place.IsPatient) (other : Nat) :
    (s.setReader reader place).readers other = s.readers other ∨
      (s.readers other).IsPatient ∧ ((s.setReader reader place).readers other).IsPatient := by
  by_cases hsame : other = reader
  · subst hsame
    exact .inr ⟨hbefore, by simpa [State.setReader] using hplace⟩
  · exact .inl (readers_setReader place hsame)

theorem Blocked.unread_eq {waiting : List Nat} {s : State} (h : Blocked waiting s)
    (hnone : NoneForgotten s) : s.inbox.unread = [] := by
  cases hwaiting : waiting with
  | nil => exact h.unread_of_nobody hwaiting
  | cons reader rest =>
      have hasleep := (h.asleep_iff reader).2 (by simp [hwaiting])
      exact ((hnone reader hasleep).resolve_right h.not_owed).1

/-! ## The inbox -/

/-- The unread bytes, without their numbers. -/
theorem Sound.unread_eq_tagged {s : State} (h : Sound s) :
    s.inbox.unread = s.tagged.map Prod.fst :=
  (List.map_fst_zip h.length_sources.ge).symm

/-- What can be done to an inbox at once. -/
inductive Touched (i : Inbox) : Inbox → Prop where
  | same : Touched i i
  | linkDown : Touched i i.linkDown
  | attach : Touched i i.attach
  | purge : Touched i i.purge
  | ingest (bytes : List UInt8) : Touched i (i.ingest bytes).2
  | look {found : Found} {j : Inbox} (h : i.look = (found, j)) : Touched i j

theorem touched_of_advanceStep {s t : State} {user : Nat} (hstep : advanceStep user s = some t) :
    Touched s.inbox t.inbox := by
  have htorn : ∀ aim (v : State), (afterTeardown user aim v).inbox = v.inbox := by
    intro aim v
    cases aim <;> rfl
  rw [advanceStep] at hstep
  split at hstep
  next =>
    split at hstep
    · cases hstep
      exact .same
    · split at hstep
      all_goals cases hstep
      all_goals exact .same
  next =>
    cases hstep
    exact .same
  next =>
    cases hstep
    exact .linkDown
  next =>
    cases hstep
    rw [htorn]
    exact .same
  next =>
    cases hstep
    exact .same
  next =>
    split at hstep
    all_goals cases hstep
    rw [htorn]
    exact .same
  next =>
    cases hstep
    exact .attach
  next =>
    cases hstep
    exact .same
  next =>
    cases hstep
    exact .same
  all_goals cases hstep

theorem touched_of_step {m : Move} {s t : State} (hstep : step m s = some t) :
    Touched s.inbox t.inbox := by
  cases m with
  | look reader =>
      simp only [step, lookStep] at hstep
      split at hstep
      · split at hstep
        next hlook =>
          cases hstep
          exact .look hlook
        all_goals
          cases hstep
          exact .same
      · cases hstep
  | proceed loop =>
      simp only [step, proceedStep] at hstep
      split at hstep
      next =>
        cases hstep
        exact .same
      next bytes _ =>
        cases hstep
        exact .ingest bytes
      next =>
        cases hstep
        exact .same
      next =>
        cases hstep
        exact .linkDown
      next =>
        cases hstep
        exact .same
      all_goals cases hstep
  | advance user => exact touched_of_advanceStep hstep
  | call reader | expire reader | read loop r | beginOpen user =>
      simp only [step, beginStep] at hstep
      split at hstep
      all_goals cases hstep
      all_goals exact .same
  | beginClose user =>
      simp only [step, beginStep, Option.map_eq_some_iff] at hstep
      obtain ⟨v, hbegin, rfl⟩ := hstep
      split at hbegin
      all_goals cases hbegin
      exact .same
  | connect user works =>
      simp only [step] at hstep
      split at hstep
      · cases works <;> cases hstep <;> exact .same
      · cases hstep
  | purge =>
      cases hstep
      exact .purge

/-- **What an event does to the inbox.** -/
theorem touched_of_happen {e : Event} {s t : State} (he : happen e s = some t) :
    Touched s.inbox t.inbox := by
  cases e with
  | move m => exact touched_of_step he
  | threadless k | dies k | stirs k =>
      simp only [happen] at he
      split at he
      all_goals cases he
      all_goals exact .same

/-- Nothing changes how many bytes there is room for. -/
theorem Touched.usable_eq {i j : Inbox} (h : Touched i j) : j.ring.usable = i.ring.usable := by
  cases h with
  | same | linkDown => rfl
  | attach | purge => simp [Inbox.attach, Inbox.purge, Ring.usable]
  | ingest bytes => exact i.usable_ingest bytes
  | look h => exact Inbox.usable_of_look h

theorem usable_of_course {events : List Event} {s t : State}
    (h : course happen events s = some t) : t.inbox.ring.usable = s.inbox.ring.usable :=
  course_keeps (P := fun u => u.inbox.ring.usable = s.inbox.ring.usable)
    (fun _ _ _ hu he => (touched_of_happen he).usable_eq.trans hu) rfl h

/-! ## Until the next chunk -/

/- The readers that were woken look in any order, and may be disturbed.  The invariant is told of
those that were served so far, in the order in which they were: the first of them has the first
byte. -/

/-- What can happen until the next chunk comes: the loop goes on and hears of nothing that lasts,
readers look, and sleepers stir. -/
def UntilNextChunk (loop : Nat) : Event → Prop
  | .move (.proceed k) => k = loop
  | .move (.read k r) => k = loop ∧ ∃ fault, r = .failed fault ∧ fault.isTransient = true
  | .move (.look _) | .stirs _ => True
  | _ => False

/-- What an event is to a port with the same inbox, as long as the link stays up. -/
def onPort {σ : Type} (e : Event) (s : State) : List (Port.Action σ) :=
  match e with
  | .move (.proceed loop) =>
    match s.loops loop with
    | .storing bytes => [.hear (.data bytes)]
    | _ => []
  | .move (.look _) => [.look]
  | _ => []

/-- Some readers were served since `s`: each of them has a byte of its own, in order; the others
that waited still do; and the bytes that are left are unread.  Port `q` has counted that from
`c` on. -/
structure Sharing {σ : Type} (waiting : List Nat) (shared : List (UInt8 × Nat)) (loop : Nat)
    (s : State) (c : Counters) (served : List Nat) (t : State) (q : Port σ) : Prop where
  nodup : served.Nodup
  subset : served ⊆ waiting
  length_le : served.length ≤ shared.length
  given : served.map t.readers =
    (shared.take served.length).map fun tagged => .answered (some tagged)
  waits : ∀ reader ∈ waiting, reader ∉ served → (t.readers reader).IsPatient
  others : ∀ reader, reader ∉ waiting → t.readers reader = s.readers reader
  tagged_eq : t.tagged = shared.drop served.length
  linkUp_eq : t.inbox.linkUp = true
  running_eq : t.running = true
  loop_at : t.loops loop = .announcing ∨ t.loops loop = .checking ∨ t.loops loop = .reading
  users_eq : t.users = s.users
  inbox_eq : q.inbox = t.inbox
  listens_eq : q.listens = true
  counters_eq : q.counters = { c with delivered := c.delivered + .ofNat served.length }

/-- These readers of those that waited have been served: each has a byte of its own, in order, as
long as there are bytes; the others sleep; and the rest of the bytes is unread. -/
structure SharedOut (waiting served : List Nat) (kept : List UInt8) (loop : Nat) (s t : State) :
    Prop where
  nodup : served.Nodup
  subset : served ⊆ waiting
  length_eq : served.length = min waiting.length kept.length
  given : served.map t.readers =
    (kept.take waiting.length).map fun b => .answered (some (b, loop))
  asleep : ∀ reader ∈ waiting, reader ∉ served → t.readers reader = .asleep
  others : ∀ reader, reader ∉ waiting → t.readers reader = s.readers reader
  unread_eq : t.inbox.unread = kept.drop waiting.length

namespace Sharing

variable {σ : Type} {waiting : List Nat} {shared : List (UInt8 × Nat)} {loop : Nat}
  {s t u : State} {c : Counters} {served : List Nat} {q : Port σ}

/-- Who was served has a byte. -/
theorem answered_of_mem (h : Sharing waiting shared loop s c served t q) {reader : Nat}
    (hserved : reader ∈ served) : ∃ tagged, t.readers reader = .answered (some tagged) := by
  have hmem : t.readers reader ∈ served.map t.readers := List.mem_map_of_mem hserved
  rw [h.given] at hmem
  obtain ⟨tagged, -, heq⟩ := List.mem_map.1 hmem
  exact ⟨tagged, heq.symm⟩

/-- Who waits is one of those that waited before, and was not served. -/
theorem mem_of_waits (h : Sharing waiting shared loop s c served t q)
    (hblocked : Blocked waiting s) {reader : Nat} (hreader : (t.readers reader).Waits) :
    reader ∈ waiting ∧ reader ∉ served := by
  constructor
  · by_contra hother
    rw [h.others reader hother] at hreader
    cases hplace : s.readers reader with
    | asleep => exact hother ((hblocked.asleep_iff reader).1 hplace)
    | looking patient => exact hblocked.not_looking reader patient hplace
    | idle | answered result => simp [hplace, ReaderAt.Waits] at hreader
  · intro hserved
    obtain ⟨tagged, heq⟩ := h.answered_of_mem hserved
    simp [heq, ReaderAt.Waits] at hreader

/-- Nobody is served: readers that wait go on waiting, and the bytes stay. -/
theorem keep (h : Sharing waiting shared loop s c served t q) (hblocked : Blocked waiting s)
    (hreaders : ∀ reader, u.readers reader = t.readers reader ∨
      (t.readers reader).IsPatient ∧ (u.readers reader).IsPatient)
    (hinbox : u.inbox = t.inbox) (hsources : u.sources = t.sources)
    (hrunning : u.running = t.running) (husers : u.users = t.users)
    (hloop : u.loops loop = .announcing ∨ u.loops loop = .checking ∨ u.loops loop = .reading) :
    Sharing waiting shared loop s c served u q := by
  refine
    { h with
      given := ?_
      waits := fun reader hwaiting hserved => ?_
      others := fun reader hother => ?_
      tagged_eq := by rw [State.tagged, hinbox, hsources]; exact h.tagged_eq
      linkUp_eq := by rw [hinbox, h.linkUp_eq]
      running_eq := by rw [hrunning, h.running_eq]
      loop_at := hloop
      users_eq := by rw [husers, h.users_eq]
      inbox_eq := by rw [hinbox, h.inbox_eq] }
  · rw [← h.given]
    refine List.map_congr_left fun reader hserved => ?_
    refine (hreaders reader).resolve_right fun hpatient => ?_
    exact (h.mem_of_waits hblocked hpatient.1.waits).2 hserved
  · obtain heq | hpatient := hreaders reader
    · rw [heq]
      exact h.waits reader hwaiting hserved
    · exact hpatient.2
  · obtain heq | hpatient := hreaders reader
    · rw [heq, h.others reader hother]
    · exact absurd (h.mem_of_waits hblocked hpatient.1.waits).1 hother

/-- A reader that waits takes the next byte. -/
theorem serve (h : Sharing waiting shared loop s c served t q) {reader : Nat} {b : UInt8}
    {inbox : Inbox} (hs : Sound t) (hwaiting : reader ∈ waiting) (hserved : reader ∉ served)
    (hlook : t.inbox.look = (.byte b, inbox)) :
    Sharing waiting shared loop s c (served ++ [reader])
      ({ t with inbox := inbox, sources := t.sources.tail }.setReader reader
        (.answered (some (b, t.sources.headD 0)))) q.look.2 := by
  let u := { t with inbox := inbox, sources := t.sources.tail }.setReader reader
    (.answered (some (b, t.sources.headD 0)))
  have htagged : shared.drop served.length = (b, t.sources.headD 0) :: u.tagged := by
    rw [← h.tagged_eq, tagged_of_look hs hlook]
    rfl
  have hsame : ∀ other, other ≠ reader → u.readers other = t.readers other := fun other hne =>
    readers_setReader _ hne
  have hat : u.readers reader = .answered (some (b, t.sources.headD 0)) := by
    simp [u, State.setReader]
  have hnext : shared[served.length]? = some (b, t.sources.headD 0) := by
    rw [← List.head?_drop, htagged]
    rfl
  have hport : q.look = (.byte b,
      { q with
        inbox := inbox
        counters := { q.counters with delivered := q.counters.delivered + 1 } }) := by
    rw [Port.look, h.inbox_eq, hlook]
  refine
    { nodup := ?_
      subset := ?_
      length_le := ?_
      given := ?_
      waits := fun other hother hnot => ?_
      others := fun other hother => ?_
      tagged_eq := ?_
      linkUp_eq := (Inbox.linkUp_of_look hlook).trans h.linkUp_eq
      running_eq := h.running_eq
      loop_at := h.loop_at
      users_eq := h.users_eq
      inbox_eq := by rw [hport]; rfl
      listens_eq := by rw [hport]; exact h.listens_eq
      counters_eq := ?_ }
  · refine List.nodup_append.2 ⟨h.nodup, by simp, ?_⟩
    rintro other hother reader hreader rfl
    exact hserved (List.mem_singleton.1 hreader ▸ hother)
  · exact List.append_subset.2 ⟨h.subset, by simpa using hwaiting⟩
  · rw [List.length_append]
    exact (List.getElem?_eq_some_iff.1 hnext).1
  · have hbefore : served.map u.readers = served.map t.readers :=
      List.map_congr_left fun other hother => hsame other fun heq => hserved (heq ▸ hother)
    rw [List.map_append, hbefore, h.given, List.length_append, List.length_singleton,
      List.take_add_one, hnext, List.map_append, List.map_singleton, hat]
    rfl
  · simp only [List.mem_append, List.mem_singleton, not_or] at hnot
    rw [hsame other hnot.2]
    exact h.waits other hother hnot.1
  · have hne : other ≠ reader := fun heq => hother (heq ▸ hwaiting)
    rw [hsame other hne]
    exact h.others other hother
  · rw [List.length_append, List.length_singleton, ← List.tail_drop, htagged]
    rfl
  · rw [hport, h.counters_eq]
    simp [UInt64.add_assoc]

/-- The loop goes on with what it has begun: it wakes those that wait, or looks whether it is still
wanted. -/
theorem proceed [Wire σ] (h : Sharing waiting shared loop s c served t q)
    (hblocked : Blocked waiting s) (hstep : proceedStep loop t = some u) :
    Sharing waiting shared loop s c served u (q.run (onPort (.move (.proceed loop)) t)) := by
  have hport : onPort (σ := σ) (.move (.proceed loop)) t = [] := by
    obtain hl | hl | hl := h.loop_at <;> simp [onPort, hl]
  rw [hport, Port.run_nil]
  rw [proceedStep] at hstep
  obtain hl | hl | hl := h.loop_at
  · rw [hl] at hstep
    cases hstep
    exact h.keep hblocked (fun reader => wakeReader_cases (t.readers reader)) rfl rfl rfl rfl
      (by simp [State.setLoop])
  · rw [hl, h.running_eq] at hstep
    cases hstep
    exact h.keep hblocked (fun _ => .inl rfl) rfl rfl rfl rfl (by simp [State.setLoop])
  · rw [hl] at hstep
    cases hstep

/-- A reader that looks is one of those that wait: it takes the next byte, or sleeps again. -/
theorem look [Wire σ] (h : Sharing waiting shared loop s c served t q)
    (hblocked : Blocked waiting s) (hs : Sound t) {reader : Nat}
    (hstep : step (.look reader) t = some u) :
    ∃ served', Sharing waiting shared loop s c served' u q.look.2 := by
  obtain ⟨patient, hlooking⟩ := looking_of_step hstep
  have hwaits : (t.readers reader).Waits := by
    rw [hlooking]
    trivial
  obtain ⟨hwaiting, hserved⟩ := h.mem_of_waits hblocked hwaits
  have hpatient : patient = true := by
    simpa [ReaderAt.IsPatient, hlooking] using h.waits reader hwaiting hserved
  subst hpatient
  simp only [step, lookStep, hlooking] at hstep
  cases hlook : t.inbox.look with
  | mk found inbox =>
      rw [hlook] at hstep
      cases found with
      | byte b =>
          cases hstep
          exact ⟨served ++ [reader], h.serve hs hwaiting hserved hlook⟩
      | closed =>
          have hdown := ((Inbox.look_eq_closed_iff _).1 (congrArg Prod.fst hlook)).2
          rw [h.linkUp_eq] at hdown
          cases hdown
      | empty =>
          cases hstep
          have hport : q.look.2 = q := by
            obtain ⟨b, inbox, hbyte, -⟩ | ⟨-, heq⟩ := q.look_cases
            · rw [h.inbox_eq, hlook] at hbyte
              cases hbyte
            · rw [heq]
          rw [hport]
          have hreaders := patient_setReader (.inr hlooking) (.inl rfl)
          exact ⟨served, h.keep hblocked hreaders rfl rfl rfl rfl h.loop_at⟩

/-- **What an event until the next chunk does**: a reader that looks in time is served, and
otherwise nobody is. -/
theorem happen [Wire σ] (h : Sharing waiting shared loop s c served t q)
    (hblocked : Blocked waiting s) (hs : Sound t) {e : Event} (hnext : UntilNextChunk loop e)
    (he : Interleaving.happen e t = some u) :
    ∃ served', Sharing waiting shared loop s c served' u (q.run (onPort e t)) := by
  cases e with
  | move m =>
      cases m with
      | proceed k =>
          obtain rfl : k = loop := hnext
          exact ⟨served, h.proceed hblocked he⟩
      | look reader => exact h.look hblocked hs he
      | read k r =>
          obtain ⟨rfl, fault, rfl, htransient⟩ := hnext
          simp only [Interleaving.happen, step] at he
          split at he
          all_goals cases he
          exact ⟨served, h.keep hblocked (fun _ => .inl rfl) rfl rfl rfl rfl
            (by simp [State.setLoop, afterRead, htransient])⟩
      | _ => exact hnext.elim
  | stirs reader =>
      simp only [Interleaving.happen] at he
      split at he
      all_goals cases he
      next hasleep =>
        have hreaders := patient_setReader (.inl hasleep) (.inr rfl)
        exact ⟨served, h.keep hblocked hreaders rfl rfl rfl rfl h.loop_at⟩
  | _ => exact hnext.elim

/-- The chunk is stored, and nobody has been served. -/
theorem start [Wire σ] (hblocked : Blocked waiting s) (hs : Sound s)
    (hunread : s.inbox.unread = []) (hrunning : s.running = true) {bytes kept : List UInt8}
    (hkept : kept = bytes.rtake (min bytes.length s.inbox.ring.usable))
    (hloop : s.loops loop = .storing bytes) (hne : bytes ≠ []) {p : Port σ}
    (hlistens : p.listens = true) (hinbox : p.inbox = s.inbox)
    (he : Interleaving.happen (.move (.proceed loop)) s = some t) :
    Sharing waiting (kept.map (·, loop)) loop s (p.ingest bytes).counters [] t
      (p.run (onPort (.move (.proceed loop)) s)) := by
  simp only [Interleaving.happen, step, proceedStep, hloop] at he
  cases he
  have hport : p.run (onPort (.move (.proceed loop)) s) = p.ingest bytes := by
    simp [onPort, hloop, Port.act, hlistens, Port.hear, hne]
  have hsources : s.sources = [] := by
    rw [← List.length_eq_zero_iff, hs.length_sources, hunread, List.length_nil]
  have htagged : s.tagged = [] := by rw [State.tagged, hunread, List.zip_nil_left]
  rw [hport]
  refine
    { nodup := .nil
      subset := List.nil_subset waiting
      length_le := Nat.zero_le _
      given := rfl
      waits := fun reader hwaiting _ => .inl ((hblocked.asleep_iff reader).2 hwaiting)
      others := fun _ _ => rfl
      tagged_eq := ?_
      linkUp_eq := hblocked.linkUp_eq
      running_eq := hrunning
      loop_at := .inl (by simp [State.setLoop])
      users_eq := rfl
      inbox_eq := by rw [← hinbox]; rfl
      listens_eq := hlistens
      counters_eq := by simp }
  have hstored := tagged_of_ingest hs loop bytes
  rw [htagged, hsources, List.nil_append, List.length_nil, Nat.zero_add, ← List.map_drop,
    Ring.drop_eq_rtake, ← hkept] at hstored
  exact hstored

/-- **Until the next chunk** readers are served as they look. -/
theorem along [Wire σ] (h : Sharing waiting shared loop s c served t q)
    (hblocked : Blocked waiting s) (hs : Sound t) {rest : List Event}
    (hnext : ∀ e ∈ rest, UntilNextChunk loop e)
    (hrest : course Interleaving.happen rest t = some u) :
    ∃ served', Sharing waiting shared loop s c served' u
      (q.run (DongleLink.along Interleaving.happen onPort rest t)) := by
  have hkeep : ∀ (brought : List (Port.Action σ)) e v w, UntilNextChunk loop e →
      (Sound v ∧ ∃ served, Sharing waiting shared loop s c served v (q.run brought)) →
        Interleaving.happen e v = some w →
          Sound w ∧ ∃ served, Sharing waiting shared loop s c served w
            (q.run (brought ++ onPort e v)) := by
    rintro brought e v w he ⟨hv, served, hsharing⟩ hstep
    rw [Port.run_append]
    exact ⟨hv.happen hstep, hsharing.happen hblocked hv he hstep⟩
  exact (along_keeps_of_forall onPort hkeep hnext [] ⟨hs, served, h⟩ hrest).2

/-- **Once all who were woken have looked**, as many are served as there are readers and bytes. -/
theorem length_served (h : Sharing waiting shared loop s c served t q) (hwaiting : waiting.Nodup)
    (hsettled : Settled waiting t) (hnone : NoneForgotten t) :
    served.length = min waiting.length shared.length := by
  have hle := (List.subperm_of_subset h.nodup h.subset).length_le
  have hle' := h.length_le
  by_cases hall : waiting ⊆ served
  · have hge := (List.subperm_of_subset hwaiting hall).length_le
    omega
  · -- somebody was not served, and sleeps because no byte is left
    obtain ⟨reader, hreader, hserved⟩ : ∃ reader ∈ waiting, reader ∉ served := by
      simpa [List.subset_def] using hall
    have hasleep := (h.waits reader hreader hserved).resolve_right
      (hsettled.not_looking reader hreader true)
    have hunread := ((hnone reader hasleep).resolve_right hsettled.not_owed).1
    have htagged := h.tagged_eq
    rw [State.tagged, hunread, List.zip_nil_left, eq_comm, List.drop_eq_nil_iff] at htagged
    omega

/-- **As many are served as there are readers and bytes**, in the order in which they looked. -/
theorem sharedOut {kept : List UInt8}
    (h : Sharing waiting (kept.map (·, loop)) loop s c served t q) (hs : Sound t)
    (hwaiting : waiting.Nodup) (hsettled : Settled waiting t) (hnone : NoneForgotten t) :
    SharedOut waiting served kept loop s t := by
  have hlength : served.length = min waiting.length kept.length := by
    simpa using h.length_served hwaiting hsettled hnone
  refine
    { nodup := h.nodup
      subset := h.subset
      length_eq := hlength
      given := ?_
      asleep := fun reader hreader hserved => (h.waits reader hreader hserved).resolve_right
        (hsettled.not_looking reader hreader true)
      others := h.others
      unread_eq := ?_ }
  · rw [h.given, hlength, ← List.map_take, ← List.take_eq_take_min, List.map_map]
    rfl
  · calc t.inbox.unread
      _ = t.tagged.map Prod.fst := hs.unread_eq_tagged
      _ = kept.drop served.length := by
          rw [h.tagged_eq, ← List.map_drop, List.map_map]
          exact List.map_id _
      _ = kept.drop waiting.length := by rw [hlength, ← List.drop_eq_drop_min]

/-- What a port counts while a chunk is shared out. -/
theorem counters {kept bytes : List UInt8} {p : Port σ}
    (h : Sharing waiting (kept.map (·, loop)) loop s (p.ingest bytes).counters served t q)
    (hlength : served.length = min waiting.length kept.length)
    (hevicted : (p.inbox.ingest bytes).1 = bytes.length - kept.length) :
    q.counters =
      { p.counters with
        received := p.counters.received + .ofNat bytes.length
        delivered := p.counters.delivered + .ofNat (min waiting.length kept.length)
        evicted := p.counters.evicted + .ofNat (bytes.length - kept.length) } := by
  rw [h.counters_eq, hlength, ← hevicted]
  rfl

end Sharing

/-! ## Until all have looked -/

/-- What is overdue once a chunk is stored comes before the next one. -/
theorem Sharing.untilNextChunk {σ : Type} {waiting served : List Nat}
    {shared : List (UInt8 × Nat)} {loop : Nat} {s t : State} {c : Counters} {q : Port σ}
    (h : Sharing waiting shared loop s c served t q) (hs : Sound t) (hnot : ¬ WakeOwed s)
    {e : Event} (he : Overdue waiting t e) : UntilNextChunk loop e := by
  cases e with
  | move m =>
      cases m with
      | proceed k =>
          have hloop : (t.loops loop).isLive = true := by
            obtain hl | hl | hl := h.loop_at <;> simp [hl, LoopAt.isLive]
          have hlast := hs.live_last (LoopAt.isLive_of_owesWake he)
          rw [← hs.live_last hloop] at hlast
          exact Nat.succ.inj hlast
      | advance user =>
          have howes : (t.users user).owesWake = true := he
          rw [h.users_eq] at howes
          exact absurd (.inr ⟨user, howes⟩) hnot
      | look reader => trivial
      | _ => exact he.elim
  | _ => exact he.elim

/-! ## No chunk -/

/-- No byte is there, and these readers have none. -/
structure Emptyhanded (waiting : List Nat) (t : State) : Prop where
  unread_eq : t.inbox.unread = []
  waits_or_none : ∀ reader ∈ waiting, (t.readers reader).Waits ∨ t.readers reader = .answered none

/-- **What an event that stores nothing does**: nobody gets a byte. -/
theorem Emptyhanded.happen {waiting : List Nat} {e : Event} {t u : State}
    (h : Emptyhanded waiting t) (hs : Sound t) (hstored : storedBy e t = [])
    (he : Interleaving.happen e t = some u) : Emptyhanded waiting u := by
  have hbytes := (traffic_of_happen hs he).bytes
  have hempty : t.tagged = [] := by rw [State.tagged, h.unread_eq, List.zip_nil_left]
  rw [hempty, hstored, List.append_nil, List.sublist_nil, List.append_eq_nil_iff] at hbytes
  obtain ⟨hpopped, htagged⟩ := hbytes
  refine ⟨?_, fun reader hreader => ?_⟩
  · rw [(hs.happen he).unread_eq_tagged, htagged, List.map_nil]
  · cases readerGoes_of_happen reader he with
    | stays _ hsame =>
        rw [hsame]
        exact h.waits_or_none reader hreader
    | looks hu | expires _ hu | sleeps _ hu => exact .inl (by rw [hu]; trivial)
    | takes hlook tagged hu =>
        -- a byte that is taken has been unread
        subst hlook
        have hstep : lookStep reader t = some u := he
        simp [poppedBy, hstep, hu, ReaderAt.given] at hpopped
    | givesUp _ hu _ _ => exact .inr hu

theorem Emptyhanded.course {waiting : List Nat} {events : List Event} {t u : State}
    (h : Emptyhanded waiting t) (hs : Sound t)
    (hevents : DongleLink.course Interleaving.happen events t = some u)
    (hstored : along Interleaving.happen storedBy events t = []) : Emptyhanded waiting u := by
  induction events generalizing t with
  | nil =>
      cases hevents
      exact h
  | cons e rest ih =>
      obtain ⟨v, he, hrest⟩ := course_cons_eq_some.1 hevents
      simp only [along, he, Option.elim_some, List.append_eq_nil_iff] at hstored
      exact ih (h.happen hs hstored.1 he) (hs.happen he) hrest hstored.2

/-- **Once all who were woken have looked** on a link that is down, none of them waits. -/
theorem Emptyhanded.answered_none {waiting : List Nat} {t : State} (h : Emptyhanded waiting t)
    (hnone : NoneForgotten t) (hsettled : Settled waiting t) (hdown : t.inbox.linkUp = false)
    {reader : Nat} (hreader : reader ∈ waiting) : t.readers reader = .answered none := by
  refine (h.waits_or_none reader hreader).resolve_left fun hwaits => ?_
  cases hplace : t.readers reader with
  | asleep =>
      have hup := ((hnone reader hplace).resolve_right hsettled.not_owed).2
      rw [hdown] at hup
      cases hup
  | looking patient => exact hsettled.not_looking reader hreader patient hplace
  | idle | answered result => simp [hplace, ReaderAt.Waits] at hwaits

/-! ## Blocked readers and what comes next -/

section next

variable {σ : Type} [Wire σ] {waiting : List Nat} {s t : State} {loop : Nat}
  {bytes kept : List UInt8} {rest : List Event} (hblocked : Blocked waiting s) (hs : Sound s)
  (hnone : NoneForgotten s)

include hblocked hs hnone

section chunk

variable (hkept : kept = bytes.rtake (min bytes.length s.inbox.ring.usable))
  (hloop : s.loops loop = .storing bytes) (hne : bytes ≠ []) (hrunning : s.running = true)
  (hnext : ∀ e ∈ rest, UntilNextChunk loop e)
  (h : course happen (.move (.proceed loop) :: rest) s = some t)

include hkept hloop hne hrunning hnext h

/-- **Until the next chunk**, readers that were blocked are being served. -/
theorem Blocked.sharing {p : Port σ} (hlistens : p.listens = true) (hinbox : p.inbox = s.inbox) :
    ∃ served, Sharing waiting (kept.map (·, loop)) loop s (p.ingest bytes).counters served t
      (p.run (along happen onPort (.move (.proceed loop) :: rest) s)) := by
  obtain ⟨u, hfirst, hrest⟩ := course_cons_eq_some.1 h
  have hstart := Sharing.start hblocked hs (hblocked.unread_eq hnone) hrunning hkept hloop hne
    hlistens hinbox hfirst
  obtain ⟨served, hsharing⟩ := hstart.along hblocked (hs.happen hfirst) hnext hrest
  refine ⟨served, ?_⟩
  rwa [along, hfirst, Option.elim_some, Port.run_append]

/-- **The newest bytes that fit are shared out** once all have looked, and until then they can come
to look. -/
theorem Blocked.sharedOut :
    (∃ more t', course happen more t = some t' ∧ (∀ e ∈ more, UntilNextChunk loop e) ∧
      Settled waiting t') ∧
      (Settled waiting t → ∃ served, SharedOut waiting served kept loop s t) := by
  have ht := hs.course h
  -- some port that listens has this inbox
  let p : Port Scripted :=
    { wire := { name := "" }
      settings := {}
      inbox := s.inbox
      running := true
      session := some .reading }
  have hlistens : p.listens = true := rfl
  obtain ⟨served, hsharing⟩ :=
    hblocked.sharing hs hnone hkept hloop hne hrunning hnext h hlistens rfl
  refine ⟨?_, fun hsettled => ⟨served, ?_⟩⟩
  · obtain ⟨more, t', hcatches, hsettled⟩ := exists_settled waiting ht
    exact ⟨more, t', hcatches.leads,
      fun e he => hsharing.untilNextChunk ht hblocked.not_owed (hcatches.overdue e he), hsettled⟩
  · exact hsharing.sharedOut ht hblocked.nodup hsettled (noneForgotten_course hs hnone h)

/-- **A port counts all of that.** -/
theorem Blocked.counted (hsettled : Settled waiting t) {p : Port σ}
    (hlistens : p.listens = true) (hinbox : p.inbox = s.inbox) :
    let q := p.run (along happen onPort (.move (.proceed loop) :: rest) s)
    q.inbox = t.inbox ∧ q.counters =
      { p.counters with
        received := p.counters.received + .ofNat bytes.length
        delivered := p.counters.delivered + .ofNat (min waiting.length kept.length)
        evicted := p.counters.evicted + .ofNat (bytes.length - kept.length) } := by
  have hunread := hblocked.unread_eq hnone
  obtain ⟨served, hsharing⟩ :=
    hblocked.sharing hs hnone hkept hloop hne hrunning hnext h hlistens hinbox
  have hout := hsharing.sharedOut (hs.course h) hblocked.nodup hsettled
    (noneForgotten_course hs hnone h)
  refine ⟨hsharing.inbox_eq, hsharing.counters hout.length_eq ?_⟩
  have hlength : kept.length = min bytes.length s.inbox.ring.usable := by
    rw [hkept, List.rtake, List.length_drop]
    omega
  rw [hinbox, Inbox.ingest_evicted, hunread, List.length_nil, hlength]
  omega

end chunk

section noChunk

variable (h : course happen rest s = some t) (hstored : along happen storedBy rest s = [])

include h hstored

/-- Blocked readers that no chunk comes for have no byte. -/
theorem Blocked.emptyhanded : Emptyhanded waiting t := by
  refine Emptyhanded.course ⟨hblocked.unread_eq hnone, fun reader hreader => .inl ?_⟩ hs h hstored
  rw [(hblocked.asleep_iff reader).2 hreader]
  trivial

/-- **Blocked readers are let go without a byte** where the link goes down instead, and until then
they can come to look. -/
theorem Blocked.released (hdown : t.inbox.linkUp = false) :
    (∃ more t', course happen more t = some t' ∧ along happen storedBy more t = [] ∧
      t'.inbox.linkUp = false ∧ Settled waiting t') ∧
      (Settled waiting t → ∀ reader ∈ waiting, t.readers reader = .answered none) := by
  have hempty := hblocked.emptyhanded hs hnone h hstored
  refine ⟨?_, fun hsettled reader hreader => ?_⟩
  · obtain ⟨more, t', hcatches, hsettled⟩ := exists_settled waiting (hs.course h)
    exact ⟨more, t', hcatches.leads, hcatches.stored_eq, hcatches.linkUp_eq.trans hdown, hsettled⟩
  · exact hempty.answered_none (noneForgotten_course hs hnone h) hsettled hdown hreader

end noChunk

end next

end DongleLink.Interleaving

import DongleLink.Proofs.Simulated
import DongleLink.Wire.Bench.Event
import Mathlib.Data.List.DropRight
import Mathlib.Data.List.Nodup

/-!
# DongleLink.Proofs.SharedDongle

The stream of a simulated dongle is a lossless queue, whoever uses it.  What one event does is
`Plays`; from it come what goes through the queue, when the stream is over, and the account of
the held writes (`Sound`).  A held write sleeps only while there is cause to: else it has been
woken, or somebody owes it a wake-up.  What is done on a `Bench` one after the other is one
course of such events.
-/

namespace DongleLink

namespace Simulated

variable {bytes : List UInt8} {s t : Simulated} {result : Except IoFault Unit}

/-- A write makes one entry, with all of its bytes, and comes back if there is an echo; or it
fails and changes nothing. -/
theorem write_cases (bytes : List UInt8) (s : Simulated) :
    (s.failWrites = false ∧ s.isOver = false ∧ s.write bytes = (.ok (),
        { s with
          log := s.log ++ [bytes]
          queue := if s.echo then s.queue ++ bytes else s.queue })) ∨
      ((s.failWrites = true ∨ s.isOver = true) ∧ ∃ fault, s.write bytes = (.error fault, s)) := by
  rw [write]
  cases hfail : s.failWrites with
  | true => exact .inr ⟨.inl rfl, _, rfl⟩
  | false =>
      cases hover : s.isOver with
      | true => exact .inr ⟨.inr rfl, _, rfl⟩
      | false => exact .inl ⟨rfl, rfl, rfl⟩

theorem write_result (bytes : List UInt8) (s : Simulated) :
    ((s.write bytes).1 = .ok () ↔ s.failWrites = false ∧ s.isOver = false) ∧
      ((s.write bytes).1 = .ok () → (s.write bytes).2.log = s.log ++ [bytes]) ∧
      ((s.write bytes).1 ≠ .ok () → (s.write bytes).2 = s) := by
  obtain ⟨hfail, hover, hwrite⟩ | ⟨hno, fault, hwrite⟩ := s.write_cases bytes
  · simp [hwrite, hfail, hover]
  · have hnot : ¬ (s.failWrites = false ∧ s.isOver = false) := by
      rintro ⟨hfail, hover⟩
      simp [hfail, hover] at hno
    simp [hwrite, hnot]

/-- Only a hang-up among the things done to a dongle ends its stream. -/
theorem isOver_apply {c : Control} (hc : c ≠ .disconnect) (s : Simulated) :
    (c.apply s).isOver = s.isOver := by
  cases c <;> first | rfl | exact absurd rfl hc

@[simp] theorem isOver_readChunk (n : Nat) (s : Simulated) :
    (s.readChunk n).2.isOver = s.isOver := by
  obtain ⟨queue, h⟩ := s.readChunk_eq n
  rw [show s.readChunk n = Wire.readChunk n s from rfl, h]
  rfl

@[simp] theorem isOver_write (bytes : List UInt8) (s : Simulated) :
    (s.write bytes).2.isOver = s.isOver := by
  obtain ⟨-, -, h⟩ | ⟨-, fault, h⟩ := s.write_cases bytes <;> rw [h]
  rfl

@[simp] theorem holds_write (bytes : List UInt8) (s : Simulated) :
    (s.write bytes).2.holds = s.holds := by
  obtain ⟨-, -, h⟩ | ⟨-, fault, h⟩ := s.write_cases bytes <;> rw [h]
  rfl

@[simp] theorem queue_unpark (s : Simulated) : s.unpark.queue = s.queue := rfl

@[simp] theorem echo_unpark (s : Simulated) : s.unpark.echo = s.echo := rfl

@[simp] theorem isOver_unpark (s : Simulated) : s.unpark.isOver = s.isOver := rfl

@[simp] theorem holds_unpark (s : Simulated) : s.unpark.holds = s.holds := rfl

/-- What does not wake the sleepers gives them nothing to learn. -/
theorem holds_apply {c : Control} (hc : c.wakes = false) (s : Simulated) :
    (c.apply s).holds = s.holds := by
  cases c <;> first | rfl | cases hc

end Simulated

namespace Bench.Scene

variable {e : Event} {r : Report} {s t u : Scene}

/-! ## What an event does -/

/-- What events lead to and what is reported of them. -/
inductive Plays : Event → Scene → Report → Scene → Prop
  | control (c : Simulated.Control) (s : Scene) :
      Plays (.control c) s .done
        { s with dongle := c.apply s.dongle, owed := s.owed + if c.wakes then 1 else 0 }
  | refused (o : LineOverrides) (settings : Settings) (s : Scene) (fault : LinkError) :
      Plays (.connect o settings) s (.connected (.error fault))
        { s with dongle := { s.dongle with turnDown := none } }
  | connected (o : LineOverrides) (settings : Settings) (s : Scene) :
      Plays (.connect o settings) s (.connected (.ok s.streams))
        { s with
          dongle :=
            { s.dongle with
              connects := s.dongle.connects + 1
              lastOverrides := some o
              hungUp := false
              shut := false }
          streams := s.streams + 1 }
  | read {stream : Nat} (n : Nat) {s : Scene} (hstream : stream < s.streams) :
      Plays (.read stream n) s (.received (s.dongle.readChunk n).1)
        { s with dongle := (s.dongle.readChunk n).2 }
  | parks {stream : Nat} (bytes : List UInt8) {s : Scene} (hstream : stream < s.streams)
      (hfree : stream ∉ s.held.map (·.1)) (hholds : s.dongle.holds = true) :
      Plays (.write stream bytes) s .parked
        { s with dongle := s.dongle.park, held := s.held ++ [(stream, bytes)] }
  | writes {stream : Nat} (bytes : List UInt8) {s : Scene} (hstream : stream < s.streams)
      (hfree : stream ∉ s.held.map (·.1)) (hholds : s.dongle.holds = false) :
      Plays (.write stream bytes) s (.wrote bytes (s.dongle.write bytes).1)
        { s with
          dongle := (s.dongle.write bytes).2
          owed := s.owed + owedFor (s.dongle.write bytes).1 s.dongle }
  | shuts {stream : Nat} {s : Scene} (hstream : stream < s.streams) :
      Plays (.shutdown stream) s .done
        { s with dongle := s.dongle.shutdown, owed := s.owed + 1 }
  | wakes {s : Scene} (howed : 0 < s.owed) :
      Plays .wake s .done { s with owed := s.owed - 1, awake := s.held.map (·.1) }
  | stays {stream : Nat} {s : Scene} (hawake : stream ∈ s.awake) (hholds : s.dongle.holds = true) :
      Plays (.look stream) s .parked { s with awake := s.awake.erase stream }
  | resumes {stream : Nat} {bytes : List UInt8} {s : Scene} {before after : List (Nat × List UInt8)}
      (hawake : stream ∈ s.awake) (hheld : s.held = before ++ (stream, bytes) :: after)
      (hholds : s.dongle.holds = false) :
      Plays (.look stream) s (.wrote bytes (s.dongle.unpark.write bytes).1)
        { s with
          dongle := (s.dongle.unpark.write bytes).2
          held := before ++ after
          owed := s.owed + owedFor (s.dongle.unpark.write bytes).1 s.dongle
          awake := s.awake.erase stream }

theorem plays_of_look {stream : Nat} (h : s.look stream = some (r, t)) :
    Plays (.look stream) s r t := by
  rw [look] at h
  split at h
  next hawake =>
    split at h
    · cases h
    next w bytes hfind =>
      split at h
      next hholds =>
        cases h
        exact .stays hawake hholds
      next hholds =>
        obtain ⟨hw, before, after, hheld, hbefore⟩ := List.find?_eq_some_iff_append.1 hfind
        obtain rfl : w = stream := by simpa using hw
        have herase : s.held.eraseP (·.1 == w) = before ++ after := by
          rw [hheld, List.eraseP_append_right _ (by simpa using hbefore),
            List.eraseP_cons_of_pos (by simp)]
        rw [herase] at h
        cases h
        exact .resumes hawake hheld (by simpa using hholds)
  next => cases h

theorem plays_of_play (h : play e s = some (r, t)) : Plays e s r t := by
  cases e with
  | control c =>
      cases h
      exact .control c s
  | connect o settings =>
      simp only [play, Bench.connect] at h
      obtain ⟨fault, -, hconnect⟩ | hconnect := s.dongle.connect_cases o settings
      · rw [show s.dongle.connect o settings = _ from hconnect] at h
        cases h
        exact .refused o settings s fault
      · rw [show s.dongle.connect o settings = _ from hconnect] at h
        cases h
        exact .connected o settings s
  | read stream n =>
      simp only [play, Bench.read] at h
      split at h
      next hread =>
        split at hread
        · cases h
        · cases hread
      next hread =>
        split at hread
        · cases hread
        next hstream =>
          cases hread
          cases h
          exact .read n (by omega)
  | write stream bytes =>
      simp only [play, Bench.write] at h
      split_ifs at h with hstream hbusy hholds
      · cases h
        exact .parks bytes (by omega) (by simpa using hbusy) hholds
      · cases h
        exact .writes bytes (by omega) (by simpa using hbusy) (by simpa using hholds)
  | shutdown stream =>
      simp only [play] at h
      split at h
      · cases h
      next hstream =>
        cases h
        exact .shuts (by omega)
  | wake =>
      simp only [play] at h
      split at h
      · cases h
      next howed =>
        cases h
        exact .wakes (by omega)
  | look stream => exact plays_of_look h

/-! ## What goes through the queue -/

/-- What an event hands out was at the front of the queue, and what it brings goes to the
end. -/
theorem handed_append_queue (h : play e s = some (r, t)) :
    handed e s ++ t.dongle.queue = s.dongle.queue ++ fed e s := by
  have hplays := plays_of_play h
  simp only [handed, fed, h]
  cases hplays with
  | control c =>
      cases c <;> simp [Simulated.Control.apply]
  | read n hstream =>
      rw [Simulated.readChunk]
      cases hqueue : s.dongle.queue with
      | nil => cases hover : s.dongle.isOver <;> simp [hqueue]
      | cons b rest => simp
  | writes bytes =>
      obtain ⟨-, -, hwrite⟩ | ⟨-, fault, hwrite⟩ := s.dongle.write_cases bytes
      · rw [hwrite]
        cases s.dongle.echo <;> simp
      · simp [hwrite]
  | @resumes stream bytes =>
      obtain ⟨-, -, hwrite⟩ | ⟨-, fault, hwrite⟩ := s.dongle.unpark.write_cases bytes
      · rw [hwrite]
        cases hecho : s.dongle.echo <;> simp [hecho]
      · simp [hwrite]
  | _ => simp [Simulated.park, Simulated.shutdown]

theorem play_of_step (h : step e s = some t) : ∃ r, play e s = some (r, t) := by
  obtain ⟨⟨r, t⟩, hplay, rfl⟩ := Option.map_eq_some_iff.1 h
  exact ⟨r, hplay⟩

/-- What was handed out over a course of events, with what is still in the queue, is what was
in the queue and what came in. -/
theorem handed_along_append_queue {events : List Event} (h : course step events s = some t) :
    along step handed events s ++ t.dongle.queue = s.dongle.queue ++ along step fed events s := by
  induction events generalizing s with
  | nil =>
      cases h
      simp [along]
  | cons e rest ih =>
      obtain ⟨u, hstep, hrest⟩ := course_cons_eq_some.1 h
      obtain ⟨r, hplay⟩ := play_of_step hstep
      calc along step handed (e :: rest) s ++ t.dongle.queue
          = handed e s ++ (along step handed rest u ++ t.dongle.queue) := by
            simp [along, hstep]
        _ = (handed e s ++ u.dongle.queue) ++ along step fed rest u := by
            rw [ih hrest, List.append_assoc]
        _ = s.dongle.queue ++ along step fed (e :: rest) s := by
            simp [along, hstep, handed_append_queue hplay]

/-! ## When the stream is over -/

/- The flags of a dongle say whether its stream is over, but not since when.  The marks keep the
order of endings and connections. -/

/-- There was an ending since the last beginning. -/
def EndedSince (marked : List Mark) : Prop := .ending ∈ marked.rtakeWhile (· ≠ .beginning)

theorem endedSince_concat_ending (marked : List Mark) : EndedSince (marked ++ [.ending]) := by
  rw [EndedSince, List.rtakeWhile_concat_pos _ _ _ (by simp)]
  simp

theorem not_endedSince_concat_beginning (marked : List Mark) :
    ¬ EndedSince (marked ++ [.beginning]) := by
  rw [EndedSince, List.rtakeWhile_concat_neg _ _ _ (by simp)]
  simp

/-- The dongle hung up, or a stream was shut down, since the last connection that these events
brought. -/
def EndedBy (events : List Event) (s : Scene) : Prop := EndedSince (along step marks events s)

/-- An event ends the stream, begins it anew, or does nothing to it. -/
theorem marks_cases (h : play e s = some (r, t)) :
    (marks e s = [] ∧ t.dongle.isOver = s.dongle.isOver) ∨
      (marks e s = [.ending] ∧ t.dongle.isOver = true) ∨
      (marks e s = [.beginning] ∧ t.dongle.isOver = false) := by
  have hplays := plays_of_play h
  simp only [marks, h]
  cases hplays with
  | control c =>
      by_cases hc : c = .disconnect
      · subst hc
        exact .inr (.inl ⟨rfl, by simp [Simulated.Control.apply, Simulated.isOver]⟩)
      · refine .inl ⟨?_, Simulated.isOver_apply hc s.dongle⟩
        cases c <;> first | rfl | exact absurd rfl hc
  | connected o settings => exact .inr (.inr ⟨rfl, rfl⟩)
  | shuts hstream => exact .inr (.inl ⟨rfl, by simp [Simulated.shutdown, Simulated.isOver]⟩)
  | read n hstream => exact .inl ⟨rfl, by simp⟩
  | writes bytes hstream hfree hholds => exact .inl ⟨rfl, by simp⟩
  | resumes hawake hheld hholds => exact .inl ⟨rfl, by simp⟩
  | _ => exact .inl ⟨rfl, rfl⟩

theorem isOver_iff_of_play {marked : List Mark}
    (hs : s.dongle.isOver = true ↔ EndedSince marked) (h : play e s = some (r, t)) :
    t.dongle.isOver = true ↔ EndedSince (marked ++ marks e s) := by
  obtain ⟨hmarks, hover⟩ | ⟨hmarks, hover⟩ | ⟨hmarks, hover⟩ := marks_cases h <;>
    rw [hmarks, hover]
  · rwa [List.append_nil]
  · exact iff_of_true rfl (endedSince_concat_ending marked)
  · exact iff_of_false Bool.false_ne_true (not_endedSince_concat_beginning marked)

/-- The stream is over exactly if the dongle hung up or a stream was shut down since the last
connection. -/
theorem isOver_iff_endedSince {events : List Event} (hs : s.dongle.isOver = false)
    (h : course step events s = some t) :
    t.dongle.isOver = true ↔ EndedBy events s := by
  have hstart : s.dongle.isOver = true ↔ EndedSince [] := by simp [hs, EndedSince]
  refine along_keeps (P := fun marked s => s.dongle.isOver = true ↔ EndedSince marked) ?_ hstart h
  intro marked e s t hs hstep
  obtain ⟨r, hplay⟩ := play_of_step hstep
  exact isOver_iff_of_play hs hplay

/-! ## Held writes -/

/-- The account of the held writes: each stream has at most one, they are counted, and each
has cause to sleep, has been woken, or is owed a wake-up. -/
structure Sound (s : Scene) : Prop where
  streams_nodup : (s.held.map (·.1)).Nodup
  blocked_eq : s.dongle.blocked = s.held.length
  minded : ∀ w ∈ s.held, s.dongle.holds = true ∨ w.1 ∈ s.awake ∨ 0 < s.owed

/-- An event that leaves the held writes and the woken ones alone, and any cause to sleep or
wake-up that is owed. -/
theorem Sound.of_same (hs : s.Sound) (hheld : t.held = s.held) (hawake : t.awake = s.awake)
    (hblocked : t.dongle.blocked = s.dongle.blocked)
    (hcause : s.dongle.holds = true ∨ 0 < s.owed → t.dongle.holds = true ∨ 0 < t.owed) :
    t.Sound := by
  refine ⟨hheld ▸ hs.streams_nodup, by rw [hblocked, hheld, hs.blocked_eq], ?_⟩
  intro w hw
  rw [hheld] at hw
  rw [hawake]
  have hminded := hs.minded w hw
  tauto

theorem Sound.play (hs : s.Sound) (h : play e s = some (r, t)) : t.Sound := by
  cases plays_of_play h with
  | control c =>
      refine hs.of_same rfl rfl (s.dongle.blocked_control c) ?_
      intro hcause
      cases hc : c.wakes with
      | true => exact .inr (by simp)
      | false => exact hcause.imp (fun hholds => by rwa [Simulated.holds_apply hc]) (by simp)
  | refused o settings fault => exact hs.of_same rfl rfl rfl id
  | connected o settings =>
      refine hs.of_same rfl rfl rfl (Or.imp_left ?_)
      simp +contextual [Simulated.holds, Simulated.isOver]
  | read n hstream =>
      refine hs.of_same rfl rfl (s.dongle.blocked_readChunk n) ?_
      rw [show (s.dongle.readChunk n).2.holds = _ from s.dongle.holds_readChunk n]
      exact id
  | parks bytes hstream hfree hholds =>
      refine ⟨?_, by simp [Simulated.park, hs.blocked_eq], fun w hw => .inl hholds⟩
      rw [List.map_append]
      exact List.Nodup.append hs.streams_nodup (List.nodup_singleton _) (by simpa using hfree)
  | writes bytes hstream hfree hholds =>
      refine hs.of_same rfl rfl (s.dongle.blocked_write bytes) fun hcause => .inr ?_
      rw [hholds] at hcause
      exact Nat.lt_add_right _ (hcause.resolve_left Bool.false_ne_true)
  | shuts hstream => exact hs.of_same rfl rfl rfl fun _ => .inr (Nat.succ_pos _)
  | wakes howed =>
      exact ⟨hs.streams_nodup, hs.blocked_eq, fun w hw => .inr (.inl (List.mem_map_of_mem hw))⟩
  | stays hawake hholds => exact ⟨hs.streams_nodup, hs.blocked_eq, fun w hw => .inl hholds⟩
  | @resumes stream bytes _ before after hawake hheld hholds =>
      have hnodup := hs.streams_nodup
      rw [hheld, List.map_append, List.map_cons, List.nodup_middle, List.nodup_cons] at hnodup
      obtain ⟨hstream, hothers⟩ := hnodup
      refine ⟨by rwa [List.map_append], ?_, ?_⟩
      · have hblocked := hs.blocked_eq
        rw [hheld] at hblocked
        simp only [List.length_append, List.length_cons] at hblocked ⊢
        rw [show (s.dongle.unpark.write bytes).2.blocked = _ from
          s.dongle.unpark.blocked_write bytes]
        simp only [Simulated.unpark]
        omega
      · intro w hw
        have hother : w.1 ≠ stream := by
          rintro rfl
          exact hstream (by rw [← List.map_append]; exact List.mem_map_of_mem (f := (·.1)) hw)
        have hminded := hs.minded w (by rw [hheld]; simp at hw ⊢; tauto)
        rw [hholds] at hminded
        obtain hminded | hminded := hminded.resolve_left Bool.false_ne_true
        · exact .inr (.inl ((List.mem_erase_of_ne hother).2 hminded))
        · exact .inr (.inr (Nat.lt_add_right _ hminded))

theorem Sound.course {events : List Event} (hs : s.Sound) (h : course step events s = some t) :
    t.Sound := by
  refine course_keeps ?_ hs h
  intro e s t hs hstep
  obtain ⟨r, hplay⟩ := play_of_step hstep
  exact hs.play hplay

/-! ## One thread after the other -/

/-- One scene can come to be from another by work alone. -/
def Leads (s t : Scene) : Prop :=
  ∃ events, (∀ e ∈ events, e.isWork = true) ∧ course step events s = some t

theorem Leads.refl (s : Scene) : Leads s s := ⟨[], by simp, rfl⟩

theorem Leads.trans (h : Leads s t) (k : Leads t u) : Leads s u := by
  obtain ⟨first, hfirst, hst⟩ := h
  obtain ⟨second, hsecond, htu⟩ := k
  refine ⟨first ++ second, ?_, course_append_eq_some.2 ⟨t, hst, htu⟩⟩
  exact List.forall_mem_append.2 ⟨hfirst, hsecond⟩

theorem Leads.head (he : e.isWork = true) (h : step e s = some t) (k : Leads t u) :
    Leads s u := by
  obtain ⟨events, hevents, htu⟩ := k
  exact ⟨e :: events, List.forall_mem_cons.2 ⟨he, hevents⟩, course_cons_eq_some.2 ⟨t, h, htu⟩⟩

/-- At rest, writes are held only with cause. -/
theorem Sound.held_eq_nil (hs : s.Sound) (hrest : s.AtRest) (hholds : s.dongle.holds = false) :
    s.held = [] := by
  refine List.eq_nil_iff_forall_not_mem.2 fun w hw => ?_
  have hminded := hs.minded w hw
  simp [hrest.1, hrest.2, hholds] at hminded

/-- All wake-ups that are owed are given: if there is one, all sleepers are woken. -/
theorem leads_wakes (b : Bench) (owed : Nat) {awake : List Nat}
    (h : owed ≠ 0 ∨ awake = b.held.map (·.1)) :
    Leads { toBench := b, owed := owed, awake := awake }
      { toBench := b, awake := b.held.map (·.1) } := by
  induction owed generalizing awake with
  | zero =>
      rw [h.resolve_left (absurd rfl)]
      exact .refl _
  | succ k ih => exact .head (e := .wake) rfl rfl (ih (.inr rfl))

/-- Those who were woken look, and sleep on. -/
theorem leads_looks_of_holds (b : Bench) (hholds : b.dongle.holds = true) {woken : List Nat}
    (hwoken : ∀ stream ∈ woken, stream ∈ b.held.map (·.1)) :
    Leads { toBench := b, awake := woken } (quiet b) := by
  induction woken with
  | nil => exact .refl _
  | cons stream rest ih =>
      obtain ⟨hfirst, hrest⟩ := List.forall_mem_cons.1 hwoken
      obtain ⟨w, hw, rfl⟩ := List.mem_map.1 hfirst
      obtain ⟨found, hfound⟩ : ∃ found, b.held.find? (·.1 == w.1) = some found :=
        Option.isSome_iff_exists.1 (List.find?_isSome.2 ⟨w, hw, by simp⟩)
      refine .head (e := .look w.1) rfl ?_ (ih hrest)
      simp [step, play, look, hfound, hholds]

/-- All held writes look, and are carried out in order. -/
theorem leads_looks_of_free {dongle : Simulated} (hholds : dongle.holds = false) (streams : Nat)
    (held : List (Nat × List UInt8)) (owed : Nat) :
    ∃ more, Leads
      { dongle := dongle, streams := streams, held := held, owed := owed,
        awake := held.map (·.1) }
      { dongle := (finishAll held dongle).2, streams := streams, owed := more } := by
  induction held generalizing dongle owed with
  | nil => exact ⟨owed, .refl _⟩
  | cons w rest ih =>
      have hthen : (dongle.unpark.write w.2).2.holds = false := by simpa using hholds
      obtain ⟨more, hmore⟩ := ih hthen (owed + owedFor (dongle.unpark.write w.2).1 dongle)
      refine ⟨more, .head (e := .look w.1) rfl ?_ hmore⟩
      simp [step, play, look, hholds]

/-- If those who can go on are owed a wake-up, they come to where the bench releases them. -/
theorem leads_release (b : Bench) {owed : Nat}
    (h : owed ≠ 0 ∨ b.dongle.holds = true ∨ b.held = []) :
    Leads { toBench := b, owed := owed } (quiet b.release.2) := by
  cases hholds : b.dongle.holds with
  | true =>
      rw [release, if_pos hholds]
      by_cases howed : owed = 0
      · rw [howed]
        exact .refl _
      · exact (leads_wakes b owed (.inl howed)).trans (leads_looks_of_holds b hholds fun _ h => h)
  | false =>
      rw [release, if_neg (by simp [hholds])]
      obtain ⟨more, hlooks⟩ := leads_looks_of_free hholds b.streams b.held 0
      have hwoken : owed ≠ 0 ∨ [] = b.held.map (·.1) := by
        rw [hholds] at h
        exact h.imp_right fun h => by simp [h.resolve_left Bool.false_ne_true]
      exact ((leads_wakes b owed hwoken).trans hlooks).trans (leads_wakes _ more (.inr rfl))

/-- A write that comes where others are held only with cause is over at once, unless it is held
itself; of one that echoes, nobody is left to be woken. -/
theorem leads_write (b : Bench) (stream : Nat) (bytes : List UInt8)
    (hheld : b.dongle.holds = false → b.held = []) :
    (step (.write stream bytes) { toBench := b } = none → (b.write stream bytes).2 = b) ∧
      ∀ t, step (.write stream bytes) { toBench := b } = some t →
        Leads t (quiet (b.write stream bytes).2) := by
  rw [Bench.write]
  split
  next hstream => simp [step, play, Bench.write, hstream]
  next hstream =>
    split
    next hbusy => simp [step, play, Bench.write, hstream, hbusy]
    next hbusy =>
      split
      next hholds =>
        simp only [step, play, Bench.write, if_neg hstream, if_neg hbusy, if_pos hholds]
        exact ⟨nofun, fun t ht => Option.some.inj ht ▸ .refl _⟩
      next hholds =>
        have hnone : b.held.map (·.1) = [] := by simp [hheld (by simpa using hholds)]
        have hwakes := leads_wakes { b with dongle := (b.dongle.write bytes).2 }
          (owedFor (b.dongle.write bytes).1 b.dongle) (.inr rfl)
        simp only [hnone] at hwakes
        simp only [step, play, Bench.write, if_neg hstream, if_neg hbusy, if_neg hholds]
        refine ⟨nofun, fun t ht => ?_⟩
        obtain rfl := Option.some.inj ht
        simpa [quiet] using hwakes

/-- Whatever one thread does on a bench at rest: either that cannot be done, and then `Use.apply`
does nothing, or it is followed by work that brings the bench to rest as `Use.apply` tells. -/
theorem leads_use (use : Use) (hs : s.Sound) (hrest : s.AtRest) :
    (step use.event s = none → use.apply s.toBench = s.toBench) ∧
      ∀ t, step use.event s = some t → Leads t (quiet (use.apply s.toBench)) := by
  obtain ⟨b, owed, awake⟩ := s
  obtain ⟨rfl, rfl⟩ : owed = 0 ∧ awake = [] := hrest
  have hheld : b.dongle.holds = false → b.held = [] := hs.held_eq_nil ⟨rfl, rfl⟩
  cases use with
  | control c =>
      refine ⟨nofun, fun t ht => ?_⟩
      cases ht
      refine leads_release { b with dongle := c.apply b.dongle } ?_
      cases hc : c.wakes with
      | true => exact .inl (by simp)
      | false =>
          rw [Simulated.holds_apply hc]
          cases hholds : b.dongle.holds with
          | true => exact .inr (.inl rfl)
          | false => exact .inr (.inr (hheld hholds))
  | connect o settings =>
      refine ⟨nofun, fun t ht => ?_⟩
      cases ht
      exact .refl _
  | read stream n =>
      rw [Use.apply, Bench.read]
      split
      next hstream => simp [Use.event, step, play, Bench.read, hstream]
      next hstream =>
        simp only [Use.event, step, play, Bench.read, if_neg hstream]
        exact ⟨nofun, fun t ht => Option.some.inj ht ▸ .refl _⟩
  | write stream bytes => exact leads_write b stream bytes hheld
  | shutdown stream =>
      rw [Use.apply, Bench.shutdown]
      split
      next hstream => simp [Use.event, step, play, hstream]
      next hstream =>
        simp only [Use.event, step, play, if_neg hstream]
        refine ⟨nofun, fun t ht => ?_⟩
        obtain rfl := Option.some.inj ht
        exact leads_release { b with dongle := b.dongle.shutdown } (.inl Nat.one_ne_zero)

/-! ## Reads and writes -/

/-- A read of at least one byte takes what is at the front of the queue; it brings none, which
is how the end is told, only if the stream is over. -/
theorem exists_play_read {stream n : Nat} (hstream : stream < s.streams) (hn : 1 ≤ n) :
    ∃ received,
      play (.read stream n) s = some (.received received,
        { s with dongle := { s.dongle with queue := s.dongle.queue.drop n } }) ∧
      (s.dongle.queue ≠ [] →
        received = .data (s.dongle.queue.take (min n s.dongle.queue.length))) ∧
      (received = .ended ∨ received = .data [] ↔ s.dongle.queue = [] ∧ s.dongle.isOver = true) ∧
      (received = .failed Simulated.nothingYet ↔
        s.dongle.queue = [] ∧ s.dongle.isOver = false) := by
  have hplay : play (.read stream n) s = some (.received (s.dongle.readChunk n).1,
      { s with dongle := (s.dongle.readChunk n).2 }) := by
    simp [play, Bench.read, if_neg (Nat.not_le.2 hstream)]
  refine ⟨(s.dongle.readChunk n).1, ?_, ?_⟩
  · rw [hplay, Simulated.readChunk]
    cases hqueue : s.dongle.queue with
    | nil =>
        have hsame : ({ s.dongle with queue := [] } : Simulated) = s.dongle := by rw [← hqueue]
        cases s.dongle.isOver <;> simp [hsame]
    | cons b rest => simp
  · rw [Simulated.readChunk, ← List.take_eq_take_min]
    cases hqueue : s.dongle.queue with
    | nil => cases hover : s.dongle.isOver <;> simp
    | cons b rest => simp [Nat.ne_of_gt hn]

/-- A write that ends has succeeded exactly if writes are not to fail and the stream is not
over; then it made one entry in the log, and else it changed neither log nor queue. -/
theorem write_of_play {bytes : List UInt8} {result : Except IoFault Unit}
    (h : play e s = some (.wrote bytes result, t)) :
    (∃ stream, e = .write stream bytes ∨ e = .look stream ∧ (stream, bytes) ∈ s.held) ∧
      (result = .ok () ↔ s.dongle.failWrites = false ∧ s.dongle.isOver = false) ∧
      (result = .ok () → t.dongle.log = s.dongle.log ++ [bytes]) ∧
      (result ≠ .ok () → t.dongle.log = s.dongle.log ∧ t.dongle.queue = s.dongle.queue) := by
  cases plays_of_play h with
  | @writes stream =>
      obtain ⟨hok, hlog, hsame⟩ := s.dongle.write_result bytes
      refine ⟨⟨stream, .inl rfl⟩, hok, hlog, fun hno => ?_⟩
      rw [hsame hno]
      exact ⟨rfl, rfl⟩
  | @resumes stream _ _ before after _ hheld =>
      obtain ⟨hok, hlog, hsame⟩ := s.dongle.unpark.write_result bytes
      refine ⟨⟨stream, .inr ⟨rfl, by simp [hheld]⟩⟩, hok, hlog, fun hno => ?_⟩
      rw [hsame hno]
      exact ⟨rfl, rfl⟩

/-- A write that comes sleeps if there is cause to, and else it ends at once. -/
theorem play_write {stream : Nat} (bytes : List UInt8) (hstream : stream < s.streams)
    (hfree : stream ∉ s.held.map (·.1)) :
    (s.dongle.holds = true → ∃ t, play (.write stream bytes) s = some (.parked, t)) ∧
      (¬ s.dongle.holds = true →
        ∃ result t, play (.write stream bytes) s = some (.wrote bytes result, t)) := by
  have hbusy : ¬ s.held.any (·.1 == stream) = true := by simpa using hfree
  simp only [play, Bench.write, if_neg (Nat.not_le.2 hstream), if_neg hbusy]
  constructor
  · intro hholds
    rw [if_pos hholds]
    exact ⟨_, rfl⟩
  · intro hholds
    rw [if_neg hholds]
    exact ⟨_, _, rfl⟩

/-! ## The stream as a whole -/

/-- **A lossless queue.**  Whatever is done to a dongle and on the streams taken from it: all
bytes that were handed out, in order, and then the queue, are what was enqueued and what was
written with success while there was an echo, in the order it came.  A read of at least one
byte takes what is there; if nothing is there, it is told the end if there was a hang-up or a
shutdown since the last connection, and that there is nothing yet if not.  A write that ends
has succeeded exactly if writes are not to fail and there was none of these, and then made one
entry in the log; a failed one changed neither log nor queue.  Held writes are counted; each
has cause to be held, or was woken, or is owed a wake-up, so that at rest each has cause.  What
is done on a bench at rest is one section under the lock and then work, which can bring the bench
to rest as `Use.apply` tells. -/
theorem lossless_of_course (name : String) (echo : Bool) {events : List Event}
    (h : course step events (fresh name echo) = some s) :
    along step handed events (fresh name echo) ++ s.dongle.queue =
        along step fed events (fresh name echo) ∧
      (∀ stream n, stream < s.streams → 1 ≤ n →
        ∃ received,
          play (.read stream n) s = some (.received received,
            { s with dongle := { s.dongle with queue := s.dongle.queue.drop n } }) ∧
          (s.dongle.queue ≠ [] →
            received = .data (s.dongle.queue.take (min n s.dongle.queue.length))) ∧
          (received = .ended ∨ received = .data [] ↔
            s.dongle.queue = [] ∧ EndedBy events (fresh name echo)) ∧
          (received = .failed Simulated.nothingYet ↔
            s.dongle.queue = [] ∧ ¬ EndedBy events (fresh name echo))) ∧
      (∀ e bytes result t, play e s = some (.wrote bytes result, t) →
        (∃ stream, e = .write stream bytes ∨ e = .look stream ∧ (stream, bytes) ∈ s.held) ∧
          (result = .ok () ↔
            s.dongle.failWrites = false ∧ ¬ EndedBy events (fresh name echo)) ∧
          (result = .ok () → t.dongle.log = s.dongle.log ++ [bytes]) ∧
          (result ≠ .ok () → t.dongle.log = s.dongle.log ∧ t.dongle.queue = s.dongle.queue)) ∧
      (∀ stream bytes, stream < s.streams → stream ∉ s.held.map (·.1) →
        (s.dongle.stall = true ∧ ¬ EndedBy events (fresh name echo) →
          ∃ t, play (.write stream bytes) s = some (.parked, t)) ∧
        (¬ (s.dongle.stall = true ∧ ¬ EndedBy events (fresh name echo)) →
          ∃ result t, play (.write stream bytes) s = some (.wrote bytes result, t))) ∧
      s.dongle.blocked = s.held.length ∧
      (∀ w ∈ s.held, (s.dongle.stall = true ∧ ¬ EndedBy events (fresh name echo)) ∨
        w.1 ∈ s.awake ∨ 0 < s.owed) ∧
      (s.AtRest →
        (s.held ≠ [] → s.dongle.stall = true ∧ ¬ EndedBy events (fresh name echo)) ∧
          ∀ use : Use, (step use.event s = none → use.apply s.toBench = s.toBench) ∧
            ∀ t, step use.event s = some t → Leads t (quiet (use.apply s.toBench))) := by
  have hs : s.Sound := Sound.course ⟨by simp [fresh, quiet], rfl, by simp [fresh, quiet]⟩ h
  have hended := isOver_iff_endedSince (s := fresh name echo) rfl h
  have hnotEnded : s.dongle.isOver = false ↔ ¬ EndedBy events (fresh name echo) := by
    rw [← hended, Bool.not_eq_true]
  have hholds : s.dongle.holds = true ↔
      s.dongle.stall = true ∧ ¬ EndedBy events (fresh name echo) := by
    rw [← hnotEnded, Simulated.holds, Bool.and_eq_true, Bool.not_eq_true']
  refine ⟨handed_along_append_queue h, ?_, ?_, ?_, hs.blocked_eq, ?_, ?_⟩
  · intro stream n hstream hn
    rw [← hnotEnded, ← hended]
    exact exists_play_read hstream hn
  · intro e bytes result t hplay
    rw [← hnotEnded]
    exact write_of_play hplay
  · intro stream bytes hstream hfree
    rw [← hholds]
    exact play_write bytes hstream hfree
  · intro w hw
    rw [← hholds]
    exact hs.minded w hw
  · intro hrest
    refine ⟨fun hsome => ?_, fun use => leads_use use hs hrest⟩
    rw [← hholds]
    by_contra hnone
    exact hsome (hs.held_eq_nil hrest (by simpa using hnone))

/-- A write comes back and two others are held up.  A hang-up wakes these, but somebody connects
again before they look, so they sleep on. -/
def wokenTooEarly : List Event :=
  [.connect {} {}, .connect {} {}, .control (.enqueue [1, 2]), .write 1 [5], .read 0 1,
    .control (.stall true), .write 0 [6], .write 1 [7], .control .disconnect, .wake, .wake,
    .wake, .wake, .connect {} {}, .look 1, .look 0]

/-- Nothing is lost, and both writes are held with cause. -/
theorem lossless_of_course_wokenTooEarly :
    ∃ s, course step wokenTooEarly (fresh "MOCK0" true) = some s ∧
      along step handed wokenTooEarly (fresh "MOCK0" true) = [1] ∧ s.dongle.queue = [2, 5] ∧
      along step fed wokenTooEarly (fresh "MOCK0" true) = [1, 2, 5] ∧
      s.held = [(0, [6]), (1, [7])] ∧ s.dongle.blocked = 2 ∧
      s.dongle.stall = true ∧ ¬ EndedBy wokenTooEarly (fresh "MOCK0" true) := by
  have hview : (course step wokenTooEarly (fresh "MOCK0" true)).map
      (fun s => (s.dongle.queue, s.held, s.owed, s.awake)) =
      some ([2, 5], [(0, [6]), (1, [7])], 0, []) := by decide
  obtain ⟨s, hs, hview⟩ := Option.map_eq_some_iff.1 hview
  simp only [Prod.mk.injEq] at hview
  obtain ⟨hqueue, hheld, howed, hawake⟩ := hview
  obtain ⟨hbytes, -, -, -, hblocked, -, hrest⟩ := lossless_of_course "MOCK0" true hs
  have hhanded : along step handed wokenTooEarly (fresh "MOCK0" true) = [1] := by decide
  rw [hhanded, hqueue] at hbytes
  refine ⟨s, hs, hhanded, hqueue, hbytes.symm, hheld, by rw [hblocked, hheld]; rfl, ?_⟩
  exact (hrest ⟨howed, hawake⟩).1 (by simp [hheld])

end Bench.Scene

end DongleLink

import DongleLink.Proofs.Interleaving

/-!
# DongleLink.Proofs.WakeUp

No sleeper is forgotten.  A loop that has stored bytes or marked the link down, and a user
that has marked it down, wake the sleepers only in their next move, and until then purges,
openings and other readers may come in between.  So what every event keeps is this: if
somebody sleeps, there is nothing to tell it, or somebody has yet to wake it.

`sleepersKept_of_happen` names the four ways in which an event can leave the sleepers, and
the invariant is read off from it.
-/

namespace DongleLink.Interleaving

/-! ## Who has yet to wake the sleepers -/

/-- The loop has done something that sleepers must learn of and has not woken them. -/
def LoopAt.owesWake : LoopAt → Bool
  | announcing | parting => true
  | unborn | checking | reading | storing _ | leaving | finished => false

/-- The user has marked the link down and has not woken the sleepers. -/
def UserAt.owesWake : UserAt → Bool
  | waking _ _ => true
  | idle | opening | stopping _ _ | marking _ _ | joining _ _ | connecting | attaching | wanting
  | starting _ => false

/-- Somebody has yet to wake the sleepers. -/
def WakeOwed (s : State) : Prop :=
  (∃ loop, (s.loops loop).owesWake = true) ∨ ∃ user, (s.users user).owesWake = true

/-- There is nothing to tell a sleeper: no byte is unread, and the link is up. -/
def Still (s : State) : Prop := s.inbox.unread = [] ∧ s.inbox.linkUp = true

/-- A loop that owes nothing can go anywhere without a debt being lost. -/
theorem WakeOwed.setLoop {s : State} {loop : Nat} (h : WakeOwed s)
    (hloop : (s.loops loop).owesWake = false) (place : LoopAt) :
    WakeOwed (s.setLoop loop place) := by
  obtain ⟨k, hk⟩ | hu := h
  · have hne : k ≠ loop := by
      rintro rfl
      rw [hloop] at hk
      cases hk
    exact .inl ⟨k, by simp only [State.setLoop, if_neg hne]; exact hk⟩
  · exact .inr hu

/-- A user that owes nothing can go anywhere without a debt being lost. -/
theorem WakeOwed.setUser {s : State} {user : Nat} (h : WakeOwed s)
    (huser : (s.users user).owesWake = false) (place : UserAt) :
    WakeOwed (s.setUser user place) := by
  obtain hk | ⟨u, hu⟩ := h
  · exact .inl hk
  · have hne : u ≠ user := by
      rintro rfl
      rw [huser] at hu
      cases hu
    exact .inr ⟨u, by simp only [State.setUser, if_neg hne]; exact hu⟩

/-- A loop that goes to a place where it owes a wake-up owes it. -/
theorem wakeOwed_setLoop {s : State} {loop : Nat} {place : LoopAt}
    (hplace : place.owesWake = true) : WakeOwed (s.setLoop loop place) :=
  .inl ⟨loop, by simp [State.setLoop, hplace]⟩

theorem wakeOwed_setUser {s : State} {user : Nat} {place : UserAt}
    (hplace : place.owesWake = true) : WakeOwed (s.setUser user place) :=
  .inr ⟨user, by simp [State.setUser, hplace]⟩

/-- Nobody sleeps who was just woken. -/
theorem wakeReader_ne_asleep (place : ReaderAt) : State.wakeReader place ≠ .asleep := by
  cases place <;> simp [State.wakeReader]

/-! ## What an event does about the sleepers -/

/-- Nobody falls asleep, no debt is paid or forgotten, and where there was nothing to tell
there still is nothing. -/
structure Calm (s t : State) : Prop where
  asleep_of_asleep : ∀ reader, t.readers reader = .asleep → s.readers reader = .asleep
  owed : WakeOwed s → WakeOwed t
  still : Still s → Still t

theorem Calm.trans {s t u : State} (h : Calm s t) (k : Calm t u) : Calm s u :=
  ⟨fun reader hu => h.asleep_of_asleep reader (k.asleep_of_asleep reader hu),
    fun hs => k.owed (h.owed hs), fun hs => k.still (h.still hs)⟩

/-- A reader that goes anywhere but to sleep is nothing to the others. -/
theorem calm_setReader {s : State} (reader : Nat) {place : ReaderAt} (hplace : place ≠ .asleep) :
    Calm s (s.setReader reader place) := by
  refine ⟨?_, id, id⟩
  intro other hother
  by_cases hsame : other = reader
  · rw [hsame] at hother
    simp only [State.setReader, if_true] at hother
    exact absurd hother hplace
  · simpa only [State.setReader, if_neg hsame] using hother

theorem calm_setLoop {s : State} {loop : Nat} (hloop : (s.loops loop).owesWake = false)
    (place : LoopAt) : Calm s (s.setLoop loop place) :=
  ⟨fun _ h => h, fun h => h.setLoop hloop place, id⟩

/-- A user that owes nothing can go anywhere, whatever else it changes that sleepers do not
look at. -/
theorem calm_of_user {s t : State} {user : Nat} {place : UserAt}
    (huser : (s.users user).owesWake = false) (husers : t.users = (s.setUser user place).users)
    (hreaders : t.readers = s.readers) (hloops : t.loops = s.loops) (hinbox : t.inbox = s.inbox) :
    Calm s t := by
  refine ⟨fun reader h => by rwa [← hreaders], ?_, fun h => by rwa [Still, hinbox]⟩
  intro howed
  have h := howed.setUser huser place
  simp only [WakeOwed] at h ⊢
  rwa [husers, hloops]

/-- What becomes of the sleepers: nothing happens to them; or there is nothing to tell them
now; or somebody owes them a wake-up now; or they have all been woken. -/
def SleepersKept (s t : State) : Prop :=
  Calm s t ∨ Still t ∨ WakeOwed t ∨ ∀ reader, t.readers reader ≠ .asleep

theorem sleepersKept_of_lookStep {s t : State} {reader : Nat} (hstep : lookStep reader s = some t) :
    SleepersKept s t := by
  rw [lookStep] at hstep
  split at hstep
  next patient _ =>
    split at hstep
    next b inbox hlook =>
      cases hstep
      have hunread := Inbox.unread_of_look hlook
      -- there was a byte to take, so there was something to tell
      refine .inl ⟨(calm_setReader reader (by simp)).asleep_of_asleep, id, ?_⟩
      intro hstill
      rw [hstill.1] at hunread
      cases hunread
    next =>
      cases hstep
      exact .inl (calm_setReader reader (by simp))
    next inbox hlook =>
      cases hstep
      exact .inr (.inl ((Inbox.look_eq_empty_iff s.inbox).1 (congrArg Prod.fst hlook)))
  · cases hstep

theorem sleepersKept_of_proceedStep {s t : State} {loop : Nat}
    (hstep : proceedStep loop s = some t) : SleepersKept s t := by
  rw [proceedStep] at hstep
  split at hstep
  next hl =>
    cases hstep
    exact .inl (calm_setLoop (by rw [hl]; rfl) _)
  next bytes hl =>
    cases hstep
    exact .inr (.inr (.inl (wakeOwed_setLoop rfl)))
  next hl =>
    cases hstep
    exact .inr (.inr (.inr fun reader => wakeReader_ne_asleep (s.readers reader)))
  next hl =>
    cases hstep
    exact .inr (.inr (.inl (wakeOwed_setLoop rfl)))
  next hl =>
    cases hstep
    exact .inr (.inr (.inr fun reader => wakeReader_ne_asleep (s.readers reader)))
  all_goals cases hstep

/-- Nobody sleeps once a user that has woken the sleepers closes or goes on to connect. -/
theorem awake_afterTeardown (user : Nat) (aim : Aim) (s : State) (reader : Nat) :
    (afterTeardown user aim s.wakeAll).readers reader ≠ .asleep := by
  cases aim with
  | close => exact wakeReader_ne_asleep (s.readers reader)
  | reopen => exact wakeReader_ne_asleep (s.readers reader)

theorem sleepersKept_of_advanceStep {s t : State} {user : Nat} (hs : Sound s)
    (hstep : advanceStep user s = some t) : SleepersKept s t := by
  have hcalm : ∀ {place : UserAt} {t : State}, (s.users user).owesWake = false →
      t.users = (s.setUser user place).users → t.readers = s.readers → t.loops = s.loops →
        t.inbox = s.inbox → Calm s t := calm_of_user
  rw [advanceStep] at hstep
  split at hstep
  next hu =>
    split at hstep
    · cases hstep
      exact .inl (hcalm (by rw [hu]; rfl) rfl rfl rfl rfl)
    · split at hstep
      · cases hstep
        exact .inl (hcalm (by rw [hu]; rfl) rfl rfl rfl rfl)
      · cases hstep
        exact .inl (hcalm (by rw [hu]; rfl) rfl rfl rfl rfl)
  next session aim hu =>
    cases hstep
    exact .inl (hcalm (by rw [hu]; rfl) rfl rfl rfl rfl)
  next session aim hu =>
    cases hstep
    exact .inr (.inr (.inl (wakeOwed_setUser rfl)))
  next aim hu =>
    cases hstep
    exact .inr (.inr (.inr (awake_afterTeardown user aim s)))
  next session aim hu =>
    cases hstep
    exact .inr (.inr (.inr fun reader => wakeReader_ne_asleep (s.readers reader)))
  next session aim hu =>
    split at hstep
    · cases hstep
      cases aim with
      | close => exact .inl (hcalm (by rw [hu]; rfl) rfl rfl rfl rfl)
      | reopen => exact .inl (hcalm (by rw [hu]; rfl) rfl rfl rfl rfl)
    · cases hstep
  next hu =>
    cases hstep
    exact .inr (.inl ⟨Inbox.unread_attach s.inbox, rfl⟩)
  next hu =>
    cases hstep
    exact .inl (hcalm (by rw [hu]; rfl) rfl rfl rfl rfl)
  next session hu =>
    cases hstep
    have hunborn := hs.unborn session (hs.starting_next user session hu).ge
    have hloop : Calm s (s.setLoop session .checking) := calm_setLoop (by rw [hunborn]; rfl) _
    exact .inl (hloop.trans (calm_of_user (by simp [State.setLoop, hu, UserAt.owesWake])
      rfl rfl rfl rfl))
  all_goals cases hstep

theorem sleepersKept_of_step {s t : State} {m : Move} (hs : Sound s)
    (hstep : step m s = some t) : SleepersKept s t := by
  cases m with
  | call reader =>
      simp only [step] at hstep
      split at hstep
      all_goals cases hstep
      all_goals exact .inl (calm_setReader reader (by simp))
  | look reader => exact sleepersKept_of_lookStep hstep
  | expire reader =>
      simp only [step] at hstep
      split at hstep
      all_goals cases hstep
      all_goals exact .inl (calm_setReader reader (by simp))
  | read loop r =>
      simp only [step] at hstep
      split at hstep
      next hl =>
        cases hstep
        exact .inl (calm_setLoop (by rw [hl]; rfl) _)
      next => cases hstep
  | proceed loop => exact sleepersKept_of_proceedStep hstep
  | beginOpen user =>
      simp only [step, beginStep] at hstep
      split at hstep
      next hfree =>
        cases hstep
        exact .inl (calm_of_user (by rw [hfree.1]; rfl) rfl rfl rfl rfl)
      next => cases hstep
  | beginClose user =>
      simp only [step, beginStep] at hstep
      split at hstep
      next hfree =>
        cases hstep
        exact .inl (calm_of_user (by rw [hfree.1]; rfl) rfl rfl rfl rfl)
      next => cases hstep
  | advance user => exact sleepersKept_of_advanceStep hs hstep
  | connect user works =>
      simp only [step] at hstep
      split at hstep
      next hu =>
        have howes : (s.users user).owesWake = false := by rw [hu]; rfl
        cases works with
        | true =>
            cases hstep
            exact .inl (calm_of_user howes rfl rfl rfl rfl)
        | false =>
            cases hstep
            exact .inl (calm_of_user howes rfl rfl rfl rfl)
      next => cases hstep
  | purge =>
      cases hstep
      exact .inl ⟨fun _ h => h, id, fun h => ⟨Inbox.unread_purge s.inbox, h.2⟩⟩

/-- **What an event does about the sleepers.** -/
theorem sleepersKept_of_happen {e : Event} {s t : State} (hs : Sound s)
    (hevent : happen e s = some t) : SleepersKept s t := by
  cases e with
  | move m => exact sleepersKept_of_step hs hevent
  | threadless user =>
      simp only [happen] at hevent
      split at hevent
      next session hu =>
        cases hevent
        exact .inl (calm_of_user (by rw [hu]; rfl) rfl rfl rfl rfl)
      next => cases hevent
  | dies loop =>
      simp only [happen] at hevent
      split at hevent
      next hl =>
        cases hevent
        exact .inl (calm_setLoop (by rw [hl]; rfl) _)
      next hl =>
        cases hevent
        exact .inl (calm_setLoop (by rw [hl]; rfl) _)
      next => cases hevent
  | stirs reader =>
      simp only [happen] at hevent
      split at hevent
      next =>
        cases hevent
        exact .inl (calm_setReader reader (by simp))
      next => cases hevent

/-! ## No sleeper is forgotten -/

/-- If somebody sleeps, there is nothing to tell it, or it is yet to be woken. -/
def NoneForgotten (s : State) : Prop :=
  ∀ reader, s.readers reader = .asleep → Still s ∨ WakeOwed s

theorem noneForgotten_happen {e : Event} {s t : State} (hs : Sound s) (h : NoneForgotten s)
    (hevent : happen e s = some t) : NoneForgotten t := by
  intro reader hreader
  obtain hcalm | hstill | howed | hawake := sleepersKept_of_happen hs hevent
  · exact (h reader (hcalm.asleep_of_asleep reader hreader)).imp hcalm.still hcalm.owed
  · exact .inl hstill
  · exact .inr howed
  · exact absurd hreader (hawake reader)

theorem noneForgotten_course {events : List Event} {s t : State} (hs : Sound s)
    (h : NoneForgotten s) (hevents : course happen events s = some t) : NoneForgotten t :=
  (course_keeps (P := fun s => Sound s ∧ NoneForgotten s)
    (fun _ _ _ hs hevent => ⟨hs.1.happen hevent, noneForgotten_happen hs.1 hs.2 hevent⟩)
    ⟨hs, h⟩ hevents).2

/-- Who owes a wake-up can give it at once. -/
theorem wake_of_owed {s : State} (h : WakeOwed s) :
    ∃ m t, step m s = some t ∧ ∀ reader, t.readers reader ≠ .asleep := by
  obtain ⟨loop, hloop⟩ | ⟨user, huser⟩ := h
  · refine ⟨.proceed loop, ?_⟩
    cases hl : s.loops loop with
    | announcing =>
        exact ⟨s.wakeAll.setLoop loop .checking, by simp [step, proceedStep, hl],
          fun reader => wakeReader_ne_asleep (s.readers reader)⟩
    | parting =>
        exact ⟨s.wakeAll.setLoop loop .finished, by simp [step, proceedStep, hl],
          fun reader => wakeReader_ne_asleep (s.readers reader)⟩
    | _ => simp [hl, LoopAt.owesWake] at hloop
  · refine ⟨.advance user, ?_⟩
    cases hu : s.users user with
    | waking session aim =>
        cases session with
        | none =>
            exact ⟨afterTeardown user aim s.wakeAll, by simp [step, advanceStep, hu],
              awake_afterTeardown user aim s⟩
        | some k =>
            exact ⟨s.wakeAll.setUser user (.joining k aim), by simp [step, advanceStep, hu],
              fun reader => wakeReader_ne_asleep (s.readers reader)⟩
    | _ => simp [hu, UserAt.owesWake] at huser

/-- **No wake-up is lost.**  Whatever happens to a port and its users: a reader sleeps only
if no byte is unread and the link is up, or if somebody has yet to wake the sleepers, who
can do so at once.  So while nobody has to, no reader sleeps over an unread byte or a link
that is down. -/
theorem no_sleeper_forgotten {capacity : Nat} (hcapacity : 2 ≤ capacity) {events : List Event}
    {s : State}
    (hevents : course happen events (.initial (.ofCapacity capacity hcapacity)) = some s) :
    (∀ reader, s.readers reader = .asleep →
        (s.inbox.unread = [] ∧ s.inbox.linkUp = true) ∨ WakeOwed s) ∧
      (WakeOwed s → ∃ m t, step m s = some t ∧ ∀ reader, t.readers reader ≠ .asleep) ∧
      (¬ WakeOwed s → s.inbox.unread ≠ [] ∨ s.inbox.linkUp = false →
        ∀ reader, s.readers reader ≠ .asleep) := by
  have hstart := Sound.initial _ (Ring.toList_ofCapacity capacity hcapacity)
  have hnone : NoneForgotten s := by
    refine noneForgotten_course hstart ?_ hevents
    intro reader hreader
    cases hreader
  refine ⟨hnone, wake_of_owed, ?_⟩
  intro howed hsomething reader hreader
  obtain ⟨hempty, hup⟩ := (hnone reader hreader).resolve_right howed
  obtain hbytes | hdown := hsomething
  · exact hbytes hempty
  · rw [hup] at hdown
    cases hdown

/-- A user opens the port and gets no thread, opens it again and gets one; two readers fall
asleep, one of them twice; and the loop stores a byte. -/
def storedUnannounced : List Event :=
  [.beginOpen 0, .advance 0, .connect 0 true, .advance 0, .advance 0].map .move ++
    .threadless 0 ::
    [.advance 0, .advance 0, .advance 0, .beginOpen 0, .advance 0, .connect 0 true, .advance 0,
      .advance 0, .advance 0, .call 0, .look 0, .call 1, .look 1].map .move ++
    .stirs 1 :: [.look 1, .proceed 0, .read 0 (.data [7]), .proceed 0].map .move

/-- Both readers sleep over the byte, and somebody has yet to wake them. -/
theorem wakeOwed_of_storedUnannounced :
    ∃ s, course happen storedUnannounced (.initial (.ofCapacity 4 (by decide))) = some s ∧
      s.readers 0 = .asleep ∧ s.readers 1 = .asleep ∧ s.inbox.unread = [7] ∧ WakeOwed s := by
  have hview : (course happen storedUnannounced (.initial (.ofCapacity 4 (by decide)))).map
      (fun s => (s.readers 0, s.readers 1, s.inbox.unread)) = some (.asleep, .asleep, [7]) := by
    decide
  obtain ⟨s, hs, hplaces⟩ := Option.map_eq_some_iff.1 hview
  simp only [Prod.mk.injEq] at hplaces
  obtain ⟨hfirst, hsecond, hunread⟩ := hplaces
  obtain ⟨hempty, -⟩ | howed := (no_sleeper_forgotten (by decide) hs).1 0 hfirst
  · rw [hunread] at hempty
    cases hempty
  · exact ⟨s, hs, hfirst, hsecond, hunread, howed⟩

end DongleLink.Interleaving

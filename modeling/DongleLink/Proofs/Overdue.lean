import DongleLink.Proofs.Release
import DongleLink.Proofs.WakeUp

/-!
# DongleLink.Proofs.Overdue

Everybody who is woken comes to look.  Whoever owes a wake-up can give it, and whoever is about to
look can do so; that much can always happen, it takes no byte from a stream, and it leaves the link
as it is (`CatchesUp`).  So from every state readers can come to rest (`exists_settled`).
-/

namespace DongleLink.Interleaving

theorem LoopAt.isLive_of_owesWake {place : LoopAt} (h : place.owesWake = true) :
    place.isLive = true := by
  cases place <;> simp_all [owesWake, isLive]

/-- The event is a wake-up that somebody owes, or one of these readers looks. -/
def Overdue (waiting : List Nat) (s : State) : Event → Prop
  | .move (.proceed loop) => (s.loops loop).owesWake = true
  | .move (.advance user) => (s.users user).owesWake = true
  | .move (.look reader) => reader ∈ waiting
  | _ => False

/-- These events lead from one state to the other.  All of them are overdue, they store no byte, and
they leave the link as it is. -/
structure CatchesUp (waiting : List Nat) (s : State) (more : List Event) (t : State) : Prop where
  leads : course happen more s = some t
  overdue : ∀ e ∈ more, Overdue waiting s e
  stored_eq : along happen storedBy more s = []
  linkUp_eq : t.inbox.linkUp = s.inbox.linkUp
  loop_owes : ∀ loop, (t.loops loop).owesWake = true → (s.loops loop).owesWake = true
  user_owes : ∀ user, (t.users user).owesWake = true → (s.users user).owesWake = true

namespace CatchesUp

variable {waiting : List Nat} {s t u : State} {first second : List Event}

theorem refl (waiting : List Nat) (s : State) : CatchesUp waiting s [] s :=
  ⟨rfl, by simp, rfl, rfl, fun _ => id, fun _ => id⟩

theorem trans (h : CatchesUp waiting s first t) (k : CatchesUp waiting t second u) :
    CatchesUp waiting s (first ++ second) u where
  leads := course_append_eq_some.2 ⟨t, h.leads, k.leads⟩
  overdue := by
    intro e he
    obtain he | he := List.mem_append.1 he
    · exact h.overdue e he
    · have hlater := k.overdue e he
      cases e with
      | move m =>
          cases m with
          | proceed loop => exact h.loop_owes loop hlater
          | advance user => exact h.user_owes user hlater
          | _ => exact hlater
      | _ => exact hlater
  stored_eq := by rw [along_append h.leads, h.stored_eq, k.stored_eq, List.nil_append]
  linkUp_eq := k.linkUp_eq.trans h.linkUp_eq
  loop_owes loop howes := h.loop_owes loop (k.loop_owes loop howes)
  user_owes user howes := h.user_owes user (k.user_owes user howes)

/-- Nobody owes more than before. -/
theorem not_wakeOwed (h : CatchesUp waiting s first t) (howed : ¬ WakeOwed s) : ¬ WakeOwed t := by
  rintro (⟨loop, hloop⟩ | ⟨user, huser⟩)
  · exact howed (.inl ⟨loop, h.loop_owes loop hloop⟩)
  · exact howed (.inr ⟨user, h.user_owes user huser⟩)

/-- The loop that owes a wake-up gives it, and then no loop owes one. -/
theorem of_loop (waiting : List Nat) (hs : Sound s) {loop : Nat}
    (howes : (s.loops loop).owesWake = true) :
    ∃ t, CatchesUp waiting s [.move (.proceed loop)] t ∧
      ∀ k, (t.loops k).owesWake = false := by
  obtain ⟨place, hplace, hstep, hstored⟩ : ∃ place : LoopAt, place.owesWake = false ∧
      happen (.move (.proceed loop)) s = some (s.wakeAll.setLoop loop place) ∧
        storedBy (.move (.proceed loop)) s = [] := by
    cases hl : s.loops loop with
    | announcing => exact ⟨.checking, rfl, by simp [happen, step, proceedStep, hl, storedBy]⟩
    | parting => exact ⟨.finished, rfl, by simp [happen, step, proceedStep, hl, storedBy]⟩
    | _ => simp [hl, LoopAt.owesWake] at howes
  have hpaid : ∀ k, ((s.wakeAll.setLoop loop place).loops k).owesWake = false := by
    intro k
    by_cases hk : k = loop
    · simp [State.setLoop, hk, hplace]
    · rw [Bool.eq_false_iff]
      intro hother
      simp only [State.setLoop, if_neg hk] at hother
      -- a loop that owes a wake-up is live, and only the last session has such a loop
      have := hs.live_last (LoopAt.isLive_of_owesWake hother)
      have := hs.live_last (LoopAt.isLive_of_owesWake howes)
      omega
  refine ⟨s.wakeAll.setLoop loop place, ?_, hpaid⟩
  exact
    { leads := course_cons_eq_some.2 ⟨_, hstep, rfl⟩
      overdue := by simpa [Overdue] using howes
      stored_eq := by simp [along, hstored, hstep]
      linkUp_eq := rfl
      loop_owes := fun k hk => by simp [hpaid k] at hk
      user_owes := fun _ => id }

/-- The user that owes a wake-up gives it, and then no user owes one. -/
theorem of_user (waiting : List Nat) (hs : Sound s) {user : Nat}
    (howes : (s.users user).owesWake = true) :
    ∃ t, CatchesUp waiting s [.move (.advance user)] t ∧ t.loops = s.loops ∧
      ∀ v, (t.users v).owesWake = false := by
  have hbusy : s.users user ≠ .idle := by
    intro hidle
    simp [hidle, UserAt.owesWake] at howes
  obtain ⟨t, place, hplace, hstep, husers, hloops, hinbox⟩ : ∃ (t : State) (place : UserAt),
      place.owesWake = false ∧ happen (.move (.advance user)) s = some t ∧
        t.users = (s.setUser user place).users ∧ t.loops = s.loops ∧ t.inbox = s.inbox := by
    cases hu : s.users user with
    | waking session aim =>
        cases session with
        | none =>
            cases aim with
            | close =>
                exact ⟨s.wakeAll.release user, .idle, rfl,
                  by simp [happen, step, advanceStep, hu, afterTeardown], rfl, rfl, rfl⟩
            | reopen =>
                exact ⟨s.wakeAll.setUser user .connecting, .connecting, rfl,
                  by simp [happen, step, advanceStep, hu, afterTeardown], rfl, rfl, rfl⟩
        | some k =>
            exact ⟨s.wakeAll.setUser user (.joining k aim), .joining k aim, rfl,
              by simp [happen, step, advanceStep, hu], rfl, rfl, rfl⟩
    | _ => simp [hu, UserAt.owesWake] at howes
  have hpaid : ∀ v, (t.users v).owesWake = false := by
    intro v
    rw [husers]
    by_cases hv : v = user
    · simp [State.setUser, hv, hplace]
    · simp [State.setUser, hv, hs.idle_of_ne hbusy hv, UserAt.owesWake]
  refine ⟨t, ?_, hloops, hpaid⟩
  exact
    { leads := course_cons_eq_some.2 ⟨t, hstep, rfl⟩
      overdue := by simpa [Overdue] using howes
      stored_eq := by simp [along, storedBy, hstep]
      linkUp_eq := by rw [hinbox]
      loop_owes := fun k hk => by rwa [hloops] at hk
      user_owes := fun v hv => by simp [hpaid v] at hv }

/-- Whoever owes a wake-up gives it. -/
theorem exists_paid (waiting : List Nat) (hs : Sound s) :
    ∃ more t, CatchesUp waiting s more t ∧ ¬ WakeOwed t := by
  obtain ⟨more, u, hu, hloops⟩ : ∃ more u, CatchesUp waiting s more u ∧
      ∀ k, (u.loops k).owesWake = false := by
    by_cases howed : ∃ loop, (s.loops loop).owesWake = true
    · obtain ⟨loop, hloop⟩ := howed
      obtain ⟨u, hu, hpaid⟩ := of_loop waiting hs hloop
      exact ⟨_, u, hu, hpaid⟩
    · exact ⟨[], s, .refl waiting s, by simpa using howed⟩
  by_cases howed : ∃ user, (u.users user).owesWake = true
  · obtain ⟨user, huser⟩ := howed
    obtain ⟨t, ht, hsame, hpaid⟩ := of_user waiting (hs.course hu.leads) huser
    refine ⟨_, t, hu.trans ht, ?_⟩
    simp [WakeOwed, hsame, hloops, hpaid]
  · refine ⟨more, u, hu, ?_⟩
    simpa [WakeOwed, hloops] using howed

/-- A reader that is about to look does so. -/
theorem of_look {reader : Nat} {patient : Bool} (hwaiting : reader ∈ waiting)
    (hlooking : s.readers reader = .looking patient) :
    ∃ t, CatchesUp waiting s [.move (.look reader)] t ∧
      (∀ patient, t.readers reader ≠ .looking patient) ∧
      ∀ other, other ≠ reader → t.readers other = s.readers other := by
  obtain ⟨t, place, hplace, hstep, hreaders, hlinkUp, hloops, husers⟩ :
      ∃ (t : State) (place : ReaderAt), (∀ patient, place ≠ .looking patient) ∧
        happen (.move (.look reader)) s = some t ∧
        t.readers = (s.setReader reader place).readers ∧ t.inbox.linkUp = s.inbox.linkUp ∧
        t.loops = s.loops ∧ t.users = s.users := by
    simp only [happen, step, lookStep, hlooking]
    cases hlook : s.inbox.look with
    | mk found inbox =>
        cases found with
        | byte b => exact ⟨_, .answered _, by simp, rfl, rfl, Inbox.linkUp_of_look hlook, rfl, rfl⟩
        | closed => exact ⟨_, .answered _, by simp, rfl, rfl, rfl, rfl, rfl⟩
        | empty => exact ⟨_, _, by cases patient <;> simp, rfl, rfl, rfl, rfl, rfl⟩
  refine ⟨t, ?_, ?_, fun other hother => ?_⟩
  · exact
      { leads := course_cons_eq_some.2 ⟨t, hstep, rfl⟩
        overdue := by simpa [Overdue] using hwaiting
        stored_eq := by simp [along, storedBy, hstep]
        linkUp_eq := hlinkUp
        loop_owes := fun k hk => by rwa [hloops] at hk
        user_owes := fun v hv => by rwa [husers] at hv }
  · simpa [hreaders, State.setReader] using hplace
  · rw [hreaders]
    exact readers_setReader place hother

/-- All of these readers that are about to look do so, and the others stay where they are. -/
theorem exists_looked (readers : List Nat) (hreaders : readers ⊆ waiting) (s : State) :
    ∃ more t, CatchesUp waiting s more t ∧
      (∀ reader ∈ readers, ∀ patient, t.readers reader ≠ .looking patient) ∧
      ∀ other, (∀ patient, s.readers other ≠ .looking patient) →
        t.readers other = s.readers other := by
  induction readers generalizing s with
  | nil => exact ⟨[], s, .refl waiting s, by simp, fun _ _ => rfl⟩
  | cons reader rest ih =>
      rw [List.cons_subset] at hreaders
      by_cases hlooking : ∃ patient, s.readers reader = .looking patient
      · obtain ⟨patient, hlooking⟩ := hlooking
        obtain ⟨u, hu, hlooked, hsame⟩ := of_look hreaders.1 hlooking
        obtain ⟨more, t, ht, hall, hothers⟩ := ih hreaders.2 u
        refine ⟨_, t, hu.trans ht, ?_, fun other hother => ?_⟩
        · rw [List.forall_mem_cons]
          exact ⟨by rwa [hothers reader hlooked], hall⟩
        · have hne : other ≠ reader := by
            rintro rfl
            exact hother patient hlooking
          rw [hothers other (by rwa [hsame other hne]), hsame other hne]
      · rw [not_exists] at hlooking
        obtain ⟨more, t, ht, hall, hothers⟩ := ih hreaders.2 s
        refine ⟨more, t, ht, ?_, hothers⟩
        rw [List.forall_mem_cons]
        exact ⟨by rwa [hothers reader hlooking], hall⟩

end CatchesUp

/-- All of these readers that were woken have looked, and nobody is about to wake more. -/
structure Settled (waiting : List Nat) (s : State) : Prop where
  not_owed : ¬ WakeOwed s
  not_looking : ∀ reader ∈ waiting, ∀ patient, s.readers reader ≠ .looking patient

/-- **Readers that were woken can all come to look**: what is overdue is enough. -/
theorem exists_settled (waiting : List Nat) {s : State} (hs : Sound s) :
    ∃ more t, CatchesUp waiting s more t ∧ Settled waiting t := by
  obtain ⟨first, u, hu, hpaid⟩ := CatchesUp.exists_paid waiting hs
  obtain ⟨second, t, ht, hlooked, -⟩ := CatchesUp.exists_looked waiting (List.Subset.refl _) u
  exact ⟨first ++ second, t, hu.trans ht, ht.not_wakeOwed hpaid, hlooked⟩

end DongleLink.Interleaving

/-!
# DongleLink.Course

Courses of moves.  Where several parties move in any order, a step tells what a move leads
to, and gives `none` where the move cannot be made.  `course` makes moves one after the
other, and `along` puts together what the single moves bring.
-/

namespace DongleLink

variable {μ σ α : Type}

/-- What moves in order lead to, if all of them can be made. -/
def course (step : μ → σ → Option σ) (moves : List μ) (s : σ) : Option σ :=
  moves.foldlM (fun s m => step m s) s

/-- What the single moves bring, put together. -/
def along (step : μ → σ → Option σ) (brings : μ → σ → List α) : List μ → σ → List α
  | [], _ => []
  | m :: rest, s => brings m s ++ (step m s).elim [] (along step brings rest)

section course

variable {step : μ → σ → Option σ} {s t : σ}

@[simp] theorem course_nil : course step [] s = some s := rfl

theorem course_cons_eq_some {m : μ} {moves : List μ} :
    course step (m :: moves) s = some t ↔
      ∃ u, step m s = some u ∧ course step moves u = some t := by
  rw [course, List.foldlM_cons]
  exact Option.bind_eq_some_iff

theorem course_append_eq_some {first second : List μ} :
    course step (first ++ second) s = some t ↔
      ∃ u, course step first s = some u ∧ course step second u = some t := by
  rw [course, List.foldlM_append]
  exact Option.bind_eq_some_iff

theorem along_append {brings : μ → σ → List α} {first : List μ} (h : course step first s = some t)
    (second : List μ) :
    along step brings (first ++ second) s =
      along step brings first s ++ along step brings second t := by
  induction first generalizing s with
  | nil =>
      cases h
      rfl
  | cons m first ih =>
      obtain ⟨u, hstep, hrest⟩ := course_cons_eq_some.1 h
      simp [along, hstep, ih hrest]

/-- What every move keeps holds after a course if it holds before. -/
theorem course_keeps {P : σ → Prop} (keep : ∀ m s t, P s → step m s = some t → P t)
    {moves : List μ} (hs : P s) (h : course step moves s = some t) : P t := by
  induction moves generalizing s with
  | nil =>
      cases h
      exact hs
  | cons m moves ih =>
      obtain ⟨u, hstep, hrest⟩ := course_cons_eq_some.1 h
      exact ih (keep m s u hs hstep) hrest

/-- What every move keeps together with what it brings holds of a course and all that it
brings. -/
theorem along_keeps {brings : μ → σ → List α} {P : List α → σ → Prop}
    (keep : ∀ brought m s t, P brought s → step m s = some t → P (brought ++ brings m s) t)
    {moves : List μ} {brought : List α} (hs : P brought s) (h : course step moves s = some t) :
    P (brought ++ along step brings moves s) t := by
  induction moves generalizing s brought with
  | nil =>
      cases h
      simpa [along] using hs
  | cons m moves ih =>
      obtain ⟨u, hstep, hrest⟩ := course_cons_eq_some.1 h
      have hall := ih (keep brought m s u hs hstep) hrest
      simpa [along, hstep] using hall

/-- So does what only these moves keep, if no others are made. -/
theorem along_keeps_of_forall (brings : μ → σ → List α) {P : List α → σ → Prop} {Q : μ → Prop}
    (keep : ∀ brought m s t, Q m → P brought s → step m s = some t → P (brought ++ brings m s) t)
    {moves : List μ} (hmoves : ∀ m ∈ moves, Q m) (brought : List α) (hs : P brought s)
    (h : course step moves s = some t) : P (brought ++ along step brings moves s) t := by
  induction moves generalizing s brought with
  | nil =>
      cases h
      simpa [along] using hs
  | cons m moves ih =>
      obtain ⟨u, hstep, hrest⟩ := course_cons_eq_some.1 h
      rw [List.forall_mem_cons] at hmoves
      have hall := ih hmoves.2 _ (keep brought m s u hmoves.1 hs hstep) hrest
      simpa [along, hstep] using hall

end course

end DongleLink

/-!
# DongleLink.Text.Split

Cutting a text at a separator: at its first occurrence, at its last, or at
every one.  The laws say exactly when a cut succeeds and what the two sides
are, so nothing downstream unfolds the recursion.
-/

namespace DongleLink.Text

variable {sep : Char} {s a b : List Char}

/-! ## One cut -/

/-- The texts before and after the first `sep`. -/
def splitFirst (sep : Char) : List Char → Option (List Char × List Char)
  | [] => none
  | c :: r =>
    if c = sep then some ([], r)
    else (splitFirst sep r).map fun (before, after) => (c :: before, after)

/-- The texts before and after the last `sep`. -/
def splitLast (sep : Char) : List Char → Option (List Char × List Char)
  | [] => none
  | c :: r =>
    match splitLast sep r with
    | some (before, after) => some (c :: before, after)
    | none => if c = sep then some ([], r) else none

theorem splitFirst_eq_none_iff : splitFirst sep s = none ↔ sep ∉ s := by
  induction s with
  | nil => simp [splitFirst]
  | cons c r ih =>
    by_cases h : c = sep
    · simp [splitFirst, h]
    · simp [splitFirst, h, ih, Ne.symm h]

theorem splitFirst_eq_some_iff :
    splitFirst sep s = some (a, b) ↔ s = a ++ sep :: b ∧ sep ∉ a := by
  induction s generalizing a with
  | nil => simp [splitFirst]
  | cons c r ih =>
    by_cases h : c = sep
    · subst h
      cases a with
      | nil => simp [splitFirst]
      | cons d t =>
        simp only [splitFirst, if_true, Option.some.injEq, Prod.mk.injEq, List.cons_append,
          List.cons.injEq, List.mem_cons, not_or]
        constructor
        · rintro ⟨h, _⟩; cases h
        · rintro ⟨⟨h, _⟩, h', _⟩; exact absurd h h'
    · cases a with
      | nil =>
        simp only [splitFirst, if_neg h, Option.map_eq_some_iff, Prod.mk.injEq, List.nil_append,
          List.cons.injEq]
        constructor
        · rintro ⟨_, _, h, _⟩; cases h
        · rintro ⟨⟨h', _⟩, _⟩; exact absurd h' h
      | cons d t =>
        simp only [splitFirst, if_neg h, Option.map_eq_some_iff, Prod.mk.injEq, List.cons_append,
          List.cons.injEq, List.mem_cons, not_or, Prod.exists]
        constructor
        · rintro ⟨x, y, hxy, ⟨rfl, rfl⟩, rfl⟩
          obtain ⟨hr, hx⟩ := ih.1 hxy
          exact ⟨⟨rfl, hr⟩, Ne.symm h, hx⟩
        · rintro ⟨⟨rfl, hr⟩, _, ht⟩
          exact ⟨t, b, ih.2 ⟨hr, ht⟩, ⟨rfl, rfl⟩, rfl⟩

theorem splitLast_eq_none_iff : splitLast sep s = none ↔ sep ∉ s := by
  induction s with
  | nil => simp [splitLast]
  | cons c r ih =>
    rw [splitLast]
    cases hr : splitLast sep r with
    | some p =>
      have : sep ∈ r := Classical.not_not.1 fun hn => by simp [ih.2 hn] at hr
      simp [this]
    | none =>
      have hn := ih.1 hr
      by_cases h : c = sep
      · simp [h]
      · simp [h, hn, Ne.symm h]

theorem splitLast_append (a : List Char) (h : sep ∉ b) :
    splitLast sep (a ++ sep :: b) = some (a, b) := by
  induction a with
  | nil => simp [splitLast, splitLast_eq_none_iff.2 h]
  | cons c r ih => simp [splitLast, ih]

theorem splitLast_eq_some_iff :
    splitLast sep s = some (a, b) ↔ s = a ++ sep :: b ∧ sep ∉ b := by
  refine ⟨fun h => ?_, fun ⟨hs, hb⟩ => hs ▸ splitLast_append a hb⟩
  induction s generalizing a with
  | nil => simp [splitLast] at h
  | cons c r ih =>
    rw [splitLast] at h
    cases hr : splitLast sep r with
    | some p =>
      rw [hr] at h
      obtain ⟨rfl, rfl⟩ := Prod.mk.inj (Option.some.inj h)
      obtain ⟨hr', hb⟩ := ih hr
      exact ⟨by rw [List.cons_append, ← hr'], hb⟩
    | none =>
      rw [hr] at h
      by_cases hc : c = sep
      · simp only [if_pos hc, Option.some.injEq, Prod.mk.injEq] at h
        obtain ⟨rfl, rfl⟩ := h
        exact ⟨by rw [hc, List.nil_append], splitLast_eq_none_iff.1 hr⟩
      · simp [hc] at h

/-! ## All cuts -/

/-- The pieces between all separators; a text without one is its only piece. -/
def segments (sep : Char) : List Char → List (List Char)
  | [] => [[]]
  | c :: r =>
    if c = sep then [] :: segments sep r
    else
      match segments sep r with
      | [] => [[c]]
      | piece :: rest => (c :: piece) :: rest

theorem segments_ne_nil (sep : Char) (s : List Char) : segments sep s ≠ [] := by
  cases s with
  | nil => simp [segments]
  | cons c r =>
    rw [segments]
    split
    · simp
    · split <;> simp

/-- A text without the separator is one piece. -/
theorem segments_eq_singleton (h : sep ∉ s) : segments sep s = [s] := by
  induction s with
  | nil => rfl
  | cons c r ih =>
    simp only [List.mem_cons, not_or] at h
    rw [segments, if_neg (Ne.symm h.1), ih h.2]

/-- Joining two texts by the separator joins their pieces. -/
theorem segments_append (sep : Char) (s t : List Char) :
    segments sep (s ++ sep :: t) = segments sep s ++ segments sep t := by
  induction s with
  | nil => simp [segments]
  | cons c r ih =>
    rw [List.cons_append, segments, segments]
    by_cases h : c = sep
    · simp [h, ih]
    · rw [if_neg h, if_neg h, ih]
      cases hr : segments sep r with
      | nil => exact absurd hr (segments_ne_nil sep r)
      | cons p rest => simp

theorem segments_eq_splitOn (sep : Char) (s : List Char) : segments sep s = s.splitOn sep := by
  induction s with
  | nil => rfl
  | cons c s ih =>
    rw [List.splitOn_eq_splitOnP] at ih ⊢
    rw [segments, List.splitOnP_cons_eq_if_modifyHead, ih]
    simp only [beq_iff_eq]
    split
    · rfl
    · split
      next hnil => exact absurd hnil (List.splitOnP_ne_nil _ s)
      next piece rest heq => rw [heq]; rfl

/-- The pieces, joined by the separator, are the text. -/
theorem intercalate_segments (sep : Char) (s : List Char) :
    [sep].intercalate (segments sep s) = s := by
  rw [segments_eq_splitOn, List.intercalate_splitOn]

/-- Pieces without the separator are found again. -/
theorem segments_intercalate {pieces : List (List Char)} (hne : pieces ≠ [])
    (h : ∀ piece ∈ pieces, sep ∉ piece) : segments sep ([sep].intercalate pieces) = pieces := by
  rw [segments_eq_splitOn, List.splitOn_intercalate sep h hne]

theorem not_mem_of_mem_segments {piece : List Char} (h : piece ∈ segments sep s) :
    sep ∉ piece := by
  induction s generalizing piece with
  | nil => simp_all [segments]
  | cons c r ih =>
    rw [segments] at h
    split at h
    · obtain rfl | h := List.mem_cons.1 h
      · simp
      · exact ih h
    next hc =>
      split at h
      next hnil => exact absurd hnil (segments_ne_nil sep r)
      next first rest hr =>
        rw [hr] at ih
        obtain rfl | h := List.mem_cons.1 h
        · exact List.not_mem_cons_of_ne_of_not_mem (Ne.symm hc) (ih List.mem_cons_self)
        · exact ih (List.mem_cons_of_mem _ h)

/-! ## A given beginning -/

/-- What follows `head` in a text that begins with it. -/
def after? (head : List Char) (s : List Char) : Option (List Char) :=
  match head, s with
  | [], s => some s
  | _ :: _, [] => none
  | h :: hs, c :: cs => if h = c then after? hs cs else none

theorem after?_eq_some_iff {head rest : List Char} :
    after? head s = some rest ↔ s = head ++ rest := by
  induction head generalizing s with
  | nil => simp [after?, eq_comm]
  | cons h hs ih =>
    cases s with
    | nil => simp [after?]
    | cons c cs =>
      by_cases hc : h = c
      · simp [after?, hc, ih]
      · simp [after?, hc, Ne.symm hc]

end DongleLink.Text

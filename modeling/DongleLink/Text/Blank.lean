/-!
# DongleLink.Text.Blank

Blank characters and trimming.  A character is blank when it has the Unicode
property *White_Space*; target strings, override values and hex payloads all
ignore blanks by this one rule.
-/

namespace DongleLink.Text

/-- The *White_Space* property. -/
def isBlank (c : Char) : Bool :=
  let n := c.toNat
  (0x09 ≤ n && n ≤ 0x0D) || n == 0x20 || n == 0x85 || n == 0xA0 || n == 0x1680
    || (0x2000 ≤ n && n ≤ 0x200A) || n == 0x2028 || n == 0x2029 || n == 0x202F
    || n == 0x205F || n == 0x3000

/-! ## Trimming -/

/-- Drop the blanks at the front. -/
def trimStart (s : List Char) : List Char := s.dropWhile isBlank

/-- Drop the longest tail whose members all satisfy `p`. -/
def dropTailWhile (p : Char → Bool) : List Char → List Char
  | [] => []
  | c :: r =>
    match dropTailWhile p r with
    | [] => if p c then [] else [c]
    | d :: t => c :: d :: t

/-- Drop the blanks at the back. -/
def trimEnd (s : List Char) : List Char := dropTailWhile isBlank s

/-- Drop the blanks at both ends. -/
def trim (s : List Char) : List Char := trimEnd (trimStart s)

theorem dropTailWhile_eq_nil_iff {p : Char → Bool} {s : List Char} :
    dropTailWhile p s = [] ↔ ∀ c ∈ s, p c = true := by
  induction s with
  | nil => simp [dropTailWhile]
  | cons c r ih =>
    rw [dropTailWhile]
    cases h : dropTailWhile p r with
    | nil => simpa using fun _ => ih.1 h
    | cons d t =>
      simp only [reduceCtorEq, false_iff]
      intro hall
      have := ih.2 fun x hx => hall x (List.mem_cons_of_mem _ hx)
      simp [this] at h

/-- What is left ends in a character that does not satisfy `p`. -/
theorem getLast?_dropTailWhile {p : Char → Bool} {s : List Char} {c : Char}
    (h : (dropTailWhile p s).getLast? = some c) : p c = false := by
  induction s with
  | nil => simp [dropTailWhile] at h
  | cons x r ih =>
    rw [dropTailWhile] at h
    cases hr : dropTailWhile p r with
    | nil =>
      rw [hr] at h
      by_cases hx : p x = true <;> simp [hx] at h
      exact h ▸ Bool.eq_false_iff.2 hx
    | cons d t =>
      rw [hr] at h ih
      exact ih (by simpa using h)

/-- Trimming the tail only takes a tail away, all of whose members satisfy `p`. -/
theorem dropTailWhile_append_tail (p : Char → Bool) (s : List Char) :
    ∃ t, s = dropTailWhile p s ++ t ∧ ∀ c ∈ t, p c = true := by
  induction s with
  | nil => exact ⟨[], rfl, by simp⟩
  | cons c r ih =>
    obtain ⟨t, ht, hall⟩ := ih
    rw [dropTailWhile]
    cases hr : dropTailWhile p r with
    | nil =>
      rw [hr] at ht
      by_cases hc : p c = true
      · refine ⟨c :: r, by simp [hc], ?_⟩
        have hr' := dropTailWhile_eq_nil_iff.1 hr
        simpa [hc] using hr'
      · exact ⟨t, by simp [hc]; simpa using ht, hall⟩
    | cons d u =>
      rw [hr] at ht
      exact ⟨t, by simpa using ht, hall⟩

/-- A text whose last character fails `p` keeps its tail. -/
theorem dropTailWhile_eq_self {p : Char → Bool} {s : List Char}
    (h : ∀ c, s.getLast? = some c → p c = false) : dropTailWhile p s = s := by
  induction s with
  | nil => rfl
  | cons c r ih =>
    cases r with
    | nil => simp [dropTailWhile, h c rfl]
    | cons d t =>
      have := ih fun x hx => h x (by simpa using hx)
      rw [dropTailWhile, this]

/-- Trimming leaves a text alone when neither end is blank. -/
theorem trim_eq_self {s : List Char} (first : ∀ c, s.head? = some c → isBlank c = false)
    (last : ∀ c, s.getLast? = some c → isBlank c = false) : trim s = s := by
  have hs : trimStart s = s := by
    cases s with
    | nil => rfl
    | cons c r => simp [trimStart, first c rfl]
  rw [trim, hs, trimEnd, dropTailWhile_eq_self last]

end DongleLink.Text

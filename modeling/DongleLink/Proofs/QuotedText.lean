import DongleLink.Toml.Writer
import Mathlib.Data.List.TakeDrop
import Mathlib.Tactic.SplitIfs

/-!
# DongleLink.Proofs.QuotedText

A quoted text is read back, whatever it holds and whichever of the four forms the writer takes.

The reader goes through the text character by character, so each form has its own induction; what
they share are the laws for one plain character, one line end and one escape.  Between triple marks
the reader has to tell marks of the text from the closing ones: it can as long as the writer never
leaves three marks of the text in a row.
-/

namespace DongleLink.Toml

open Text

namespace Quote

variable {f : Form} {c : Char} {r : List Char}

/-! ## One character -/

/-- A text may hold a character as it is unless that is a control. -/
theorem isAllowed_eq (c : Char) : isAllowed c = !Writer.isControl c := by
  rw [Bool.eq_iff_iff]
  by_cases htab : c = '\t' <;> simp [isAllowed, Writer.isControl, htab]

theorem readFrom_plain (hmark : c ≠ f.mark) (hescape : f.escapes = true → c ≠ '\\')
    (hline : c ≠ '\n') (hallowed : isAllowed c = true) :
    readFrom f .text (c :: r) = withChar c (readFrom f .text r) := by
  have hreturn : c ≠ '\r' := by
    rintro rfl
    cases hallowed
  have hescape' : (f.escapes && c == '\\') = false := by
    cases hf : f.escapes with
    | false => rfl
    | true => simp [hescape hf]
  simp [readFrom, Inside.before, hmark, hescape', hline, hallowed, endsLine, hreturn]

theorem readFrom_newline (hlines : f.lines = true) (hmark : f.mark ≠ '\n') :
    readFrom f .text ('\n' :: r) = withChar '\n' (readFrom f .text r) := by
  simp [readFrom, Inside.before, hlines, hmark.symm]

/-- A backslash begins an escape, where there are escapes. -/
theorem readFrom_backslash (hescapes : f.escapes = true) (hmark : f.mark ≠ '\\') :
    readFrom f .text ('\\' :: r) = readFrom f .escape r := by
  simp [readFrom, Inside.before, hescapes, hmark.symm]

theorem readFrom_letter {e : Char} (h : escaped? c = some e) :
    readFrom f .escape (c :: r) = withChar e (readFrom f .text r) := by
  simp [readFrom, Inside.before, h]

/-- The four digits of a small number are read as that number. -/
theorem readFrom_fourDigits {n : Nat} (hn : n < 65536) {e : Char} (hchar : charOf? n = some e) :
    readFrom f (.number 4 0) (Writer.fourDigits n ++ r) = withChar e (readFrom f .text r) := by
  have h1 := hexValue?_hexDigit (n := n / 4096 % 16) (by omega)
  have h2 := hexValue?_hexDigit (n := n / 256 % 16) (by omega)
  have h3 := hexValue?_hexDigit (n := n / 16 % 16) (by omega)
  have h4 := hexValue?_hexDigit (n := n % 16) (by omega)
  have hvalue : 16 * (16 * (16 * (16 * 0 + n / 4096 % 16) + n / 256 % 16) + n / 16 % 16) +
      n % 16 = n := by omega
  simp only [Writer.fourDigits, List.cons_append, List.nil_append]
  simp only [readFrom, Inside.before, h1, h2, h3, h4]
  simp only [Nat.reduceLT, if_true, Nat.reduceSub, if_false, hvalue, hchar]

/-- An escape is a letter, or the digits of a control character. -/
theorem escape?_cases {e : List Char} (h : Writer.escape? c = some e) :
    (∃ l, e = ['\\', l] ∧ escaped? l = some c) ∨
      (e = '\\' :: 'u' :: Writer.fourDigits c.toNat ∧ c.toNat < 128) := by
  rw [Writer.escape?] at h
  split_ifs at h with h1 h2 h3 h4 h5 h6 h7 <;> cases h
  · exact .inl ⟨'b', rfl, by rw [h1]; rfl⟩
  · exact .inl ⟨'t', rfl, by rw [h2]; rfl⟩
  · exact .inl ⟨'n', rfl, by rw [h3]; rfl⟩
  · exact .inl ⟨'f', rfl, by rw [h4]; rfl⟩
  · exact .inl ⟨'r', rfl, by rw [h5]; rfl⟩
  · exact .inl ⟨'\\', rfl, by rw [h6]; rfl⟩
  · exact .inr ⟨rfl, by omega⟩

/-- An escape is read as the character that it is the escape of. -/
theorem readFrom_escape? (hescapes : f.escapes = true) (hmark : f.mark ≠ '\\') {e : List Char}
    (h : Writer.escape? c = some e) :
    readFrom f .text (e ++ r) = withChar c (readFrom f .text r) := by
  obtain ⟨l, rfl, hl⟩ | ⟨rfl, hlt⟩ := escape?_cases h
  · rw [List.cons_append, readFrom_backslash hescapes hmark]
    exact readFrom_letter hl
  · have hvalid : c.toNat.isValidChar := c.valid
    have hchar : charOf? c.toNat = some c := by rw [charOf?, if_pos hvalid, Char.ofNat_toNat]
    rw [List.cons_append, readFrom_backslash hescapes hmark, List.cons_append]
    rw [show readFrom f .escape ('u' :: (Writer.fourDigits c.toNat ++ r)) =
      readFrom f (.number 4 0) (Writer.fourDigits c.toNat ++ r) from rfl]
    exact readFrom_fourDigits (by omega) hchar

/-- A character without an escape stands for itself, unless it is the mark. -/
theorem readFrom_unescaped (hmark : c ≠ f.mark) (h : Writer.escape? c = none) :
    readFrom f .text (c :: r) = withChar c (readFrom f .text r) := by
  rw [Writer.escape?] at h
  split_ifs at h with h1 h2 h3 h4 h5 h6 h7
  refine readFrom_plain hmark (fun _ => h6) h3 ?_
  rw [isAllowed_eq, Writer.isControl]
  simp only [not_or] at h7
  simp [h7]

/-! ## On one line, with escapes -/

/-- Between single marks an escaped text is read back. -/
theorem readFrom_escaped (s rest : List Char) :
    readFrom basic .text (Writer.escaped s ++ '"' :: rest) = some (s, rest) := by
  induction s with
  | nil => rfl
  | cons c s ih =>
      rw [Writer.escaped]
      split
      next hquote =>
        subst hquote
        rw [List.cons_append, readFrom_backslash rfl (by decide), List.cons_append,
          readFrom_letter (e := '"') rfl, ih]
        rfl
      next hquote =>
        rw [List.append_assoc]
        cases hescape : Writer.escape? c with
        | none =>
            rw [Option.getD_none, List.singleton_append, readFrom_unescaped hquote hescape, ih]
            rfl
        | some e =>
            rw [Option.getD_some, readFrom_escape? rfl (by decide) hescape, ih]
            rfl

/-! ## On one line, without escapes -/

/-- Between single marks a text without the mark and without controls is read back. -/
theorem readFrom_literal {s : List Char} (hmark : '\'' ∉ s)
    (hcontrols : ∀ c ∈ s, Writer.isControl c = false) (rest : List Char) :
    readFrom literal .text (s ++ '\'' :: rest) = some (s, rest) := by
  induction s with
  | nil => rfl
  | cons c s ih =>
      rw [List.mem_cons, not_or] at hmark
      rw [List.forall_mem_cons] at hcontrols
      have hline : c ≠ '\n' := by
        rintro rfl
        cases hcontrols.1
      rw [List.cons_append, readFrom_plain (Ne.symm hmark.1) (fun h => by cases h) hline
        (by rw [isAllowed_eq, hcontrols.1]; rfl), ih hmark.2 hcontrols.2]
      rfl

/-! ## Between triple marks -/

variable {mark : Char} {rest : List Char}

/-- The closing marks, with the marks of the text that come right before them. -/
theorem closing?_marks (hrest : rest.head? ≠ some mark) {t : List Char}
    (ht : t = [] ∨ t = [mark] ∨ t = [mark, mark]) :
    closing? mark (mark :: mark :: (t ++ rest)) = some (t, rest) := by
  have hnone : ∀ n, (rest.take n).takeWhile (· == mark) = [] := fun n => by
    cases rest with
    | nil => simp
    | cons a r =>
        have ha : a ≠ mark := by simpa using hrest
        cases n <;> simp [ha]
  obtain rfl | rfl | rfl := ht <;> simp [closing?, hnone]

/-- A mark is the first of the closing ones, with all of the text that is left, or it belongs to
the text. -/
theorem closing?_cases (hrest : rest.head? ≠ some mark) {t : List Char}
    (ht : ¬ [mark, mark] <+: t) :
    (closing? mark (t ++ mark :: mark :: mark :: rest) = some (mark :: t, rest) ∧
        (t = [] ∨ t = [mark])) ∨
      closing? mark (t ++ mark :: mark :: mark :: rest) = none := by
  match t with
  | [] => exact .inl ⟨closing?_marks (t := [mark]) hrest (.inr (.inl rfl)), .inl rfl⟩
  | [a] =>
      by_cases ha : a = mark
      · subst ha
        exact .inl ⟨closing?_marks (t := [a, a]) hrest (.inr (.inr rfl)), .inr rfl⟩
      · exact .inr (by simp [closing?, ha])
  | a :: b :: t =>
      right
      have hab : ¬ (a = mark ∧ b = mark) := by
        rintro ⟨rfl, rfl⟩
        exact ht ⟨t, rfl⟩
      simp [closing?, hab]

/-- A mark that the writer left in a text belongs to the text that is read. -/
theorem readFrom_mark (hlines : f.lines = true) (hrest : rest.head? ≠ some f.mark)
    {t s : List Char} (ht : ¬ [f.mark, f.mark] <+: t) (hlast : t = [] ∨ t = [f.mark] → s = t)
    (hread : readFrom f .text (t ++ f.mark :: f.mark :: f.mark :: rest) = some (s, rest)) :
    readFrom f .text (f.mark :: (t ++ f.mark :: f.mark :: f.mark :: rest)) =
      some (f.mark :: s, rest) := by
  rw [readFrom]
  simp only [Inside.before, hlines, if_true, Bool.not_true, Bool.false_eq_true, if_false]
  obtain ⟨hclosing, hend⟩ | hclosing := closing?_cases hrest ht
  · rw [hclosing, hlast hend]
  · rw [hclosing, hread]
    rfl

/-- The closing marks, right where the text ends. -/
theorem readFrom_marks (hlines : f.lines = true) (hrest : rest.head? ≠ some f.mark) :
    readFrom f .text (f.mark :: f.mark :: f.mark :: rest) = some ([], rest) := by
  have hclosing := closing?_marks (t := []) hrest (.inl rfl)
  rw [List.nil_append] at hclosing
  rw [readFrom]
  simp only [Inside.before, hlines, if_true, Bool.not_true, Bool.false_eq_true, if_false]
  rw [hclosing]

/-! ### With escapes -/

/-- The first character of a text is a quote that needs no escape, a line end, another character
that needs none, or one that is escaped. -/
theorem escapedLines_cons (run : Nat) (c : Char) (s : List Char) :
    (c = '"' ∧ run < 2 ∧
        Writer.escapedLines run (c :: s) = '"' :: Writer.escapedLines (run + 1) s) ∨
      (c = '\n' ∧ Writer.escapedLines run (c :: s) = '\n' :: Writer.escapedLines 0 s) ∨
      (c ≠ '"' ∧ Writer.escape? c = none ∧
        Writer.escapedLines run (c :: s) = c :: Writer.escapedLines 0 s) ∨
      ∃ e, (c = '"' ∧ e = ['"'] ∨ Writer.escape? c = some ('\\' :: e)) ∧
        Writer.escapedLines run (c :: s) = '\\' :: (e ++ Writer.escapedLines 0 s) := by
  rw [Writer.escapedLines]
  split_ifs with hquote hrun hline
  · exact .inl ⟨hquote, hrun, rfl⟩
  · exact .inr (.inr (.inr ⟨['"'], .inl ⟨hquote, rfl⟩, rfl⟩))
  · exact .inr (.inl ⟨hline, rfl⟩)
  · right; right
    cases hescape : Writer.escape? c with
    | none => exact .inl ⟨hquote, rfl, rfl⟩
    | some e =>
        right
        obtain ⟨l, rfl, -⟩ | ⟨rfl, -⟩ := escape?_cases hescape
        · exact ⟨[l], .inr rfl, rfl⟩
        · exact ⟨'u' :: Writer.fourDigits c.toNat, .inr rfl, rfl⟩

theorem escapedLines_ne_nil (run : Nat) (c : Char) (s : List Char) :
    Writer.escapedLines run (c :: s) ≠ [] := by
  obtain ⟨-, -, heq⟩ | ⟨-, heq⟩ | ⟨-, -, heq⟩ | ⟨e, -, heq⟩ := escapedLines_cons run c s <;>
    rw [heq] <;> exact List.cons_ne_nil _ _

/-- A quote at the front of escaped lines is one that needed no escape. -/
theorem head?_escapedLines (run : Nat) (s : List Char)
    (h : (Writer.escapedLines run s).head? = some '"') :
    run < 2 ∧ ∃ t, s = '"' :: t ∧
      Writer.escapedLines run s = '"' :: Writer.escapedLines (run + 1) t := by
  cases s with
  | nil => cases h
  | cons c s =>
      obtain ⟨rfl, hrun, heq⟩ | ⟨-, heq⟩ | ⟨hquote, -, heq⟩ | ⟨e, -, heq⟩ :=
        escapedLines_cons run c s
      · exact ⟨hrun, s, rfl, heq⟩
      · rw [heq] at h
        cases h
      · rw [heq, List.head?_cons, Option.some.injEq] at h
        exact absurd h hquote
      · rw [heq] at h
        cases h

/-- Of the quotes that the writer leaves in a row there are never more than two. -/
theorem not_prefix_escapedLines (run : Nat) (s : List Char) :
    ¬ ['"', '"'] <+: Writer.escapedLines (run + 1) s := by
  rintro ⟨t, ht⟩
  obtain ⟨hrun, u, rfl, heq⟩ := head?_escapedLines (run + 1) s (by rw [← ht]; rfl)
  rw [heq, List.cons_append, List.cons.injEq] at ht
  have hsecond := (head?_escapedLines (run + 1 + 1) u (by rw [← ht.2]; rfl)).1
  omega

/-- Between triple marks escaped lines are read back. -/
theorem readFrom_escapedLines (hrest : rest.head? ≠ some '"') (s : List Char) (run : Nat) :
    readFrom basicLines .text (Writer.escapedLines run s ++ '"' :: '"' :: '"' :: rest) =
      some (s, rest) := by
  induction s generalizing run with
  | nil => exact readFrom_marks (f := basicLines) rfl hrest
  | cons c s ih =>
      obtain ⟨rfl, hrun, heq⟩ | ⟨rfl, heq⟩ | ⟨hquote, hescape, heq⟩ | ⟨e, he, heq⟩ :=
        escapedLines_cons run c s <;> rw [heq]
      · refine readFrom_mark (f := basicLines) rfl hrest (not_prefix_escapedLines run s) ?_
          (ih (run + 1))
        rintro (hnil | hone)
        · cases s with
          | nil => rfl
          | cons c s => exact absurd hnil (escapedLines_ne_nil _ c s)
        · obtain ⟨-, t, rfl, heq⟩ := head?_escapedLines (run + 1) s (by rw [hone]; rfl)
          rw [hone, List.cons.injEq] at heq
          cases t with
          | nil => exact hone.symm
          | cons c t => exact absurd heq.2.symm (escapedLines_ne_nil _ c t)
      · rw [List.cons_append, readFrom_newline rfl (by decide), ih]
        rfl
      · rw [List.cons_append, readFrom_unescaped (f := basicLines) hquote hescape, ih]
        rfl
      · obtain ⟨rfl, rfl⟩ | hescape := he
        · rw [List.cons_append, readFrom_backslash rfl (by decide), List.append_assoc,
            List.singleton_append, readFrom_letter (e := '"') rfl, ih]
          rfl
        · rw [← List.cons_append, List.append_assoc, readFrom_escape? rfl (by decide) hescape, ih]
          rfl

/-! ### Without escapes -/

theorem le_longestRun (mark : Char) (run : Nat) (s : List Char) :
    run ≤ Writer.longestRun mark run s := by
  induction s generalizing run with
  | nil => exact Nat.le_refl run
  | cons c s ih =>
      rw [Writer.longestRun]
      split_ifs
      · have h := ih (run + 1)
        omega
      · omega

/-- Between triple marks a text is read back that never has three marks in a row, and no control
but line ends. -/
theorem readFrom_literalLines (hrest : rest.head? ≠ some '\'') {s : List Char} {run : Nat}
    (hrun : Writer.longestRun '\'' run s ≤ 2)
    (hcontrols : ∀ c ∈ s, Writer.isControl c = true → c = '\n') :
    readFrom literalLines .text (s ++ '\'' :: '\'' :: '\'' :: rest) = some (s, rest) := by
  induction s generalizing run with
  | nil => exact readFrom_marks (f := literalLines) rfl hrest
  | cons c s ih =>
      rw [List.forall_mem_cons] at hcontrols
      rw [Writer.longestRun] at hrun
      split_ifs at hrun with hmark
      · subst hmark
        refine readFrom_mark (f := literalLines) rfl hrest ?_ ?_ (ih hrun hcontrols.2)
        · rintro ⟨t, rfl⟩
          have hle := le_longestRun '\'' (run + 1 + 1 + 1) t
          simp only [List.cons_append, List.nil_append, Writer.longestRun,
            show literalLines.mark = '\'' from rfl, if_true] at hrun
          omega
        · rintro (rfl | rfl) <;> rfl
      · have hs : Writer.longestRun '\'' 0 s ≤ 2 := by omega
        rw [List.cons_append]
        by_cases hline : c = '\n'
        · subst hline
          rw [readFrom_newline rfl (by decide), ih hs hcontrols.2]
          rfl
        · have hcontrol : Writer.isControl c = false := by
            cases h : Writer.isControl c with
            | false => rfl
            | true => exact absurd (hcontrols.1 h) hline
          rw [readFrom_plain hmark (fun h => by cases h) hline
            (by rw [isAllowed_eq, hcontrol]; rfl), ih hs hcontrols.2]
          rfl

/-! ## From the opening marks on -/

/-- What stands between triple marks is read without the line end that the writer put in front. -/
theorem readForm_onLines (hlines : f.lines = true) {s body : List Char}
    (hfirst : '\n' ∉ s → newline? (body ++ f.mark :: f.mark :: f.mark :: rest) = none)
    (hread : readFrom f .text (body ++ f.mark :: f.mark :: f.mark :: rest) = some (s, rest)) :
    readForm f ((if s.contains '\n' then ['\n'] else []) ++ body ++
      f.mark :: f.mark :: f.mark :: rest) = some (s, rest) := by
  rw [readForm, if_pos hlines, List.append_assoc]
  split
  · exact hread
  next hnone =>
    rw [List.nil_append, hfirst (by simpa using hnone)]
    exact hread

/-- A text that begins with no line end has none in front. -/
theorem newline?_eq_none {s : List Char} (hline : s.head? ≠ some '\n')
    (hreturn : s.head? ≠ some '\r') : newline? s = none := by
  unfold newline?
  split
  · exact absurd rfl hline
  · exact absurd rfl hreturn
  · rfl

/-- No escape and no plain character is a carriage return, and a line end is one of the text. -/
theorem newline?_escapedLines {s : List Char} (hline : '\n' ∉ s) (rest : List Char) :
    newline? (Writer.escapedLines 0 s ++ '"' :: '"' :: '"' :: rest) = none := by
  cases s with
  | nil => rfl
  | cons c s =>
      obtain ⟨-, -, heq⟩ | ⟨rfl, -⟩ | ⟨-, hescape, heq⟩ | ⟨e, -, heq⟩ := escapedLines_cons 0 c s
      · rw [heq]
        rfl
      · exact absurd List.mem_cons_self hline
      · have hc : c ≠ '\n' ∧ c ≠ '\r' := by
          constructor <;> rintro rfl <;> cases hescape
        rw [heq]
        exact newline?_eq_none (by simpa using hc.1) (by simpa using hc.2)
      · rw [heq]
        rfl

theorem read_basic_of_not_prefix {s : List Char} (h : ¬ ['"', '"'] <+: s) :
    Quote.read ('"' :: s) = readForm basic s := by
  unfold Quote.read
  split
  next t heq =>
    cases heq
    exact absurd ⟨t, rfl⟩ h
  next t _ heq =>
    cases heq
    rfl
  next heq => cases heq
  next heq => cases heq
  next hnot _ _ => exact absurd rfl (hnot s)

theorem read_literal_of_not_prefix {s : List Char} (h : ¬ ['\'', '\''] <+: s) :
    Quote.read ('\'' :: s) = readForm literal s := by
  unfold Quote.read
  split
  next heq => cases heq
  next heq => cases heq
  next t heq =>
    cases heq
    exact absurd ⟨t, rfl⟩ h
  next t _ heq =>
    cases heq
    rfl
  next hnot => exact absurd rfl (hnot s)

/-- Where a text is empty, what follows must not make its two marks three. -/
theorem not_prefix_of_head? {t : List Char} (ht : t.head? ≠ some mark)
    (hrest : rest.head? ≠ some mark) : ¬ [mark, mark] <+: t ++ mark :: rest := by
  rintro ⟨u, hu⟩
  cases t with
  | nil =>
      cases hu
      exact hrest rfl
  | cons a t => exact ht (congrArg some (List.cons.inj hu).1.symm)

/-- No quote is left without a backslash before it. -/
theorem head?_escaped (s : List Char) : (Writer.escaped s).head? ≠ some '"' := by
  cases s with
  | nil => simp [Writer.escaped]
  | cons c s =>
      rw [Writer.escaped]
      split
      · simp
      next hquote =>
        cases hescape : Writer.escape? c with
        | none => simpa using hquote
        | some e => obtain ⟨l, rfl, -⟩ | ⟨rfl, -⟩ := escape?_cases hescape <;> simp

theorem read_escaped (hrest : rest.head? ≠ some '"') (s : List Char) :
    Quote.read ('"' :: Writer.escaped s ++ ['"'] ++ rest) = some (s, rest) := by
  rw [List.append_assoc, List.cons_append, List.singleton_append,
    read_basic_of_not_prefix (not_prefix_of_head? (head?_escaped s) hrest)]
  exact readFrom_escaped s rest

theorem read_literal (hrest : rest.head? ≠ some '\'') {s : List Char} (hmark : '\'' ∉ s)
    (hcontrols : ∀ c ∈ s, Writer.isControl c = false) :
    Quote.read ('\'' :: s ++ ['\''] ++ rest) = some (s, rest) := by
  have hhead : s.head? ≠ some '\'' := fun h => hmark (List.mem_of_head? h)
  rw [List.append_assoc, List.cons_append, List.singleton_append,
    read_literal_of_not_prefix (not_prefix_of_head? hhead hrest)]
  exact readFrom_literal hmark hcontrols rest

theorem read_escapedLines (hrest : rest.head? ≠ some '"') (s : List Char) :
    Quote.read (Writer.onLines '"' s (Writer.escapedLines 0 s) ++ rest) = some (s, rest) := by
  have hread := readForm_onLines (f := basicLines) rfl
    (fun hline => newline?_escapedLines hline rest) (readFrom_escapedLines hrest s 0)
  rw [Writer.onLines, List.append_assoc]
  exact hread

theorem read_literalLines (hrest : rest.head? ≠ some '\'') {s : List Char}
    (hrun : Writer.longestRun '\'' 0 s ≤ 2)
    (hcontrols : ∀ c ∈ s, Writer.isControl c = true → c = '\n') :
    Quote.read (Writer.onLines '\'' s s ++ rest) = some (s, rest) := by
  have hfirst : '\n' ∉ s → newline? (s ++ '\'' :: '\'' :: '\'' :: rest) = none := by
    intro hline
    cases s with
    | nil => rfl
    | cons c s =>
        have hc : c ≠ '\n' := fun h => hline (h ▸ List.mem_cons_self)
        have hreturn : c ≠ '\r' := by
          rintro rfl
          exact hc (hcontrols '\r' List.mem_cons_self rfl)
        exact newline?_eq_none (by simpa using hc) (by simpa using hreturn)
  have hread := readForm_onLines (f := literalLines) rfl hfirst
    (readFrom_literalLines hrest hrun hcontrols)
  rw [Writer.onLines, List.append_assoc]
  exact hread

end Quote

/-- **A quoted text is read back**, if no quote follows it. -/
theorem read_text (s : List Char) {rest : List Char} (hquote : rest.head? ≠ some '"')
    (hmark : rest.head? ≠ some '\'') : Quote.read (Writer.text s ++ rest) = some (s, rest) := by
  rw [Writer.text]
  split_ifs with h1 h2 h3 h4 h5
  · exact Quote.read_escaped hquote s
  · simp only [Bool.and_eq_true, Bool.not_eq_true', List.contains_eq_mem,
      decide_eq_false_iff_not] at h2
    obtain ⟨⟨hcontrols, hline⟩, happ⟩ := h2
    refine Quote.read_literal hmark happ fun c hc => ?_
    have hc' : c ≠ '\n' := fun h => hline (h ▸ hc)
    simpa [hc'] using List.any_eq_false.1 hcontrols c hc
  · exact Quote.read_escapedLines hquote s
  · simp only [Bool.and_eq_true, Bool.not_eq_true', decide_eq_true_eq] at h4
    obtain ⟨hcontrols, hrun⟩ := h4
    refine Quote.read_literalLines hmark hrun fun c hc hcontrol => ?_
    simpa [hcontrol] using List.any_eq_false.1 hcontrols c hc
  · exact Quote.read_escapedLines hquote s
  · exact Quote.read_escaped hquote s

/-! ## Keys -/

/-- A key stands as it is, or between quotes. -/
theorem key_cases (s : List Char) :
    (Writer.key s = s ∧ s ≠ [] ∧ ∀ c ∈ s, isBareKeyChar c = true) ∨
      Writer.key s = '"' :: Writer.escaped s ++ ['"'] ∨
      (Writer.key s = '\'' :: s ++ ['\''] ∧ '\'' ∉ s ∧ ∀ c ∈ s, Writer.isControl c = false) := by
  simp only [Writer.key]
  split_ifs with hbare hplain hliteral
  · simp only [Bool.and_eq_true, Bool.not_eq_true', List.isEmpty_eq_false_iff, List.all_eq_true]
      at hbare
    exact .inl ⟨rfl, hbare⟩
  · exact .inr (.inl rfl)
  · simp only [Bool.and_eq_true, Bool.not_eq_true', List.contains_eq_mem, decide_eq_false_iff_not,
      List.any_eq_false, Bool.not_eq_true] at hliteral
    exact .inr (.inr ⟨rfl, hliteral.2, hliteral.1⟩)
  · exact .inr (.inl rfl)

/-- A character of a bare key, or a quote. -/
def BeginsKey (c : Char) : Prop := isBareKeyChar c = true ∨ c = '"' ∨ c = '\''

theorem BeginsKey.ne {c d : Char} (hc : BeginsKey c)
    (hd : isBareKeyChar d = false ∧ d ≠ '"' ∧ d ≠ '\'') : c ≠ d := by
  rintro rfl
  obtain hbare | hquote | hmark := hc
  · rw [hd.1] at hbare
    cases hbare
  · exact hd.2.1 hquote
  · exact hd.2.2 hmark

theorem exists_head_key (s : List Char) : ∃ c t, Writer.key s = c :: t ∧ BeginsKey c := by
  obtain ⟨heq, hne, hbare⟩ | heq | ⟨heq, -⟩ := key_cases s
  · obtain ⟨c, t, rfl⟩ := List.exists_cons_of_ne_nil hne
    exact ⟨c, t, heq, .inl (hbare c List.mem_cons_self)⟩
  · exact ⟨'"', _, heq, .inr (.inl rfl)⟩
  · exact ⟨'\'', _, heq, .inr (.inr rfl)⟩

/-- A run ends where it is followed by a character that does not belong to it. -/
theorem span_append {p : Char → Bool} {s : List Char} (hs : ∀ c ∈ s, p c = true) {c : Char}
    (hc : p c = false) (rest : List Char) : (s ++ c :: rest).span p = (s, c :: rest) := by
  rw [List.span_eq_takeWhile_dropWhile, List.takeWhile_append_of_pos hs,
    List.dropWhile_append_of_pos hs, List.takeWhile_cons_of_neg (by simp [hc]), List.append_nil,
    List.dropWhile_cons_of_neg (by simp [hc])]

/-- A key is read back, if no character of a bare key follows it. -/
theorem readKeyText_key (s : List Char) {c : Char} (hc : isBareKeyChar c = false)
    (rest : List Char) : readKeyText (Writer.key s ++ c :: rest) = some (s, c :: rest) := by
  obtain ⟨heq, hne, hbare⟩ | heq | ⟨heq, hmark, hcontrols⟩ := key_cases s
  · have hspan := span_append hbare hc rest
    have hhead : ∀ d t, isBareKeyChar d = false → s ++ c :: rest ≠ d :: t := by
      rintro d t hd hst
      obtain ⟨a, u, rfl⟩ := List.exists_cons_of_ne_nil hne
      rw [List.cons_append, List.cons.injEq] at hst
      rw [← hst.1, hbare a List.mem_cons_self] at hd
      cases hd
    rw [heq]
    unfold readKeyText
    split
    next hst => exact absurd hst (hhead '"' _ rfl)
    next hst => exact absurd hst (hhead '\'' _ rfl)
    · simp only [hspan, List.isEmpty_eq_false_iff.2 hne, Bool.false_eq_true, if_false]
  · rw [heq, List.append_assoc, List.cons_append, List.singleton_append]
    exact Quote.readFrom_escaped s (c :: rest)
  · rw [heq, List.append_assoc, List.cons_append, List.singleton_append]
    exact Quote.readFrom_literal hmark hcontrols (c :: rest)

end DongleLink.Toml

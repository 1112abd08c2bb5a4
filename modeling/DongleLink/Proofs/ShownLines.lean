import DongleLink.Dump.Loop
import DongleLink.Proofs.PayloadText
import Mathlib.Algebra.GroupWithZero.Nat

/-!
# DongleLink.Proofs.ShownLines

The lines that are shown until the time is over or the link drops, and that they are all that came.

What is shown depends on the looks for a byte alone, not on how the loop ends (`showing_eq`).  The
open line is shown when it is full, and as it is when the dongle falls silent.  So the bytes between
two silences are cut into full lines and a rest.  All inductions run over the looks and carry that
the open line is not full.
-/

namespace DongleLink

/-! ## Lines as a payload -/

namespace Payload

open Text

/-- Where only the digits of bytes count, the bytes are read. -/
theorem parse_of_filter_eq {s : String} {bytes : List UInt8} (hne : bytes ≠ [])
    (h : s.toList.filter (¬ SetsApart ·) = bytes.flatMap byteDigits) : parse s = .ok bytes := by
  have hspells : Spells (bytes.flatMap byteDigits) bytes :=
    spells_iff.2 (bytesOfDigits?_flatMap bytes)
  have hdigits : bytes.flatMap byteDigits ≠ [] := by
    have hlength := hspells.length_eq
    have hpos := List.length_pos_of_ne_nil hne
    exact List.ne_nil_of_length_pos (by omega)
  exact parse_eq_ok_iff.2 (read_of_spells (digits_of_filter_eq h) hdigits hspells)

/-- Lines, each with something behind it that only sets digits apart, are read as their bytes. -/
theorem parse_join {lines : List (List UInt8)} (hne : lines.flatten ≠ []) {glue : String}
    (hglue : ∀ c ∈ glue.toList, SetsApart c) :
    parse (String.join (lines.map fun line => text line ++ glue)) = .ok lines.flatten := by
  refine parse_of_filter_eq hne ?_
  have hnone : glue.toList.filter (¬ SetsApart ·) = [] :=
    List.filter_eq_nil_iff.2 fun c hc => by simpa using hglue c hc
  have hline : ∀ line, (text line ++ glue).toList.filter (¬ SetsApart ·) =
      line.flatMap byteDigits := fun line => by
    rw [String.toList_append, List.filter_append, hnone, List.append_nil, text,
      String.toList_ofList, filter_write]
  rw [String.toList_join, List.flatMap_map, List.filter_flatMap, List.flatten_eq_flatMap,
    List.flatMap_assoc]
  exact congrArg lines.flatMap (funext hline)

end Payload

namespace Dump

/-! ## The loop and its looks -/

/-- The looks that are made in turns. -/
def looksOf (turns : List Turn) : List Look := turns.filterMap Turn.look?

/-- How the loop ends does not matter for what is shown, which is what its looks show. -/
theorem showing_eq {turns : List Turn} {last : Turn} (hgo : ∀ t ∈ turns, t.goesOn = true)
    (hlast : last.goesOn = false) (line : List UInt8) :
    showing line (turns ++ [last]) = some (lines line (looksOf (turns ++ [last]))) := by
  induction turns generalizing line with
  | nil =>
      cases last with
      | overdue => rfl
      | byte b => cases hlast
      | silence linkUp =>
          cases linkUp with
          | false => rfl
          | true => cases hlast
  | cons t turns ih =>
      rw [List.forall_mem_cons] at hgo
      have hlook : ∃ look, t.look? = some look := by
        cases t with
        | overdue => cases hgo.1
        | byte b => exact ⟨_, rfl⟩
        | silence linkUp => exact ⟨_, rfl⟩
      obtain ⟨look, hlook⟩ := hlook
      simp only [List.cons_append, showing, hlook, hgo.1, if_true, ih hgo.2, Option.map_some,
        looksOf, List.filterMap_cons, lines]

/-! ## Lines as they come -/

/-- The lines that looks show before the end. -/
def shownBy (line : List UInt8) : List Look → List (List UInt8)
  | [] => []
  | look :: rest => (step line look).1.toList ++ shownBy (step line look).2 rest

/-- The bytes between silences. -/
def runs (looks : List Look) : List (List UInt8) :=
  (looks.splitOnP Option.isNone).map bytesOf

/-- How many lines some bytes take. -/
def linesOf (bytes : List UInt8) : Nat := (bytes.length + (lineLength - 1)) / lineLength

theorem lineLength_eq : lineLength = 16 := rfl

theorem linesOf_eq (bytes : List UInt8) : linesOf bytes = (bytes.length + 15) / 16 := rfl

section open_line

variable {line : List UInt8}

/-- The open line is shown at the end and at a silence, unless it is empty. -/
theorem finish_cases (line : List UInt8) :
    (line = [] ∧ finish line = none) ∨ (line ≠ [] ∧ finish line = some line) := by
  cases line with
  | nil => exact .inl ⟨rfl, rfl⟩
  | cons b rest => exact .inr ⟨List.cons_ne_nil _ _, rfl⟩

theorem length_finish (hopen : line.length < lineLength) :
    (finish line).toList.length = linesOf line := by
  rw [lineLength_eq] at hopen
  rw [linesOf_eq]
  obtain ⟨rfl, hfinish⟩ | ⟨hne, hfinish⟩ := finish_cases line
  · rw [hfinish]
    rfl
  · have hpos := List.length_pos_of_ne_nil hne
    rw [hfinish, Option.toList_some, List.length_singleton]
    omega

/-- The byte that fills the open line ends it. -/
theorem step_full (hfull : line.length + 1 = lineLength) (b : UInt8) :
    step line (some b) = (some (line ++ [b]), []) := by
  simp [step, hfull]

theorem step_open (hopen : line.length + 1 ≠ lineLength) (b : UInt8) :
    step line (some b) = (none, line ++ [b]) := by
  simp [step, hopen]

/-- What is shown after a look is what the look shows and what is shown after that. -/
theorem lines_cons (look : Look) (looks : List Look) :
    lines line (look :: looks) = (step line look).1.toList ++ lines (step line look).2 looks := rfl

theorem length_step_lt (hopen : line.length < lineLength) (look : Look) :
    (step line look).2.length < lineLength := by
  cases look with
  | none => exact Nat.succ_pos 15
  | some b =>
      by_cases hfull : line.length + 1 = lineLength
      · rw [step_full hfull]
        exact Nat.succ_pos 15
      · rw [step_open hfull, List.length_append, List.length_singleton]
        omega

/-- What a look shows has a byte at least, and no more than a full line; it is less than that
only at a silence. -/
theorem length_of_step (hopen : line.length < lineLength) (look : Look) {shown : List UInt8}
    (h : shown ∈ (step line look).1.toList) :
    1 ≤ shown.length ∧ shown.length ≤ lineLength ∧ (shown.length < lineLength → look = none) := by
  cases look with
  | none =>
      obtain ⟨-, hfinish⟩ | ⟨hne, hfinish⟩ := finish_cases line
      · simp [step, hfinish] at h
      · rw [step, hfinish, Option.toList_some, List.mem_singleton] at h
        rw [h]
        exact ⟨List.length_pos_of_ne_nil hne, Nat.le_of_lt hopen, fun _ => rfl⟩
  | some b =>
      by_cases hfull : line.length + 1 = lineLength
      · rw [step_full hfull, Option.toList_some, List.mem_singleton] at h
        rw [h, List.length_append, List.length_singleton]
        exact ⟨by omega, by omega, fun hlt => by omega⟩
      · simp [step_open hfull] at h

theorem length_of_mem_lines (hopen : line.length < lineLength) (looks : List Look) :
    ∀ shown ∈ lines line looks, 1 ≤ shown.length ∧ shown.length ≤ lineLength := by
  induction looks generalizing line with
  | nil =>
      intro shown hshown
      have hlast := length_of_step hopen none hshown
      exact ⟨hlast.1, hlast.2.1⟩
  | cons look looks ih =>
      intro shown hshown
      rw [lines_cons] at hshown
      obtain hnow | hlater := List.mem_append.1 hshown
      · have hstep := length_of_step hopen look hnow
        exact ⟨hstep.1, hstep.2.1⟩
      · exact ih (length_step_lt hopen look) shown hlater

/-- **A line that is not full is the last one, or was shown at a silence.** -/
theorem silence_of_short (hopen : line.length < lineLength) {looks : List Look}
    {before after : List (List UInt8)} {shown : List UInt8}
    (h : lines line looks = before ++ shown :: after) (hshort : shown.length < lineLength) :
    after = [] ∨ ∃ first rest, looks = first ++ none :: rest ∧ shownBy line first = before ∧
      shownBy line (first ++ [none]) = before ++ [shown] := by
  induction looks generalizing line before with
  | nil =>
      have hlength := congrArg List.length h
      rw [lines, length_finish hopen, linesOf_eq, List.length_append, List.length_cons] at hlength
      rw [lineLength_eq] at hopen
      exact .inl (List.length_eq_zero_iff.1 (by omega))
  | cons look looks ih =>
      have hrest := length_step_lt hopen look
      rw [lines_cons] at h
      cases hnow : (step line look).1 with
      | none =>
          rw [hnow] at h
          obtain hend | ⟨first, rest, rfl, hbefore, hshown⟩ := ih hrest h
          · exact .inl hend
          · exact .inr ⟨look :: first, rest, rfl, by simp [shownBy, hnow, hbefore],
              by simp [shownBy, hnow, hshown]⟩
      | some now =>
          rw [hnow, Option.toList_some, List.singleton_append] at h
          cases before with
          | nil =>
              -- the line is what this look shows, so the look is a silence
              obtain ⟨rfl, -⟩ := List.cons_eq_cons.1 h
              have hmem : now ∈ (step line look).1.toList := by simp [hnow]
              obtain ⟨-, -, hsilence⟩ := length_of_step hopen look hmem
              cases hsilence hshort
              exact .inr ⟨[], looks, rfl, rfl, by simp [shownBy, hnow]⟩
          | cons old before =>
              rw [List.cons_append] at h
              obtain ⟨rfl, hlater⟩ := List.cons_eq_cons.1 h
              obtain hend | ⟨first, rest, rfl, hbefore, hshown⟩ := ih hrest hlater
              · exact .inl hend
              · exact .inr ⟨look :: first, rest, rfl, by simp [shownBy, hnow, hbefore],
                  by simp [shownBy, hnow, hshown]⟩

/-! ## How many lines there are -/

theorem runs_ne_nil (looks : List Look) : runs looks ≠ [] := by
  rw [runs, ne_eq, List.map_eq_nil_iff]
  exact List.splitOnP_ne_nil _ _

theorem runs_byte (b : UInt8) (looks : List Look) :
    runs (some b :: looks) = (runs looks).modifyHead (b :: ·) := by
  rw [runs, List.splitOnP_cons_eq_if_modifyHead, runs]
  cases looks.splitOnP Option.isNone <;> rfl

theorem runs_silence (looks : List Look) : runs (none :: looks) = [] :: runs looks := by
  rw [runs, List.splitOnP_cons_eq_if_modifyHead]
  rfl

/-- The lines for some bytes, of which those on the open line come first. -/
theorem linesOf_append_of_full {first : List UInt8} (hfull : first.length = lineLength)
    (rest : List UInt8) : linesOf (first ++ rest) = 1 + linesOf rest := by
  rw [lineLength_eq] at hfull
  rw [linesOf_eq, linesOf_eq, List.length_append]
  omega

/-- **There are as many lines as the bytes between silences take.** -/
theorem length_lines (hopen : line.length < lineLength) (looks : List Look) :
    (lines line looks).length =
      (((runs looks).modifyHead (line ++ ·)).map linesOf).sum := by
  induction looks generalizing line with
  | nil =>
      rw [lines, length_finish hopen]
      simp [runs, bytesOf]
  | cons look looks ih =>
      rw [lines_cons, List.length_append, ih (length_step_lt hopen look)]
      cases look with
      | none =>
          have hnil : (runs looks).modifyHead ([] ++ ·) = runs looks := by
            cases runs looks <;> rfl
          rw [runs_silence, step, hnil, length_finish hopen]
          simp
      | some b =>
          rw [runs_byte, List.modifyHead_modifyHead]
          by_cases hfull : line.length + 1 = lineLength
          · rw [step_full hfull]
            obtain ⟨run, rest, hruns⟩ := List.exists_cons_of_ne_nil (runs_ne_nil looks)
            have hfirst : (line ++ [b]).length = lineLength := by
              rw [List.length_append, List.length_singleton, hfull]
            have hrun := linesOf_append_of_full hfirst run
            rw [List.append_assoc, List.singleton_append] at hrun
            simp [hruns, hrun, Nat.add_assoc]
          · rw [step_open hfull]
            simp [Function.comp_def]

end open_line

/-! ## All that came -/

/-- **What is shown is what came.**  Whatever bytes and silences the loop meets until the time is
over or it finds the link down: it shows lines, and these put together are the bytes that came, in
order, so that there are none if nothing came.  Written as text with line ends or anything else
between them that only sets digits apart, they are read as a payload of these bytes.  Each line has
from one to sixteen bytes; one with fewer than sixteen is the last, or was shown at a silence; and
the bytes between two silences take as many lines as they need. -/
theorem shown_of_turns {turns : List Turn} {last : Turn} (hgo : ∀ t ∈ turns, t.goesOn = true)
    (hlast : last.goesOn = false) :
    ∃ looks shown, looksOf (turns ++ [last]) = looks ∧
      showing [] (turns ++ [last]) = some shown ∧ shown = lines [] looks ∧
      (shown.flatten = bytesOf looks ∧ (bytesOf looks = [] → shown = [])) ∧
      (bytesOf looks ≠ [] → ∀ glue : String, (∀ c ∈ glue.toList, Payload.SetsApart c) →
        Payload.parse (String.join (shown.map fun line => Payload.text line ++ glue)) =
          .ok (bytesOf looks)) ∧
      (∀ line ∈ shown, 1 ≤ line.length ∧ line.length ≤ 16) ∧
      (∀ before line after, shown = before ++ line :: after → line.length < 16 →
        after = [] ∨ ∃ first rest, looks = first ++ none :: rest ∧ shownBy [] first = before ∧
          shownBy [] (first ++ [none]) = before ++ [line]) ∧
      shown.length = ((runs looks).map fun run => (run.length + 15) / 16).sum := by
  have hopen : ([] : List UInt8).length < lineLength := Nat.succ_pos 15
  refine ⟨looksOf (turns ++ [last]), _, rfl, showing_eq hgo hlast [], rfl, ?_⟩
  generalize looksOf (turns ++ [last]) = looks
  have hflatten : (lines [] looks).flatten = bytesOf looks := flatten_lines [] looks
  have hlengths := length_of_mem_lines hopen looks
  refine ⟨⟨hflatten, fun hnothing => ?_⟩, fun hne glue hglue => ?_, hlengths,
    fun before line after => silence_of_short hopen, ?_⟩
  · -- a line would have a byte
    rw [hnothing, List.flatten_eq_nil_iff] at hflatten
    refine List.eq_nil_iff_forall_not_mem.2 fun line hline => ?_
    have hpos := (hlengths line hline).1
    rw [hflatten line hline] at hpos
    exact absurd hpos (by decide)
  · rw [← hflatten] at hne ⊢
    exact Payload.parse_join hne hglue
  · rw [length_lines hopen looks]
    cases runs looks <;> rfl

/-- Bytes that fill a line and begin another, which a silence ends; then one more byte, and the
link is down. -/
theorem shown_of_turns_hangUp :
    (∀ t ∈ List.replicate 17 (Turn.byte 0xA0) ++ [.silence true, .byte 1], t.goesOn = true) ∧
      (Turn.silence false).goesOn = false ∧
      showing [] (List.replicate 17 (.byte 0xA0) ++ [.silence true, .byte 1, .silence false]) =
        some [List.replicate 16 0xA0, [0xA0], [1]] ∧
      Payload.parse (String.join
          ([List.replicate 16 0xA0, [0xA0], [1]].map fun line => Payload.text line ++ "\n")) =
        .ok (List.replicate 17 0xA0 ++ [1]) := by
  have hgo : ∀ t ∈ List.replicate 17 (Turn.byte 0xA0) ++ [.silence true, .byte 1],
      t.goesOn = true := by decide
  have hlast : (Turn.silence false).goesOn = false := rfl
  have hglue : ∀ c ∈ "\n".toList, Payload.SetsApart c := by
    intro c hc
    obtain rfl : c = '\n' := by simpa using hc
    decide
  obtain ⟨looks, shown, rfl, hshowing, rfl, -, hparse, -⟩ := shown_of_turns hgo hlast
  exact ⟨hgo, hlast, hshowing, hparse (by decide) "\n" hglue⟩

end Dump

end DongleLink

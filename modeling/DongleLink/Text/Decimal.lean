/-!
# DongleLink.Text.Decimal

Decimal numerals.  A number is written with the fewest digits; reading allows
one plus sign and leading zeros, and refuses what exceeds the given limit.
-/

namespace DongleLink.Text

/-! ## Writing -/

/-- The decimal digits of a number, without leading zeros. -/
def decimal (n : Nat) : List Char := Nat.toDigits 10 n

/-- The decimal digits of an integer, after a minus sign if it is negative. -/
def signedDecimal (i : Int) : List Char :=
  match i with
  | .ofNat n => decimal n
  | .negSucc n => '-' :: decimal (n + 1)

/-! ## Reading -/

/-- The value of a string of decimal digits. -/
def digitsValue (s : List Char) : Nat := Nat.ofDigitChars 10 s 0

/-- One or more decimal digits and nothing else. -/
def isNumeral (s : List Char) : Bool := !s.isEmpty && s.all Char.isDigit

/-- Drop one leading plus sign. -/
def unsigned : List Char → List Char
  | '+' :: r => r
  | s => s

/-- Read an unsigned numeral of value at most `limit`, with an optional plus sign. -/
def readUnsigned (limit : Nat) (s : List Char) : Option Nat :=
  let digits := unsigned s
  if isNumeral digits && digitsValue digits ≤ limit then some (digitsValue digits) else none

theorem digitsValue_decimal (n : Nat) : digitsValue (decimal n) = n :=
  Nat.ofDigitChars_toDigits (by decide) (by decide)

theorem isNumeral_decimal (n : Nat) : isNumeral (decimal n) = true := by
  simp only [isNumeral, Bool.and_eq_true, Bool.not_eq_true', List.isEmpty_eq_false_iff,
    List.all_eq_true]
  exact ⟨Nat.toDigits_ne_nil, fun _ h =>
    Nat.isDigit_of_mem_toDigits (b := 10) (n := n) (by decide) (by decide) h⟩

/-- A numeral does not start with a plus sign. -/
theorem unsigned_of_isNumeral {s : List Char} (h : isNumeral s = true) : unsigned s = s := by
  unfold unsigned
  split
  · simp [isNumeral, Char.isDigit] at h
  · rfl

/-- What is read is a numeral within the limit, with or without a plus sign. -/
theorem readUnsigned_eq_some_iff {limit n : Nat} {s : List Char} :
    readUnsigned limit s = some n ↔
      ∃ digits, (s = digits ∨ s = '+' :: digits) ∧ isNumeral digits = true ∧
        digitsValue digits = n ∧ n ≤ limit := by
  constructor
  · intro h
    simp only [readUnsigned, Option.ite_none_right_eq_some, Bool.and_eq_true, decide_eq_true_eq,
      Option.some.injEq] at h
    obtain ⟨⟨hnumeral, hle⟩, rfl⟩ := h
    refine ⟨unsigned s, ?_, hnumeral, rfl, hle⟩
    unfold unsigned
    split
    · exact .inr rfl
    · exact .inl rfl
  · rintro ⟨digits, rfl | rfl, hnumeral, rfl, hle⟩
    · simp [readUnsigned, unsigned_of_isNumeral hnumeral, hnumeral, hle]
    · simp [readUnsigned, unsigned, hnumeral, hle]

/-- Reading gives back every number within the limit. -/
theorem readUnsigned_decimal {limit n : Nat} (h : n ≤ limit) :
    readUnsigned limit (decimal n) = some n :=
  readUnsigned_eq_some_iff.2
    ⟨decimal n, .inl rfl, isNumeral_decimal n, digitsValue_decimal n, h⟩

end DongleLink.Text

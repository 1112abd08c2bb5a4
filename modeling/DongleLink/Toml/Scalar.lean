import DongleLink.Text.Hexadecimal
import DongleLink.Toml.Value

/-!
# DongleLink.Toml.Scalar

Values written without quotes or brackets: words, numbers, dates and times.  Such
a value is one run of characters, and the whole run has to be one of them.
-/

namespace DongleLink.Toml.Scalar

open Text

/-! ## Digits -/

/-- Digits with single underscores between them, without the underscores. -/
def readDigits (isDigit : Char → Bool) (s : List Char) : Option (List Char) :=
  let groups := segments '_' s
  if groups.all fun g => !g.isEmpty && g.all isDigit then some groups.flatten else none

/-- Decimal digits without a zero in front of others. -/
def readWhole (s : List Char) : Option (List Char) :=
  match s with
  | '0' :: _ :: _ => none
  | s => readDigits Char.isDigit s

/-- The value of digits to a base. -/
def valueOf (base : Nat) (digits : List Char) : Nat :=
  digits.foldl (fun n c => base * n + (hexValue? c).getD 0) 0

/-- A sign, if there is one, and what follows. -/
def splitSign : List Char → Bool × List Char
  | '-' :: s => (true, s)
  | '+' :: s => (false, s)
  | s => (false, s)

/-! ## Numbers -/

/-- Whether a digit is below the base. -/
def isDigitTo (base : Nat) (c : Char) : Bool :=
  match hexValue? c with
  | some n => n < base
  | none => false

/-- A number to the base that a letter after the first zero names. -/
def readBased : List Char → Option Nat
  | '0' :: 'x' :: s => (readDigits (isDigitTo 16) s).map (valueOf 16)
  | '0' :: 'o' :: s => (readDigits (isDigitTo 8) s).map (valueOf 8)
  | '0' :: 'b' :: s => (readDigits (isDigitTo 2) s).map (valueOf 2)
  | _ => none

/-- An integer of the signed 64-bit range. -/
def readInteger (s : List Char) : Option Int :=
  let number : Option Int :=
    match readBased s with
    | some n => some n
    | none =>
      let (negative, digits) := splitSign s
      (readWhole digits).map fun d =>
        let n : Int := valueOf 10 d
        if negative then -n else n
  number.filter fun i => -9223372036854775808 ≤ i && i ≤ 9223372036854775807

/-- The digits and underscores at the front, and what follows. -/
def spanDigits (s : List Char) : List Char × List Char :=
  s.span fun c => c.isDigit || c == '_'

/-- An exponent of ten: its letter, a sign, and digits. -/
def readExponent : List Char → Option Int
  | [] => none
  | e :: s =>
    if e = 'e' ∨ e = 'E' then
      let (negative, digits) := splitSign s
      (readDigits Char.isDigit digits).map fun d =>
        let n : Int := valueOf 10 d
        if negative then -n else n
    else none

/-- Digits and exponent of ten of an unsigned number with a point or an exponent. -/
def readUnsignedFloat (s : List Char) : Option (Nat × Int) :=
  let (whole, rest) := spanDigits s
  match readWhole whole, rest with
  | some whole, '.' :: rest =>
    let (places, rest) := spanDigits rest
    match readDigits Char.isDigit places with
    | none => none
    | some places =>
      let digits := valueOf 10 (whole ++ places)
      if rest.isEmpty then some (digits, -(places.length : Int))
      else (readExponent rest).map fun e => (digits, e - places.length)
  | some whole, rest => (readExponent rest).map fun e => (valueOf 10 whole, e)
  | none, _ => none

/-- A floating-point number; one too large to have a finite value is refused
unless it is negative. -/
def readFloat (s : List Char) : Option Binary64 :=
  let (negative, body) := splitSign s
  if body = ['i', 'n', 'f'] then some (.infinite negative)
  else if body = ['n', 'a', 'n'] then some .nan
  else
    match readUnsignedFloat body with
    | none => none
    | some (digits, e) =>
      let x := Binary64.ofDecimal negative digits e
      if x = .infinite false then none else some x

/-! ## Runs -/

/-- A character that values without quotes and brackets are made of. -/
def isScalarChar (c : Char) : Bool :=
  c.isAlphanum || c == '_' || c == '+' || c == '-' || c == '.' || c == ':'

/-- The run of such characters at the front; a date may be followed by a space
and a time. -/
def spanRun (s : List Char) : List Char × List Char :=
  let (run, rest) := s.span isScalarChar
  match Moment.readDate run, rest with
  | some (_, []), ' ' :: d :: more =>
    if d.isDigit then
      let (clock, rest) := (d :: more).span isScalarChar
      (run ++ ' ' :: clock, rest)
    else (run, rest)
  | _, _ => (run, rest)

/-- The value of a whole run. -/
def ofRun? (run : List Char) : Option Value :=
  if run = "true".toList then some (.boolean true)
  else if run = "false".toList then some (.boolean false)
  else
    match readInteger run with
    | some i => some (.integer i)
    | none =>
      match readFloat run with
      | some x => some (.float x)
      | none => (Moment.read run).map .moment

/-- Read a value without quotes and brackets. -/
def read (s : List Char) : Option (Value × List Char) :=
  let (run, rest) := spanRun s
  (ofRun? run).map fun v => (v, rest)

end DongleLink.Toml.Scalar

import DongleLink.Text.Hexadecimal

/-!
# DongleLink.Toml.Quote

Quoted texts of a TOML document.  There are four forms, by two choices: on one
line between single marks or on many between triple ones, and with escapes or
without.  One reader serves all four; it goes through the text character by
character and remembers only whether it is inside an escape.
-/

namespace DongleLink.Toml.Quote

open Text

/-! ## Forms -/

/-- How a text is quoted. -/
structure Form where
  mark : Char
  escapes : Bool
  /-- between triple marks, over any number of lines -/
  lines : Bool
  deriving DecidableEq, Repr

def basic : Form := { mark := '"', escapes := true, lines := false }

def literal : Form := { mark := '\'', escapes := false, lines := false }

def basicLines : Form := { mark := '"', escapes := true, lines := true }

def literalLines : Form := { mark := '\'', escapes := false, lines := true }

/-! ## Characters -/

/-- A character that may stand in a text as it is: a tab, or no control. -/
def isAllowed (c : Char) : Bool := c == '\t' || (0x20 ≤ c.toNat && c.toNat ≠ 0x7F)

/-- The line end at the front, if there is one, and what follows. -/
def newline? : List Char → Option (List Char)
  | '\n' :: s => some s
  | '\r' :: '\n' :: s => some s
  | _ => none

/-- Whether a carriage return before `r` is part of a line end. -/
def endsLine (c : Char) (r : List Char) : Bool := c == '\r' && r.head? == some '\n'

/-- The character of a number, if it is one. -/
def charOf? (n : Nat) : Option Char := if n.isValidChar then some (.ofNat n) else none

/-- The character of a one-letter escape. -/
def escaped? (c : Char) : Option Char :=
  if c = 'b' then some '\x08'
  else if c = 't' then some '\t'
  else if c = 'n' then some '\n'
  else if c = 'f' then some '\x0c'
  else if c = 'r' then some '\r'
  else if c = '"' then some '"'
  else if c = '\\' then some '\\'
  else none

/-! ## Reading -/

/-- Where the reader is. -/
inductive Inside where
  | text
  /-- after a backslash -/
  | escape
  /-- in the digits of a character's number, of which some are left -/
  | number (left value : Nat)
  /-- in the blanks after a backslash at the end of a line; the flag tells whether
  the line end has come -/
  | gap (ended : Bool)
  deriving DecidableEq, Repr

/-- Where the reader is once it has seen the next character: a gap that has its
line end is over at the first character that is no blank. -/
def Inside.before (c : Char) : Inside → Inside
  | gap true => if c = ' ' ∨ c = '\t' ∨ c = '\n' ∨ c = '\r' then gap true else text
  | i => i

/-- What follows a mark of many lines, if it is the first of the closing ones: up to
two more marks belong to the text. -/
def closing? (mark : Char) : List Char → Option (List Char × List Char)
  | a :: b :: r =>
    if a = mark ∧ b = mark then
      let more := (r.take 2).takeWhile (· == mark)
      some (more, r.drop more.length)
    else none
  | _ => none

/-- Put a character in front of the text that is read. -/
def withChar (c : Char) : Option (List Char × List Char) → Option (List Char × List Char)
  | some (text, rest) => some (c :: text, rest)
  | none => none

/-- Read a text up to its closing marks. -/
def readFrom (f : Form) : Inside → List Char → Option (List Char × List Char)
  | _, [] => none
  | i, c :: r =>
    match i.before c with
    | .escape =>
      match escaped? c with
      | some e => withChar e (readFrom f .text r)
      | none =>
        if c = 'u' then readFrom f (.number 4 0) r
        else if c = 'U' then readFrom f (.number 8 0) r
        else if f.lines && (c == ' ' || c == '\t' || endsLine c r) then readFrom f (.gap false) r
        else if f.lines && c == '\n' then readFrom f (.gap true) r
        else none
    | .number left value =>
      match hexValue? c with
      | none => none
      | some digit =>
        if 1 < left then readFrom f (.number (left - 1) (16 * value + digit)) r
        else
          match charOf? (16 * value + digit) with
          | none => none
          | some e => withChar e (readFrom f .text r)
    | .gap ended =>
      if c = ' ' ∨ c = '\t' ∨ endsLine c r then readFrom f (.gap ended) r
      else if c = '\n' then readFrom f (.gap true) r
      else none
    | .text =>
      if c = f.mark then
        if !f.lines then some ([], r)
        else
          match closing? f.mark r with
          | some result => some result
          | none => withChar c (readFrom f .text r)
      else if f.escapes && c == '\\' then readFrom f .escape r
      else if f.lines && c == '\n' then withChar '\n' (readFrom f .text r)
      else if f.lines && endsLine c r then readFrom f .text r
      else if isAllowed c then withChar c (readFrom f .text r)
      else none

/-- Read a text of a form, after its opening marks.  A line end right after triple
marks does not belong to the text. -/
def readForm (f : Form) (s : List Char) : Option (List Char × List Char) :=
  readFrom f .text (if f.lines then (newline? s).getD s else s)

/-- Read a quoted text of any form, from its opening marks on. -/
def read (s : List Char) : Option (List Char × List Char) :=
  match s with
  | '"' :: '"' :: '"' :: s => readForm basicLines s
  | '"' :: s => readForm basic s
  | '\'' :: '\'' :: '\'' :: s => readForm literalLines s
  | '\'' :: s => readForm literal s
  | _ => none

end DongleLink.Toml.Quote

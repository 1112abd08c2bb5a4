import DongleLink.Toml.Entries
import DongleLink.Toml.Quote
import DongleLink.Toml.Scalar

/-!
# DongleLink.Toml.Reader

Reading a TOML document: the keys, values and lines of the text, which
`DongleLink.Toml.Entries` then puts together.  Every reader takes the characters
from its place on and returns what it read with the characters that follow;
`none` means that the text is not well formed.
-/

namespace DongleLink.Toml

open Text

/-- The deepest nesting of arrays and inline tables. -/
def deepestNesting : Nat := 79

/-- The most parts of a dotted key. -/
def mostKeyParts : Nat := 79

/-! ## Blanks and comments -/

/-- Drop spaces and tabs. -/
def dropSpaces (s : List Char) : List Char := s.dropWhile fun c => c == ' ' || c == '\t'

/-- Drop a comment, up to the end of its line. -/
def dropComment (s : List Char) : List Char :=
  match s with
  | '#' :: r => r.dropWhile Quote.isAllowed
  | s => s

/-- What follows the end of a line: spaces, a comment, and a line end or the end of
the text. -/
def lineEnd? (s : List Char) : Option (List Char) :=
  match dropComment (dropSpaces s) with
  | [] => some []
  | s => Quote.newline? s

/-- Drop spaces, comments and line ends; the flag tells whether a comment has
begun.  A comment that does not end in a line end is left off where it goes
wrong, so that whatever is to follow is not found. -/
def dropBlankLines (inComment : Bool) : List Char → List Char
  | [] => []
  | c :: r =>
    if c = '\n' ∨ Quote.endsLine c r then dropBlankLines false r
    else if inComment then
      if Quote.isAllowed c then dropBlankLines true r else c :: r
    else if c = '#' then dropBlankLines true r
    else if c = ' ' ∨ c = '\t' then dropBlankLines false r
    else c :: r

/-! ## Keys -/

/-- A character of a key without quotes. -/
def isBareKeyChar (c : Char) : Bool := c.isAlphanum || c == '_' || c == '-'

/-- The text of one part of a key. -/
def readKeyText (s : List Char) : Option (List Char × List Char) :=
  match s with
  | '"' :: r => Quote.readForm Quote.basic r
  | '\'' :: r => Quote.readForm Quote.literal r
  | s =>
    let (key, rest) := s.span isBareKeyChar
    if key.isEmpty then none else some (key, rest)

/-- One part of a key. -/
def readKeyPart (s : List Char) : Option (Placed String × List Char) :=
  (readKeyText s).map fun (text, rest) => (⟨String.ofList text, some ⟨s, rest⟩⟩, rest)

/-- A dotted key of at most `fuel` parts: the parts before the last, and the last. -/
def readKeyWithin : Nat → List Char →
    Option (List (Placed String) × Placed String × List Char)
  | 0, _ => none
  | fuel + 1, s =>
    match readKeyPart (dropSpaces s) with
    | none => none
    | some (part, rest) =>
      match dropSpaces rest with
      | '.' :: rest =>
        (readKeyWithin fuel rest).map fun (path, key, rest) => (part :: path, key, rest)
      | rest => some ([], part, rest)

/-- A dotted key, with spaces around its parts. -/
def readKey (s : List Char) : Option (List (Placed String) × Placed String × List Char) :=
  readKeyWithin mostKeyParts s

/-! ## Values -/

/- Arrays and tables hold values, so their readers take the reader of values one level further in.
`readValue` ties the knot, by recursion on the nesting that is still allowed. -/

/-- A reader of values. -/
abbrev ValueReader := List Char → Option (Value × List Char)

/-- A value with its piece of the document. -/
def readPlaced (value : ValueReader) (s : List Char) : Option (Placed Value × List Char) :=
  (value s).map fun (v, rest) => (⟨v, some ⟨s, rest⟩⟩, rest)

/-- The items of an array, after its bracket, at most `fuel` of them. -/
def readItems (value : ValueReader) : Nat → List Char →
    Option (List (Placed Value) × List Char)
  | 0, _ => none
  | fuel + 1, s =>
    match dropBlankLines false s with
    | ']' :: rest => some ([], rest)
    | s =>
      match readPlaced value s with
      | none => none
      | some (item, rest) =>
        match dropBlankLines false rest with
        | ']' :: rest => some ([item], rest)
        | ',' :: rest =>
          (readItems value fuel rest).map fun (items, rest) => (item :: items, rest)
        | _ => none

/-- A key, an equals sign and a value. -/
def readPair (value : ValueReader) (s : List Char) : Option (Pair × List Char) :=
  match readKey s with
  | some (path, key, '=' :: rest) =>
    (readPlaced value (dropSpaces rest)).map fun (v, rest) => (⟨path, key, v⟩, rest)
  | _ => none

/-- The pairs of an inline table, at least one and at most `fuel`. -/
def readPairs (value : ValueReader) : Nat → List Char → Option (List Pair × List Char)
  | 0, _ => none
  | fuel + 1, s =>
    match readPair value s with
    | none => none
    | some (pair, rest) =>
      match dropSpaces rest with
      | '}' :: rest => some ([pair], rest)
      | ',' :: rest => (readPairs value fuel rest).map fun (pairs, rest) => (pair :: pairs, rest)
      | _ => none

/-- The inline table after its brace, of at most `size` pairs. -/
def readInlineTable (value : ValueReader) (size : Nat) (s : List Char) :
    Option (Value × List Char) :=
  match dropSpaces s with
  | '}' :: rest => some (.table .inline [], rest)
  | s =>
    match readPairs value size s with
    | none => none
    | some (pairs, rest) => (inlineTable? pairs).map fun v => (v, rest)

/-- A value with at most `depth` levels of arrays and inline tables, each of at most
`size` members. -/
def readValue (size : Nat) : Nat → ValueReader
  | depth, s =>
    match s with
    | '"' :: _ | '\'' :: _ =>
      (Quote.read s).map fun (text, rest) => (.string (String.ofList text), rest)
    | '[' :: r =>
      match depth with
      | 0 => none
      | depth + 1 =>
        (readItems (readValue size depth) size r).map fun (items, rest) => (.array items, rest)
    | '{' :: r =>
      match depth with
      | 0 => none
      | depth + 1 => readInlineTable (readValue size depth) size r
    | s => Scalar.read s

/-! ## Lines -/

/-- The header on a line, from its first bracket on. -/
def readHeader (s : List Char) : Option (Statement × List Char) :=
  match s with
  | '[' :: '[' :: r =>
    match readKey r with
    | some (path, key, ']' :: ']' :: rest) =>
      (lineEnd? rest).map fun next => (.arrayHeader path key ⟨s, rest⟩, next)
    | _ => none
  | '[' :: r =>
    match readKey r with
    | some (path, key, ']' :: rest) =>
      (lineEnd? rest).map fun next => (.header path key ⟨s, rest⟩, next)
    | _ => none
  | _ => none

/-- The next statement of a text of at most `size` characters. -/
def readStatement (size : Nat) (s : List Char) : Option (Statement × List Char) :=
  if s.head? = some '[' then readHeader s
  else
    match readPair (readValue size deepestNesting) s with
    | none => none
    | some (pair, rest) => (lineEnd? rest).map fun rest => (.entry pair, rest)

/-- The statements of at most `fuel` lines of a text of at most `size` characters. -/
def readStatements (size : Nat) : Nat → List Char → Option (List Statement)
  | 0, s => if (dropSpaces s).isEmpty then some [] else none
  | fuel + 1, s =>
    match dropSpaces s with
    | [] => some []
    | '#' :: r => (lineEnd? ('#' :: r)).bind (readStatements size fuel)
    | s =>
      match Quote.newline? s with
      | some s => readStatements size fuel s
      | none =>
        match readStatement size s with
        | none => none
        | some (statement, rest) => (readStatements size fuel rest).map (statement :: ·)

/-! ## Documents -/

/-- Drop the mark that some editors put in front of a text. -/
def dropMark (s : List Char) : List Char :=
  match s with
  | '\uFEFF' :: r => r
  | s => s

/-- The table that a document describes. -/
def read? (text : String) : Option Entries :=
  let s := dropMark text.toList
  (readStatements s.length s.length s).bind tableOf?

end DongleLink.Toml

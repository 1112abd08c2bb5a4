import DongleLink.LogFilter.Pattern
import DongleLink.Text.Alphanumeric
import DongleLink.Text.Blank
import DongleLink.Text.Hexadecimal

/-!
# DongleLink.LogFilter.Pattern.Reader

Reading a pattern.  The reader goes through the text once and keeps the groups,
or inside a set the sets, that are still open; `none` means that the text is no
pattern.

A pattern stands inside the braces of a field filter.  So it holds no closing brace, and
nothing that needs one, such as a counted repetition, can be written.
-/

namespace DongleLink.LogFilter.Pattern

open Text

/-! ## Blanks -/

/-- Drop blanks and comments, if the flags allow them; a comment goes from a hash
to the end of its line. -/
def skip (spaced : Bool) (s : List Char) : List Char :=
  if spaced then go false s else s
where
  go (inComment : Bool) : List Char → List Char
    | [] => []
    | c :: r =>
      if inComment then go (c ≠ '\n') r
      else if isBlank c then go false r
      else if c = '#' then go true r
      else c :: r

/-! ## Flags and names -/

/-- The change with one more flag letter; `none` if there is no such flag. -/
def FlagChange.with? (f : FlagChange) (letter : Char) (on : Bool) : Option FlagChange :=
  if letter = 'i' then some { f with caseless := some on }
  else if letter = 'u' then some { f with unicode := some on }
  else if letter = 'x' then some { f with spaced := some on }
  else if letter = 'm' ∨ letter = 's' ∨ letter = 'U' ∨ letter = 'R' then some f
  else none

/-- Flag letters, of which `seen` have come, with what follows them.  Letters after a dash
are switched off; no letter and no dash comes twice, and a dash is not the
last. -/
def readFlags (seen : List Char) (change : FlagChange) :
    List Char → Option (FlagChange × List Char)
  | [] => none
  | c :: r =>
    if c = ':' then if seen.head? = some '-' then none else some (change, c :: r)
    else if c = ')' then
      if seen.isEmpty ∨ seen.head? = some '-' then none else some (change, c :: r)
    else if seen.contains c then none
    else if c = '-' then readFlags ('-' :: seen) change r
    else
      match change.with? c (!seen.contains '-') with
      | none => none
      | some change => readFlags (c :: seen) change r

/-- A character of a group's name. -/
def isNameChar (c : Char) : Bool :=
  c == '_' || c == '.' || c == '[' || c == ']' || isAlphanumeric c

/-- The name of a group, up to its closing bracket, and what follows that. -/
def readName (s : List Char) : Option (List Char × List Char) :=
  let (name, rest) := s.span isNameChar
  match name, rest with
  | first :: _, '>' :: rest =>
    if first = '_' ∨ isAlphabetic first then some (name, rest) else none
  | _, _ => none

/-! ## Escapes -/

/-- A number in hexadecimal digits, of which `count` are left. -/
def readHex (spaced : Bool) : Nat → Nat → List Char → Option (Nat × List Char)
  | 0, value, s => some (value, s)
  | count + 1, value, s =>
    match skip spaced s with
    | [] => none
    | c :: r => (hexValue? c).bind fun digit => readHex spaced count (16 * value + digit) r

/-- The character with a number in so many digits. -/
def readNumbered (spaced : Bool) (count : Nat) (s : List Char) : Option (Glyph × List Char) :=
  match readHex spaced count 0 s with
  | none => none
  | some (n, rest) =>
    if n.isValidChar then some ({ char := .ofNat n, asByte := count == 2 }, rest) else none

/-- The control character of a letter. -/
def control? (c : Char) : Option Char :=
  if c = 'a' then some '\x07'
  else if c = 'f' then some '\x0c'
  else if c = 't' then some '\t'
  else if c = 'n' then some '\n'
  else if c = 'r' then some '\r'
  else if c = 'v' then some '\x0b'
  else none

/-- What a backslash makes of the characters after it.  Letters and digits have
meanings of their own or none; all other ASCII characters stand for themselves. -/
def readEscape (spaced : Bool) : List Char → Option (Pattern × List Char)
  | [] => none
  | c :: r =>
    if c = 'x' then (readNumbered spaced 2 r).map fun (g, rest) => (.glyph g, rest)
    else if c = 'u' then (readNumbered spaced 4 r).map fun (g, rest) => (.glyph g, rest)
    else if c = 'U' then (readNumbered spaced 8 r).map fun (g, rest) => (.glyph g, rest)
    else if c = 'd' ∨ c = 's' ∨ c = 'w' then some (.letter false, r)
    else if c = 'D' ∨ c = 'S' ∨ c = 'W' then some (.letter true, r)
    else if c = 'A' ∨ c = 'z' then some (.textEdge, r)
    else if c = 'b' ∨ c = 'B' ∨ c = '<' ∨ c = '>' then some (.wordEdge, r)
    else
      match control? c with
      | some d => some (.glyph { char := d }, r)
      | none => if c.toNat < 0x80 && !c.isAlphanum then some (.glyph { char := c }, r) else none

/-! ## Sets -/

/-- A set that is still open. -/
structure OpenSet where
  negated : Bool
  /-- what stands before the last operation -/
  left : Option Members := none
  /-- the members since then, the last one first -/
  items : List Members := []

/-- Members one after the other, the last one first. -/
def Members.ofReversed (items : List Members) : Members :=
  match items with
  | [] => .nothing
  | [m] => m
  | items => .several items.reverse

/-- All that has been read of a set. -/
def OpenSet.members (o : OpenSet) : Members :=
  match o.left with
  | none => .ofReversed o.items
  | some left => .joined left (.ofReversed o.items)

def OpenSet.add (o : OpenSet) (m : Members) : OpenSet := { o with items := m :: o.items }

/-- The set whose bracket has come: a caret negates it, and dashes at its beginning
are members, as is a closing bracket there. -/
def beginSet (spaced : Bool) (s : List Char) : OpenSet × List Char :=
  let (negated, s) :=
    match skip spaced s with
    | '^' :: r => (true, skip spaced r)
    | s => (false, s)
  match dashes s.length s with
  | (0, ']' :: r) => ({ negated := negated, items := [.glyph { char := ']' }] }, r)
  | (n, s) => ({ negated := negated, items := List.replicate n (.glyph { char := '-' }) }, s)
where
  dashes : Nat → List Char → Nat × List Char
    | fuel + 1, '-' :: r =>
      let (n, s) := dashes fuel (skip spaced r)
      (n + 1, s)
    | _, s => (0, s)

/-- The names of classes. -/
def classNames : List String :=
  ["alnum", "alpha", "ascii", "blank", "cntrl", "digit", "graph", "lower", "print", "punct",
    "space", "upper", "word", "xdigit"]

/-- A class by its name between colons, after the bracket. -/
def readNamed (s : List Char) : Option (Members × List Char) :=
  match s with
  | ':' :: r =>
    let (negated, r) :=
      match r with
      | '^' :: r => (true, r)
      | r => (false, r)
    match r.span (· ≠ ':') with
    | (name, ':' :: ']' :: rest) =>
      if classNames.contains (String.ofList name) then some (.named negated, rest) else none
    | _ => none
  | _ => none

/-- One member of a set that is no set itself. -/
def readMember (spaced : Bool) : List Char → Option (Members × List Char)
  | [] => none
  | '\\' :: r =>
    match readEscape spaced r with
    | some (.glyph g, rest) => some (.glyph g, rest)
    | some (.letter negated, rest) => some (.letter negated, rest)
    | _ => none
  | c :: r => some (.glyph { char := c }, r)

/-- The character that decides whether a dash joins a range: the next one that is
no blank. -/
def afterDash (spaced : Bool) (r : List Char) : Option Char :=
  let next :=
    if spaced then
      match r.dropWhile isBlank with
      | '#' :: r => (r.dropWhile isBlank).head?
      | r => r.head?
    else r.head?
  next.or r.head?

/-- One member of a set, or a range between two. -/
def readRange (spaced : Bool) (s : List Char) : Option (Members × List Char) :=
  match readMember spaced s with
  | none => none
  | some (m, rest) =>
    match skip spaced rest with
    | '-' :: r =>
      if afterDash spaced r = some ']' ∨ afterDash spaced r = some '-' then some (m, '-' :: r)
      else
        match m, readMember spaced (skip spaced r) with
        | .glyph low, some (.glyph high, rest) =>
          if low.char ≤ high.char then some (.range low high, rest) else none
        | _, _ => none
    | rest => some (m, rest)

/-- Read on inside a set; `outer` are the sets around it, the nearest first. -/
def readSet (spaced : Bool) : Nat → List OpenSet → OpenSet → List Char →
    Option (Pattern × List Char)
  | 0, _, _, _ => none
  | fuel + 1, outer, o, s =>
    match skip spaced s with
    | [] => none
    | '[' :: r =>
      match readNamed r with
      | some (m, rest) => readSet spaced fuel outer (o.add m) rest
      | none =>
        let (inner, rest) := beginSet spaced r
        readSet spaced fuel (o :: outer) inner rest
    | ']' :: r =>
      match outer with
      | [] => some (.set o.negated o.members, r)
      | above :: outer => readSet spaced fuel outer (above.add (.set o.negated o.members)) r
    | '&' :: '&' :: r | '-' :: '-' :: r | '~' :: '~' :: r =>
      readSet spaced fuel outer { o with left := some o.members, items := [] } r
    | s =>
      match readRange spaced s with
      | none => none
      | some (m, rest) => readSet spaced fuel outer (o.add m) rest

/-! ## Groups -/

/-- What stands before a group that is still open. -/
structure Level where
  /-- the flags that the group begins with -/
  change : FlagChange
  /-- whether blanks are allowed outside -/
  spaced : Bool
  /-- the finished alternatives, the last one first -/
  branches : List Pattern
  /-- the parts of the current one, the last one first -/
  parts : List Pattern

/-- A pattern in the making. -/
structure Draft where
  /-- what stands before the open groups, the innermost first -/
  levels : List Level := []
  /-- the finished alternatives, the last one first -/
  branches : List Pattern := []
  /-- the parts of the current one, the last one first -/
  parts : List Pattern := []
  spaced : Bool := false
  /-- the names of groups so far -/
  names : List (List Char) := []

namespace Draft

def push (d : Draft) (p : Pattern) : Draft := { d with parts := p :: d.parts }

/-- The current alternative. -/
def branch (d : Draft) : Pattern :=
  match d.parts with
  | [] => .nothing
  | [p] => p
  | parts => .sequence parts.reverse

/-- What has been read since the last open group began. -/
def body (d : Draft) : Pattern :=
  match d.branches with
  | [] => d.branch
  | branches => .choice (branches.reverse ++ [d.branch])

/-- Begin a group. -/
def enter (d : Draft) (change : FlagChange) : Draft where
  levels := ⟨change, d.spaced, d.branches, d.parts⟩ :: d.levels
  spaced := change.spaced.getD d.spaced
  names := d.names

/-- End a group, if one is open. -/
def leave (d : Draft) : Option Draft :=
  match d.levels with
  | [] => none
  | l :: levels =>
    some { levels := levels, branches := l.branches, parts := .group l.change d.body :: l.parts
           spaced := l.spaced, names := d.names }

/-- Begin a group that has a name, which no other group has. -/
def enterNamed (d : Draft) (s : List Char) : Option (Draft × List Char) :=
  match readName s with
  | none => none
  | some (name, rest) =>
    if d.names.contains name then none
    else some ({ d with names := name :: d.names }.enter {}, rest)

/-- What follows an opening bracket: a group, or flags for the rest of the one it is
in.  There is no looking ahead or behind. -/
def openGroup (d : Draft) (s : List Char) : Option (Draft × List Char) :=
  match skip d.spaced s with
  | '?' :: 'P' :: '<' :: r => d.enterNamed r
  | '?' :: '<' :: r => d.enterNamed r
  | '?' :: r =>
    match readFlags [] {} r with
    | some (change, ':' :: rest) => some (d.enter change, rest)
    | some (change, _ :: rest) =>
      some ({ d with spaced := change.spaced.getD d.spaced }.push (.flags change), rest)
    | _ => none
  | s => some (d.enter {}, s)

/-- Repeat the last part, if there is one that can be repeated. -/
def repeatLast (d : Draft) : Option Draft :=
  match d.parts with
  | [] | .flags _ :: _ => none
  | p :: parts => some { d with parts := .repeated p :: parts }

/-- Take in what begins with a character. -/
def next (d : Draft) (c : Char) (r : List Char) : Option (Draft × List Char) :=
  if c = '(' then d.openGroup r
  else if c = ')' then d.leave.map fun d => (d, r)
  else if c = '|' then some ({ d with branches := d.branch :: d.branches, parts := [] }, r)
  else if c = '[' then
    let (o, rest) := beginSet d.spaced r
    (readSet d.spaced (r.length + 1) [] o rest).map fun (p, rest) => (d.push p, rest)
  else if c = '?' ∨ c = '*' ∨ c = '+' then
    d.repeatLast.map fun d => (d, if r.head? = some '?' then r.tail else r)
  else if c = '{' then none
  else if c = '\\' then (readEscape d.spaced r).map fun (p, rest) => (d.push p, rest)
  else if c = '.' then some (d.push .dot, r)
  else if c = '^' ∨ c = '$' then some (d.push .textEdge, r)
  else some (d.push (.glyph { char := c }), r)

/-- Read on to the end of a text of at most `fuel` characters. -/
def readFrom : Nat → Draft → List Char → Option Draft
  | 0, _, _ => none
  | fuel + 1, d, s =>
    match skip d.spaced s with
    | [] => some d
    | c :: r => (d.next c r).bind fun (d, rest) => readFrom fuel d rest

end Draft

/-- The pattern that a text spells. -/
def read? (s : List Char) : Option Pattern :=
  match Draft.readFrom (s.length + 1) {} s with
  | some d => if d.levels.isEmpty then some d.body else none
  | none => none

/-- Why a text is no pattern that can be put to work. -/
def faultOf? (s : List Char) : Option Fault :=
  match read? s with
  | none => some .unusable
  | some p => p.fault?

end DongleLink.LogFilter.Pattern

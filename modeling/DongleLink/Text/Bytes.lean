import DongleLink.Text.Quoted

/-!
# DongleLink.Text.Bytes

Places in a text counted in bytes of its encoding.  A text can be cut at the
places between characters; a place inside one is an error that names it.
-/

namespace DongleLink.Text

/-- How many bytes the encoding of a text has. -/
def byteLength : List Char → Nat
  | [] => 0
  | c :: r => c.utf8Size + byteLength r

/-- Which end of a cut a place is. -/
inductive CutEnd where
  | low
  | high
  deriving DecidableEq, Repr

/-- A place inside a character, where no cut is possible: which end of the cut it
was to be, the place, the character, and where that begins. -/
structure Misplaced where
  which : CutEnd
  index : Nat
  char : Char
  start : Nat
  deriving DecidableEq, Repr

/-- The text from a place on, where `s` begins at the place `start`. -/
def dropBytes (index : Nat) (start : Nat) (s : List Char) : Except Misplaced (List Char) :=
  match s with
  | [] => .ok []
  | c :: r =>
    if index ≤ start then .ok (c :: r)
    else if index < start + c.utf8Size then
      .error { which := .low, index := index, char := c, start := start }
    else dropBytes index (start + c.utf8Size) r

/-- The text up to a place, where `s` begins at the place `start`. -/
def takeBytes (index : Nat) (start : Nat) (s : List Char) : Except Misplaced (List Char) :=
  match s with
  | [] => .ok []
  | c :: r =>
    if index ≤ start then .ok []
    else if index < start + c.utf8Size then
      .error { which := .high, index := index, char := c, start := start }
    else
      match takeBytes index (start + c.utf8Size) r with
      | .error e => .error e
      | .ok taken => .ok (c :: taken)

/-- The text between two places. -/
def cutBytes (low high : Nat) (s : List Char) : Except Misplaced (List Char) :=
  match dropBytes low 0 s with
  | .error e => .error e
  | .ok r => takeBytes high low r

/-- Why a text cannot be cut at two places. -/
inductive BadCut where
  /-- a place is inside a character -/
  | inside (place : Misplaced)
  /-- a place is beyond the end of the text -/
  | beyond (which : CutEnd) (index length : Nat)
  deriving DecidableEq, Repr

/-- The text between two places, neither of which is beyond its end. -/
def slice (low high : Nat) (s : List Char) : Except BadCut (List Char) :=
  if byteLength s < low then .error (.beyond .low low (byteLength s))
  else if byteLength s < high then .error (.beyond .high high (byteLength s))
  else
    match cutBytes low high s with
    | .error place => .error (.inside place)
    | .ok t => .ok t

/-- How the complaint about an end begins. -/
def CutEnd.name : CutEnd → String
  | low => "start"
  | high => "end"

/-- The complaint about a place inside a character. -/
def Misplaced.message (m : Misplaced) : String :=
  s!"{m.which.name} byte index {m.index} is not a char boundary; it is inside "
    ++ String.ofList ('\'' :: quotedChar m.char ++ ['\''])
    ++ s!" (bytes {m.start}..{m.start + m.char.utf8Size} of string)"

/-- The complaint about a text that cannot be cut. -/
def BadCut.message : BadCut → String
  | inside place => place.message
  | beyond which index length =>
    s!"{which.name} byte index {index} is out of bounds for string of length {length}"

/-- A cut between places of a text's own parts gives the part between them. -/
theorem dropBytes_append (s t : List Char) (start : Nat) :
    dropBytes (start + byteLength s) start (s ++ t) = .ok t := by
  induction s generalizing start with
  | nil =>
    cases t with
    | nil => rfl
    | cons c r => simp [byteLength, dropBytes]
  | cons c r ih =>
    have hpos := Char.utf8Size_pos c
    have := ih (start + c.utf8Size)
    rw [byteLength]
    rw [List.cons_append, dropBytes, if_neg (by omega), if_neg (by omega), ← Nat.add_assoc, this]

end DongleLink.Text

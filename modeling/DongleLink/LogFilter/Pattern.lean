/-!
# DongleLink.LogFilter.Pattern

Patterns for the values of fields.  A pattern is a tree of characters, sets,
groups, alternatives and repetitions, as it is written; `check?` tells which trees
can be put to work.

Knowledge of characters beyond ASCII is not at hand.  So matching without regard
to case, and sets that a letter names, need the flag `-u`, which restricts a part of the
pattern to ASCII; and what stands under that flag may not match a byte that is no
ASCII character.
-/

namespace DongleLink.LogFilter

namespace Pattern

/-! ## Flags -/

/-- What a part of a pattern is read and matched with. -/
structure Flags where
  /-- upper and lower case are the same -/
  caseless : Bool := false
  /-- characters rather than bytes -/
  unicode : Bool := true
  /-- blanks and comments between the parts -/
  spaced : Bool := false
  deriving DecidableEq, Repr

/-- What flag letters say of each flag, if they say anything. -/
structure FlagChange where
  caseless : Option Bool := none
  unicode : Option Bool := none
  spaced : Option Bool := none
  deriving DecidableEq, Repr

/-- The flags after a change. -/
def Flags.changed (f : Flags) (c : FlagChange) : Flags where
  caseless := c.caseless.getD f.caseless
  unicode := c.unicode.getD f.unicode
  spaced := c.spaced.getD f.spaced

/-! ## Trees -/

/-- A character as it is written; two hexadecimal digits may stand for a byte. -/
structure Glyph where
  char : Char
  asByte : Bool := false
  deriving DecidableEq, Repr

/-- What is written between the brackets of a set. -/
inductive Members where
  | nothing
  | glyph (g : Glyph)
  | range (low high : Glyph)
  /-- a class with a name, such as the letters -/
  | named (negated : Bool)
  /-- a class with a letter, such as the digits -/
  | letter (negated : Bool)
  /-- several, one after the other -/
  | several (items : List Members)
  /-- two that an operation joins -/
  | joined (left right : Members)
  /-- between brackets of their own -/
  | set (negated : Bool) (members : Members)
  deriving Repr

end Pattern

open Pattern

/-- A pattern as it is written. -/
inductive Pattern where
  | nothing
  /-- flags for what follows in the same group -/
  | flags (change : FlagChange)
  | glyph (g : Glyph)
  /-- any character -/
  | dot
  /-- the beginning or the end of a line or text -/
  | textEdge
  /-- the beginning or the end of a word, or neither -/
  | wordEdge
  /-- a class with a letter, such as the digits -/
  | letter (negated : Bool)
  | set (negated : Bool) (members : Members)
  | repeated (p : Pattern)
  | group (change : FlagChange) (p : Pattern)
  | sequence (parts : List Pattern)
  | choice (parts : List Pattern)
  deriving Repr

namespace Pattern

/-! ## Depth -/

mutual

/-- How deep the parts of a set are nested. -/
def Members.depth : Members → Nat
  | several items => depthOfAll items + 1
  | joined left right => max left.depth right.depth + 1
  | set _ members => members.depth + 1
  | nothing | glyph _ | range _ _ | named _ | letter _ => 0

/-- The depth of the deepest. -/
def Members.depthOfAll : List Members → Nat
  | [] => 0
  | m :: rest => max m.depth (depthOfAll rest)

end

mutual

/-- How deep the parts of a pattern are nested. -/
def depth : Pattern → Nat
  | set _ members => members.depth + 1
  | repeated p | group _ p => p.depth + 1
  | sequence parts | choice parts => depthOfAll parts + 1
  | nothing | flags _ | glyph _ | dot | textEdge | wordEdge | letter _ => 0

/-- The depth of the deepest. -/
def depthOfAll : List Pattern → Nat
  | [] => 0
  | p :: rest => max p.depth (depthOfAll rest)

end

/-- The deepest nesting of a pattern. -/
def deepestNesting : Nat := 250

/-! ## What can be put to work -/

/-- Whether a character can be matched under some flags. -/
def Glyph.fits (f : Flags) (g : Glyph) : Bool :=
  if f.unicode then !f.caseless else !g.asByte || g.char.toNat < 0x80

/-- Whether a character can be a member of a set. -/
def Glyph.fitsInSet (f : Flags) (g : Glyph) : Bool :=
  if f.unicode then !f.caseless else g.char.toNat < 0x80

mutual

/-- Whether members of a set can be matched under some flags: without the flag for
characters, all of them are ASCII and none is negated. -/
def Members.fit (f : Flags) : Members → Bool
  | nothing => true
  | glyph g => g.fitsInSet f
  | range low high => low.fitsInSet f && high.fitsInSet f
  | named negated => if f.unicode then !f.caseless else !negated
  | letter negated => !f.unicode && !negated
  | several items => allFit f items
  | joined left right => left.fit f && right.fit f
  | set negated members => members.fit f && (f.unicode || !negated)

/-- Whether all fit. -/
def Members.allFit (f : Flags) : List Members → Bool
  | [] => true
  | m :: rest => m.fit f && allFit f rest

end

/-- What is known at some place of a pattern. -/
structure Survey where
  flags : Flags := {}
  /-- edges of words of characters have come -/
  wordEdges : Bool := false
  deriving DecidableEq, Repr

/-- A part of a pattern that is there only under a condition. -/
def Survey.given (s : Survey) (condition : Bool) : Option Survey :=
  if condition then some s else none

mutual

/-- Go through a pattern; `none` if some part cannot be matched.  Flags hold up to
the end of the group that they are in. -/
def survey? (s : Survey) : Pattern → Option Survey
  | nothing | textEdge => some s
  | flags change => some { s with flags := s.flags.changed change }
  | glyph g => s.given (g.fits s.flags)
  | dot => s.given s.flags.unicode
  | wordEdge => some { s with wordEdges := s.wordEdges || s.flags.unicode }
  | letter negated => s.given (!s.flags.unicode && !negated)
  | set negated members => s.given ((Members.set negated members).fit s.flags)
  | repeated p => p.survey? s
  | group change p =>
    (p.survey? { s with flags := s.flags.changed change }).map fun t =>
      { t with flags := s.flags }
  | sequence parts | choice parts => surveyAll? s parts

/-- Go through parts in order. -/
def surveyAll? (s : Survey) : List Pattern → Option Survey
  | [] => some s
  | p :: rest =>
    match p.survey? s with
    | none => none
    | some s => surveyAll? s rest

end

/-- Why a pattern cannot be put to work. -/
inductive Fault where
  /-- it is no pattern, or a part of it cannot be matched -/
  | unusable
  /-- it looks for edges of words of characters -/
  | wordEdges
  deriving DecidableEq, Repr

/-- What the user reads. -/
def Fault.reason : Fault → String
  | unusable => "error building NFA"
  | wordEdges =>
    "unsupported regex feature for DFAs: cannot build DFAs for regexes with Unicode word "
      ++ "boundaries; switch to ASCII word boundaries, or heuristically enable Unicode word "
      ++ "boundaries or use a different regex engine"

/-- The first reason why a pattern cannot be put to work. -/
def fault? (p : Pattern) : Option Fault :=
  if deepestNesting < p.depth then some .unusable
  else
    match p.survey? {} with
    | none => some .unusable
    | some s => if s.wordEdges then some .wordEdges else none

end Pattern

end DongleLink.LogFilter

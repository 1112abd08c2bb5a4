import DongleLink.Binary64
import DongleLink.Text.Bytes
import DongleLink.Toml.Moment

/-!
# DongleLink.Toml.Value

The values of a TOML document.  Tables keep their entries in the order of the
document, and remember how they were written, because that decides whether later
lines may add to them.  Keys and values know the piece of the document where
they stand, so that a complaint about one can point there.
-/

namespace DongleLink.Toml

/-! ## Pieces of a document -/

/-- A piece of a document, told by what is left of the document where the piece
begins and where it ends. -/
structure Stretch where
  fromBegin : List Char
  fromEnd : List Char
  deriving DecidableEq, Repr

/-- The piece from the beginning of one to the end of another. -/
def Stretch.upTo (first last : Stretch) : Stretch := ⟨first.fromBegin, last.fromEnd⟩

/-- The places where a piece begins and ends, counted in bytes of the document. -/
def Stretch.range (document : List Char) (t : Stretch) : Nat × Nat :=
  let size := Text.byteLength document
  (size - Text.byteLength t.fromBegin, size - Text.byteLength t.fromEnd)

/-- Something that was read, with its piece of the document.  A table that other
lines only imply has none of its own. -/
structure Placed (α : Type) where
  value : α
  stretch : Option Stretch
  deriving DecidableEq, Repr

/-! ## Values -/

/-- How a table was written. -/
inductive Origin where
  /-- under a header of its own -/
  | header
  /-- only as a part of another table's header -/
  | implied
  /-- by dotted keys -/
  | dotted
  /-- between braces -/
  | inline
  deriving DecidableEq, Repr

/-- A value of a TOML document. -/
inductive Value where
  | string (s : String)
  | integer (i : Int)
  | float (x : Binary64)
  | boolean (b : Bool)
  | moment (m : Moment)
  | array (items : List (Placed Value))
  | table (origin : Origin) (entries : List (Placed String × Placed Value))
  /-- the tables of one double-bracketed header -/
  | tables (items : List (Placed (List (Placed String × Placed Value))))
  deriving Repr

/-- Keys and values in the order of the document. -/
abbrev Entries := List (Placed String × Placed Value)

namespace Value

/-- What kind of value it is, in an error message. -/
def kindName : Value → String
  | string _ => "string"
  | integer _ => "integer"
  | float _ => "float"
  | boolean _ => "boolean"
  | moment _ => "datetime"
  | array _ => "array"
  | table .inline _ => "inline table"
  | table _ _ => "table"
  | tables _ => "array of tables"

end Value

end DongleLink.Toml

import DongleLink.Text.Quoted
import DongleLink.Toml.Value

/-!
# DongleLink.Toml.Decode

Turning the values of a document into numbers, texts, choices and records.  A
value of the wrong shape is a `Mismatch`, which says what was found and what was
wanted; a `Misfit` says also under which keys and in which piece of the document.
-/

namespace DongleLink.Toml

open Text

/-! ## Mismatches -/

/-- Why a value cannot be decoded. -/
inductive Mismatch where
  /-- a value of another kind than the one wanted -/
  | kind (found : Value) (wanted : String)
  /-- an integer outside the range of the wanted kind -/
  | range (found : Int) (wanted : String)
  /-- a text that names no choice -/
  | unknownChoice (found : String) (choices : List String)
  /-- neither a text nor a table where a choice is wanted -/
  | noChoice
  /-- a table without a key where a choice is wanted -/
  | emptyChoice
  /-- a table with more than one key where a choice is wanted -/
  | manyChoices
  /-- a choice with something else than a table or an array after it -/
  | choiceContent (found : Value)
  /-- a choice with a table after it that is not empty -/
  | choiceTableFilled
  /-- a choice with an array after it that is not empty -/
  | choiceArrayFilled
  deriving Repr

/-- A value as an error message shows it. -/
def Value.shown : Value → String
  | string s => "string " ++ quoted s
  | integer i => "integer `" ++ String.ofList (signedDecimal i) ++ "`"
  | float x => "floating point `" ++ x.text ++ "`"
  | boolean b => "boolean `" ++ toString b ++ "`"
  | array _ | tables _ => "sequence"
  | table _ _ | moment _ => "map"

/-- What the user reads. -/
def Mismatch.message : Mismatch → String
  | kind found wanted => s!"invalid type: {found.shown}, expected {wanted}"
  | range found wanted => s!"invalid value: {(Value.integer found).shown}, expected {wanted}"
  | unknownChoice found choices =>
    "unknown variant `" ++ found ++ "`, expected one of "
      ++ String.intercalate ", " (choices.map fun c => "`" ++ c ++ "`")
  | noChoice => "wanted string or table"
  | emptyChoice => "wanted exactly 1 element, found 0 elements"
  | manyChoices => "wanted exactly 1 element, more than 1 element"
  | choiceContent found => s!"expected table, found {found.kindName}"
  | choiceTableFilled => "expected empty table"
  | choiceArrayFilled => "expected empty array"

/-- A mismatch with the keys that lead to it, the outermost first, and the piece of
the document that it is about. -/
structure Misfit where
  mismatch : Mismatch
  keys : List String := []
  stretch : Option Stretch := none
  deriving Repr

/-- A misfit that has no piece of the document yet gets one. -/
def Misfit.at (m : Misfit) (stretch : Option Stretch) : Misfit :=
  { m with stretch := m.stretch.or stretch }

/-- A misfit of the value of a key; where the value has no piece of its own, the key
has one. -/
def Misfit.under (m : Misfit) (key : Placed String) (value : Placed Value) : Misfit :=
  { m.at (value.stretch.or key.stretch) with keys := key.value :: m.keys }

namespace Decode

/-- The misfit of a value. -/
def refuse {α β : Type} (v : Placed β) (m : Mismatch) : Except Misfit α :=
  .error { mismatch := m, stretch := v.stretch }

/-! ## Single values -/

/-- A whole number from 0 to `limit`; `wanted` names the range in messages. -/
def number (wanted : String) (limit : Nat) (v : Placed Value) : Except Misfit Nat :=
  match v.value with
  | .integer i => if 0 ≤ i ∧ i ≤ limit then .ok i.toNat else refuse v (.range i wanted)
  | found => refuse v (.kind found wanted)

/-- A text. -/
def text (v : Placed Value) : Except Misfit String :=
  match v.value with
  | .string s => .ok s
  | found => refuse v (.kind found "a string")

/-- The choice of a name. -/
def choiceOf {α : Type} (name : α → String) (all : List α) (s : Placed String) :
    Except Misfit α :=
  match all.find? (name · == s.value) with
  | some a => .ok a
  | none => refuse s (.unknownChoice s.value (all.map name))

/-- What may follow a choice: an empty table or an empty array. -/
def nothingMore (v : Placed Value) : Except Misfit Unit :=
  match v.value with
  | .table _ [] | .array [] | .tables [] => .ok ()
  | .table _ _ => refuse v .choiceTableFilled
  | .array _ | .tables _ => refuse v .choiceArrayFilled
  | found => refuse v (.choiceContent found)

/-- One of several choices: its name, or a table with the name as the only key and
nothing in its value. -/
def choice {α : Type} (name : α → String) (all : List α) (v : Placed Value) :
    Except Misfit α :=
  match v.value with
  | .string s => choiceOf name all ⟨s, v.stretch⟩
  | .table _ [] => refuse v .emptyChoice
  | .table _ [(key, content)] =>
    match choiceOf name all key with
    | .error e => .error e
    | .ok a =>
      match nothingMore content with
      | .error e => .error (e.at v.stretch)
      | .ok () => .ok a
  | .table _ _ => refuse v .manyChoices
  | _ => refuse v .noChoice

/-- The key under which a moment shows its text where a table is wanted. -/
def momentKey : String := "$__toml_private_datetime"

/-- Keys and their texts, in order. -/
def textsOf : Entries → Except Misfit (List (String × String))
  | [] => .ok []
  | (key, value) :: rest =>
    match text value with
    | .error e => .error (e.under key value)
    | .ok s =>
      match textsOf rest with
      | .error e => .error e
      | .ok pairs => .ok ((key.value, s) :: pairs)

/-- A table of texts. -/
def texts (v : Placed Value) : Except Misfit (List (String × String)) :=
  match v.value with
  | .table _ entries => textsOf entries
  | .moment m => .ok [(momentKey, m.text)]
  | found => refuse v (.kind found "a map")

/-! ## Records -/

/-- A field of a record: its key, and how a value sets it. -/
structure RecordField (α : Type) where
  key : String
  set : Placed Value → α → Except Misfit α

/-- Set the fields that entries name, in the order of the entries.  Other keys do
not matter. -/
def setEntries {α : Type} (fields : List (RecordField α)) : Entries → α → Except Misfit α
  | [], record => .ok record
  | (key, value) :: rest, record =>
    match fields.find? (·.key == key.value) with
    | none => setEntries fields rest record
    | some field =>
      match field.set value record with
      | .error e => .error (e.under key value)
      | .ok record => setEntries fields rest record

/-- Set the fields in their order to the items of a list, as far as both go. -/
def setItems {α : Type} :
    List (RecordField α) → List (Placed Value) → α → Except Misfit α
  | field :: fields, value :: rest, record =>
    match field.set value record with
    | .error e => .error e
    | .ok record => setItems fields rest record
  | _, _, record => .ok record

/-- A record: a table of its fields, or a list of them in order.  What is missing
stays as it is in `record`. -/
def record {α : Type} (wanted : String) (fields : List (RecordField α)) (record : α)
    (v : Placed Value) : Except Misfit α :=
  match v.value with
  | .table _ entries => setEntries fields entries record
  | .array items => setItems fields items record
  | .tables items =>
    setItems fields (items.map fun item => ⟨.table .header item.value, item.stretch⟩) record
  | .moment _ => .ok record
  | found => refuse v (.kind found wanted)

end Decode

end DongleLink.Toml

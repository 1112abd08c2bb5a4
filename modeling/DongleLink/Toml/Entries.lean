import DongleLink.Toml.Value

/-!
# DongleLink.Toml.Entries

Putting the lines of a document together.  A table may be filled by dotted keys
and by headers, in pieces that stand far apart; the rules here say which pieces
may meet and where in the order of the document a table ends up.  `none` means
that the document is not well formed.
-/

namespace DongleLink.Toml

namespace Entries

/-! ## Looking up and replacing -/

/-- The value of a key. -/
def get? (key : String) : Entries → Option (Placed Value)
  | [] => none
  | (k, v) :: rest => if k.value = key then some v else get? key rest

/-- Give a key another value, in place. -/
def replace (key : String) (value : Placed Value) : Entries → Entries
  | [] => []
  | (k, v) :: rest =>
    if k.value = key then (k, value) :: rest else (k, v) :: replace key value rest

/-- Take a key out. -/
def erase (key : String) : Entries → Entries
  | [] => []
  | (k, v) :: rest => if k.value = key then rest else (k, v) :: erase key rest

/-- Add a key that is not there yet. -/
def addNew (key : Placed String) (value : Placed Value) (t : Entries) : Option Entries :=
  match get? key.value t with
  | some _ => none
  | none => some (t ++ [(key, value)])

/-! ## Going down a path -/

/-- Apply `f` to the last member of a list. -/
def onLast {α : Type} (f : α → Option α) : List α → Option (List α)
  | [] => none
  | [x] => (f x).map fun x => [x]
  | x :: y :: rest => (onLast f (y :: rest)).map (x :: ·)

/-- Apply `f` to the table that a path leads to.  Tables missing on the way are
added, as parts of dotted keys or of a header; a header enters the last table
of a double-bracketed one, and dotted keys do not enter tables with headers. -/
def update (dottedKeys : Bool) (f : Origin → Entries → Option Entries) :
    List (Placed String) → Origin → Entries → Option Entries
  | [], origin, t => f origin t
  | key :: path, _, t =>
    match get? key.value t with
    | none =>
      let origin := if dottedKeys then Origin.dotted else Origin.implied
      (update dottedKeys f path origin []).map fun inner =>
        t ++ [(key, ⟨.table origin inner, none⟩)]
    | some ⟨.table origin inner, stretch⟩ =>
      if origin = .inline ∨ (dottedKeys ∧ origin = .header) then none
      else
        (update dottedKeys f path origin inner).map fun inner =>
          replace key.value ⟨.table origin inner, stretch⟩ t
    | some ⟨.tables items, stretch⟩ =>
      let updated (item : Placed Entries) : Option (Placed Entries) :=
        (update dottedKeys f path .header item.value).map fun inner => ⟨inner, item.stretch⟩
      (onLast updated items).map fun items => replace key.value ⟨.tables items, stretch⟩ t
    | some _ => none

/-- Add a value under a dotted key.  Only a table that dotted keys made, or the
one they start from, takes it. -/
def addDotted (path : List (Placed String)) (key : Placed String) (value : Placed Value)
    (t : Entries) : Option Entries :=
  update true
    (fun origin inner =>
      if path.isEmpty ∨ origin = .dotted then addNew key value inner else none)
    path .header t

end Entries

/-! ## Inline tables -/

/-- A value under a dotted key: the parts before the last, and the last. -/
structure Pair where
  path : List (Placed String)
  key : Placed String
  value : Placed Value
  deriving Repr

/-- The table of dotted keys and values between braces, which is finished with
them. -/
def inlineTable? (pairs : List Pair) : Option Value :=
  (pairs.foldlM (fun t p => Entries.addDotted p.path p.key p.value t) []).map (.table .inline)

/-! ## Documents -/

/-- One line of a document that matters; a header is a piece of it. -/
inductive Statement where
  /-- a header in brackets -/
  | header (path : List (Placed String)) (key : Placed String) (stretch : Stretch)
  /-- a header in double brackets -/
  | arrayHeader (path : List (Placed String)) (key : Placed String) (stretch : Stretch)
  /-- a value under a dotted key -/
  | entry (pair : Pair)
  deriving Repr

/-- Which table the entries belong to. -/
inductive Place where
  | root
  | table (path : List (Placed String)) (key : Placed String)
  /-- one more table of a double-bracketed header -/
  | item (path : List (Placed String)) (key : Placed String)
  deriving DecidableEq, Repr

/-- A document in the making: the finished tables, and the one being filled. -/
structure Draft where
  finished : Entries := []
  current : Placed Entries := ⟨[], none⟩
  place : Place := .root

/-- The piece from the first of some tables to another that comes after them. -/
def coverOf (items : List (Placed Entries)) (last : Placed Entries) : Option Stretch :=
  match items.head?.bind (·.stretch), last.stretch with
  | some first, some last => some (first.upTo last)
  | _, _ => none

namespace Draft

/-- Put the table being filled where it belongs. -/
def finish (d : Draft) : Option Entries :=
  match d.place with
  | .root => some d.current.value
  | .table path key =>
    Entries.update false
      (fun _ t => Entries.addNew key ⟨.table .header d.current.value, d.current.stretch⟩ t)
      path .header d.finished
  | .item path key =>
    Entries.update false
      (fun _ t =>
        match Entries.get? key.value t with
        | none => some (t ++ [(key, ⟨.tables [d.current], d.current.stretch⟩)])
        | some ⟨.tables items, _⟩ =>
          let all : Placed Value := ⟨.tables (items ++ [d.current]), coverOf items d.current⟩
          some (Entries.replace key.value all t)
        | some _ => none)
      path .header d.finished

/-- The table that a header reopens: one that exists only as a part of headers,
whose entries it takes over; or none yet. -/
def reopened (key : String) (t : Entries) : Option Entries :=
  match Entries.get? key t with
  | none => some []
  | some ⟨.table .implied inner, _⟩ => some inner
  | some _ => none

/-- The entries at the end of a path, if all of them are tables. -/
def inner? : List (Placed String) → Entries → Option Entries
  | [], t => some t
  | key :: path, t =>
    match Entries.get? key.value t with
    | none => some []
    | some ⟨.table .inline _, _⟩ => none
    | some ⟨.table _ inner, _⟩ => inner? path inner
    | some ⟨.tables items, _⟩ => items.getLast?.bind fun item => inner? path item.value
    | some _ => none

/-- The piece of a table grows with its values; the document itself has none. -/
def grown (current : Placed Entries) (value : Placed Value) (t : Entries) : Placed Entries :=
  match current.stretch, value.stretch with
  | some header, some last => ⟨t, some (header.upTo last)⟩
  | stretch, _ => ⟨t, stretch⟩

/-- Take one statement in. -/
def add (d : Draft) : Statement → Option Draft
  | .entry p =>
    (Entries.addDotted p.path p.key p.value d.current.value).map fun t =>
      { d with current := grown d.current p.value t }
  | .header path key stretch =>
    match d.finish with
    | none => none
    | some t =>
      match (inner? path t).bind (reopened key.value) with
      | none => none
      | some current =>
        (Entries.update false (fun _ t => some (Entries.erase key.value t)) path .header t).map
          fun t => { finished := t, current := ⟨current, some stretch⟩, place := .table path key }
  | .arrayHeader path key stretch =>
    match d.finish with
    | none => none
    | some t =>
      match (inner? path t).map (Entries.get? key.value) with
      | some none | some (some ⟨.tables _, _⟩) =>
        (Entries.update false (fun _ t => some t) path .header t).map fun t =>
          { finished := t, current := ⟨[], some stretch⟩, place := .item path key }
      | _ => none

end Draft

/-- The table of a document's statements. -/
def tableOf? (statements : List Statement) : Option Entries :=
  (statements.foldlM Draft.add {}).bind Draft.finish

end DongleLink.Toml

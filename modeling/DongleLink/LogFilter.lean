import DongleLink.LogFilter.Pattern.Reader
import DongleLink.Text.Alphanumeric
import DongleLink.Text.Blank
import DongleLink.Text.Bytes
import DongleLink.Text.Case
import DongleLink.Text.Decimal
import DongleLink.Text.Split

/-!
# DongleLink.LogFilter

Which texts are log filters.  A filter is a list of directives with commas
between them, each of the shape `target[span{field=value}]=level`, of which every
part may be left out.  The value of a field is a number or a pattern.

A directive is scanned without the blanks around it, but its pieces are cut out
of the directive as it stands; blanks in front shift every piece.
-/

namespace DongleLink.LogFilter

open Text

/-- Why a text is no log filter. -/
inductive Fault where
  | directive
  | level
  /-- the value of a field is a pattern of no use -/
  | pattern (fault : Pattern.Fault)
  /-- blanks in front shift a cut into the middle of a character -/
  | cut (place : Misplaced)
  deriving DecidableEq, Repr

/-- What the user reads. -/
def Fault.reason : Fault → String
  | directive => "invalid filter directive"
  | level =>
    "error parsing level filter: expected one of \"off\", \"error\", \"warn\", \"info\", "
      ++ "\"debug\", \"trace\", or a number 0-5"
  | pattern fault => "invalid field filter: " ++ fault.reason
  | cut place => place.message

/-! ## Levels -/

/-- The names of the levels. -/
def levelNames : List String := ["off", "error", "warn", "info", "debug", "trace"]

/-- A number from 0 to 5, or a name in any mixture of cases. -/
def isLevel (s : List Char) : Bool :=
  (readUnsigned 5 s).isSome || levelNames.contains (lowered (String.ofList s))

/-! ## Fields -/

/-- What follows a sign, if there is one. -/
def unsignedPart : List Char → List Char
  | '+' :: r | '-' :: r => r
  | r => r

/-- Digits with at most one point among them, and at least one digit. -/
def isFixed (s : List Char) : Bool :=
  match segments '.' s with
  | [whole] => !whole.isEmpty && whole.all Char.isDigit
  | [whole, places] => !(whole ++ places).isEmpty && (whole ++ places).all Char.isDigit
  | _ => false

/-- An integer, a number with a point or an exponent or both, an infinity, or what is
no number. -/
def isNumber (s : List Char) : Bool :=
  let body := (unsignedPart s).map Char.toLower
  if ["inf", "infinity", "nan"].contains (String.ofList body) then true
  else
    match segments 'e' body with
    | [fixed] => isFixed fixed
    | [fixed, exponent] =>
      let digits := unsignedPart exponent
      isFixed fixed && !digits.isEmpty && digits.all Char.isDigit
    | _ => false

/-- Check a field: a name, and what stands between the first equals sign and the
next is its value. -/
def checkField (field : List Char) : Except Fault Unit :=
  match segments '=' field with
  | _ :: value :: _ =>
    if isNumber value then .ok ()
    else
      match Pattern.faultOf? value with
      | some fault => .error (.pattern fault)
      | none => .ok ()
  | _ => .ok ()

/-! ## Directives -/

/-- Where the scan of a directive is; the numbers are the places where the piece
being scanned begins. -/
inductive Stage where
  | start
  | levelOrTarget (low : Nat)
  | span (low : Nat)
  | field (low : Nat)
  | afterFields
  | afterSpan
  | level (low : Nat)
  deriving DecidableEq, Repr

/-- Cut a piece out of the directive. -/
def piece (directive : List Char) (low high : Nat) : Except Fault (List Char) :=
  match cutBytes low high directive with
  | .ok s => .ok s
  | .error place => .error (.cut place)

/-- Take the character at a place into account. -/
def Stage.next (directive : List Char) (place : Nat) (c : Char) : Stage → Except Fault Stage
  | start =>
    if c = '[' then .ok (span (place + 1))
    else if isAlphanumeric c || c == '-' || c == ':' || c == '_' then .ok (levelOrTarget place)
    else .error .directive
  | levelOrTarget low =>
    if c = '=' then (piece directive low place).map fun _ => level (place + 1)
    else if c = '[' then (piece directive low place).map fun _ => span (place + 1)
    else .ok (levelOrTarget low)
  | span low =>
    if c = ']' then (piece directive low place).map fun _ => afterSpan
    else if c = '{' then (piece directive low place).map fun _ => field (place + 1)
    else .ok (span low)
  | field low =>
    if c = '}' then
      match piece directive low place with
      | .error e => .error e
      | .ok [] => .error .directive
      | .ok text => (checkField text).map fun () => afterFields
    else .ok (field low)
  | afterFields => if c = ']' then .ok afterSpan else .error .directive
  | afterSpan => if c = '=' then .ok (level (place + 1)) else .error .directive
  | level low => .ok (level low)

/-- What the end of the directive makes of the scan. -/
def Stage.atEnd (directive : List Char) : Stage → Except Fault Unit
  | levelOrTarget low => (piece directive low (byteLength directive)).map fun _ => ()
  | level low =>
    match piece directive low (byteLength directive) with
    | .error e => .error e
    | .ok s => if s.isEmpty || isLevel s then .ok () else .error .level
  | afterSpan => .ok ()
  | start | span _ | field _ | afterFields => .error .directive

/-- Scan the rest of a directive, which begins at a place. -/
def scan (directive : List Char) (place : Nat) (stage : Stage) : List Char → Except Fault Unit
  | [] => stage.atEnd directive
  | c :: rest =>
    match stage.next directive place c with
    | .error e => .error e
    | .ok stage => scan directive (place + c.utf8Size) stage rest

/-- Check one directive. -/
def checkDirective (directive : List Char) : Except Fault Unit :=
  scan directive 0 .start (trim directive)

/-- Check directives in order. -/
def checkAll : List (List Char) → Except Fault Unit
  | [] => .ok ()
  | d :: rest =>
    match checkDirective d with
    | .error e => .error e
    | .ok () => checkAll rest

/-- Check a filter; directives without a character do not count. -/
def check (filter : String) : Except Fault Unit :=
  checkAll ((segments ',' filter.toList).filter (!·.isEmpty))

end DongleLink.LogFilter

import DongleLink.Text.Decimal
import DongleLink.Text.Split

/-!
# DongleLink.CommandLine

What the words of a command line ask for.  There are three commands; options may
stand before and after the command's own words, and two hyphens end them.

An option's value is the rest of its word or the next word.  It is looked at when
the next option or plain word comes, or at the end; until then the option is
*pending*.  This decides which of two mistakes is reported.
-/

namespace DongleLink

/-- What is to be done. -/
inductive Command where
  | list
  | monitor (target : String) (durationMs : Option Nat)
  | send (target payload : String) (waitMs : Nat)
  deriving DecidableEq, Repr

/-- A command, and the configuration file to use with it. -/
structure CommandLine where
  config : Option String
  command : Command
  deriving DecidableEq, Repr

namespace CommandLine

/-- Why words are not carried out as a command; asking for help is one way. -/
inductive Fault where
  | unknownArgument
  | missingArgument
  /-- a value that is not of its kind -/
  | badValue
  /-- an option without a value, or with an empty one -/
  | missingValue
  /-- a value for an option that takes none -/
  | unwantedValue
  | unknownCommand
  /-- an option given twice -/
  | repeated
  | missingCommand
  /-- neither a command nor an option -/
  | nothing
  | help
  | version
  deriving DecidableEq, Repr

/-! ## Options -/

/-- Where options are read: before the command, or after it. -/
inductive Scope where
  | root
  | list
  | monitor
  | send
  deriving DecidableEq, Repr

inductive Flag where
  | config
  | durationMs
  | waitMs
  | help
  | version
  deriving DecidableEq, Repr

/-- The option of a long name. -/
def Scope.long? (scope : Scope) (name : List Char) : Option Flag :=
  if name = "config".toList then some .config
  else if name = "help".toList then some .help
  else if name = "version".toList then if scope = .root then some .version else none
  else if name = "duration-ms".toList then if scope = .monitor then some .durationMs else none
  else if name = "wait-ms".toList then if scope = .send then some .waitMs else none
  else none

/-- The option of a letter. -/
def Scope.short? (scope : Scope) (letter : Char) : Option Flag :=
  if letter = 'c' then some .config
  else if letter = 'h' then some .help
  else if letter = 'V' then if scope = .root then some .version else none
  else none

/-- How many plain words a command takes. -/
def Scope.wordCount : Scope → Nat
  | root | list => 0
  | monitor => 1
  | send => 2

/-- The scope of a command's name. -/
def Scope.ofName? (name : String) : Option Scope :=
  if name = "list" then some .list
  else if name = "monitor" then some .monitor
  else if name = "send" then some .send
  else none

/-- The word that asks for help on commands. -/
def helpName : String := "help"

/-! ## What was read so far -/

/-- The options and words read in one scope. -/
structure Draft where
  config : Option String := none
  milliseconds : Option Nat := none
  words : List String := []
  /-- the option not yet looked at, with its value if that has come -/
  pending : Option (Flag × Option String) := none
  deriving DecidableEq, Repr

namespace Draft

/-- The pending option still waits for its value. -/
def wantsValue (d : Draft) : Bool :=
  match d.pending with
  | some (_, none) => true
  | _ => false

/-- Look at an option with its value. -/
def set (d : Draft) (flag : Flag) (value : Option String) : Except Fault Draft :=
  match flag, value with
  | .help, _ => .error .help
  | .version, _ => .error .version
  | _, none => .error .missingValue
  | .config, some value =>
    if d.config.isSome then .error .repeated
    else if value.isEmpty then .error .missingValue
    else .ok { d with config := some value }
  | .durationMs, some value | .waitMs, some value =>
    if d.milliseconds.isSome then .error .repeated
    else
      match Text.readUnsigned 18446744073709551615 value.toList with
      | none => .error .badValue
      | some n => .ok { d with milliseconds := some n }

/-- Look at the pending option, if there is one. -/
def resolve (d : Draft) : Except Fault Draft :=
  match d.pending with
  | none => .ok d
  | some (flag, value) => { d with pending := none }.set flag value

/-- An option comes, with a value in its own word or without. -/
def option (d : Draft) (flag : Flag) (attached : Option String) : Except Fault Draft :=
  match d.resolve with
  | .error e => .error e
  | .ok d =>
    match flag, attached with
    | .help, _ | .version, _ => d.set flag none
    | _, some value => d.set flag (some value)
    | _, none => .ok { d with pending := some (flag, none) }

/-- A plain word comes. -/
def word (d : Draft) (scope : Scope) (w : String) : Except Fault Draft :=
  if d.words.length < scope.wordCount then
    d.resolve.map fun d => { d with words := d.words ++ [w] }
  else if scope = .root then .error .unknownCommand
  else .error .unknownArgument

end Draft

/-! ## Words -/

/-- How a word looks. -/
inductive Shape where
  /-- two hyphens -/
  | separator
  /-- two hyphens and a name, with a value after an equals sign or without -/
  | long (name : List Char) (value : Option (List Char))
  /-- one hyphen and letters -/
  | short (letters : List Char)
  | plain
  deriving DecidableEq, Repr

def Shape.of : List Char → Shape
  | ['-', '-'] => .separator
  | '-' :: '-' :: s =>
    match Text.splitFirst '=' s with
    | some (name, value) => .long name (some value)
    | none => .long s none
  | ['-'] => .plain
  | '-' :: s => .short s
  | _ => .plain

/-- Options by their letters in one word; the first that takes a value takes the
rest of the word. -/
def readLetters (scope : Scope) (d : Draft) : List Char → Except Fault Draft
  | [] => .ok d
  | letter :: rest =>
    match scope.short? letter with
    | none => .error .unknownArgument
    | some .config =>
      match rest with
      | [] => d.option .config none
      | '=' :: value => d.option .config (some (String.ofList value))
      | value => d.option .config (some (String.ofList value))
    | some flag =>
      match d.option flag none with
      | .error e => .error e
      | .ok d => readLetters scope d rest

/-- A word that looks like an option. -/
def readOption (scope : Scope) (d : Draft) : Shape → Except Fault Draft
  | .long name value =>
    match scope.long? name, value with
    | none, _ => .error .unknownArgument
    | some .help, some _ | some .version, some _ => .error .unwantedValue
    | some flag, value => d.option flag (value.map String.ofList)
  | .short letters => readLetters scope d letters
  | .separator | .plain => .ok d

/-- Where reading stopped: at the end, or at the name of a command. -/
inductive Stop where
  | atEnd
  | command (scope : Scope) (rest : List String)
  | help (rest : List String)
  deriving DecidableEq, Repr

/-- Words after two hyphens. -/
def readPlain (scope : Scope) (d : Draft) : List String → Except Fault Draft
  | [] => .ok d
  | w :: rest =>
    if scope = .root ∧ ((Scope.ofName? w).isSome ∨ w = helpName) then .error .unknownArgument
    else
      match d.word scope w with
      | .error e => .error e
      | .ok d => readPlain scope d rest

/-- Read words up to the end or, before the command, up to its name. -/
def readWords (scope : Scope) (d : Draft) : List String → Except Fault (Draft × Stop)
  | [] => .ok (d, .atEnd)
  | w :: rest =>
    if scope = .root ∧ !d.wantsValue ∧ (Scope.ofName? w).isSome then
      .ok (d, .command ((Scope.ofName? w).getD .root) rest)
    else if scope = .root ∧ !d.wantsValue ∧ w = helpName then .ok (d, .help rest)
    else
      match Shape.of w.toList with
      | .separator => (readPlain scope d rest).map fun d => (d, .atEnd)
      | .plain =>
        match d.pending with
        | some (flag, none) => readWords scope { d with pending := some (flag, some w) } rest
        | _ =>
          match d.word scope w with
          | .error e => .error e
          | .ok d => readWords scope d rest
      | shape =>
        match readOption scope d shape with
        | .error e => .error e
        | .ok d => readWords scope d rest

/-! ## Commands -/

/-- The command of a scope with what was read there. -/
def commandOf (scope : Scope) (d : Draft) : Except Fault Command :=
  match scope, d.words with
  | .list, _ => .ok .list
  | .monitor, [target] => .ok (.monitor target d.milliseconds)
  | .send, [target, payload] => .ok (.send target payload (d.milliseconds.getD 1000))
  | _, _ => .error .missingArgument

/-- Help on a command, or on all. -/
def readHelp : List String → Fault
  | [] => .help
  | [name] => if (Scope.ofName? name).isSome ∨ name = helpName then .help else .unknownCommand
  | _ => .unknownCommand

/-- What the words of a command line ask for. -/
def parse (words : List String) : Except Fault CommandLine := do
  let (outer, stop) ← readWords .root {} words
  match stop with
  | .help rest => .error (readHelp rest)
  | .command scope rest =>
    let (inner, _) ← readWords scope {} rest
    let inner ← inner.resolve
    let command ← commandOf scope inner
    let outer ← outer.resolve
    return { config := inner.config <|> outer.config, command := command }
  | .atEnd =>
    let outer ← outer.resolve
    if outer.config.isNone then .error .nothing else .error .missingCommand

end CommandLine

end DongleLink

import DongleLink.LinkError
import DongleLink.Settings
import DongleLink.Text.Blank
import DongleLink.Text.Split

/-!
# DongleLink.Target

Where a dongle lives, and the text that says so:

* `tcp://host:port`, or `host:port` alone;
* `serial://path`, `serial://path@baud`, `serial://path@baud?flow=mode`;
* the same after the scheme for a bare path that looks like a device, one that
  starts with a slash or with `COM` and a digit.

Reading goes in two steps.  `Target.Spelled.read` takes a text apart and keeps
only what it says; `Target.Spelled.fill` supplies the parts that were left out.
The first step never sees the defaults, so they cannot change how a text is
understood.
-/

namespace DongleLink

open Text

/-- Where a dongle lives. -/
inductive Target where
  | network (host : String) (port : UInt16)
  | serial (path : String) (baud : UInt32) (flow : FlowControl)
  deriving DecidableEq, Repr, Inhabited

namespace Target

/-- What is supplied where a text leaves it out. -/
structure Defaults where
  baud : UInt32 := standardBaud
  flow : FlowControl := .none
  tcpPort : Option UInt16 := none
  deriving DecidableEq, Repr, Inhabited

/-! ## Faults -/

/-- Why a text names no target. -/
inductive Fault where
  | empty
  | badPort (text : List Char)
  | missingPort
  | missingHost
  | zeroPort
  | badBaud (text : List Char)
  | missingPath
  | unknownFlow (text : List Char)
  | unknownOption (text : List Char)
  deriving DecidableEq, Repr

/-- What the user reads. -/
def Fault.reason : Fault → String
  | empty => "empty target"
  | badPort text => s!"invalid port '{String.ofList text}'"
  | missingPort => "missing port"
  | missingHost => "missing host"
  | zeroPort => "port must be non-zero"
  | badBaud text => s!"invalid baud rate '{String.ofList text}'"
  | missingPath => "missing device path"
  | unknownFlow text => FlowControl.unknownText (String.ofList text)
  | unknownOption text => s!"unknown option '{String.ofList text}'"

/-! ## Which kind of target -/

/-- The two ways to read a text, each with what is left of it after a scheme. -/
inductive Route where
  | network (rest : List Char)
  | serial (rest : List Char)
  deriving DecidableEq, Repr

/-- A slash, or `COM` in any case and a digit, at the beginning. -/
def looksLikeDevice : List Char → Bool
  | '/' :: _ => true
  | c :: o :: m :: d :: _ =>
    [c, o, m].map Char.toUpper == ['C', 'O', 'M'] && d.isDigit
  | _ => false

/-- The route of a text: by its scheme, or else by its looks. -/
def Route.of (s : List Char) : Route :=
  match after? "tcp://".toList s, after? "serial://".toList s with
  | some rest, _ => .network rest
  | none, some rest => .serial rest
  | none, none => if looksLikeDevice s then .serial s else .network s

/-! ## What a text says -/

/- What is left out is kept as `none` until `fill`.  The checks of host and port come there too,
since a missing port is told of before a missing host. -/

/-- The parts that a text names. -/
inductive Spelled where
  | network (host : List Char) (port : Option UInt16)
  | serial (path : List Char) (baud : Option UInt32) (flow : Option FlowControl)
  deriving DecidableEq, Repr

namespace Spelled

/-- The host without its brackets. -/
def unbracketed (host : List Char) : List Char :=
  dropTailWhile (· == ']') (host.dropWhile (· == '['))

/-- A host, and a port after the last colon. -/
def readNetwork (s : List Char) : Except Fault Spelled :=
  match splitLast ':' s with
  | none => .ok (.network (unbracketed s) none)
  | some (host, port) =>
    match readUnsigned 65535 port with
    | none => .error (.badPort port)
    | some n => .ok (.network (unbracketed host) (some (.ofNat n)))

/-- A device path, and a baud rate after the last at sign. -/
def readDevice (s : List Char) : Except Fault (List Char × Option UInt32) :=
  match splitLast '@' s with
  | none => .ok (s, none)
  | some (path, baud) =>
    match readUnsigned 4294967295 baud with
    | none | some 0 => .error (.badBaud baud)
    | some n => .ok (path, some (.ofNat n))

/-- One option: `flow=` and a mode. -/
def readOption (s : List Char) : Except Fault FlowControl :=
  match splitFirst '=' s with
  | some (['f', 'l', 'o', 'w'], value) =>
    match FlowControl.ofText? (String.ofList value) with
    | some flow => .ok flow
    | none => .error (.unknownFlow value)
  | _ => .error (.unknownOption s)

/-- Options in order; a later one replaces an earlier one. -/
def readOptions (flow : Option FlowControl) : List (List Char) → Except Fault (Option FlowControl)
  | [] => .ok flow
  | s :: rest =>
    match readOption s with
    | .error e => .error e
    | .ok f => readOptions (some f) rest

/-- The options of a query: its pieces between ampersands that are not empty. -/
def optionsOf (query : List Char) : List (List Char) :=
  (segments '&' query).filter (!·.isEmpty)

/-- A device, and options after the first question mark. -/
def readSerial (s : List Char) : Except Fault Spelled :=
  let (device, options) :=
    match splitFirst '?' s with
    | none => (s, [])
    | some (device, query) => (device, optionsOf query)
  match readDevice device with
  | .error e => .error e
  | .ok ([], _) => .error .missingPath
  | .ok (path, baud) =>
    match readOptions none options with
    | .error e => .error e
    | .ok flow => .ok (.serial path baud flow)

/-- Take a trimmed text apart. -/
def read (s : List Char) : Except Fault Spelled :=
  if s.isEmpty then .error .empty
  else
    match Route.of s with
    | .network rest => readNetwork rest
    | .serial rest => readSerial rest

/-- Supply the missing parts. -/
def fill (d : Defaults) : Spelled → Except Fault Target
  | .serial path baud flow =>
    .ok (.serial (String.ofList path) (baud.getD d.baud) (flow.getD d.flow))
  | .network host port =>
    match port <|> d.tcpPort with
    | none => .error .missingPort
    | some n =>
      if host.isEmpty then .error .missingHost
      else if n = 0 then .error .zeroPort
      else .ok (.network (String.ofList host) n)

end Spelled

/-! ## Reading and writing targets -/

/-- Read a target, with the fault that prevents it. -/
def read (d : Defaults) (s : List Char) : Except Fault Target :=
  match Spelled.read s with
  | .error e => .error e
  | .ok parts => parts.fill d

/-- Read a target.  Blanks around it do not matter; the error quotes what is
between them. -/
def parse (d : Defaults) (input : String) : Except LinkError Target :=
  let s := trim input.toList
  match read d s with
  | .ok t => .ok t
  | .error fault => .error (.invalidTarget (String.ofList s) fault.reason)

/-- The full text of a target. -/
def text : Target → String
  | network host port => s!"tcp://{host}:{port}"
  | serial path baud flow => s!"serial://{path}@{baud}?flow={flow.name}"

/-- The text of the place alone, as errors and logs name it. -/
def place : Target → String
  | network host port => s!"tcp://{host}:{port}"
  | serial path baud _ => s!"serial://{path}@{baud}"

/-- A target that its text gives back: the host keeps its ends when brackets are
taken off, the path has no question mark, and no number is zero. -/
def WellFormed : Target → Prop
  | network host port =>
    host ≠ "" ∧ host.toList.head? ≠ some '[' ∧ host.toList.getLast? ≠ some ']'
      ∧ port ≠ 0
  | serial path baud _ => path ≠ "" ∧ '?' ∉ path.toList ∧ baud ≠ 0

instance (t : Target) : Decidable t.WellFormed := by
  cases t <;> unfold WellFormed <;> infer_instance

end Target

end DongleLink

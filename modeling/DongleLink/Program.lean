import DongleLink.CommandLine
import DongleLink.Config.Load
import DongleLink.Diagnostic
import DongleLink.Dump
import DongleLink.Port.InUse
import DongleLink.Wire.PeerLine

/-!
# DongleLink.Program

What a command does, short of touching the machine: which configuration it takes,
which port it opens with which settings, what it sends, and what its failures
look like.  `Program.outcome` carries a command out on lines in memory.
-/

namespace DongleLink

/-! ## Diagnostics of configuration errors -/

open Text in
/-- A misfit with its parts: the document as it stands, and the place in it. -/
def Toml.Misfit.diagnostic (m : Toml.Misfit) (document : String) : String :=
  let place :=
    match m.stretch.map (·.range document.toList) with
    | some (low, high) => s!"Some({low}..{high})"
    | none => "None"
  "TomlError \x7b message: " ++ quoted m.mismatch.message ++ ", raw: Some(" ++ quoted document
    ++ "), keys: [" ++ String.intercalate ", " (m.keys.map quoted) ++ "], span: " ++ place
    ++ " \x7d"

open Text in
/-- A configuration error with its parts. -/
def ConfigError.diagnostic : ConfigError → String
  | unreadable path fault =>
    "ReadError \x7b path: " ++ quotedName path ++ ", source: " ++ fault.diagnostic ++ " \x7d"
  | notToml => "ParseError(\"not a TOML document\")"
  | wrongShape misfit document => s!"ParseError({misfit.diagnostic document})"
  | notWritable => "SerializeError(\"out-of-range value for u64 type\")"
  | unwritable path fault =>
    "WriteError \x7b path: " ++ quotedName path ++ ", source: " ++ fault.diagnostic ++ " \x7d"
  | unfit (.belowMinimum key value least) =>
    "BelowMinimum \x7b key: " ++ quoted key ++ ", value: " ++ toString value ++ ", min: "
      ++ toString least ++ " \x7d"
  | unfit (.badFilter level reason) =>
    "InvalidLogLevel \x7b level: " ++ quoted level ++ ", reason: " ++ quoted reason ++ " \x7d"
  | unfit (.brokenFilter complaint) => complaint
  | badOverride o =>
    "EnvOverride \x7b var: " ++ quoted o.name ++ ", value: " ++ quoted o.value ++ ", expected: "
      ++ quoted o.wanted ++ " \x7d"

namespace Program

/-! ## Failures -/

/-- Why a command comes to nothing. -/
inductive Failure where
  | arguments (fault : CommandLine.Fault)
  | config (e : ConfigError)
  | payload (complaint : String)
  /-- the payload cannot even be taken apart -/
  | brokenPayload (complaint : String)
  | link (e : LinkError)
  /-- the port cannot even be made -/
  | port (r : Port.Refusal)
  deriving Repr

/-- The exit code of a failure; asking for help or the version is none. -/
def Failure.exitCode : Failure → Nat
  | arguments .help | arguments .version => 0
  | arguments _ => 2
  | config (.unfit (.brokenFilter _)) | brokenPayload _ | port _ => 101
  | config _ | payload _ | link _ => 1

/-- The line that a failed command ends with, if it is to have one. -/
def Failure.line? : Failure → Option String
  | arguments _ | port _ | brokenPayload _ | config (.unfit (.brokenFilter _)) => none
  | config e => some s!"Error: {e.diagnostic}"
  | payload complaint => some s!"Error: {Text.quoted complaint}"
  | link e => some s!"Error: {e.diagnostic}"

/-! ## Tasks -/

/-- Attend a dongle: send something or not, and show what comes. -/
structure Attendance where
  target : Target
  settings : Settings
  payload : List UInt8
  /-- how long to show what comes; until the link drops if there is no limit -/
  limitMs : Option Nat
  deriving DecidableEq, Repr

/-- What is left to do once everything is understood. -/
inductive Task where
  | list
  | attend (a : Attendance)
  deriving DecidableEq, Repr

/-- The target that a text or an alias names. -/
def targetOf (c : Config) (name : String) : Except Failure Target :=
  match Target.parse c.targetDefaults (c.serial.aliases.resolve name) with
  | .ok t => .ok t
  | .error e => .error (.link e)

/-- What a command comes to under a configuration.  A payload is understood before
the target is. -/
def taskOf (c : Config) : Command → Except Failure Task
  | .list => .ok .list
  | .monitor name limit =>
    (targetOf c name).map fun target =>
      .attend { target := target, settings := c.settings, payload := [], limitMs := limit }
  | .send name payload wait =>
    match Payload.read payload.toList with
    | .error (.cut bad) => .error (.brokenPayload bad.message)
    | .error fault => .error (.payload (fault.message payload))
    | .ok bytes =>
      (targetOf c name).map fun target =>
        .attend { target := target, settings := c.settings, payload := bytes, limitMs := some wait }

/-- The configuration that a command line asks for. -/
def configOf (h : Host) (line : CommandLine) : Except Failure Config :=
  let loaded :=
    match line.config with
    | some path => Config.loadFrom h path
    | none => Config.load h
  match loaded with
  | .ok l => .ok l.config
  | .error e => .error (.config e)

/-- The task of the words of a command line. -/
def plan (h : Host) (words : List String) : Except Failure Task :=
  match CommandLine.parse words with
  | .error fault => .error (.arguments fault)
  | .ok line =>
    match configOf h line with
    | .error e => .error e
    | .ok c => taskOf c line.command

/-! ## Carrying out on lines in memory -/

/-- What a command leaves behind. -/
structure Outcome where
  exitCode : Nat
  /-- lines on standard output -/
  output : List String := []
  /-- the line it ends with on failure -/
  errorLine : Option String := none
  deriving DecidableEq, Repr

def Outcome.ofFailure (f : Failure) : Outcome where
  exitCode := f.exitCode
  errorLine := f.line?

/-- What is shown where no serial port is found. -/
def noPortsLine : String := "No serial ports found."

/-- The line that a target leads to on a machine without a network and without
serial lines. -/
def offlineLine (h : Host) (t : Target) : PeerLine :=
  match t with
  | .network _ _ => PeerLine.offline t.place
  | .serial path baud _ =>
    { PeerLine.serial path baud with
      peer := false
      absence := .serial (.ofSystem (h.files.lineFault h.cwd path)) }

/-- A port over a line, opened, with the payload written. -/
def begin (line : PeerLine) (a : Attendance) : Except Failure (InUse PeerLine) :=
  match Port.create line a.settings with
  | .error refusal => .error (.port refusal)
  | .ok port =>
    match InUse.openWith {} { port := port } with
    | (.error e, _, _) => .error (.link e)
    | (.ok (), _, u) => .ok (u.write a.payload).2

/-- Take out everything that waits to be read. -/
def drain (u : InUse PeerLine) : List UInt8 × InUse PeerLine :=
  InUse.readUpTo u.port.available u

/-- Attend a dongle at the far end of a line, and show what it has sent. -/
def attend (line : PeerLine) (a : Attendance) : Outcome :=
  match begin line a with
  | .error f => .ofFailure f
  | .ok u =>
    { exitCode := 0, output := (Dump.lines [] ((drain u).1.map some)).map Payload.text }

/-- Carry a command out, with the line that each target leads to. -/
def outcome (lineOf : Host → Target → PeerLine) (h : Host) (words : List String) : Outcome :=
  match plan h words with
  | .error f => .ofFailure f
  | .ok .list => { exitCode := 0, output := [noPortsLine] }
  | .ok (.attend a) => attend (lineOf h a.target) a

end Program

end DongleLink

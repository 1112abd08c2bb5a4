import DongleLink.Port
import DongleLink.Text.Quoted
import DongleLink.Wire.Simulated

/-!
# DongleLink.Diagnostic

Values spelled out with their parts, for logs and for the line a failed command
ends with.
-/

namespace DongleLink

open Text

/-! ## Faults -/

/-- A fault with its kind and text. -/
def IoFault.diagnostic : IoFault → String
  | bare k => s!"Kind({k.name})"
  | described k t => "Error \x7b kind: " ++ k.name ++ ", message: " ++ quoted t ++ " \x7d"
  | system n =>
    "Os \x7b code: " ++ toString n ++ ", kind: " ++ (systemKind n).name ++ ", message: "
      ++ quoted (systemText n) ++ " \x7d"

/-- The name of a serial fault's kind. -/
def SerialKind.name : SerialKind → String
  | noDevice => "NoDevice"
  | invalidInput => "InvalidInput"
  | unknown => "Unknown"
  | io k => s!"Io({k.name})"

/-- A link error with its parts. -/
def LinkError.diagnostic : LinkError → String
  | connectTimeout target after =>
    "ConnectTimeout \x7b target: " ++ quoted target ++ ", timeout: " ++ after.text ++ " \x7d"
  | refused target => s!"Refused({quoted target})"
  | deviceNotFound path => s!"NotFound({quoted path})"
  | invalidTarget target reason =>
    "InvalidTarget \x7b target: " ++ quoted target ++ ", reason: " ++ quoted reason ++ " \x7d"
  | alreadyOpen => "AlreadyOpen"
  | io fault => s!"Io({fault.diagnostic})"
  | serial fault =>
    "Serial(Error \x7b kind: " ++ fault.kind.name ++ ", description: " ++ quoted fault.text
      ++ " \x7d)"

/-! ## Ports and wires -/

/-- A port with what it leads to and whether it is open. -/
def Port.diagnostic {σ : Type} [Wire σ] (p : Port σ) : String :=
  "TransportPort \x7b target: " ++ quoted (Wire.place p.wire) ++ ", open: " ++ toString p.isOpen
    ++ ", available: " ++ toString p.available ++ " \x7d"

/-- A simulated dongle with its name and what waits to be read from it. -/
def Simulated.diagnostic (s : Simulated) : String :=
  "MockConnector \x7b name: " ++ quoted s.name ++ ", pending_bytes: " ++ toString s.queue.length
    ++ " \x7d"

/-- A stream taken from a simulated dongle, which shows none of its parts. -/
def Bench.streamDiagnostic : String := "StreamPair \x7b .. \x7d"

end DongleLink

import DongleLink.IoFault
import DongleLink.Span

/-!
# DongleLink.LinkError

Why a link could not be set up.  Only the way to an open link reports errors;
what goes wrong later is counted and absorbed by the port.
-/

namespace DongleLink

/-- What sort of fault a serial line reports. -/
inductive SerialKind where
  | noDevice
  | invalidInput
  | unknown
  | io (kind : IoKind)
  deriving DecidableEq, Repr, Inhabited

/-- A fault of a serial line. -/
structure SerialFault where
  kind : SerialKind
  text : String
  deriving DecidableEq, Repr, Inhabited

/-- A serial fault that comes from a stream fault and takes over its text. -/
def SerialFault.ofIoFault (f : IoFault) : SerialFault := ⟨.io f.kind, f.text⟩

/-- The numbers of the faults whose kind a serial line tells. -/
def SerialFault.toldNumbers : List Nat := [2, 4, 11, 13, 98, 99, 103, 104, 107, 110, 111]

/-- A serial fault that comes from a numbered one. -/
def SerialFault.ofSystem (number : Nat) : SerialFault where
  kind := if toldNumbers.contains number then .io (systemKind number) else .unknown
  text := if number = 25 then "Not a typewriter" else systemText number

/-- Why a link could not be set up. -/
inductive LinkError where
  /-- no connection within the time allowed -/
  | connectTimeout (target : String) (after : Span)
  /-- the other end refused the connection -/
  | refused (target : String)
  /-- there is no such serial device -/
  | deviceNotFound (path : String)
  /-- the target cannot be understood or resolved -/
  | invalidTarget (target reason : String)
  /-- the port holds a live link already -/
  | alreadyOpen
  | io (fault : IoFault)
  | serial (fault : SerialFault)
  deriving DecidableEq, Repr, Inhabited

/-- What the user reads. -/
def LinkError.message : LinkError → String
  | connectTimeout target after => s!"Connection to {target} timed out after {after.text}"
  | refused target => s!"Connection refused by {target}"
  | deviceNotFound path => s!"Serial device not found: {path}"
  | invalidTarget target reason => s!"Invalid connection target '{target}': {reason}"
  | alreadyOpen => "Port is already open"
  | io fault => s!"I/O error: {fault.text}"
  | serial fault => s!"Serial port error: {fault.text}"

end DongleLink

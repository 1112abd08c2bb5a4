import DongleLink.Text.Case

/-!
# DongleLink.FlowControl

How a serial line keeps its sender from overrunning its receiver.
-/

namespace DongleLink

/-- Flow control of a serial line. -/
inductive FlowControl where
  | none
  /-- pause and resume bytes in the data -/
  | software
  /-- request and clear lines beside the data -/
  | hardware
  deriving DecidableEq, Repr, Inhabited

namespace FlowControl

def all : List FlowControl := [none, software, hardware]

/-- The mode's name in target strings and configuration files. -/
def name : FlowControl → String
  | none => "none"
  | software => "software"
  | hardware => "hardware"

/-- Every accepted spelling, in lower case. -/
def spellings : List (String × FlowControl) :=
  [("none", none), ("off", none), ("software", software), ("xonxoff", software),
    ("hardware", hardware), ("rtscts", hardware)]

/-- A mode by any of its spellings, in any mixture of cases. -/
def ofText? (s : String) : Option FlowControl := spellings.lookup (Text.lowered s)

/-- The complaint about a text that names no mode. -/
def unknownText (s : String) : String := s!"unknown flow control mode '{Text.lowered s}'"

end FlowControl

end DongleLink

import DongleLink.Config
import DongleLink.Toml.Writer

/-!
# DongleLink.Config.Encode

The TOML document of a configuration.  Every key is written, apart from a port
that is not set.  Integers of a document have 64 bits with a sign, so a larger
number cannot be written.
-/

namespace DongleLink.Config

open Text Toml

/-- The largest integer of a document. -/
def largestInteger : Nat := 9223372036854775807

/-- The text of a number, if a document can hold it. -/
def numeral? (n : Nat) : Option (List Char) :=
  if n ≤ largestInteger then some (decimal n) else none

/-- A line with a number. -/
def numberLine? (key : String) (n : Nat) : Option (List Char) :=
  (numeral? n).map (Writer.entry key.toList)

/-- A line with a text. -/
def textLine (key value : String) : List Char :=
  Writer.entry key.toList (Writer.text value.toList)

/-- The line of a section's header. -/
def headerLine (path : List String) : List Char := Writer.header (path.map String.toList)

/-! ## Sections -/

def Transport.lines? (t : Transport) : Option (List Char) := do
  let ring ← numberLine? "rx_buffer_capacity" t.ringCapacity.toNat
  let chunk ← numberLine? "chunk_size" t.chunkSize.toNat
  let timeout ← numberLine? "connect_timeout_ms" t.connectTimeoutMs.toNat
  let poll ← numberLine? "poll_interval_ms" t.pollIntervalMs.toNat
  return headerLine ["transport"] ++ ring ++ chunk ++ timeout ++ poll

def Serial.lines? (s : Serial) : Option (List Char) := do
  let baud ← numberLine? "default_baud" s.baud.toNat
  return headerLine ["serial"] ++ baud ++ textLine "flow_control" s.flow.name

/-- The section of the aliases, which stands below the serial one. -/
def Serial.aliasLines (s : Serial) : List Char :=
  headerLine ["serial", "port_aliases"]
    ++ s.aliases.entries.flatMap fun (name, target) => textLine name target

def Network.lines? (n : Network) : Option (List Char) :=
  match n.port with
  | none => some (headerLine ["network"])
  | some port =>
    (numberLine? "default_port" port.toNat).map (headerLine ["network"] ++ ·)

def Logging.lines (l : Logging) : List Char :=
  headerLine ["logging"] ++ textLine "level" l.level ++ textLine "format" l.format.name

/-! ## The document -/

/-- The document of a configuration, with an empty line between sections; `none`
if a number is too large for it. -/
def encode? (c : Config) : Option String := do
  let transport ← c.transport.lines?
  let serial ← c.serial.lines?
  let network ← c.network.lines?
  let parts := [transport, serial, c.serial.aliasLines, network, c.logging.lines]
  return String.ofList (List.intercalate ['\n'] parts)

end DongleLink.Config

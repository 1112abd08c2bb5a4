import DongleLink.FlowControl
import DongleLink.Span

/-!
# DongleLink.Settings

The numbers a link runs by: the settings of a port, and what one opening of it
may override.
-/

namespace DongleLink

/-! ## Standard values -/

/-- Slots of the receive ring unless told otherwise. -/
def standardRingCapacity : Nat := 512

/-- Bytes asked of a stream at a time unless told otherwise. -/
def standardChunkSize : Nat := 1024

/-- Baud rate of a serial dongle unless told otherwise. -/
def standardBaud : UInt32 := 115200

/-- The most bytes that one block of memory may have. -/
def largestBlock : Nat := 9223372036854775807

/-! ## A port's settings -/

/-- What a port is built with. -/
structure Settings where
  /-- slots of the receive ring, of which one stays free -/
  ringCapacity : Nat := standardRingCapacity
  /-- the most bytes taken from the stream at a time -/
  chunkSize : Nat := standardChunkSize
  /-- the longest wait for a network connection -/
  connectTimeout : Span := .ofSeconds 5
  /-- how long the receive loop waits before it looks whether it should stop -/
  pollInterval : Span := .ofMillis 100
  deriving DecidableEq, Repr, Inhabited

/-! ## Overrides of one opening -/

/-- What one opening of a serial line sets differently. -/
structure LineOverrides where
  baud : Option UInt32 := none
  flow : Option FlowControl := none
  deriving DecidableEq, Repr, Inhabited

/-- Nothing is overridden. -/
def LineOverrides.isEmpty (o : LineOverrides) : Bool := o.baud.isNone && o.flow.isNone

end DongleLink

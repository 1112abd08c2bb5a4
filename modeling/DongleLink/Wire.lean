import DongleLink.LinkError
import DongleLink.Settings

/-!
# DongleLink.Wire

What a port asks of a stream.  A wire is a value: connecting, reading, writing
and shutting down give the wire as it is afterwards.  Three questions tell what
would happen next without doing it: whether a read would find nothing (`idle`),
how many reads there can be before that (`backlog`), and whether a write would
be held up (`holds`).
-/

namespace DongleLink

/-- What one read of a stream brings. -/
inductive Received where
  | data (bytes : List UInt8)
  /-- the stream is over -/
  | ended
  | failed (fault : IoFault)
  deriving DecidableEq, Repr

/-- A read after which the receive loop reads no more. -/
def Received.isFinal : Received → Bool
  | data _ => false
  | ended => true
  | failed fault => !fault.isTransient

/- A write that is held up has no result yet, so a port asks `holds` first, parks the write, and
carries it out when the wire lets it go.  The receive loop asks `idle`, where a thread would wait
for its stream. -/

/-- A stream that a port can hold. -/
class Wire (σ : Type) where
  /-- the name of the place the stream leads to -/
  place : σ → String
  connect : LineOverrides → Settings → σ → Except LinkError Unit × σ
  /-- read up to so many bytes -/
  readChunk : Nat → σ → Received × σ
  /-- a read would bring nothing until something else happens -/
  idle : σ → Bool
  /-- a bound on the reads before the wire is idle or over -/
  backlog : σ → Nat
  /-- a write that comes now is held up -/
  holds : σ → Bool
  /-- a write begins to wait -/
  park : σ → σ
  /-- a write ends its wait -/
  unpark : σ → σ
  /-- carry out a write that is not held up -/
  write : List UInt8 → σ → Except IoFault Unit × σ
  shutdown : σ → σ

end DongleLink

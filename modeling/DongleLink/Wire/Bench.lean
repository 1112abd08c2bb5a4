import DongleLink.Wire.Simulated

/-!
# DongleLink.Wire.Bench

Several streams taken from one simulated dongle and used side by side.  They
share everything but their calls: each stream can have one write that is held
up.
-/

namespace DongleLink

/-- A simulated dongle and the streams taken from it. -/
structure Bench where
  dongle : Simulated
  /-- how many streams were taken -/
  streams : Nat := 0
  /-- held writes with their streams, in the order they came -/
  held : List (Nat × List UInt8) := []
  deriving DecidableEq, Repr

namespace Bench

/-- What a write on a stream is told. -/
inductive WriteAnswer where
  | noStream
  /-- the stream has a held write already -/
  | busy
  | held
  | finished (result : Except IoFault Unit)

/-! ## Held writes -/

/- A held write is an entry in a list, and whoever changes the dongle carries out what is held no
longer.  With threads the sleepers do that themselves: see `Bench.Event`. -/

/-- Carry out writes that were held, in order. -/
def finishAll : List (Nat × List UInt8) → Simulated → List (Except IoFault Unit) × Simulated
  | [], s => ([], s)
  | (_, bytes) :: rest, s =>
    let (result, s) := s.unpark.write bytes
    let (results, s) := finishAll rest s
    (result :: results, s)

/-- Carry out the held writes if the dongle holds them no longer. -/
def release (b : Bench) : List (Except IoFault Unit) × Bench :=
  if b.dongle.holds then ([], b)
  else
    let (results, dongle) := finishAll b.held b.dongle
    (results, { b with dongle := dongle, held := [] })

/-! ## Actions -/

/-- Something is done to the dongle; the list tells how held writes ended. -/
def control (c : Simulated.Control) (b : Bench) : List (Except IoFault Unit) × Bench :=
  { b with dongle := c.apply b.dongle }.release

/-- Take one more stream; the number is its index. -/
def connect (o : LineOverrides) (settings : Settings) (b : Bench) :
    Except LinkError Nat × Bench :=
  match b.dongle.connect o settings with
  | (.error e, dongle) => (.error e, { b with dongle := dongle })
  | (.ok (), dongle) => (.ok b.streams, { b with dongle := dongle, streams := b.streams + 1 })

/-- Read from a stream, if there is one of this index. -/
def read (stream n : Nat) (b : Bench) : Option Received × Bench :=
  if b.streams ≤ stream then (none, b)
  else
    let (received, dongle) := b.dongle.readChunk n
    (some received, { b with dongle := dongle })

/-- Write to a stream. -/
def write (stream : Nat) (bytes : List UInt8) (b : Bench) : WriteAnswer × Bench :=
  if b.streams ≤ stream then (.noStream, b)
  else if b.held.any (·.1 == stream) then (.busy, b)
  else if b.dongle.holds then
    (.held, { b with dongle := b.dongle.park, held := b.held ++ [(stream, bytes)] })
  else
    let (result, dongle) := b.dongle.write bytes
    (.finished result, { b with dongle := dongle })

/-- Shut a stream down; `none` if there is no such stream. -/
def shutdown (stream : Nat) (b : Bench) : Option (List (Except IoFault Unit) × Bench) :=
  if b.streams ≤ stream then none else some { b with dongle := b.dongle.shutdown }.release

end Bench

end DongleLink

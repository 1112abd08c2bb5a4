import DongleLink.Inbox
import DongleLink.Wire

/-!
# DongleLink.Port

A byte port over any wire.  Opening attaches a stream and starts its receive
loop; the loop moves what it receives into the ring; readers take bytes out one
at a time; writes go straight to the wire and are only counted.

A port here is the state between two actions of its users and its loop.  Who
waits for what is the matter of `DongleLink.Port.InUse`.
-/

namespace DongleLink

/-! ## Parts -/

/- A session is told four times: by `session` itself, to the loop by `running`, to writers by
`writer` and to readers by `linkUp`.  Each is asked by somebody else and set at a time of its own,
so none is computed from another; that they agree after every action is a result
(`Port.Coherent`). -/

/-- Bytes and failures counted since the port was made, modulo 2^64. -/
structure Counters where
  received : UInt64 := 0
  delivered : UInt64 := 0
  written : UInt64 := 0
  evicted : UInt64 := 0
  writeFailures : UInt64 := 0
  deriving DecidableEq, Repr, Inhabited

/-- The receive loop of a session. -/
inductive Loop where
  /-- reads from the stream -/
  | reading
  /-- has marked the link down and reads no more -/
  | ended
  /-- died before its first read and never marks anything -/
  | dead
  deriving DecidableEq, Repr

/-- A byte port over a wire. -/
structure Port (σ : Type) where
  wire : σ
  settings : Settings
  inbox : Inbox
  /-- the receive loop is wanted -/
  running : Bool := false
  /-- the receive loop of the attached stream, if one is attached -/
  session : Option Loop := none
  /-- the sending half of a stream is attached -/
  writer : Bool := false
  counters : Counters := {}

/-- What became of one write. -/
inductive WriteFate where
  | delivered (bytes : List UInt8)
  | failed (fault : IoFault)
  /-- no stream was attached, or it was being taken down -/
  | ignored
  deriving DecidableEq, Repr

namespace Port

variable {σ : Type}

/-! ## Making a port -/

/-- Why a port cannot be made. -/
inductive Refusal where
  | emptyChunk
  | ring (r : Ring.Refusal)
  deriving DecidableEq, Repr

/-- What the refusal says. -/
def Refusal.message : Refusal → String
  | emptyChunk => "chunk size must be non-zero"
  | ring r => r.message

/-- A closed port over a wire. -/
def create (wire : σ) (settings : Settings) : Except Refusal (Port σ) :=
  if settings.chunkSize = 0 then .error .emptyChunk
  else
    match Ring.create settings.ringCapacity with
    | .error r => .error (.ring r)
    | .ok ring =>
      .ok { wire := wire, settings := settings, inbox := { ring := ring, linkUp := false } }

/-! ## Looking at it -/

/-- A stream is attached and its receive loop has not ended. -/
def isOpen (p : Port σ) : Bool := p.inbox.linkUp

/-- How many received bytes wait to be read. -/
def available (p : Port σ) : Nat := p.inbox.ring.length

/-- The receive loop is about to read again. -/
def listens (p : Port σ) : Bool := p.running && p.session == some .reading

/-! ## The receive loop -/

/-- Store a chunk and count it. -/
def ingest (bytes : List UInt8) (p : Port σ) : Port σ :=
  let (evicted, inbox) := p.inbox.ingest bytes
  { p with
    inbox := inbox
    counters :=
      { p.counters with
        evicted := p.counters.evicted + .ofNat evicted
        received := p.counters.received + .ofNat bytes.length } }

/-- The receive loop ends and marks the link down. -/
def endLoop (p : Port σ) : Port σ :=
  { p with inbox := p.inbox.linkDown, session := p.session.map fun _ => .ended }

/-- What the receive loop does with the result of a read. -/
def hear (r : Received) (p : Port σ) : Port σ :=
  match r with
  | .data bytes => if bytes.isEmpty then p.endLoop else p.ingest bytes
  | .ended => p.endLoop
  | .failed fault => if fault.isTransient then p else p.endLoop

/-! ## Opening and closing -/

/- Opening can fail in three places: the link is live, the connection is turned down, or there is
no thread for the loop.  By the last of these the ring has been cleared and the link marked up, and
taking a new stream back is what closing does, so `openThreaded` needs no more than `openWith` and
`teardown`. -/

/-- Take the stream down, if one is attached. -/
def teardown [Wire σ] (p : Port σ) : Port σ :=
  let p := { p with running := false, inbox := p.inbox.linkDown }
  match p.session with
  | none => p
  | some _ => { p with wire := Wire.shutdown p.wire, session := none, writer := false }

/-- The loop that starts with a chunk buffer of the given size. -/
def startedLoop (chunkSize : Nat) : Loop :=
  if chunkSize ≤ largestBlock then .reading else .dead

/-- Connect, and attach the stream if that works. -/
def attach [Wire σ] (o : LineOverrides) (p : Port σ) : Except LinkError Unit × Port σ :=
  match Wire.connect o p.settings p.wire with
  | (.error e, wire) => (.error e, { p with wire := wire })
  | (.ok (), wire) =>
    (.ok (),
      { p with
        wire := wire
        inbox := p.inbox.attach
        running := true
        session := some (startedLoop p.settings.chunkSize)
        writer := true })

/-- Open the port.  A live link is left alone; a dead one is taken down first. -/
def openWith [Wire σ] (o : LineOverrides) (p : Port σ) : Except LinkError Unit × Port σ :=
  match p.session with
  | none => p.attach o
  | some _ => if p.inbox.linkUp then (.error .alreadyOpen, p) else p.teardown.attach o

/-- Open the port where the system may have no thread for the receive loop.  What was done for the
new stream is then taken back. -/
def openThreaded [Wire σ] (thread : Except IoFault Unit) (o : LineOverrides) (p : Port σ) :
    Except LinkError Unit × Port σ :=
  match p.openWith o with
  | (.error e, p) => (.error e, p)
  | (.ok (), p) =>
    match thread with
    | .ok () => (.ok (), p)
    | .error fault => (.error (.io fault), p.teardown)

/-- Close the port. -/
def close [Wire σ] (p : Port σ) : Port σ := p.teardown

/-! ## Reading and writing -/

/-- A reader looks for a byte. -/
def look (p : Port σ) : Found × Port σ :=
  match p.inbox.look with
  | (.byte b, inbox) =>
    (.byte b,
      { p with
        inbox := inbox
        counters := { p.counters with delivered := p.counters.delivered + 1 } })
  | (other, inbox) => (other, { p with inbox := inbox })

/-- Forget what is unread. -/
def purge (p : Port σ) : Port σ := { p with inbox := p.inbox.purge }

/-- A write finds a stream to write to. -/
def accepts (p : Port σ) : Bool := p.writer && p.running

/-- Count what became of a write. -/
def count (fate : WriteFate) (p : Port σ) : Port σ :=
  match fate with
  | .delivered bytes =>
    { p with
      counters := { p.counters with written := p.counters.written + .ofNat bytes.length } }
  | .failed _ =>
    { p with
      counters := { p.counters with writeFailures := p.counters.writeFailures + 1 } }
  | .ignored => p

/-- Hand bytes to the wire, which does not hold them up. -/
def transmit [Wire σ] (bytes : List UInt8) (p : Port σ) : WriteFate × Port σ :=
  match Wire.write bytes p.wire with
  | (.ok (), wire) => (.delivered bytes, { p with wire := wire }.count (.delivered bytes))
  | (.error fault, wire) => (.failed fault, { p with wire := wire }.count (.failed fault))

end Port

end DongleLink

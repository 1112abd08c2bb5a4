import DongleLink.Course
import DongleLink.Wire.Bench

/-!
# DongleLink.Wire.Bench.Event

A simulated dongle that several threads use at the same time.  An `Event` is one section under
the lock of the dongle, or the wake-up of the sleepers that is given after such a section, when
others may already have been at work.  A held write sleeps; once woken it looks again whether
it is still held up.  `play` tells what an event leads to and what is reported of it, and gives
`none` where it cannot happen.
-/

namespace DongleLink

/-- What is done to the dongle wakes the sleepers. -/
def Simulated.Control.wakes : Control → Bool
  | enqueue _ | disconnect | stall _ => true
  | turnDown _ | failWrites _ | echo _ | clearLog => false

namespace Bench

/- Who changes the dongle gives its lock back before it wakes the sleepers, and a sleeper that was
woken has to get the lock before it can look.  Others may come in between, so the state holds the
wake-ups that are still owed and the sleepers that have yet to look. -/

/-- A bench with the threads that are at work on it. -/
structure Scene extends Bench where
  /-- how many wake-ups are owed to the sleepers -/
  owed : Nat := 0
  /-- streams whose held write was woken and has yet to look -/
  awake : List Nat := []
  deriving DecidableEq, Repr

/-- What can happen to a bench. -/
inductive Event where
  | control (c : Simulated.Control)
  | connect (o : LineOverrides) (settings : Settings)
  /-- a read ends, be it that it has waited before or not -/
  | read (stream n : Nat)
  /-- a write comes -/
  | write (stream : Nat) (bytes : List UInt8)
  | shutdown (stream : Nat)
  /-- somebody who owes the sleepers a wake-up gives it -/
  | wake
  /-- a held write that was woken looks whether it is still held up -/
  | look (stream : Nat)
  deriving DecidableEq, Repr

/-- It is the work of sleepers and of those who owe them a wake-up, and nobody comes anew. -/
def Event.isWork : Event → Bool
  | wake | look _ => true
  | _ => false

/-- What is reported of an event. -/
inductive Report where
  | done
  | connected (result : Except LinkError Nat)
  | received (r : Received)
  /-- a write sleeps -/
  | parked
  /-- a write of these bytes has ended -/
  | wrote (bytes : List UInt8) (result : Except IoFault Unit)

/-- What one thread does on a bench. -/
inductive Use where
  | control (c : Simulated.Control)
  | connect (o : LineOverrides) (settings : Settings)
  | read (stream n : Nat)
  | write (stream : Nat) (bytes : List UInt8)
  | shutdown (stream : Nat)
  deriving DecidableEq, Repr

/-- The section under the lock with which a use begins; all that follows is work. -/
def Use.event : Use → Event
  | control c => .control c
  | connect o settings => .connect o settings
  | read stream n => .read stream n
  | write stream bytes => .write stream bytes
  | shutdown stream => .shutdown stream

/-- The bench after a use of it, when all who were woken by it have done their work. -/
def Use.apply (u : Use) (b : Bench) : Bench :=
  match u with
  | control c => (b.control c).2
  | connect o settings => (b.connect o settings).2
  | read stream n => (b.read stream n).2
  | write stream bytes => (b.write stream bytes).2
  | shutdown stream => (b.shutdown stream).elim b (·.2)

namespace Scene

/-- A bench where nobody is at work. -/
def quiet (b : Bench) : Scene := { toBench := b }

/-- A new dongle from which no stream was taken. -/
def fresh (name : String) (echo : Bool) : Scene :=
  quiet { dongle := { name := name, echo := echo } }

/-- Nobody is owed a wake-up, and nobody who was woken has yet to look. -/
def AtRest (s : Scene) : Prop := s.owed = 0 ∧ s.awake = []

/-- How many wake-ups are owed for a write with this result: only one that comes back brings
bytes. -/
def owedFor (result : Except IoFault Unit) (dongle : Simulated) : Nat :=
  match result with
  | .ok () => if dongle.echo then 1 else 0
  | .error _ => 0

/-- A held write that was woken looks again: it sleeps on, or is carried out. -/
def look (stream : Nat) (s : Scene) : Option (Report × Scene) :=
  if stream ∈ s.awake then
    match s.held.find? (·.1 == stream) with
    | none => none
    | some (_, bytes) =>
      if s.dongle.holds then some (.parked, { s with awake := s.awake.erase stream })
      else
        let (result, dongle) := s.dongle.unpark.write bytes
        some (.wrote bytes result,
          { s with
            dongle := dongle
            held := s.held.eraseP (·.1 == stream)
            owed := s.owed + owedFor result s.dongle
            awake := s.awake.erase stream })
  else none

/-- What an event leads to, and what is reported of it, if it can happen. -/
def play (e : Event) (s : Scene) : Option (Report × Scene) :=
  match e with
  | .control c =>
    some (.done,
      { s with dongle := c.apply s.dongle, owed := s.owed + if c.wakes then 1 else 0 })
  | .connect o settings =>
    let (result, bench) := s.toBench.connect o settings
    some (.connected result, { s with toBench := bench })
  | .read stream n =>
    match s.toBench.read stream n with
    | (none, _) => none
    | (some r, bench) => some (.received r, { s with toBench := bench })
  | .write stream bytes =>
    match s.toBench.write stream bytes with
    | (.noStream, _) | (.busy, _) => none
    | (.held, bench) => some (.parked, { s with toBench := bench })
    | (.finished result, bench) =>
      some (.wrote bytes result,
        { s with toBench := bench, owed := s.owed + owedFor result s.dongle })
  | .shutdown stream =>
    if s.streams ≤ stream then none
    else some (.done, { s with dongle := s.dongle.shutdown, owed := s.owed + 1 })
  | .wake =>
    if s.owed = 0 then none
    else some (.done, { s with owed := s.owed - 1, awake := s.held.map (·.1) })
  | .look stream => s.look stream

/-- What an event leads to, if it can happen. -/
def step (e : Event) (s : Scene) : Option Scene := (play e s).map (·.2)

/-! ## What comes in and goes out -/

/-- The bytes that an event hands to a reader. -/
def handed (e : Event) (s : Scene) : List UInt8 :=
  match play e s with
  | some (.received (.data bytes), _) => bytes
  | _ => []

/-- The bytes that an event brings for readers: what is enqueued, and what is written with
success while there is an echo. -/
def fed (e : Event) (s : Scene) : List UInt8 :=
  match e, play e s with
  | .control (.enqueue bytes), _ => bytes
  | _, some (.wrote bytes (.ok ()), _) => if s.dongle.echo then bytes else []
  | _, _ => []

/-- What bears on whether the stream is over. -/
inductive Mark where
  /-- the dongle hung up, or a stream was shut down -/
  | ending
  /-- a connection was made -/
  | beginning
  deriving DecidableEq, Repr

/-- What an event has to do with the stream being over. -/
def marks (e : Event) (s : Scene) : List Mark :=
  match e, play e s with
  | .control .disconnect, _ | .shutdown _, some _ => [.ending]
  | _, some (.connected (.ok _), _) => [.beginning]
  | _, _ => []

end Scene

end Bench

end DongleLink

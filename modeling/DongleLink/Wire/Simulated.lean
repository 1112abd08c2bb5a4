import DongleLink.Wire

/-!
# DongleLink.Wire.Simulated

A dongle in memory.  What is enqueued, and what is written while the echo is on,
is what the port receives; what the port writes is kept in a log.  The dongle can
hang up, refuse a connection, fail writes, or hold them up.
-/

namespace DongleLink

/-- How a simulated dongle turns a connection down. -/
inductive TurnDown where
  | refused
  | timeout
  deriving DecidableEq, Repr

/-- A dongle in memory. -/
structure Simulated where
  name : String
  /-- bytes that the port will receive -/
  queue : List UInt8 := []
  /-- successful writes, oldest first -/
  log : List (List UInt8) := []
  /-- writes come back as received bytes -/
  echo : Bool := false
  /-- the dongle has hung up -/
  hungUp : Bool := false
  /-- the port has shut the stream down -/
  shut : Bool := false
  /-- how the next connection is turned down -/
  turnDown : Option TurnDown := none
  failWrites : Bool := false
  /-- writes are held up while the stream lives -/
  stall : Bool := false
  /-- writes that are waiting now -/
  blocked : Nat := 0
  /-- successful connections -/
  connects : Nat := 0
  /-- overrides of the last successful connection -/
  lastOverrides : Option LineOverrides := none
  deriving DecidableEq, Repr

namespace Simulated

/-! ## The dongle's side -/

/-- What can be done to the dongle. -/
inductive Control where
  | enqueue (bytes : List UInt8)
  /-- the dongle hangs up -/
  | disconnect
  /-- the next connection is turned down -/
  | turnDown (how : TurnDown)
  | failWrites (on : Bool)
  | echo (on : Bool)
  | stall (on : Bool)
  | clearLog
  deriving DecidableEq, Repr

/-- The dongle after something is done to it. -/
def Control.apply (c : Control) (s : Simulated) : Simulated :=
  match c with
  | enqueue bytes => { s with queue := s.queue ++ bytes }
  | disconnect => { s with hungUp := true }
  | turnDown how => { s with turnDown := some how }
  | failWrites on => { s with failWrites := on }
  | echo on => { s with echo := on }
  | stall on => { s with stall := on }
  | clearLog => { s with log := [] }

/-- All written bytes. -/
def written (s : Simulated) : List UInt8 := s.log.flatten

/-! ## The port's side -/

/- The queue belongs to the dongle and outlives the streams.  What is in it is received before the
end of the stream is noticed, and on the next stream if nobody listened; a connection takes back
only what has ended the last stream. -/

/-- The stream is over for both sides. -/
def isOver (s : Simulated) : Bool := s.hungUp || s.shut

def connect (o : LineOverrides) (settings : Settings) (s : Simulated) :
    Except LinkError Unit × Simulated :=
  match s.turnDown with
  | some .refused => (.error (.refused s.name), { s with turnDown := none })
  | some .timeout =>
    (.error (.connectTimeout s.name settings.connectTimeout), { s with turnDown := none })
  | none =>
    (.ok (),
      { s with
        connects := s.connects + 1
        lastOverrides := some o
        hungUp := false
        shut := false })

/-- The fault of a read that found nothing in time. -/
def nothingYet : IoFault := .described .timedOut "no data available"

def readChunk (n : Nat) (s : Simulated) : Received × Simulated :=
  if s.queue.isEmpty then
    if s.isOver then (.ended, s) else (.failed nothingYet, s)
  else (.data (s.queue.take n), { s with queue := s.queue.drop n })

def idle (s : Simulated) : Bool := s.queue.isEmpty && !s.isOver

def holds (s : Simulated) : Bool := s.stall && !s.isOver

/-- A write that is not held up. -/
def write (bytes : List UInt8) (s : Simulated) : Except IoFault Unit × Simulated :=
  if s.failWrites then (.error (.described .brokenPipe "simulated write failure"), s)
  else if s.isOver then (.error (.described .notConnected "stream is closed"), s)
  else
    (.ok (),
      { s with
        log := s.log ++ [bytes]
        queue := if s.echo then s.queue ++ bytes else s.queue })

def park (s : Simulated) : Simulated := { s with blocked := s.blocked + 1 }

def unpark (s : Simulated) : Simulated := { s with blocked := s.blocked - 1 }

def shutdown (s : Simulated) : Simulated := { s with shut := true }

instance : Wire Simulated where
  place s := s!"mock://{s.name}"
  connect := connect
  readChunk := readChunk
  idle := idle
  backlog s := s.queue.length + 1
  holds := holds
  park := park
  unpark := unpark
  write := write
  shutdown := shutdown

end Simulated

end DongleLink

import DongleLink.Wire

/-!
# DongleLink.Wire.Scripted

A stream that plays a script.  Each read takes the first event; connections and
writes follow queues of their own.  The script survives the sessions that read
it.
-/

namespace DongleLink

/-- An event of a script. -/
inductive Cue where
  | data (bytes : List UInt8)
  | fault (fault : IoFault)
  /-- the stream is over -/
  | over
  deriving DecidableEq, Repr

/-- Reads that one event can take. -/
def Cue.reads : Cue → Nat
  | .data bytes => bytes.length + 1
  | _ => 1

/-- A stream that plays a script. -/
structure Scripted where
  name : String
  cues : List Cue := []
  /-- faults of the coming connections -/
  turnDowns : List LinkError := []
  /-- outcomes of the coming writes -/
  writeFaults : List (Option IoFault) := []
  /-- fault of the next shutdown, which takes effect all the same -/
  shutdownFault : Option IoFault := none
  shut : Bool := false
  /-- successful writes, oldest first -/
  log : List (List UInt8) := []
  /-- sizes of the chunks that were read -/
  chunks : List Nat := []
  /-- successful connections -/
  connects : Nat := 0
  /-- overrides of the last successful connection -/
  lastOverrides : Option LineOverrides := none
  deriving DecidableEq, Repr

namespace Scripted

/-- Add events to the script; empty data are left out. -/
def feed (cues : List Cue) (s : Scripted) : Scripted :=
  { s with cues := s.cues ++ cues.filter (· ≠ .data []) }

def connect (o : LineOverrides) (s : Scripted) : Except LinkError Unit × Scripted :=
  match s.turnDowns with
  | e :: rest => (.error e, { s with turnDowns := rest })
  | [] =>
    (.ok (), { s with connects := s.connects + 1, lastOverrides := some o, shut := false })

def readChunk (n : Nat) (s : Scripted) : Received × Scripted :=
  match s.cues with
  | [] => if s.shut then (.ended, s) else (.failed (.bare .timedOut), s)
  | .data bytes :: rest =>
    let left := bytes.drop n
    let cues := if left.isEmpty then rest else .data left :: rest
    let taken := bytes.take n
    (.data taken, { s with cues := cues, chunks := s.chunks ++ [taken.length] })
  | .fault f :: rest => (.failed f, { s with cues := rest })
  | .over :: rest => (.ended, { s with cues := rest })

def idle (s : Scripted) : Bool := s.cues.isEmpty && !s.shut

def write (bytes : List UInt8) (s : Scripted) : Except IoFault Unit × Scripted :=
  match s.writeFaults with
  | some f :: rest => (.error f, { s with writeFaults := rest })
  | none :: rest => (.ok (), { s with writeFaults := rest, log := s.log ++ [bytes] })
  | [] => (.ok (), { s with log := s.log ++ [bytes] })

def shutdown (s : Scripted) : Scripted := { s with shutdownFault := none, shut := true }

instance : Wire Scripted where
  place s := s!"script://{s.name}"
  connect o _ := connect o
  readChunk := readChunk
  idle := idle
  backlog s := s.cues.foldr (fun cue n => cue.reads + n) 1
  holds _ := false
  park s := s
  unpark s := s
  write := write
  shutdown := shutdown

end Scripted

end DongleLink

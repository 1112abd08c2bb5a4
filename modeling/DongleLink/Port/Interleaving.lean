import DongleLink.Inbox
import DongleLink.Wire

/-!
# DongleLink.Port.Interleaving

The users, readers and receive loops of a port, running at the same time.  A
`Move` is one piece of work that nobody can look into: a section under the lock
of the inbox, waking the sleepers after it, taking the session lock, reading from
a stream, waiting for a loop to finish.  `step` tells what a move leads to, and gives
`none` where somebody cannot make the move now.

Sessions are numbered from zero, and each unread byte is kept with the number of
the session whose loop stored it, so that one can say where a reader's byte came
from.
-/

namespace DongleLink.Interleaving

/-! ## Places -/

/- There is a place for each point where a thread has given a lock back or is about to take one,
since others can come in there; and a thread at a place knows no more than the place says. -/

/-- Where a reader is. -/
inductive ReaderAt where
  | idle
  /-- about to look for a byte; it sleeps if there is none yet, unless it was told
  not to wait longer -/
  | looking (patient : Bool)
  | asleep
  /-- has a byte and the number of the session it came with, or nothing -/
  | answered (result : Option (UInt8 × Nat))
  deriving DecidableEq, Repr

/-- Where a receive loop is. -/
inductive LoopAt where
  | unborn
  /-- about to look whether it is still wanted -/
  | checking
  /-- waits for its stream -/
  | reading
  /-- about to store what it has read -/
  | storing (bytes : List UInt8)
  /-- has stored bytes and is about to wake the sleepers -/
  | announcing
  /-- about to mark the link down -/
  | leaving
  /-- has marked the link down and is about to wake the sleepers -/
  | parting
  | finished
  deriving DecidableEq, Repr

/-- What a user does once the link is taken down. -/
inductive Aim where
  | close
  | reopen
  deriving DecidableEq, Repr

/-- Where a user is, who holds the session lock unless idle.  A number is that of
the session being taken down, if there is one. -/
inductive UserAt where
  | idle
  /-- about to look whether a session is there, and its link up -/
  | opening
  /-- about to tell the loop that it is not wanted -/
  | stopping (session : Option Nat) (aim : Aim)
  /-- about to mark the link down -/
  | marking (session : Option Nat) (aim : Aim)
  /-- has marked the link down and is about to wake the sleepers -/
  | waking (session : Option Nat) (aim : Aim)
  /-- waits for the loop to finish -/
  | joining (session : Nat) (aim : Aim)
  | connecting
  /-- about to clear the ring and to mark the link up -/
  | attaching
  /-- about to want a loop -/
  | wanting
  /-- about to start the loop of the session with this number -/
  | starting (session : Nat)
  deriving DecidableEq, Repr

/-! ## State -/

/- Users, readers and loops are functions of their numbers, as there may be any number of them.  A
loop has the number of its session, and `sources` runs beside the unread bytes as a record; no move
depends on it. -/

/-- A port with everybody who uses it. -/
structure State where
  inbox : Inbox
  /-- numbers of the sessions that the unread bytes came with, oldest first -/
  sources : List Nat := []
  running : Bool := false
  /-- how many sessions there have been -/
  sessions : Nat := 0
  attached : Option Nat := none
  /-- the user who holds the session lock -/
  lock : Option Nat := none
  loops : Nat → LoopAt := fun _ => .unborn
  users : Nat → UserAt := fun _ => .idle
  readers : Nat → ReaderAt := fun _ => .idle

namespace State

/-- A closed port that nobody uses. -/
def initial (ring : Ring) : State := { inbox := { ring := ring, linkUp := false } }

def setReader (s : State) (reader : Nat) (place : ReaderAt) : State :=
  { s with readers := fun i => if i = reader then place else s.readers i }

def setLoop (s : State) (loop : Nat) (place : LoopAt) : State :=
  { s with loops := fun i => if i = loop then place else s.loops i }

def setUser (s : State) (user : Nat) (place : UserAt) : State :=
  { s with users := fun i => if i = user then place else s.users i }

/-- A user gives the session lock back. -/
def release (s : State) (user : Nat) : State := { s.setUser user .idle with lock := none }

/-- A sleeper that is woken looks again. -/
def wakeReader : ReaderAt → ReaderAt
  | .asleep => .looking true
  | place => place

/-- Wake all sleepers. -/
def wakeAll (s : State) : State := { s with readers := fun i => wakeReader (s.readers i) }

end State

/-! ## Moves -/

/- A schedule names who moves, and the state says what the move does.  Only what comes from outside
is part of a move: the result of a read, and whether a connection works. -/

/-- A piece of work. -/
inductive Move where
  /-- a reader comes -/
  | call (reader : Nat)
  /-- a reader looks for a byte -/
  | look (reader : Nat)
  /-- the time of a reader is over -/
  | expire (reader : Nat)
  /-- the stream gives a loop the result of its read -/
  | read (loop : Nat) (r : Received)
  /-- a loop goes on with what it has begun -/
  | proceed (loop : Nat)
  /-- a user comes to open the port -/
  | beginOpen (user : Nat)
  /-- a user comes to close the port -/
  | beginClose (user : Nat)
  /-- a user goes on with what it has begun -/
  | advance (user : Nat)
  /-- a user's attempt to connect ends -/
  | connect (user : Nat) (works : Bool)
  /-- somebody purges the ring -/
  | purge
  deriving DecidableEq, Repr

/-- A reader looks for a byte. -/
def lookStep (reader : Nat) (s : State) : Option State :=
  match s.readers reader with
  | .looking patient =>
    match s.inbox.look with
    | (.byte b, inbox) =>
      some ({ s with inbox := inbox, sources := s.sources.tail }.setReader reader
        (.answered (some (b, s.sources.headD 0))))
    | (.closed, _) => some (s.setReader reader (.answered none))
    | (.empty, _) => some (s.setReader reader (if patient then .asleep else .answered none))
  | _ => none

/-- Where a loop goes with the result of its read. -/
def afterRead : Received → LoopAt
  | .data bytes => if bytes.isEmpty then .leaving else .storing bytes
  | .ended => .leaving
  | .failed fault => if fault.isTransient then .checking else .leaving

/-- The sources of the unread bytes once a session's loop has stored some, of which
the ring keeps as many as it can. -/
def storedSources (s : State) (session count : Nat) : List Nat :=
  (s.sources ++ List.replicate count session).drop
    (s.sources.length + count - s.inbox.ring.usable)

/-- A loop goes on with what it has begun. -/
def proceedStep (loop : Nat) (s : State) : Option State :=
  match s.loops loop with
  | .checking => some (s.setLoop loop (if s.running then .reading else .leaving))
  | .storing bytes =>
    some ({ s with
      inbox := (s.inbox.ingest bytes).2
      sources := storedSources s loop bytes.length }.setLoop loop .announcing)
  | .announcing => some (s.wakeAll.setLoop loop .checking)
  | .leaving => some ({ s with inbox := s.inbox.linkDown }.setLoop loop .parting)
  | .parting => some (s.wakeAll.setLoop loop .finished)
  | .unborn | .reading | .finished => none

/-- A user takes the session lock, if it is free. -/
def beginStep (user : Nat) (place : UserAt) (s : State) : Option State :=
  if s.users user = .idle ∧ s.lock = none then some { s.setUser user place with lock := some user }
  else none

/-- Where a user goes once the link is down. -/
def afterTeardown (user : Nat) (aim : Aim) (s : State) : State :=
  match aim with
  | .close => s.release user
  | .reopen => s.setUser user .connecting

/-- A user goes on with what it has begun. -/
def advanceStep (user : Nat) (s : State) : Option State :=
  match s.users user with
  | .opening =>
    match s.attached with
    | none => some (s.setUser user .connecting)
    | some session =>
      if s.inbox.linkUp then some (s.release user)
      else some ({ s with attached := none }.setUser user (.stopping (some session) .reopen))
  | .stopping session aim => some ({ s with running := false }.setUser user (.marking session aim))
  | .marking session aim =>
    some ({ s with inbox := s.inbox.linkDown }.setUser user (.waking session aim))
  | .waking none aim => some (afterTeardown user aim s.wakeAll)
  | .waking (some session) aim => some (s.wakeAll.setUser user (.joining session aim))
  | .joining session aim =>
    if s.loops session = .finished then some (afterTeardown user aim s) else none
  | .attaching =>
    some ({ s with inbox := s.inbox.attach, sources := [] }.setUser user .wanting)
  | .wanting => some ({ s with running := true }.setUser user (.starting s.sessions))
  | .starting session =>
    some ({ s.setLoop session .checking with
      sessions := session + 1
      attached := some session }.release user)
  | .idle | .connecting => none

/-- What a move leads to, if it can be made. -/
def step (m : Move) (s : State) : Option State :=
  match m with
  | .call reader =>
    match s.readers reader with
    | .idle | .answered _ => some (s.setReader reader (.looking true))
    | _ => none
  | .look reader => lookStep reader s
  | .expire reader =>
    match s.readers reader with
    | .asleep | .looking _ => some (s.setReader reader (.looking false))
    | _ => none
  | .read loop r =>
    if s.loops loop = .reading then some (s.setLoop loop (afterRead r)) else none
  | .proceed loop => proceedStep loop s
  | .beginOpen user => beginStep user .opening s
  | .beginClose user =>
    (beginStep user (.stopping s.attached .close) s).map fun s => { s with attached := none }
  | .advance user => advanceStep user s
  | .connect user works =>
    if s.users user = .connecting then
      some (if works then s.setUser user .attaching else s.release user)
    else none
  | .purge => some { s with inbox := s.inbox.purge, sources := [] }

end DongleLink.Interleaving

import DongleLink.Course
import DongleLink.Port

/-!
# DongleLink.Port.Writers

A port with everybody who writes to it, at the grain at which writers can tell.  A call that
is not empty waits for the writer lock, has its turn, and goes on until it ends; only the
call with the lock touches the sending half, and whoever attaches or detaches that half needs
the lock for it.

All others work in pieces that come in any order and between any two moves of the writers: what
opening, closing, the receive loop and the readers do is made of such pieces.  The far end of
the wire may do anything at any time (`far`).

The notes of a move tell which calls came, had their turn and ended.
-/

namespace DongleLink

variable {σ κ : Type}

/-! ## The work of others -/

/- The pieces are not tied to each other.  They come in the orders of opening, closing and reading,
but in any other order too, so that what is shown of the writers does not depend on how the others
go about their work. -/

namespace Port

/-- A piece of the work of somebody who does not write. -/
inductive Piece where
  /-- the receive loop is wanted no more -/
  | unwant
  | linkDown
  /-- the session is taken out of its place -/
  | leave
  | shutdown
  /-- the sending half is taken out of its place -/
  | detach
  | connect (o : LineOverrides)
  /-- the ring is cleared and the link marked up -/
  | linkUp
  /-- a receive loop is wanted -/
  | want
  /-- a session with its loop is put in its place -/
  | start
  /-- the sending half is put in its place -/
  | equip
  /-- the receive loop reads from the stream -/
  | read
  /-- the receive loop does what the result of a read asks for -/
  | hear (r : Received)
  | look
  | purge
  deriving DecidableEq, Repr

/-- Only the place of the sending half is under the writer lock. -/
def Piece.needsLock : Piece → Bool
  | detach | equip => true
  | _ => false

/-- The port after a piece of work. -/
def carryOut [Wire σ] (piece : Piece) (p : Port σ) : Port σ :=
  match piece with
  | .unwant => { p with running := false }
  | .linkDown => { p with inbox := p.inbox.linkDown }
  | .leave => { p with session := none }
  | .shutdown => { p with wire := Wire.shutdown p.wire }
  | .detach => { p with writer := false }
  | .connect o => { p with wire := (Wire.connect o p.settings p.wire).2 }
  | .linkUp => { p with inbox := p.inbox.attach }
  | .want => { p with running := true }
  | .start => { p with session := some (startedLoop p.settings.chunkSize) }
  | .equip => { p with writer := true }
  | .read => { p with wire := (Wire.readChunk p.settings.chunkSize p.wire).2 }
  | .hear r => p.hear r
  | .look => p.look.2
  | .purge => p.purge

end Port

/-! ## Writers -/

/-- A call that has something to write, with its number among such calls. -/
structure WriteCall where
  number : Nat
  bytes : List UInt8
  deriving DecidableEq, Repr

/-- The call that has the writer lock and a sending half to write to. -/
structure Holder where
  call : WriteCall
  /-- the wire holds it up -/
  parked : Bool := false
  deriving DecidableEq, Repr

/-- A port and everybody who writes to it. -/
structure Writers (σ : Type) where
  port : Port σ
  /-- how many calls there have been that had something to write -/
  calls : Nat := 0
  /-- calls that wait for the lock -/
  queued : List WriteCall := []
  holder : Option Holder := none

namespace Writers

/-! ## Moves -/

/-- A move of a writer or of somebody else. -/
inductive Move (κ : Type) where
  /-- a writer calls -/
  | write (bytes : List UInt8)
  /-- the waiting call with this index gets the lock, and looks whether it can write -/
  | turn (i : Nat)
  /-- the call with the lock goes on -/
  | goOn
  | piece (p : Port.Piece)
  /-- something happens at the far end of the wire -/
  | onWire (c : κ)
  deriving DecidableEq, Repr

variable [Wire σ]

/-- A call comes; one with nothing to write is over at once. -/
def receive (bytes : List UInt8) (s : Writers σ) : Writers σ :=
  if bytes.isEmpty then s
  else { s with calls := s.calls + 1, queued := s.queued ++ [⟨s.calls, bytes⟩] }

/-- A call has its turn.  If it cannot write it gives the lock back, which ends it. -/
def giveTurn (i : Nat) (call : WriteCall) (s : Writers σ) : Writers σ :=
  { s with
    queued := s.queued.eraseIdx i
    holder := if s.port.accepts then some { call := call } else none }

/-- The wire holds the call up. -/
def park (h : Holder) (s : Writers σ) : Writers σ :=
  { s with port.wire := Wire.park s.port.wire, holder := some { h with parked := true } }

/-- The call hands its bytes to the wire, and it is counted what became of them. -/
def carry (h : Holder) (p : Port σ) : WriteFate × Port σ :=
  { p with wire := if h.parked then Wire.unpark p.wire else p.wire }.transmit h.call.bytes

/-- The call with the lock ends. -/
def finish (h : Holder) (s : Writers σ) : Writers σ :=
  { s with port := (carry h s.port).2, holder := none }

/-- What a move leads to, if it can be made. -/
def step (far : κ → σ → σ) (m : Move κ) (s : Writers σ) : Option (Writers σ) :=
  match m with
  | .write bytes => some (s.receive bytes)
  | .turn i =>
    match s.holder, s.queued[i]? with
    | none, some call => some (s.giveTurn i call)
    | _, _ => none
  | .goOn =>
    match s.holder with
    | none => none
    | some h =>
      if Wire.holds s.port.wire then if h.parked then none else some (s.park h)
      else some (s.finish h)
  | .piece p =>
    if p.needsLock && s.holder.isSome then none else some { s with port := s.port.carryOut p }
  | .onWire c => some { s with port.wire := far c s.port.wire }

/-! ## Notes -/

/- What a call is told in the end is nowhere in the state, and counters do not tell whose write
they count.  The notes do, and are read off a move and the state that it is made in. -/

/-- What there is to tell of a move. -/
inductive Note (κ : Type) where
  | called (call : WriteCall)
  | took (call : WriteCall)
  | ended (call : WriteCall) (fate : WriteFate)
  | onWire (c : κ)
  deriving DecidableEq, Repr

/-- What is told of a move. -/
def notes (m : Move κ) (s : Writers σ) : List (Note κ) :=
  match m with
  | .write bytes => if bytes.isEmpty then [] else [.called ⟨s.calls, bytes⟩]
  | .turn i =>
    match s.queued[i]? with
    | none => []
    | some call =>
      if s.port.accepts then [.took call] else [.took call, .ended call .ignored]
  | .goOn =>
    match s.holder with
    | none => []
    | some h =>
      if Wire.holds s.port.wire then [] else [.ended h.call (carry h s.port).1]
  | .piece _ => []
  | .onWire c => [.onWire c]

/-- The calls that came, in this order. -/
def called (told : List (Note κ)) : List WriteCall :=
  told.filterMap fun
    | .called call => some call
    | _ => none

/-- The calls that had their turn, in this order. -/
def taken (told : List (Note κ)) : List WriteCall :=
  told.filterMap fun
    | .took call => some call
    | _ => none

/-- The calls that ended, in this order, each with what became of it. -/
def endings (told : List (Note κ)) : List (WriteCall × WriteFate) :=
  told.filterMap fun
    | .ended call fate => some (call, fate)
    | _ => none

/-- What became of the calls that ended. -/
def fates (told : List (Note κ)) : List WriteFate := (endings told).map Prod.snd

/-- The bytes that were delivered, call by call. -/
def delivered (fates : List WriteFate) : List (List UInt8) :=
  fates.filterMap fun
    | .delivered bytes => some bytes
    | _ => none

/-- How many calls failed. -/
def failures (fates : List WriteFate) : Nat :=
  fates.countP fun
    | .failed _ => true
    | _ => false

end Writers

end DongleLink

import DongleLink.Port

/-!
# DongleLink.Port.Action

Whole runs of a port.  An `Action` is one thing that a user, the receive loop or
the far end of the wire does, with no other going on at the same time; the result
of each read of the loop is part of the run, so that a run is possible over any
stream whatever.

The `Ledger` of a run tells what became of every byte that the loop received.
-/

namespace DongleLink.Port

variable {σ : Type}

/-! ## Runs -/

/- What others bring about is part of the action: the result of a read, and what the system says
about a thread.  So runs range over all that a stream and a system can do, and an action that
cannot take place leaves the port as it is. -/

/-- One thing that happens to a port. -/
inductive Action (σ : Type) where
  /-- open, with what the system says when asked for the thread of the receive loop -/
  | openWith (o : LineOverrides) (thread : Except IoFault Unit := .ok ())
  | close
  | purge
  /-- a reader looks for a byte -/
  | look
  /-- a write has its turn, and is not held up -/
  | write (bytes : List UInt8)
  /-- a write that was held up goes on; it had its turn before -/
  | resume (bytes : List UInt8)
  /-- the receive loop gets the result of a read, if it listens -/
  | hear (r : Received)
  /-- something happens at the far end of the wire -/
  | onWire (f : σ → σ)

/-- The port after an action. -/
def act [Wire σ] (p : Port σ) : Action σ → Port σ
  | .openWith o thread => (p.openThreaded thread o).2
  | .close => p.close
  | .purge => p.purge
  | .look => p.look.2
  | .write bytes => if !bytes.isEmpty && p.accepts then (p.transmit bytes).2 else p
  | .resume bytes => (p.transmit bytes).2
  | .hear r => if p.listens then p.hear r else p
  | .onWire f => { p with wire := f p.wire }

/-- The port after actions in order. -/
def run [Wire σ] (actions : List (Action σ)) (p : Port σ) : Port σ := actions.foldl act p

/-! ## What became of the bytes -/

/- Equal bytes have to be told apart, so the ledger keeps lists in the order of the events and not
numbers.  An entry says what one action does to the ring; nothing in the port itself remembers
it. -/

/-- Received bytes by what became of them, each list oldest first. -/
structure Ledger where
  received : List UInt8 := []
  /-- given to readers -/
  delivered : List UInt8 := []
  /-- pushed out of a full ring -/
  evicted : List UInt8 := []
  /-- forgotten by a purge or when a new stream was attached -/
  discarded : List UInt8 := []
  deriving DecidableEq, Repr

/-- One ledger continued by another. -/
def Ledger.continued (l m : Ledger) : Ledger where
  received := l.received ++ m.received
  delivered := l.delivered ++ m.delivered
  evicted := l.evicted ++ m.evicted
  discarded := l.discarded ++ m.discarded

/-- What an action adds to the ledger.  An opening empties the ring as soon as it has connected,
before it asks for a thread. -/
def entry [Wire σ] (p : Port σ) : Action σ → Ledger
  | .openWith o _ =>
    match (p.openWith o).1 with
    | .ok () => { discarded := p.inbox.unread }
    | .error _ => {}
  | .purge => { discarded := p.inbox.unread }
  | .look =>
    match p.look.1 with
    | .byte b => { delivered := [b] }
    | .closed | .empty => {}
  | .hear (.data bytes) =>
    if p.listens then
      { received := bytes
        evicted := (p.inbox.unread ++ bytes).take (p.inbox.ingest bytes).1 }
    else {}
  | .close | .write _ | .resume _ | .hear _ | .onWire _ => {}

/-- The ledger of actions in order. -/
def ledger [Wire σ] : List (Action σ) → Port σ → Ledger
  | [], _ => {}
  | a :: rest, p => (p.entry a).continued (ledger rest (p.act a))

end DongleLink.Port

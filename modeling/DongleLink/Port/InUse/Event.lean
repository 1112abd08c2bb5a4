import DongleLink.Course
import DongleLink.Port.InUse.Action
import DongleLink.Wire.Simulated

/-!
# DongleLink.Port.InUse.Event

A port in use over a simulated dongle, one thing at a time.  `InUse.act` carries a call out
together with all that it sets free.  Here a call is carried out alone, and the work that it
leaves behind (a read of the loop, a reader that can be told something, a write that has its
turn) is done piece by piece, in any order, with other calls in between.  A port is at rest
when there is nothing left to do.
-/

namespace DongleLink.InUse

/-! ## Calls -/

/-- A call on the port, or something that is done to the dongle. -/
inductive Call where
  /-- open, with what the system says when asked for the thread of the receive loop -/
  | openWith (o : LineOverrides) (thread : Except IoFault Unit := .ok ())
  | close
  | purge
  | write (bytes : List UInt8)
  /-- a reader whose time is not over counts as unlimited until it is (`Event.expire`) -/
  | read (patience : Patience)
  | control (c : Simulated.Control)

/-- The action that is the call with all that it sets free. -/
def Call.action : Call → Action Simulated
  | openWith o thread => .openWith o thread
  | close => .close
  | purge => .purge
  | write bytes => .write bytes
  | read patience => .read patience
  | control c => .onWire c.apply

section wire

variable {σ : Type} [Wire σ]

/-- The held write is let go and carried out. -/
def finishHeld (u : InUse σ) : InUse σ :=
  match u.held with
  | none => u
  | some bytes =>
    { u with
      port := ({ u.port with wire := Wire.unpark u.port.wire }.transmit bytes).2
      held := none }

/-- The loop reads from its stream, and does what the result asks for. -/
def heard (u : InUse σ) : InUse σ :=
  let (received, wire) := Wire.readChunk u.port.settings.chunkSize u.port.wire
  { u with port := { u.port with wire := wire }.hear received }

/-- The stream is taken down.  Who does so waits until the held write, which fails then, has
given its place up. -/
def takeDown (u : InUse σ) : InUse σ := finishHeld { u with port := u.port.teardown }

/-- A port without a session connects. -/
def attach (o : LineOverrides) (u : InUse σ) : Except LinkError Unit × InUse σ :=
  let (result, port) := u.port.attach o
  (result, { u with port := port })

/-- Opening, alone, where there is a thread for the receive loop. -/
def openAlone (o : LineOverrides) (u : InUse σ) : Except LinkError Unit × InUse σ :=
  match u.port.session with
  | none => u.attach o
  | some _ => if u.port.inbox.linkUp then (.error .alreadyOpen, u) else u.takeDown.attach o

/-- Opening, alone, where there may be no thread for the receive loop.  No write is held up by a
stream that was attached just now, so that nothing is waited for when it is taken back. -/
def openThreadedAlone (thread : Except IoFault Unit) (o : LineOverrides) (u : InUse σ) :
    Except LinkError Unit × InUse σ :=
  match u.openAlone o with
  | (.error e, u) => (.error e, u)
  | (.ok (), u) =>
    match thread with
    | .ok () => (.ok (), u)
    | .error fault => (.error (.io fault), { u with port := u.port.teardown })

end wire

/-- A call is carried out, alone.  A write that is not empty waits for its turn. -/
def receive (c : Call) (u : InUse Simulated) : InUse Simulated :=
  match c with
  | .openWith o thread => (u.openThreadedAlone thread o).2
  | .close => u.takeDown
  | .purge => { u with port := u.port.purge }
  | .write bytes => if bytes.isEmpty then u else { u with queued := u.queued ++ [bytes] }
  | .read patience => (u.read patience).2
  | .control c => { u with port.wire := c.apply u.port.wire }

/-! ## Work -/

/- Work is what a thread that is already there can go on with.  It needs no call, so a port
where none is left stays as it is until somebody calls or the time of a reader is over. -/

/-- A piece of work that nobody has to ask for. -/
inductive Task where
  /-- the loop reads from its stream -/
  | hear
  /-- a waiting reader that can be told something looks -/
  | serve
  /-- the held write goes on -/
  | resume
  /-- the waiting write with this index has its turn -/
  | turn (i : Nat)

/-- What a piece of work leads to, if it can be done. -/
def perform {σ : Type} [Wire σ] (t : Task) (u : InUse σ) : Option (InUse σ) :=
  match t with
  | .hear =>
    if u.port.listens && !Wire.idle u.port.wire then some u.heard else none
  | .serve =>
    match u.readers, u.port.look with
    | 0, _ | _ + 1, (.empty, _) => none
    | n + 1, (_, port) => some { u with port := port, readers := n }
  | .resume => if u.held.isSome && !Wire.holds u.port.wire then some u.finishHeld else none
  | .turn i =>
    match u.held, u.queued[i]? with
    | none, some bytes =>
      let turned := { u with queued := u.queued.eraseIdx i }
      some (turned.tryWrite bytes).2
    | _, _ => none

/-- There is nothing left to do. -/
def AtRest {σ : Type} [Wire σ] (u : InUse σ) : Prop := ∀ t, perform t u = none

/-! ## Events -/

/-- A call, a piece of work, or the end of a waiting reader's time. -/
inductive Event where
  | call (c : Call)
  | task (t : Task)
  | expire

/-- What an event leads to, if it can happen. -/
def happen (e : Event) (u : InUse Simulated) : Option (InUse Simulated) :=
  match e with
  | .call c => some (u.receive c)
  | .task t => perform t u
  | .expire =>
    if u.readers = 0 then none else some { u with port := u.port.look.2, readers := u.readers - 1 }

/-! ## Openings -/

/-- The overrides of an opening, if it connected.  A simulated dongle turns nobody down with an
i/o fault: who is told of one had connected, and got no thread after that. -/
def openedBy (o : LineOverrides) : Except LinkError Unit → List LineOverrides
  | .ok () | .error (.io _) => [o]
  | .error _ => []

/-- What an event adds to the openings that connected. -/
def opened (e : Event) (u : InUse Simulated) : List LineOverrides :=
  match e with
  | .call (.openWith o thread) => openedBy o (u.openThreadedAlone thread o).1
  | _ => []

/-- The openings that connected, as the callers were told. -/
def openedIn (calls : List Call) (told : List (Answer × List Ended)) : List LineOverrides :=
  (calls.zip told).flatMap fun
    | (.openWith o _, .opened result, _) => openedBy o result
    | _ => []

end DongleLink.InUse

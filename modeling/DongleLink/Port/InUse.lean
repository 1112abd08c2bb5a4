import DongleLink.Port

/-!
# DongleLink.Port.InUse

A port together with the calls that wait on it: readers that wait for a byte, a
write that the wire holds up, and writes that wait behind it for their turn.

`InUse.settle` runs everything that can run: held writes that are free again,
then the receive loop until its wire is idle, with the waiting readers served
after each chunk.  Every action is followed by it, so that between actions
nobody waits who could go on.
-/

namespace DongleLink

/-- A port and the calls that wait on it. -/
structure InUse (σ : Type) where
  port : Port σ
  /-- how many readers wait for a byte -/
  readers : Nat := 0
  /-- the write that the wire holds up -/
  held : Option (List UInt8) := none
  /-- writes that wait for their turn, oldest first -/
  queued : List (List UInt8) := []

/-- A call that came to its end. -/
inductive Ended where
  /-- a waiting reader was let go, with a byte or without -/
  | reader (result : Option UInt8)
  | write (fate : WriteFate)
  deriving DecidableEq, Repr

/-- What stands for "no byte" where a byte is told as a number. -/
def noData : Int := -1

/-- A byte told as a number. -/
def codeOf : Option UInt8 → Int
  | some b => b.toNat
  | none => noData

/-- How long a reader is ready to wait. -/
inductive Patience where
  /-- until a byte comes or the link goes down -/
  | unlimited
  /-- no longer than nothing happens -/
  | brief
  deriving DecidableEq, Repr

/-- What a reader is told. -/
inductive ReadAnswer where
  /-- a byte, or that there is none -/
  | told (result : Option UInt8)
  /-- the reader waits -/
  | waits
  deriving DecidableEq, Repr

namespace InUse

variable {σ : Type} [Wire σ]

/-! ## Writes -/

/-- A write has its turn: it is ignored, held up, or carried out. -/
def tryWrite (bytes : List UInt8) (u : InUse σ) : List Ended × InUse σ :=
  if !u.port.accepts then ([.write .ignored], u)
  else if Wire.holds u.port.wire then
    ([], { u with port.wire := Wire.park u.port.wire, held := some bytes })
  else
    let (fate, port) := u.port.transmit bytes
    ([.write fate], { u with port := port })

/-- Give the waiting writes their turns until one is held up. -/
def serveQueued : List (List UInt8) → InUse σ → List Ended × InUse σ
  | [], u => ([], { u with queued := [] })
  | bytes :: rest, u =>
    let (ended, u) := u.tryWrite bytes
    if u.held.isSome then (ended, { u with queued := rest })
    else
      let (more, u) := serveQueued rest u
      (ended ++ more, u)

/-- Carry out the held write if the wire lets it go, and then those behind it. -/
def serveWriters (u : InUse σ) : List Ended × InUse σ :=
  match u.held with
  | none => ([], u)
  | some bytes =>
    if Wire.holds u.port.wire then ([], u)
    else
      let (fate, port) :=
        { u.port with wire := Wire.unpark u.port.wire }.transmit bytes
      let (more, u) := serveQueued u.queued { u with port := port, held := none }
      (.write fate :: more, u)

/-! ## Readers -/

/- Waiting readers all ask for the same and are told one after the other, so that their number is
enough.  Who among them gets which byte is told in `DongleLink.Port.Interleaving`. -/

/-- Let waiting readers look, until one has to go on waiting. -/
def serveReaders : Nat → InUse σ → List Ended × InUse σ
  | 0, u => ([], u)
  | n + 1, u =>
    match u.port.look with
    | (.empty, _) => ([], u)
    | (.closed, port) =>
      let (more, u) := serveReaders n { u with port := port, readers := n }
      (.reader none :: more, u)
    | (.byte b, port) =>
      let (more, u) := serveReaders n { u with port := port, readers := n }
      (.reader (some b) :: more, u)

/-! ## The receive loop -/

/- The loop would wait for its stream for ever.  It is run until a read would wait, and
`Wire.backlog` bounds the reads until then; a loop that died never gets there, which is what
`caughtUp` tells. -/

/-- Let the receive loop read at most `n` times, and readers after each read. -/
def listen : Nat → InUse σ → List Ended × InUse σ
  | 0, u => ([], u)
  | n + 1, u =>
    if !u.port.listens || Wire.idle u.port.wire then ([], u)
    else
      let (received, wire) := Wire.readChunk u.port.settings.chunkSize u.port.wire
      let u := { u with port := { u.port with wire := wire }.hear received }
      let (ended, u) := serveReaders u.readers u
      let (more, u) := listen n u
      (ended ++ more, u)

/-- The receive loop has ended, or its stream has nothing for it: it has taken everything in. -/
def caughtUp (u : InUse σ) : Bool :=
  match u.port.session with
  | none | some .ended => true
  | some .reading | some .dead => Wire.idle u.port.wire

/-- Run everything that can run. -/
def settle (u : InUse σ) : List Ended × InUse σ :=
  let (writes, u) := u.serveWriters
  let (ended, u) := serveReaders u.readers u
  let (more, u) := listen (Wire.backlog u.port.wire) u
  (writes ++ ended ++ more, u)

/-! ## Actions -/

/-- Something happens at the far end of the wire. -/
def onWire (f : σ → σ) (u : InUse σ) : List Ended × InUse σ :=
  { u with port.wire := f u.port.wire }.settle

/-- Open, where the system says what the thread of the receive loop comes to. -/
def openThreaded (thread : Except IoFault Unit) (o : LineOverrides) (u : InUse σ) :
    Except LinkError Unit × List Ended × InUse σ :=
  let (result, port) := u.port.openThreaded thread o
  (result, { u with port := port }.settle)

/-- Open, where there is a thread for the receive loop. -/
def openWith (o : LineOverrides) (u : InUse σ) :
    Except LinkError Unit × List Ended × InUse σ :=
  u.openThreaded (.ok ()) o

def close (u : InUse σ) : List Ended × InUse σ := { u with port := u.port.close }.settle

def purge (u : InUse σ) : List Ended × InUse σ := { u with port := u.port.purge }.settle

/-- Write; an empty write does nothing, and one behind a held write waits. -/
def write (bytes : List UInt8) (u : InUse σ) : List Ended × InUse σ :=
  if bytes.isEmpty then u.settle
  else if u.held.isSome then { u with queued := u.queued ++ [bytes] }.settle
  else
    let (ended, u) := u.tryWrite bytes
    let (more, u) := u.settle
    (ended ++ more, u)

/-- Write one byte. -/
def writeByte (byte : UInt8) (u : InUse σ) : List Ended × InUse σ := u.write [byte]

/-- Read one byte. -/
def read (patience : Patience) (u : InUse σ) : ReadAnswer × InUse σ :=
  match u.port.look with
  | (.byte b, port) => (.told (some b), { u with port := port })
  | (.closed, _) => (.told none, u)
  | (.empty, _) =>
    match patience with
    | .brief => (.told none, u)
    | .unlimited => (.waits, { u with readers := u.readers + 1 })

/-- Read up to `n` bytes without waiting. -/
def readUpTo : Nat → InUse σ → List UInt8 × InUse σ
  | 0, u => ([], u)
  | n + 1, u =>
    match u.read .brief with
    | (.told (some b), u) =>
      let (bytes, u) := readUpTo n u
      (b :: bytes, u)
    | (_, u) => ([], u)

end InUse

end DongleLink

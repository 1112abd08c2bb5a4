import DongleLink.Course
import DongleLink.Port.Interleaving

/-!
# DongleLink.Port.Interleaving.Event

Moves, and what can happen besides.  There may be no thread for the loop that a user is
about to start; a loop may die where it should read; and a sleeper may wake though nobody
woke it.  An `Event` is one of these or a move, and a course of events is what a port with
all its users can go through.
-/

namespace DongleLink.Interleaving

/-- A move, or a mishap. -/
inductive Event where
  | move (m : Move)
  /-- there is no thread for the loop that a user is about to start -/
  | threadless (user : Nat)
  /-- a loop dies, over its chunk buffer or in its stream -/
  | dies (loop : Nat)
  /-- a sleeper wakes though nobody woke it -/
  | stirs (reader : Nat)
  deriving DecidableEq, Repr

/-- What an event leads to, if it can happen.  A user that gets no thread takes back what
it has done: no loop is wanted, the link is marked down and the sleepers are woken, as in
closing a port that has no session. -/
def happen (e : Event) (s : State) : Option State :=
  match e with
  | .move m => step m s
  | .threadless user =>
    match s.users user with
    | .starting _ => some (s.setUser user (.stopping none .close))
    | _ => none
  | .dies loop =>
    match s.loops loop with
    | .checking | .reading => some (s.setLoop loop .finished)
    | _ => none
  | .stirs reader =>
    match s.readers reader with
    | .asleep => some (s.setReader reader (.looking true))
    | _ => none

/-! ## What an event brings -/

/-- The bytes that an event stores, each with the number of the loop that stores it. -/
def storedBy (e : Event) (s : State) : List (UInt8 × Nat) :=
  match e with
  | .move (.proceed loop) =>
    match s.loops loop with
    | .storing bytes => bytes.map (·, loop)
    | _ => []
  | _ => []

/-- The byte that a reader has been given, with the number of the session it came with. -/
def ReaderAt.given : ReaderAt → List (UInt8 × Nat)
  | answered (some tagged) => [tagged]
  | answered none | idle | looking _ | asleep => []

/-- The byte that a reader is given when it looks. -/
def poppedBy (e : Event) (s : State) : List (UInt8 × Nat) :=
  match e with
  | .move (.look reader) => (lookStep reader s).elim [] fun t => (t.readers reader).given
  | _ => []

end DongleLink.Interleaving

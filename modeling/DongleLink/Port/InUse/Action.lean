import DongleLink.Port.InUse

/-!
# DongleLink.Port.InUse.Action

Whole runs of a port in use, with what every call is told and which waiting calls
come to their end.
-/

namespace DongleLink.InUse

variable {σ : Type}

/-- One call, or one thing that happens at the far end of the wire. -/
inductive Action (σ : Type) where
  /-- open, with what the system says when asked for the thread of the receive loop -/
  | openWith (o : LineOverrides) (thread : Except IoFault Unit := .ok ())
  | close
  | purge
  | write (bytes : List UInt8)
  | read (patience : Patience)
  | onWire (f : σ → σ)

/-- What a call is told at once. -/
inductive Answer where
  | opened (result : Except LinkError Unit)
  | read (answer : ReadAnswer)
  | done

/-- Carry an action out. -/
def act [Wire σ] (u : InUse σ) : Action σ → (Answer × List Ended) × InUse σ
  | .openWith o thread =>
    let (result, ended, u) := u.openThreaded thread o
    ((.opened result, ended), u)
  | .close =>
    let (ended, u) := u.close
    ((.done, ended), u)
  | .purge =>
    let (ended, u) := u.purge
    ((.done, ended), u)
  | .write bytes =>
    let (ended, u) := u.write bytes
    ((.done, ended), u)
  | .read patience =>
    let (answer, u) := u.read patience
    ((.read answer, []), u)
  | .onWire f =>
    let (ended, u) := u.onWire f
    ((.done, ended), u)

/-- Carry actions out in order. -/
def run [Wire σ] : List (Action σ) → InUse σ → List (Answer × List Ended) × InUse σ
  | [], u => ([], u)
  | a :: rest, u =>
    let (told, u) := u.act a
    let (more, u) := run rest u
    (told :: more, u)

end DongleLink.InUse

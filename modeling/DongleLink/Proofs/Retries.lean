import DongleLink.Proofs.Refit
import DongleLink.Wire.Scripted

/-!
# DongleLink.Proofs.Retries

Errors after which the receive loop tries to read again.  A read that fails so leaves the port as it
is, so it makes no difference where it comes in a run (`Port.run_steady`).  Nor does it where a
stream has such errors among what it has for the loop: the loop reads more often, and everybody is
told the same (`run_steadilyAlike`).
-/

namespace DongleLink

namespace Received

/-- A read that failed and is tried again. -/
def isTransient : Received → Bool
  | failed fault => fault.isTransient
  | data _ | ended => false

end Received

/-! ## Runs -/

namespace Port

variable {σ : Type}

variable [Wire σ]

/-- The actions without the reads that are tried again. -/
def steady (actions : List (Action σ)) : List (Action σ) :=
  actions.filter fun
    | .hear r => !r.isTransient
    | _ => true

/-- What each reader finds that looks. -/
def looks : List (Action σ) → Port σ → List Found
  | [], _ => []
  | .look :: rest, p => p.look.1 :: looks rest (p.act .look)
  | a :: rest, p => looks rest (p.act a)

end Port

/-! ## Streams that have a script -/

/-- A read that fails so is tried again. -/
def Cue.isTransient : Cue → Bool
  | fault f => f.isTransient
  | data _ | .over => false

/-- Events without the errors after which a read is tried again. -/
def Cue.steady (cues : List Cue) : List Cue := cues.filter fun cue => !cue.isTransient

namespace Scripted

/-- The stream without the errors after which a read is tried again. -/
def steady (s : Scripted) : Scripted := { s with cues := Cue.steady s.cues }

/-- The change of a port for one whose stream has no such errors. -/
def calming (chunk : Nat) : Refit Scripted := { wire := steady, chunkSize := chunk }

end Scripted

namespace InUse

section steady

variable {u : InUse Scripted} {chunk : Nat}

/-- The port in use over the stream without the errors after which a read is tried again. -/
def steady (u : InUse Scripted) : InUse Scripted :=
  u.refit (Scripted.calming u.port.settings.chunkSize)

end steady

end InUse

end DongleLink

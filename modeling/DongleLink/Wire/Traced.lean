import DongleLink.Wire

/-!
# DongleLink.Wire.Traced

A wire with a record of its connections and shutdowns.  It behaves as the wire
that it holds.
-/

namespace DongleLink

/-- A turn in the life of a wire. -/
inductive Turn where
  | connected (o : LineOverrides)
  | turnedDown (o : LineOverrides)
  | shutDown
  deriving DecidableEq, Repr

/-- A wire with a record of its turns, oldest first. -/
structure Traced (σ : Type) where
  wire : σ
  turns : List Turn := []

namespace Traced

variable {σ : Type}

/-- The turn of an attempt to connect. -/
def turnOf (o : LineOverrides) : Except LinkError Unit → Turn
  | .ok () => .connected o
  | .error _ => .turnedDown o

instance [Wire σ] : Wire (Traced σ) where
  place t := Wire.place t.wire
  connect o settings t :=
    let (result, wire) := Wire.connect o settings t.wire
    (result, { wire := wire, turns := t.turns ++ [turnOf o result] })
  readChunk n t :=
    let (received, wire) := Wire.readChunk n t.wire
    (received, { t with wire := wire })
  idle t := Wire.idle t.wire
  backlog t := Wire.backlog t.wire
  holds t := Wire.holds t.wire
  park t := { t with wire := Wire.park t.wire }
  unpark t := { t with wire := Wire.unpark t.wire }
  write bytes t :=
    let (result, wire) := Wire.write bytes t.wire
    (result, { t with wire := wire })
  shutdown t := { wire := Wire.shutdown t.wire, turns := t.turns ++ [.shutDown] }

end Traced

end DongleLink

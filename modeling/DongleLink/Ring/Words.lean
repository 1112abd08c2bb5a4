import DongleLink.Ring

/-!
# DongleLink.Ring.Words

The ring as a machine has it.  The positions are words of 64 bits, and all slots are one block
of memory from the beginning.  A sum or a difference that leaves the 64 bits is a fault, and so
is an access outside of the block.  `Ring` knows neither: its positions are numbers, and it takes
up memory as it goes.
-/

namespace DongleLink

/-- A circular queue of bytes in words and one block of memory. -/
structure WordRing where
  block : Array UInt8
  /-- position of the oldest unread byte -/
  first : UInt64
  /-- position where the next byte goes -/
  next : UInt64
  deriving DecidableEq, Repr

namespace WordRing

/-- What can go wrong where words and memory are limited. -/
inductive Fault where
  /-- a sum or a difference leaves the 64 bits -/
  | overflow
  /-- a place outside of the block -/
  | outside (place : UInt64)
  deriving DecidableEq, Repr

/-! ## Words -/

/- Unsigned words wrap around, so a sum that leaves the 64 bits would go unnoticed in `UInt64`
itself.  Here it is a fault, as is a place outside of the block, so that it can be stated that
neither happens. -/

/-- A sum that has to fit. -/
def plus (a b : UInt64) : Except Fault UInt64 :=
  if a.toNat + b.toNat < UInt64.size then .ok (a + b) else .error .overflow

/-- A difference that has to be there. -/
def minus (a b : UInt64) : Except Fault UInt64 :=
  if b.toNat ≤ a.toNat then .ok (a - b) else .error .overflow

/-! ## Memory -/

/-- The byte at a place of the block. -/
def fetch (block : Array UInt8) (place : UInt64) : Except Fault UInt8 :=
  if h : place.toNat < block.size then .ok block[place.toNat] else .error (.outside place)

/-- The block with a byte at a place. -/
def store (block : Array UInt8) (place : UInt64) (byte : UInt8) : Except Fault (Array UInt8) :=
  if h : place.toNat < block.size then .ok (block.set place.toNat byte h)
  else .error (.outside place)

/-! ## The ring -/

/-- An empty ring: a block of zeros. -/
def ofCapacity (capacity : Nat) : WordRing where
  block := Array.replicate capacity 0
  first := 0
  next := 0

/-- How many slots there are, as a word. -/
def capacity (w : WordRing) : UInt64 := .ofNat w.block.size

/-- The positions of the oldest unread byte and of the next free slot. -/
def positions (w : WordRing) : UInt64 × UInt64 := (w.first, w.next)

/-- How many bytes are unread. -/
def length (w : WordRing) : Except Fault UInt64 := do
  let sum ← plus w.next w.capacity
  let difference ← minus sum w.first
  return difference % w.capacity

def isEmpty (w : WordRing) : Bool := w.first == w.next

/-- The position after another, which wraps around. -/
def after (w : WordRing) (place : UInt64) : Except Fault UInt64 := do
  let sum ← plus place 1
  return sum % w.capacity

/-- Append a byte; the flag tells whether the oldest one was evicted for it. -/
def push (w : WordRing) (byte : UInt8) : Except Fault (Bool × WordRing) := do
  let next ← w.after w.next
  let evicts := next == w.first
  let first ← if evicts then w.after w.first else pure w.first
  let block ← store w.block w.next byte
  return (evicts, { block := block, first := first, next := next })

/-- Append bytes one by one; the number tells how many bytes were evicted. -/
def pushAll (w : WordRing) : List UInt8 → Except Fault (Nat × WordRing)
  | [] => return (0, w)
  | byte :: rest => do
    let (evicted, w) ← w.push byte
    let (count, w) ← w.pushAll rest
    return (count + evicted.toNat, w)

/-- Take the oldest byte out. -/
def pop (w : WordRing) : Except Fault (Option (UInt8 × WordRing)) :=
  if w.isEmpty then return none
  else do
    let byte ← fetch w.block w.first
    let first ← w.after w.first
    return some (byte, { w with first := first })

/-- Forget all unread bytes and rewind both positions. -/
def clear (w : WordRing) : WordRing := { w with first := 0, next := 0 }

end WordRing

end DongleLink

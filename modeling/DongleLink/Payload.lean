import DongleLink.Text.Bytes
import DongleLink.Text.Hexadecimal

/-!
# DongleLink.Payload

Bytes as an operator types and reads them.  A payload is typed in hexadecimal
digits, with blanks, colons and commas wherever they help and `0x` in front if
wanted; it is shown as upper-case pairs with single spaces between them.

The digits are cut into pairs at every second byte of their encoding, and each
pair is read as a numeral.
-/

namespace DongleLink.Payload

open Text

/-! ## Reading -/

/- Places are counted in bytes of the encoding and not in characters, so a pair can begin in the
middle of a character.  That it never does for a text that passed the first check is a result. -/

/-- Why a text is no payload. -/
inductive Fault where
  /-- something else than digits and separators -/
  | notHexadecimal
  /-- no digits, or one too many -/
  | uneven
  /-- a pair that is no numeral of a byte -/
  | notByte (pair : List Char)
  /-- a pair that cannot be cut out -/
  | cut (bad : BadCut)
  deriving DecidableEq, Repr

/-- What the user reads about `input`. -/
def Fault.message (input : String) : Fault → String
  | notHexadecimal => s!"'{input}' contains non-hex characters"
  | uneven => s!"'{input}' is not an even number of hex digits"
  | notByte pair => s!"invalid hex byte '{String.ofList pair}'"
  | cut bad => bad.message

/-- Characters that only set digits apart. -/
def isSeparator (c : Char) : Bool := isBlank c || c == ':' || c == ','

/-- What is left of a text without separators and one leading `0x`. -/
def digitsOf (s : List Char) : List Char :=
  let kept := s.filter (!isSeparator ·)
  (after? ['0', 'x'] kept).getD kept

/-- The byte whose numeral begins at a place. -/
def byteAt (digits : List Char) (place : Nat) : Except Fault UInt8 :=
  match slice place (place + 2) digits with
  | .error bad => .error (.cut bad)
  | .ok pair =>
    match readHexadecimal 255 pair with
    | some n => .ok (.ofNat n)
    | none => .error (.notByte pair)

/-- The bytes at places, in order. -/
def bytesAt (digits : List Char) : List Nat → Except Fault (List UInt8)
  | [] => .ok []
  | place :: rest =>
    match byteAt digits place with
    | .error e => .error e
    | .ok b => (bytesAt digits rest).map (b :: ·)

/-- Read a payload. -/
def read (s : List Char) : Except Fault (List UInt8) :=
  let digits := digitsOf s
  let size := byteLength digits
  if !digits.all fun c => (hexValue? c).isSome then .error .notHexadecimal
  else if digits.isEmpty || size % 2 != 0 then .error .uneven
  else bytesAt digits (List.range' 0 ((size + 1) / 2) 2)

/-- Read a payload, or say what is wrong with it. -/
def parse (input : String) : Except String (List UInt8) :=
  match read input.toList with
  | .ok bytes => .ok bytes
  | .error fault => .error (fault.message input)

/-! ## Showing -/

/-- The characters of bytes: upper-case pairs with single spaces between them. -/
def write : List UInt8 → List Char
  | [] => []
  | [b] => byteDigits b
  | b :: rest => byteDigits b ++ ' ' :: write rest

/-- Bytes as upper-case pairs with single spaces between them. -/
def text (bytes : List UInt8) : String := String.ofList (write bytes)

end DongleLink.Payload

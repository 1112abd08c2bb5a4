import DongleLink.Text.Decimal

/-!
# DongleLink.Span

Lengths of time.  A span counts nanoseconds; its text names the largest unit
that leaves a whole part, with as many decimals as the rest needs.
-/

namespace DongleLink

/-- A length of time. -/
structure Span where
  nanos : Nat
  deriving DecidableEq, Repr, Inhabited

namespace Span

/-- Whole seconds and further nanoseconds. -/
def ofParts (secs nanos : Nat) : Span := ⟨secs * 1000000000 + nanos⟩

/-- The most whole seconds that a span told in parts may have. -/
def mostSeconds : Nat := 18446744073709551615

/-- Whole seconds and further nanoseconds, if that is not too long. -/
def ofParts? (secs nanos : Nat) : Option Span :=
  if secs + nanos / 1000000000 ≤ mostSeconds then some (ofParts secs nanos) else none

/-- The complaint about parts that make too long a span. -/
def tooLong : String := "overflow in Duration::new"

def ofSeconds (n : Nat) : Span := ⟨n * 1000000000⟩

def ofMillis (n : Nat) : Span := ⟨n * 1000000⟩

/-- The whole seconds. -/
def seconds (t : Span) : Nat := t.nanos / 1000000000

/-- The nanoseconds beyond the whole seconds. -/
def subsecond (t : Span) : Nat := t.nanos % 1000000000

/-- The whole milliseconds. -/
def millis (t : Span) : Nat := t.nanos / 1000000

/-! ## Text -/

/-- The decimals of `rest` parts out of `10 ^ places`, without trailing zeros. -/
def decimals : Nat → Nat → List Char
  | 0, _ => []
  | places + 1, rest =>
    if rest = 0 then []
    else
      Text.decimal (rest / Nat.pow 10 places) ++ decimals places (rest % Nat.pow 10 places)

/-- A number of units of `10 ^ places` nanoseconds. -/
def inUnits (places : Nat) (unit : String) (nanos : Nat) : String :=
  let whole := Text.decimal (nanos / Nat.pow 10 places)
  let fraction :=
    match decimals places (nanos % Nat.pow 10 places) with
    | [] => []
    | digits => '.' :: digits
  String.ofList (whole ++ fraction) ++ unit

/-- The text of a span: seconds, or else the largest unit with a whole part. -/
def text (t : Span) : String :=
  if 1000000000 ≤ t.nanos then inUnits 9 "s" t.nanos
  else if 1000000 ≤ t.nanos then inUnits 6 "ms" t.nanos
  else if 1000 ≤ t.nanos then inUnits 3 "µs" t.nanos
  else inUnits 0 "ns" t.nanos

end Span

end DongleLink

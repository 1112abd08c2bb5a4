import DongleLink.Text.Decimal

/-!
# DongleLink.Binary64

Binary floating-point numbers of 64 bits, as exact values: a sign, and a whole
number times a power of two.  A decimal numeral is read to the nearest such
number, a tie going to the even one; a number is written with the fewest digits
that are read back as it, the nearest such, a tie going up, and always with its
decimal point in place.
-/

namespace DongleLink

/-- A number of the 64-bit binary format.  A finite one is `m * 2 ^ q`, with `m`
below `2 ^ 53`, and at least `2 ^ 52` unless `q` is `-1074`. -/
inductive Binary64 where
  | finite (negative : Bool) (m : Nat) (q : Int)
  | infinite (negative : Bool)
  | nan
  deriving DecidableEq, Repr

namespace Binary64

/-! ## Rounding -/

/-- The whole number nearest to `num / den`, ties going to the even one. -/
def divideToEven (num den : Nat) : Nat :=
  let quotient := num / den
  let rest := 2 * (num % den)
  if rest < den then quotient
  else if den < rest then quotient + 1
  else quotient + quotient % 2

/-- `num / den` over `2 ^ q`, as a ratio. -/
def scaled (num den : Nat) (q : Int) : Nat × Nat :=
  if 0 ≤ q then (num, den * Nat.pow 2 q.toNat) else (num * Nat.pow 2 (-q).toNat, den)

/-- The number nearest to the positive ratio `num / den`. -/
def ofRatio (negative : Bool) (num den : Nat) : Binary64 :=
  if num = 0 then finite negative 0 (-1074)
  else
    let guess : Int := (Nat.log2 num : Int) - Nat.log2 den - 52
    let exact :=
      let (n, d) := scaled num den guess
      if n / d < Nat.pow 2 52 then guess - 1 else guess
    let q := max exact (-1074)
    let (n, d) := scaled num den q
    let m := divideToEven n d
    let (m, q) := if m = Nat.pow 2 53 then (Nat.pow 2 52, q + 1) else (m, q)
    if 971 < q then infinite negative else finite negative m q

/-- The number nearest to `digits * 10 ^ exponent`. -/
def ofDecimal (negative : Bool) (digits : Nat) (exponent : Int) : Binary64 :=
  let magnitude : Int := (Text.decimal digits).length + exponent
  if digits = 0 ∨ magnitude < -330 then finite negative 0 (-1074)
  else if 330 < magnitude then infinite negative
  else if 0 ≤ exponent then ofRatio negative (digits * Nat.pow 10 exponent.toNat) 1
  else ofRatio negative digits (Nat.pow 10 (-exponent).toNat)

/-! ## The fewest digits -/

/-- Whether `c * 10 ^ e` is read as `m * 2 ^ q`: it lies between the middles to
the neighbours, which count themselves if `m` is even. -/
def readsBack (m : Nat) (q : Int) (c : Nat) (e : Int) : Bool :=
  let low := if m = Nat.pow 2 52 ∧ -1074 < q then 4 * m - 1 else 4 * m - 2
  let high := 4 * m + 2
  let (binary, unit) := scaled 1 1 (2 - q)
  let (ten, tenth) : Nat × Nat :=
    if 0 ≤ e then (Nat.pow 10 e.toNat, 1) else (1, Nat.pow 10 (-e).toNat)
  let value := c * ten * unit
  let bottom := low * binary * tenth
  let top := high * binary * tenth
  if m % 2 = 0 then bottom ≤ value && value ≤ top else bottom < value && value < top

/-- The least `p` from `start` on with `num / den < 10 ^ p`. -/
def decimalPlaces (num den : Nat) : Nat → Int → Int
  | 0, start => start
  | fuel + 1, start =>
    let below :=
      if 0 ≤ start then num < den * Nat.pow 10 start.toNat
      else num * Nat.pow 10 (-start).toNat < den
    if below then start else decimalPlaces num den fuel (start + 1)

/-- Digits `c` and exponent `e` of the shortest decimal `c * 10 ^ e` that is read
as `m * 2 ^ q`, trying `n` digits and then more.  Of two such decimals of one
length the nearer is taken, and of two as near the larger. -/
def shortestFrom (m : Nat) (q : Int) (places : Int) : Nat → Nat → Nat × Int
  | 0, n => (0, places - n)
  | fuel + 1, n =>
    let e := places - n
    let (num, den) := scaled m 1 (-q)
    let (num, den) :=
      if 0 ≤ e then (num, den * Nat.pow 10 e.toNat) else (num * Nat.pow 10 (-e).toNat, den)
    let below := num / den
    let nearest := if 2 * (num % den) < den then below else below + 1
    let other := if nearest = below then below + 1 else below
    if readsBack m q nearest e then (nearest, e)
    else if readsBack m q other e then (other, e)
    else shortestFrom m q places fuel (n + 1)

/-- Digits and exponent of the shortest decimal that is read as `m * 2 ^ q`.  A
number just below a power of ten may be read back from that power, whose last
zero is then taken off. -/
def shortest (m : Nat) (q : Int) : Nat × Int :=
  let (num, den) := scaled m 1 (-q)
  let (c, e) := shortestFrom m q (decimalPlaces num den 640 (-324)) 17 1
  if c % 10 = 0 then (c / 10, e + 1) else (c, e)

/-! ## Text -/

/-- `c * 10 ^ e` without an exponent, with at least one digit on either side of
the point. -/
def positional (c : Nat) (e : Int) : List Char :=
  let digits := Text.decimal c
  if 0 ≤ e then digits ++ List.replicate e.toNat '0' ++ ['.', '0']
  else
    let places := (-e).toNat
    let digits := List.replicate (places + 1 - digits.length) '0' ++ digits
    let whole := digits.take (digits.length - places)
    whole ++ '.' :: digits.drop (digits.length - places)

/-- The text of a number. -/
def text : Binary64 → String
  | finite negative m q =>
    let digits :=
      if m = 0 then positional 0 0
      else
        let (c, e) := shortest m q
        positional c e
    String.ofList (if negative then '-' :: digits else digits)
  | infinite negative => if negative then "-inf" else "inf"
  | nan => "NaN"

end Binary64

end DongleLink

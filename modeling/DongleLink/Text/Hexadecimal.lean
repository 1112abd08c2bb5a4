import DongleLink.Text.Blank
import DongleLink.Text.Decimal
import DongleLink.Text.Split

/-!
# DongleLink.Text.Hexadecimal

Hexadecimal numerals, and bytes as pairs of hexadecimal digits.
-/

namespace DongleLink.Text

/-- The upper-case digit of a value below 16. -/
def hexDigit (n : Nat) : Char :=
  if n < 10 then Char.ofNat (48 + n) else Char.ofNat (55 + n)

/-- The value of a digit in either case. -/
def hexValue? (c : Char) : Option Nat :=
  let n := c.toNat
  if 48 ≤ n ∧ n ≤ 57 then some (n - 48)
  else if 65 ≤ n ∧ n ≤ 70 then some (n - 55)
  else if 97 ≤ n ∧ n ≤ 102 then some (n - 87)
  else none

/-- Read an unsigned numeral of value at most `limit`, with an optional plus sign. -/
def readHexadecimal (limit : Nat) (s : List Char) : Option Nat :=
  let digits := unsigned s
  if digits.isEmpty then none
  else
    match digits.foldlM (fun n c => (hexValue? c).map (16 * n + ·)) 0 with
    | some n => if n ≤ limit then some n else none
    | none => none

/-- A byte as two upper-case digits. -/
def byteDigits (b : UInt8) : List Char := [hexDigit (b.toNat / 16), hexDigit (b.toNat % 16)]

/-- The byte of two digits. -/
def byteOfDigits? (high low : Char) : Option UInt8 :=
  match hexValue? high, hexValue? low with
  | some h, some l => some (.ofNat (16 * h + l))
  | _, _ => none

/-- The bytes of an even number of digits. -/
def bytesOfDigits? : List Char → Option (List UInt8)
  | [] => some []
  | [_] => none
  | high :: low :: rest =>
    match byteOfDigits? high low, bytesOfDigits? rest with
    | some b, some bytes => some (b :: bytes)
    | _, _ => none

theorem hexValue?_hexDigit {n : Nat} (h : n < 16) : hexValue? (hexDigit n) = some n := by
  have table : ∀ k : Fin 16, hexValue? (hexDigit k) = some k.val := by decide
  exact table ⟨n, h⟩

theorem byteOfDigits?_byteDigits (b : UInt8) :
    byteOfDigits? (hexDigit (b.toNat / 16)) (hexDigit (b.toNat % 16)) = some b := by
  have hb : b.toNat < 256 := b.toNat_lt
  simp only [byteOfDigits?, hexValue?_hexDigit (show b.toNat / 16 < 16 by omega),
    hexValue?_hexDigit (show b.toNat % 16 < 16 by omega)]
  rw [Nat.div_add_mod, UInt8.ofNat_toNat]

/-- Reading the digits of bytes gives the bytes back. -/
theorem bytesOfDigits?_flatMap (bytes : List UInt8) :
    bytesOfDigits? (bytes.flatMap byteDigits) = some bytes := by
  induction bytes with
  | nil => rfl
  | cons b rest ih =>
    simp only [List.flatMap_cons, byteDigits, List.cons_append, List.nil_append,
      bytesOfDigits?, byteOfDigits?_byteDigits]
    rw [ih]

end DongleLink.Text

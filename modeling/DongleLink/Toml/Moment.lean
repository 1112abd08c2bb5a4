import DongleLink.Text.Decimal

/-!
# DongleLink.Toml.Moment

Dates and times of a TOML document: a date, a time of day, or both, and with
both an offset from universal time.
-/

namespace DongleLink.Toml

structure Date where
  year : Nat
  month : Nat
  day : Nat
  deriving DecidableEq, Repr

structure Clock where
  hour : Nat
  minute : Nat
  second : Nat
  nanos : Nat
  deriving DecidableEq, Repr

/-- Distance from universal time. -/
inductive Offset where
  | universal
  | minutes (m : Int)
  deriving DecidableEq, Repr

/-- A date, a time of day, or both. -/
structure Moment where
  date : Option Date
  clock : Option Clock
  offset : Option Offset
  deriving DecidableEq, Repr

namespace Moment

/-! ## Calendar -/

def isLeapYear (year : Nat) : Bool :=
  year % 4 == 0 && (year % 100 != 0 || year % 400 == 0)

def daysIn (year month : Nat) : Nat :=
  if month = 2 then if isLeapYear year then 29 else 28
  else if month = 4 ∨ month = 6 ∨ month = 9 ∨ month = 11 then 30
  else 31

def Date.isValid (d : Date) : Bool :=
  1 ≤ d.month && d.month ≤ 12 && 1 ≤ d.day && d.day ≤ daysIn d.year d.month

def Clock.isValid (c : Clock) : Bool := c.hour ≤ 23 && c.minute ≤ 59 && c.second ≤ 60

/-! ## Reading -/

/-- A number of exactly `n` digits. -/
def readDigits (n : Nat) (s : List Char) : Option (Nat × List Char) :=
  let digits := s.take n
  if digits.length = n ∧ digits.all Char.isDigit then
    some (Text.digitsValue digits, s.drop n)
  else none

/-- Four, two and two digits with hyphens between them, a day of the calendar. -/
def readDate (s : List Char) : Option (Date × List Char) :=
  match readDigits 4 s with
  | some (year, '-' :: s) =>
    match readDigits 2 s with
    | some (month, '-' :: s) =>
      match readDigits 2 s with
      | some (day, s) =>
        let date := { year := year, month := month, day := day }
        if Date.isValid date then some (date, s) else none
      | none => none
    | _ => none
  | _ => none

/-- Nanoseconds from decimals of a second; what is beyond nine places is cut off. -/
def nanosOf (decimals : List Char) : Nat :=
  let kept := decimals.take 9
  Text.digitsValue kept * Nat.pow 10 (9 - kept.length)

/-- Three pairs of digits with colons between them, and decimals of the second. -/
def readClock (s : List Char) : Option (Clock × List Char) :=
  match readDigits 2 s with
  | some (hour, ':' :: s) =>
    match readDigits 2 s with
    | some (minute, ':' :: s) =>
      match readDigits 2 s with
      | some (second, s) =>
        let clock := { hour := hour, minute := minute, second := second, nanos := 0 }
        if !Clock.isValid clock then none
        else
          match s with
          | '.' :: r =>
            let decimals := r.takeWhile Char.isDigit
            if decimals.isEmpty then none
            else some ({ clock with nanos := nanosOf decimals }, r.drop decimals.length)
          | _ => some (clock, s)
      | none => none
    | _ => none
  | _ => none

/-- `Z`, or a sign, hours and minutes. -/
def readOffset (s : List Char) : Option (Offset × List Char) :=
  match s with
  | 'Z' :: s | 'z' :: s => some (.universal, s)
  | sign :: s =>
    if sign = '+' ∨ sign = '-' then
      match readDigits 2 s with
      | some (hours, ':' :: s) =>
        match readDigits 2 s with
        | some (minutes, s) =>
          if hours ≤ 23 ∧ minutes ≤ 59 then
            let total : Int := 60 * hours + minutes
            some (.minutes (if sign = '-' then -total else total), s)
          else none
        | none => none
      | _ => none
    else none
  | [] => none

/-- A whole token that is a date, a time of day, or both. -/
def read (s : List Char) : Option Moment :=
  match readDate s with
  | some (date, []) => some { date := some date, clock := none, offset := none }
  | some (date, separator :: s) =>
    if separator = 'T' ∨ separator = 't' ∨ separator = ' ' then
      match readClock s with
      | some (clock, []) => some { date := some date, clock := some clock, offset := none }
      | some (clock, s) =>
        match readOffset s with
        | some (offset, []) =>
          some { date := some date, clock := some clock, offset := some offset }
        | _ => none
      | none => none
    else none
  | none =>
    match readClock s with
    | some (clock, []) => some { date := none, clock := some clock, offset := none }
    | _ => none

/-! ## Writing -/

/-- A number with zeros in front up to `n` digits. -/
def padded (n value : Nat) : List Char :=
  let digits := Text.decimal value
  List.replicate (n - digits.length) '0' ++ digits

def Date.write (d : Date) : List Char :=
  padded 4 d.year ++ '-' :: padded 2 d.month ++ '-' :: padded 2 d.day

def Clock.write (c : Clock) : List Char :=
  let decimals := (padded 9 c.nanos).reverse.dropWhile (· == '0')
  padded 2 c.hour ++ ':' :: padded 2 c.minute ++ ':' :: padded 2 c.second
    ++ if decimals.isEmpty then [] else '.' :: decimals.reverse

def Offset.write : Offset → List Char
  | .universal => ['Z']
  | .minutes m =>
    (if 0 ≤ m then '+' else '-') :: padded 2 (m.natAbs / 60) ++ ':' :: padded 2 (m.natAbs % 60)

/-- The text of a moment. -/
def text (m : Moment) : String :=
  let date := (m.date.map Date.write).getD []
  let clock := (m.clock.map Clock.write).getD []
  let offset := (m.offset.map Offset.write).getD []
  let separator := if m.date.isSome && m.clock.isSome then ['T'] else []
  String.ofList (date ++ separator ++ clock ++ offset)

end Moment

end DongleLink.Toml

import Bookkeeping.Decimal

namespace Bookkeeping

structure Instant where
  seconds : Int
  nanos : Nat
  nanos_lt : nanos < 1000000000 ∨ nanos < 2000000000 ∧ seconds % 60 = 59
  deriving DecidableEq

namespace Instant

instance : Repr Instant := ⟨fun t _ => repr (t.seconds, t.nanos)⟩

def ofSeconds (seconds : Int) : Instant := ⟨seconds, 0, .inl (by decide)⟩

instance : Inhabited Instant := ⟨ofSeconds 0⟩

def of? (seconds : Int) (nanos : Nat) : Option Instant :=
  if h : nanos < 1000000000 ∨ nanos < 2000000000 ∧ seconds % 60 = 59 then
    some ⟨seconds, nanos, h⟩
  else none

def le (a b : Instant) : Bool :=
  a.seconds < b.seconds || (a.seconds == b.seconds && a.nanos ≤ b.nanos)

end Instant

structure Day where
  year : Int
  month : Nat
  day : Nat
  deriving DecidableEq, Repr

namespace Day

def isLeapYear (year : Int) : Bool := year % 4 == 0 && (year % 100 != 0 || year % 400 == 0)

def daysInMonth (year : Int) (month : Nat) : Nat :=
  match month with
  | 2 => if isLeapYear year then 29 else 28
  | 4 | 6 | 9 | 11 => 30
  | _ => 31

def IsValid (d : Day) : Prop :=
  1 ≤ d.month ∧ d.month ≤ 12 ∧ 1 ≤ d.day ∧ d.day ≤ daysInMonth d.year d.month

instance (d : Day) : Decidable d.IsValid := by unfold IsValid; infer_instance

/-- The day a number of days after the start of 1970. Years are counted from March, so that the leap
day is the last of its year, in periods of 400 years. -/
def ofNumber (days : Int) : Day :=
  let shifted := days + 719468
  let era := shifted / 146097
  let doe := (shifted % 146097).toNat
  let yoe := (doe - doe / 1460 + doe / 36524 - doe / 146096) / 365
  let doy := doe - (365 * yoe + yoe / 4 - yoe / 100)
  let mp := (5 * doy + 2) / 153
  let month := if mp < 10 then mp + 3 else mp - 9
  let year := era * 400 + yoe
  { year := if month ≤ 2 then year + 1 else year
    month := month
    day := doy - (153 * mp + 2) / 5 + 1 }

def number (d : Day) : Int :=
  let year := if d.month ≤ 2 then d.year - 1 else d.year
  let era := year / 400
  let yoe := (year % 400).toNat
  let mp := if d.month > 2 then d.month - 3 else d.month + 9
  let doy := (153 * mp + 2) / 5 + d.day - 1
  let doe := yoe * 365 + yoe / 4 - yoe / 100 + doy
  era * 146097 + doe - 719468

end Day

namespace Instant

def day (t : Instant) : Day := Day.ofNumber (t.seconds / 86400)

def secondOfDay (t : Instant) : Nat := (t.seconds % 86400).toNat

/-- Four digits for the years 0 to 9999, a sign and at least four digits for the others. -/
def writtenYear (year : Int) : List Char :=
  if 0 ≤ year ∧ year ≤ 9999 then Decimal.padded 4 year.toNat
  else (if year < 0 then '-' else '+') :: Decimal.padded 4 year.natAbs

def writtenFraction (nanos : Nat) : List Char :=
  if nanos = 0 then []
  else if nanos % 1000000 = 0 then '.' :: Decimal.padded 3 (nanos / 1000000)
  else if nanos % 1000 = 0 then '.' :: Decimal.padded 6 (nanos / 1000)
  else '.' :: Decimal.padded 9 nanos

def written (t : Instant) : List Char :=
  let d := t.day
  let s := t.secondOfDay
  writtenYear d.year ++ '-' :: Decimal.padded 2 d.month ++ '-' :: Decimal.padded 2 d.day
    ++ 'T' :: Decimal.padded 2 (s / 3600) ++ ':' :: Decimal.padded 2 (s / 60 % 60)
    ++ ':' :: Decimal.padded 2 (s % 60 + t.nanos / 1000000000)
    ++ writtenFraction (t.nanos % 1000000000)

def display (t : Instant) : String := String.ofList (t.written ++ ['Z'])

/-- The form that is stored, and that the store compares character by character. -/
def stamp (t : Instant) : String := String.ofList (t.written ++ "+00:00".toList)

end Instant

end Bookkeeping

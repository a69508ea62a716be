import Bookkeeping.Instant.Basic
import Bookkeeping.Text.Blank

namespace Bookkeeping.Instant

open Text

def readDigits (most : Option Nat) (cs : List Char) : Option (Nat × List Char) :=
  let ds := cs.takeWhile Char.isDigit
  let ds := (most.map ds.take).getD ds
  (Decimal.value? ds).map fun n => (n, cs.drop ds.length)

def readTwo (cs : List Char) : Option (Nat × List Char) := readDigits (some 2) (trimStart cs)

def readYear (cs : List Char) : Option (Int × List Char) :=
  match trimStart cs with
  | '-' :: rest => (readDigits none rest).map fun (n, r) => (-(n : Int), r)
  | '+' :: rest => (readDigits none rest).map fun (n, r) => ((n : Int), r)
  | rest => (readDigits (some 4) rest).map fun (n, r) => ((n : Int), r)

def readMark (mark : Char) (cs : List Char) : Option (List Char) :=
  match trimStart cs with
  | c :: rest => if c = mark then some rest else none
  | [] => none

def readDay (cs : List Char) : Option (Day × List Char) := do
  let (year, cs) ← readYear cs
  let (month, cs) ← readTwo (← readMark '-' cs)
  let (day, cs) ← readTwo (← readMark '-' cs)
  some (⟨year, month, day⟩, cs)

def readFraction : List Char → Option (Nat × List Char)
  | '.' :: cs => do
    let ds := (cs.takeWhile Char.isDigit).take 9
    let n ← Decimal.value? ds
    some (n * Nat.pow 10 (9 - ds.length), cs.dropWhile Char.isDigit)
  | cs => some (0, cs)

structure Clock where
  hour : Nat
  minute : Nat
  second : Nat
  nanos : Nat

def readClock (cs : List Char) : Option (Clock × List Char) := do
  let (hour, cs) ← readTwo cs
  let (minute, cs) ← readTwo (← readMark ':' cs)
  let (second, cs) ← readTwo (← readMark ':' cs)
  let (nanos, cs) ← readFraction cs
  some (⟨hour, minute, second, nanos⟩, cs)

def readOffsetSign : List Char → Option (Int × List Char)
  | '+' :: cs => some (1, cs)
  | c :: cs => if c = '-' ∨ c.toNat = 0x2212 then some (-1, cs) else none
  | [] => none

def readPair : List Char → Option (Nat × List Char)
  | a :: b :: cs => (Decimal.value? [a, b]).map fun n => (n, cs)
  | _ => none

def readOffset (cs : List Char) : Option (Int × List Char) := do
  let (sign, cs) ← readOffsetSign cs
  let (hours, cs) ← readPair cs
  let (minutes, cs) ← readPair (cs.dropWhile fun c => c == ':' || isBlank c)
  if minutes < 60 then some (sign * (hours * 3600 + minutes * 60), cs) else none

def readZone (cs : List Char) : Option (Int × List Char) :=
  let cs := trimStart cs
  if (cs.take 3).map Char.toUpper = ['U', 'T', 'C'] then some (0, cs.drop 3)
  else match cs with
    | 'Z' :: rest | 'z' :: rest => some (0, rest)
    | _ => readOffset cs

def readSeparator : List Char → Option (List Char)
  | c :: cs => if c = 't' ∨ c = 'T' ∨ c = ' ' then some cs else none
  | [] => none

def firstYear : Int := -262143

def lastYear : Int := 262142

def inCalendar (d : Day) : Bool := firstYear ≤ d.year && d.year ≤ lastYear

/-- The instant a clock in a zone shows; the clock may show a sixtieth second. -/
def ofClock? (d : Day) (c : Clock) (zone : Int) : Option Instant := do
  if ¬ d.IsValid ∨ ¬ inCalendar d ∨ c.hour ≥ 24 ∨ c.minute ≥ 60 ∨ c.second > 60
      ∨ zone.natAbs ≥ 86400 then none
  else
    let leap := if c.second = 60 then 1 else 0
    let shown := d.number * 86400 + c.hour * 3600 + c.minute * 60 + (c.second - leap : Nat)
    let t ← of? (shown - zone) (c.nanos + leap * 1000000000)
    if inCalendar t.day then some t else none

def parse? (s : String) : Option Instant := do
  let (day, cs) ← readDay s.toList
  let (clock, cs) ← readClock (← readSeparator cs)
  let (zone, cs) ← readZone cs
  if trimStart cs = [] then ofClock? day clock zone else none

end Bookkeeping.Instant

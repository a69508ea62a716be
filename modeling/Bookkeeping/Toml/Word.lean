import Bookkeeping.Decimal.Shortest
import Bookkeeping.Instant.Basic
import Bookkeeping.Money
import Bookkeeping.Toml.Basic

namespace Bookkeeping.Toml

open Decimal

def isHex (c : Char) : Bool :=
  c.isDigit || ('a' ≤ c && c ≤ 'f') || ('A' ≤ c && c ≤ 'F')

def digitIn (base : Nat) (c : Char) : Bool :=
  if base = 16 then isHex c else c.isDigit && c.toNat < 48 + base

def hexValue (c : Char) : Nat :=
  if c.isDigit then c.toNat - 48 else if 'a' ≤ c then c.toNat - 87 else c.toNat - 55

def joinDigits? (base : Nat) : List Char → Option (List Char)
  | [] => none
  | [c] => if digitIn base c then some [c] else none
  | c :: '_' :: d :: cs =>
    if digitIn base c then (joinDigits? base (d :: cs)).map (c :: ·) else none
  | c :: cs => if digitIn base c then (joinDigits? base cs).map (c :: ·) else none

def valueIn (base : Nat) (ds : List Char) : Nat := ds.foldl (fun v c => base * v + hexValue c) 0

def word? (n : Int) : Option Toml := if FitsWord n then some (.int n) else none

def plainDigits? (cs : List Char) : Option (List Char) :=
  match joinDigits? 10 cs with
  | some ('0' :: _ :: _) => none
  | ds => ds

def splitSign : List Char → Option Bool × List Char
  | '-' :: cs => (some true, cs)
  | '+' :: cs => (some false, cs)
  | cs => (none, cs)

def int? (cs : List Char) : Option Toml :=
  match cs with
  | '0' :: 'x' :: ds => (joinDigits? 16 ds).bind fun ds => word? (valueIn 16 ds)
  | '0' :: 'o' :: ds => (joinDigits? 8 ds).bind fun ds => word? (valueIn 8 ds)
  | '0' :: 'b' :: ds => (joinDigits? 2 ds).bind fun ds => word? (valueIn 2 ds)
  | cs =>
    let (sign, ds) := splitSign cs
    (plainDigits? ds).bind fun ds =>
      word? (if sign = some true then -(value ds : Int) else value ds)

def exponent? (cs : List Char) : Option Int :=
  let (sign, ds) := splitSign cs
  (joinDigits? 10 ds).map fun ds => if sign = some true then -(value ds : Int) else value ds

def fraction? (cs : List Char) : Option Toml := do
  let (sign, cs) := splitSign cs
  let minus := if sign = some true then "-" else ""
  if cs = "inf".toList then some (.fraction (minus ++ "inf"))
  else if cs = "nan".toList then some (.fraction "NaN")
  else
    let isMark (c : Char) : Bool := c == 'e' || c == 'E'
    let mantissa := cs.takeWhile (!isMark ·)
    let afterMark := cs.dropWhile (!isMark ·)
    let whole := mantissa.takeWhile (· != '.')
    let afterPoint := mantissa.dropWhile (· != '.')
    if afterMark.isEmpty && afterPoint.isEmpty then none
    else
      let whole ← plainDigits? whole
      let places ← if afterPoint.isEmpty then some [] else joinDigits? 10 (afterPoint.drop 1)
      let e ← if afterMark.isEmpty then some 0 else exponent? (afterMark.drop 1)
      let shown := shortestText (value (whole ++ places)) (e - places.length)
      if shown = "inf".toList then none else some (.fraction (minus ++ String.ofList shown))

def fixed? (width : Nat) (cs : List Char) : Option (Nat × List Char) :=
  if (cs.take width).length = width then (value? (cs.take width)).map (·, cs.drop width) else none

def skip? (c : Char) : List Char → Option (List Char)
  | d :: cs => if c = d then some cs else none
  | [] => none

def day? (cs : List Char) : Option (List Char × List Char) := do
  let (year, rest) ← fixed? 4 cs
  let (month, rest) ← fixed? 2 (← skip? '-' rest)
  let (day, rest) ← fixed? 2 (← skip? '-' rest)
  if (Day.mk year month day).IsValid then some (cs.take 10, rest) else none

def clock? (cs : List Char) : Option (List Char × List Char) := do
  let (hour, rest) ← fixed? 2 cs
  let (minute, rest) ← fixed? 2 (← skip? ':' rest)
  let (second, rest) ← fixed? 2 (← skip? ':' rest)
  if hour > 23 ∨ minute > 59 ∨ second > 60 then none
  else
    match rest with
    | '.' :: rest =>
      let ds := rest.takeWhile Char.isDigit
      if ds.isEmpty then none
      else
        let shown := ((ds.take 9).reverse.dropWhile (· == '0')).reverse
        some (cs.take 8 ++ (if shown.isEmpty then [] else '.' :: shown), rest.drop ds.length)
    | rest => some (cs.take 8, rest)

def zone? (cs : List Char) : Option (List Char) := do
  match cs with
  | [] => some []
  | ['Z'] | ['z'] => some ['Z']
  | sign :: rest =>
    let (hours, rest) ← fixed? 2 rest
    let (minutes, rest) ← fixed? 2 (← skip? ':' rest)
    if (sign = '+' ∨ sign = '-') ∧ hours < 24 ∧ minutes < 60 ∧ rest = [] then some cs else none

def date? (cs : List Char) : Option Toml := do
  match day? cs with
  | some (day, []) => some (.date (String.ofList day))
  | some (day, mark :: rest) =>
    let (clock, rest) ← clock? rest
    let zone ← zone? rest
    if mark = 'T' ∨ mark = 't' ∨ mark = ' ' then
      some (.date (String.ofList (day ++ 'T' :: clock ++ zone)))
    else none
  | none =>
    let (clock, rest) ← clock? cs
    if rest = [] then some (.date (String.ofList clock)) else none

def ofWord? (cs : List Char) : Option Toml :=
  if cs = "true".toList then some (.flag true)
  else if cs = "false".toList then some (.flag false)
  else (int? cs).orElse fun _ => (fraction? cs).orElse fun _ => date? cs

end Bookkeeping.Toml

import Bookkeeping.Decimal

/-! Decimal fractions as binary floating-point numbers of 64 bits, written with the fewest digits
that read back as the same number. All of it is exact arithmetic on whole numbers. -/

namespace Bookkeeping.Decimal

structure Binary where
  m : Nat
  q : Int
  deriving DecidableEq, Repr

def power (base : Nat) (e : Int) : Nat × Nat :=
  if 0 ≤ e then (base.pow e.toNat, 1) else (1, base.pow e.natAbs)

def leastMantissa : Nat := 4503599627370496

def roundHalfEven (num den : Nat) : Nat :=
  let n := num / den
  let twice := 2 * (num % den)
  if twice < den ∨ twice = den ∧ n % 2 = 0 then n else n + 1

def leastExponent : Int := -1074

def greatestExponent : Int := 971

def nearest? (num den : Nat) : Option Binary :=
  let guess : Int := (Nat.log2 num : Int) - Nat.log2 den - 52
  let scaled (q : Int) : Nat × Nat :=
    let (up, down) := power 2 q
    (num * down, den * up)
  let fits (q : Int) : Bool := (scaled q).1 < (scaled q).2 * (2 * leastMantissa)
  let q := if fits (guess - 1) then guess - 1 else if fits guess then guess else guess + 1
  let q := max q leastExponent
  let m := roundHalfEven (scaled q).1 (scaled q).2
  let b : Binary := if m = 2 * leastMantissa then ⟨leastMantissa, q + 1⟩ else ⟨m, q⟩
  if b.q ≤ greatestExponent then some b else none

namespace Binary

/-- Whether a quotient lies among the reals that round to a number: half a step around it, a quarter
below a power of two, ends included where `m` is even. -/
def holds (b : Binary) (num den : Nat) : Bool :=
  let low := if b.m = leastMantissa ∧ leastExponent < b.q then 4 * b.m - 1 else 4 * b.m - 2
  let high := 4 * b.m + 2
  let (up, down) := power 2 (b.q - 2)
  let left := low * up * den
  let right := high * up * den
  let here := num * down
  if b.m % 2 = 0 then left ≤ here && here ≤ right else left < here && here < right

def place (num den : Nat) : Int :=
  let guess : Int := ((digits num).length : Int) - (digits den).length
  let (up, down) := power 10 guess
  if den * up ≤ num * down then guess else guess - 1

/-- The neighbour of a number on the grid of multiples of `10 ^ p` that reads back as it, if there
is one; of two the nearer. -/
def onGrid? (b : Binary) (p : Int) : Option Nat :=
  let (up, down) := power 2 b.q
  let (tenUp, tenDown) := power 10 p
  let num := b.m * up * tenDown
  let den := down * tenUp
  let reads (c : Nat) : Bool := b.holds (c * tenUp) tenDown
  let n := num / den
  let near := roundHalfEven num den
  let far := if near = n then n + 1 else n
  if reads near then some near else if reads far then some far else none

def shortest (b : Binary) : Nat × Int :=
  let (up, down) := power 2 b.q
  let first := place (b.m * up) down
  let grids := (List.range 17).map fun (i : Nat) => first - (i : Int)
  match grids.findSome? fun p => (b.onGrid? p).map (·, p) with
  | some found => found
  | none => (b.m, 0)

end Binary

def positional (n : Nat) (p : Int) : List Char :=
  if 0 ≤ p then digits (n * Nat.pow 10 p.toNat)
  else
    let places := p.natAbs
    let fraction := padded places (n % Nat.pow 10 places)
    let fraction := (fraction.reverse.dropWhile (· == '0')).reverse
    digits (n / Nat.pow 10 places) ++ if fraction.isEmpty then [] else '.' :: fraction

/-- How the number nearest to `n · 10 ^ e` is written. Far out of range no power has to be computed.
-/
def shortestText (n : Nat) (e : Int) : List Char :=
  let places := e + (digits n).length
  if n = 0 ∨ places < -330 then ['0']
  else if 330 < places then "inf".toList
  else match nearest? (n * (power 10 e).1) (power 10 e).2 with
    | none => "inf".toList
    | some b =>
      if b.m = 0 then ['0']
      else
        let (digits, p) := b.shortest
        positional digits p

end Bookkeeping.Decimal

import Bookkeeping.Decimal
import Bookkeeping.Error.Ledger
import Bookkeeping.Text.Blank

namespace Bookkeeping

def leastWord : Int := -9223372036854775808

def greatestWord : Int := 9223372036854775807

def FitsWord (n : Int) : Prop := leastWord ≤ n ∧ n ≤ greatestWord

instance (n : Int) : Decidable (FitsWord n) := by unfold FitsWord; infer_instance

structure Money where
  minor : Int
  fits : FitsWord minor
  deriving DecidableEq

namespace Money

instance : Repr Money := ⟨fun m _ => repr m.minor⟩

theorem ext {a b : Money} (h : a.minor = b.minor) : a = b := by
  cases a
  cases b
  cases h
  rfl

def ofInt? (n : Int) : Option Money := if h : FitsWord n then some ⟨n, h⟩ else none

def zero : Money := ⟨0, by decide⟩

instance : Inhabited Money := ⟨zero⟩

def isZero (m : Money) : Bool := m.minor == 0

def isPositive (m : Money) : Bool := 0 < m.minor

def isNegative (m : Money) : Bool := m.minor < 0

def checkedAdd (a b : Money) : Option Money := ofInt? (a.minor + b.minor)

def checkedSub (a b : Money) : Option Money := ofInt? (a.minor - b.minor)

def add (a b : Money) : Except Overflow Money :=
  match a.checkedAdd b with
  | some m => .ok m
  | none => .error .add

def sub (a b : Money) : Except Overflow Money :=
  match a.checkedSub b with
  | some m => .ok m
  | none => .error .subtract

def neg (a : Money) : Except Overflow Money :=
  match ofInt? (-a.minor) with
  | some m => .ok m
  | none => .error .negate

def compare (a b : Money) : Ordering := Ord.compare a.minor b.minor

def written (m : Money) : List Char :=
  let n := m.minor.natAbs
  (if m.minor < 0 then ['-'] else [])
    ++ Decimal.digits (n / 100) ++ '.' :: Decimal.padded 2 (n % 100)

def display (m : Money) : String := String.ofList m.written

def isPoint (c : Char) : Bool := c == '.' || c == ','

def splitSign : List Char → Bool × List Char
  | '-' :: cs => (true, cs)
  | '+' :: cs => (false, cs)
  | cs => (false, cs)

/-- Reads what follows the point. A single digit counts tenths. -/
def hundredths? : List Char → Option Nat
  | [] => some 0
  | [d] => (Decimal.value? [d]).map (10 * ·)
  | [d, e] => Decimal.value? [d, e]
  | _ => none

def magnitude? (cs : List Char) : Option Nat := do
  let units ← Decimal.value? (cs.takeWhile (!isPoint ·))
  let cents ← hundredths? ((cs.dropWhile (!isPoint ·)).drop 1)
  if (units * 100 + cents : Int) ≤ greatestWord then some (units * 100 + cents) else none

def parse? (s : String) : Option Money :=
  let (negative, rest) := splitSign (Text.trim s.toList)
  match magnitude? (Text.trim rest) with
  | none => none
  | some n => ofInt? (if negative then -(n : Int) else n)

def parse (s : String) : Except DomainError Money :=
  match parse? s with
  | some m => .ok m
  | none => .error .invalidAmount

theorem ofInt?_eq_some_iff {n : Int} {m : Money} : ofInt? n = some m ↔ m.minor = n := by
  unfold ofInt?
  constructor
  · intro h
    split at h
    · cases h
      rfl
    · cases h
  · intro h
    have fits : FitsWord n := h ▸ m.fits
    rw [dif_pos fits]
    exact congrArg some (ext h.symm)

theorem checkedAdd_eq_some_iff {a b m : Money} :
    a.checkedAdd b = some m ↔ m.minor = a.minor + b.minor := ofInt?_eq_some_iff

theorem checkedSub_eq_some_iff {a b m : Money} :
    a.checkedSub b = some m ↔ m.minor = a.minor - b.minor := ofInt?_eq_some_iff

end Money

end Bookkeeping

import Bookkeeping.Error.Domain
import Bookkeeping.Text.Blank

namespace Bookkeeping

def isCapital (c : Char) : Bool := 'A' ≤ c && c ≤ 'Z'

structure Currency where
  code : String
  three_capitals : code.toList.length = 3 ∧ code.toList.all isCapital = true
  deriving DecidableEq

namespace Currency

instance : Repr Currency := ⟨fun c _ => repr c.code⟩

def euro : Currency := ⟨"EUR", by decide⟩

instance : Inhabited Currency := ⟨euro⟩

def ofCode? (code : String) : Option Currency :=
  if h : code.toList.length = 3 ∧ code.toList.all isCapital = true then some ⟨code, h⟩ else none

def parse? (s : String) : Option Currency :=
  ofCode? (String.ofList ((Text.trim s.toList).map Char.toUpper))

def parse (s : String) : Except DomainError Currency :=
  match parse? s with
  | some c => .ok c
  | none => .error .invalidCurrency

end Currency

end Bookkeeping

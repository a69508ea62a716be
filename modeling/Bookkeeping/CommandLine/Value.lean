import Bookkeeping.Currency
import Bookkeeping.Instant.Reader
import Bookkeeping.Kind
import Bookkeeping.Money
import Bookkeeping.Uuid

namespace Bookkeeping.CommandLine

inductive Shape
  | text
  | id
  | amount
  | currency
  | instant
  | accountKind
  | categoryKind
  deriving DecidableEq, Repr

namespace Shape

abbrev Content : Shape → Type
  | .text => String
  | .id => Uuid
  | .amount => Money
  | .currency => Currency
  | .instant => Instant
  | .accountKind => AccountKind
  | .categoryKind => CategoryKind

def read? : (s : Shape) → String → Option s.Content
  | .text, raw => some raw
  | .id, raw => Uuid.parse? raw
  | .amount, raw => Money.parse? raw
  | .currency, raw => Currency.parse? raw
  | .instant, raw => Instant.parse? raw
  | .accountKind, raw => (AccountKind.parse raw).toOption
  | .categoryKind, raw => (CategoryKind.parse raw).toOption

end Shape

inductive Given
  | flag
  | value (shape : Shape) (content : shape.Content)

def Given.content? (g : Given) (s : Shape) : Option s.Content :=
  match g with
  | .flag => none
  | .value t content => if h : t = s then some (h ▸ content) else none

abbrev Values := List (String × Given)

namespace Values

def has (vs : Values) (name : String) : Bool := vs.any (·.1 == name)

def all (vs : Values) (name : String) (s : Shape) : List s.Content :=
  (vs.filter (·.1 == name)).filterMap (·.2.content? s)

def get? (vs : Values) (name : String) (s : Shape) : Option s.Content := (vs.all name s).head?

end Values

end Bookkeeping.CommandLine

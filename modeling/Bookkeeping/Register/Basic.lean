import Bookkeeping.Store.Work

namespace Bookkeeping.Register

def byText (key : α → String) (a b : α) : Bool := key a ≤ key b

def byTexts (first second : α → String) (a b : α) : Bool :=
  first a < first b || (first a == first b && second a ≤ second b)

-- One statement: what is entered is not read back.
def enter (t : Table) (row : t.Row) : Work Unit := Work.write (·.insert t [t.record row])

def look (query : Books → Option Row) (decode : Row → Except InfraError α) : Work α := do
  match ← Work.read query with
  | none => Work.failDomain .recordNotFound
  | some row => Work.ofDecoded (decode row)

def list (query : Books → List Row) (decode : Row → Except InfraError α) : Work (List α) := do
  Work.ofDecoded ((← Work.read query).mapM decode)

-- `replace` and `strike` ask first whether there are rows to change, in a statement of its own. A
-- database would change what it finds and count the rows afterwards, which comes to the same.
def replace (t : Table) (columns : List String) (chosen : t.Row → Bool) (row : t.Row) :
    Work Unit := do
  if ← Work.read fun b => (b.rows t).any chosen then
    Work.write (·.update t columns chosen fun old =>
      (t.record old).assign ((t.record row).filter fun (column, _) => columns.contains column))
  else Work.failDomain .recordNotFound

def strike (t : Table) (chosen : t.Row → Bool) : Work Unit := do
  if ← Work.read fun b => (b.rows t).any chosen then Work.write (·.delete t chosen)
  else Work.failDomain .recordNotFound

def bodyColumns (t : Table) : List String := t.columns.filter (· != "id")

end Bookkeeping.Register

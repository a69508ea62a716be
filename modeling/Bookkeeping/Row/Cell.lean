import Bookkeeping.Error.Storage
import Bookkeeping.Instant.Reader
import Bookkeeping.Money

namespace Bookkeeping

inductive Cell
  | null
  | int (n : Int)
  | text (s : String)
  | moment (t : Instant)
  deriving DecidableEq, Repr

namespace Cell

def ofBool (b : Bool) : Cell := .int (if b then 1 else 0)

def ofText? : Option String → Cell
  | none => .null
  | some s => .text s

def text? : Cell → Option String
  | .null => none
  | .int n => some (toString n)
  | .text s => some s
  | .moment t => some t.stamp

/-- Whether a stored cell is the one asked for; `null` is no cell at all. -/
def agrees (stored asked : Cell) : Bool := stored.text?.isSome && stored.text? == asked.text?

@[simp] theorem text?_text (s : String) : (text s).text? = some s := rfl

@[simp] theorem text?_ofText? (s : Option String) : (ofText? s).text? = s := by
  cases s <;> rfl

end Cell

abbrev Record := List (String × Cell)

namespace Record

def cell? (r : Record) (column : String) : Option Cell := r.lookup column

def text? (r : Record) (column : String) : Option String := (r.cell? column).bind Cell.text?

def assign (r changes : Record) : Record :=
  r.map fun (column, cell) => (column, (changes.cell? column).getD cell)

end Record

structure RecordReader where
  table : String
  record : Record

namespace RecordReader

def missing (r : RecordReader) (column : String) : StorageFailure :=
  .database (some 1299) s!"NOT NULL constraint failed: {r.table}.{column}"

def mismatch : StorageFailure := .database (some 20) "datatype mismatch"

def optional (r : RecordReader) (column : String) : Option String := r.record.text? column

def text (r : RecordReader) (column : String) : Except StorageFailure String :=
  match r.record.text? column with
  | some s => .ok s
  | none => .error (r.missing column)

def int (r : RecordReader) (column : String) (default : Option Int) : Except StorageFailure Int :=
  match r.record.cell? column, default with
  | none, some n => .ok n
  | none, none | some .null, _ => .error (r.missing column)
  | some (.int n), _ => .ok n
  | some (.text s), _ =>
    match Decimal.signed? s.toList with
    | some n => .ok n
    | none => .error mismatch
  | some (.moment _), _ => .error mismatch

def money (r : RecordReader) (column : String) (default : Option Int) :
    Except StorageFailure Money :=
  match r.int column default with
  | .error f => .error f
  | .ok n =>
    match Money.ofInt? n with
    | some m => .ok m
    | none => .error mismatch

def bool (r : RecordReader) (column : String) (default : Option Bool) :
    Except StorageFailure Bool :=
  match r.int column (default.map fun b => if b then 1 else 0) with
  | .error f => .error f
  | .ok n => .ok (n != 0)

def moment (r : RecordReader) (column : String) : Except StorageFailure Instant :=
  match r.record.cell? column with
  | none | some .null => .error (r.missing column)
  | some (.moment t) => .ok t
  | some (.text s) =>
    match Instant.parse? s with
    | some t => .ok t
    | none => .error mismatch
  | some (.int _) => .error mismatch

@[simp] theorem money_minor (m : Money) : Money.ofInt? m.minor = some m :=
  Money.ofInt?_eq_some_iff.2 rfl

@[simp] theorem bit_ne_zero (b : Bool) : ((if b = true then (1 : Int) else 0) != 0) = b := by
  cases b <;> rfl

end RecordReader

end Bookkeeping

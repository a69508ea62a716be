import Bookkeeping.Store.Work

namespace Bookkeeping.Plain

def noSuchTable (table : String) : StorageFailure := .database (some 1) s!"no such table: {table}"

def noSuchColumn (column : String) : StorageFailure :=
  .database (some 1) s!"no such column: {column}"

def tableNamed (table : String) : Work Table := do
  Work.connected
  match Table.ofName? table with
  | some t => return t
  | none => Work.ofStorage (.error (noSuchTable table))

def checkColumns (t : Table) (columns : List String) : Work Unit :=
  match columns.find? (!t.columns.contains ·) with
  | some column => Work.ofStorage (.error (noSuchColumn column))
  | none => pure ()

def holds (t : Table) (column : String) (cell : Cell) (row : t.Row) : Bool :=
  ((t.record row).cell? column).any (·.agrees cell)

def insert (table : String) (values : Record) : Work Nat := do
  let t ← tableNamed table
  checkColumns t (values.map (·.1))
  Work.write (·.insert t [values])
  return 1

def update (table : String) (changes : Record) (column : String) (cell : Cell) : Work Nat := do
  let t ← tableNamed table
  checkColumns t (column :: changes.map (·.1))
  let chosen := holds t column cell
  let count ← Work.read fun b => (b.rows t).countP chosen
  Work.write (·.update t (changes.map (·.1)) chosen fun row => (t.record row).assign changes)
  return count

def delete (table column : String) (cell : Cell) : Work Nat := do
  let t ← tableNamed table
  checkColumns t [column]
  let chosen := holds t column cell
  let count ← Work.read fun b => (b.rows t).countP chosen
  Work.write (·.delete t chosen)
  return count

end Bookkeeping.Plain

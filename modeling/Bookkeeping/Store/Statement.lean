import Bookkeeping.Store.Books

namespace Bookkeeping

/-- How foreign keys are enforced: the guards in place, oldest first, and whether the keys
themselves wait for the commit. -/
structure Enforcement where
  guards : List ForeignKey
  deferred : Bool
  deriving DecidableEq, Repr

namespace Enforcement

def nativeMessage : String := "FOREIGN KEY constraint failed"

/-- The guard that a new child row runs into; of several, the newest. -/
def childGuard? (e : Enforcement) (b : Books) (t : Table) (columns : List String) (r : Record) :
    Option ForeignKey :=
  e.guards.reverse.find? fun k =>
    k.childTable == t.name && columns.contains k.childColumn && b.parentMissing k r

def restricting? (keys : List ForeignKey) (b : Books) (t : Table) (r : Record) :
    Option ForeignKey :=
  keys.find? fun k =>
    k.parentTable == t.name && k.onDelete == .restrict && b.stillReferenced k r

def guardChild (e : Enforcement) (b : Books) (t : Table) (columns : List String) (r : Record) :
    Except StorageFailure Unit :=
  match e.childGuard? b t columns r with
  | some k => .error (.database (some 1811) k.childMessage)
  | none => .ok ()

def guardParent (e : Enforcement) (b : Books) (t : Table) (r : Record) :
    Except StorageFailure Unit :=
  match restricting? e.guards.reverse b t r with
  | some k => .error (.database (some 1811) k.parentMessage)
  | none =>
    if e.deferred || (restricting? ForeignKey.all b t r).isNone then .ok ()
    else .error (.database (some 1811) nativeMessage)

def settle (e : Enforcement) (b : Books) : Except StorageFailure Books :=
  if e.deferred = true ∨ b.Intact then .ok b else .error (.database (some 787) nativeMessage)

def accept (e : Enforcement) (b : Books) (t : Table) (columns : List String) (others : List t.Row)
    (r : Record) : Except StorageFailure t.Row := do
  e.guardChild b t columns r
  let row ← t.ofRecord r
  match t.clash? row others with
  | some f => .error f
  | none => .ok row

def insertRow (e : Enforcement) (t : Table) (b : Books) (r : Record) :
    Except StorageFailure Books := do
  let row ← e.accept b t t.columns (b.rows t) r
  .ok (b.withRows t (b.rows t ++ [row]))

def insert (e : Enforcement) (t : Table) (records : List Record) (b : Books) :
    Except StorageFailure Books := do
  e.settle (← records.foldlM (e.insertRow t) b)

/-- The rows of a table after those that `chosen` picks are updated, where the rows of `seen` are
already dealt with. -/
def updateRows (e : Enforcement) (b : Books) (t : Table) (columns : List String)
    (chosen : t.Row → Bool) (change : t.Row → Record) (seen : List t.Row) :
    List t.Row → Except StorageFailure (List t.Row)
  | [] => .ok seen
  | row :: rest => do
    if chosen row then
      let new ← e.accept b t columns (seen ++ rest) (change row)
      updateRows e b t columns chosen change (seen ++ [new]) rest
    else updateRows e b t columns chosen change (seen ++ [row]) rest

def update (e : Enforcement) (t : Table) (columns : List String) (chosen : t.Row → Bool)
    (change : t.Row → Record) (b : Books) : Except StorageFailure Books := do
  let rows ← e.updateRows b t columns chosen change [] (b.rows t)
  e.settle (b.withRows t rows)

def releaseBy (k : ForeignKey) (value : String) (b : Books) : Except StorageFailure Books :=
  match Table.ofName? k.childTable, k.onDelete with
  | none, _ | _, .restrict => .ok b
  | some c, .cascade =>
    .ok (b.withRows c ((b.rows c).filter fun row => c.text? row k.childColumn != some value))
  | some c, .setNull => do
    let rows ← (b.rows c).mapM fun row =>
      if c.text? row k.childColumn = some value then
        c.ofRecord ((c.record row).assign [(k.childColumn, .null)])
      else .ok row
    .ok (b.withRows c rows)

def release (t : Table) (r : Record) (b : Books) : Except StorageFailure Books :=
  (ForeignKey.all.filter (·.parentTable == t.name)).foldlM (fun b k =>
    match r.text? k.parentColumn with
    | none => .ok b
    | some value => releaseBy k value b) b

def deleteRow (e : Enforcement) (t : Table) (b : Books) (row : t.Row) :
    Except StorageFailure Books := do
  e.guardParent b t (t.record row)
  release t (t.record row) b

def delete (e : Enforcement) (t : Table) (chosen : t.Row → Bool) (b : Books) :
    Except StorageFailure Books := do
  let b ← ((b.rows t).filter chosen).foldlM (e.deleteRow t) b
  e.settle (b.withRows t ((b.rows t).filter fun row => !chosen row))

end Enforcement

end Bookkeeping

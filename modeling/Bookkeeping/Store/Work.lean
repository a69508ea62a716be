import Bookkeeping.Diagnosis.Driver
import Bookkeeping.Diagnosis.Reading
import Bookkeeping.Store.Statement

/-! The store and the work done on it. Outside a transaction each statement is kept at once; inside
one the books from before it come back unless it is committed. -/

namespace Bookkeeping

structure OpenTransaction where
  before : Books
  deferred : Bool
  deriving DecidableEq, Repr

structure Refusals where
  begin : Option StorageFailure
  commit : Option StorageFailure
  rollback : Option StorageFailure
  /-- Of the statements to come, in order; past the end none is refused. Statements are the reads
  and writes made here: what was written is not read back, and a change asks for its rows before it
  is made, not for their number afterwards. -/
  statements : List (Option StorageFailure)
  deriving DecidableEq, Repr

def Refusals.none : Refusals := ⟨.none, .none, .none, []⟩

structure Store where
  books : Books
  guards : List ForeignKey
  isOpen : Bool
  transaction : Option OpenTransaction
  refusals : Refusals
  deriving DecidableEq, Repr

/-- A computation on the store that may fail. What it wrote before it failed stays written. -/
abbrev Work := ExceptT Fault (StateM Store)

namespace Store

def fresh : Store := ⟨.fresh, ForeignKey.all, true, none, .none⟩

def enforcement (s : Store) : Enforcement :=
  ⟨s.guards, s.transaction.any (·.deferred)⟩

def discard (s : Store) : Store :=
  match s.transaction with
  | none => s
  | some t => { s with books := t.before, transaction := none }

def closedFailure : StorageFailure := .connection DriverError.closedMessage

end Store

namespace Work

def fail (e : LedgerError) : Work α := throw (.error e)

def failDomain (e : DomainError) : Work α := throw (.domain e)

def ofDomain : Except DomainError α → Work α
  | .ok a => pure a
  | .error e => failDomain e

def ofOverflow : Except Overflow α → Work α
  | .ok a => pure a
  | .error o => throw (.overflow o)

def ofDecoded : Except InfraError α → Work α
  | .ok a => pure a
  | .error e => fail (.infra e)

def ofStorage : Except StorageFailure α → Work α
  | .ok a => pure a
  | .error f => fail (Diagnosis.diagnose f)

def connected : Work Unit := do
  let s ← get
  if !s.isOpen then ofStorage (.error Store.closedFailure)
  else match s.refusals.statements with
    | [] => pure ()
    | refusal :: rest =>
      set { s with refusals := { s.refusals with statements := rest } }
      match refusal with
      | none => pure ()
      | some f => ofStorage (.error f)

def read (query : Books → α) : Work α := do
  connected
  return query (← get).books

def write (statement : Enforcement → Books → Except StorageFailure Books) : Work Unit := do
  connected
  let s ← get
  let books ← ofStorage (statement s.enforcement s.books)
  set { s with books }

def mapError (f : LedgerError → LedgerError) (work : Work α) : Work α :=
  tryCatch work fun
    | .error e => throw (.error (f e))
    | .overflow o => throw (.overflow o)

def notFoundAs (e : DomainError) (work : Work α) : Work α := work.mapError (·.notFoundAs e)

/-- Rolls the open transaction back, whoever began it. -/
def endTransaction : Work Unit := do
  connected
  let s ← get
  match s.transaction with
  | some _ => set s.discard
  | none => ofStorage (.error (.database (some 1) "cannot rollback - no transaction is active"))

def deferForeignKeys : Work Unit := do
  connected
  modify fun s => { s with transaction := s.transaction.map ({ · with deferred := true }) }

end Work

end Bookkeeping

import Bookkeeping.Store.Work

namespace Bookkeeping

structure TransactionControl (σ : Type) where
  begin : σ → Except StorageFailure Unit × σ
  commit : σ → Except StorageFailure Unit × σ
  rollback : σ → Except StorageFailure Unit × σ
  discard : σ → σ

/-- Runs work in a transaction of its own. A failed rollback is reported together with the error
that called for it. -/
def TransactionControl.run {σ : Type} (c : TransactionControl σ)
    (work : ExceptT Fault (StateM σ) α) : ExceptT Fault (StateM σ) α := fun s =>
  match c.begin s with
  | (.error f, s) => (.error (.error (.infra (.begin f))), s)
  | (.ok (), s) =>
    match work s with
    | (.ok a, s) =>
      match c.commit s with
      | (.ok (), s) => (.ok a, s)
      | (.error f, s) => (.error (.error (.infra (.commit f))), s)
    | (.error (.error e), s) =>
      match c.rollback s with
      | (.ok (), s) => (.error (.error e), s)
      | (.error f, s) => (.error (.error (.rollbackFailed e (.rollback f))), s)
    | (.error (.overflow o), s) => (.error (.overflow o), c.discard s)

namespace Store

def begin (s : Store) : Except StorageFailure Unit × Store :=
  if !s.isOpen then (.error closedFailure, s)
  else if s.transaction.isSome then
    (.error (.database (some 1) "cannot start a transaction within a transaction"), s)
  else (.ok (), { s with transaction := some ⟨s.books, false⟩ })

/-- Books with a reference that does not resolve are not committed. -/
def commit (s : Store) : Except StorageFailure Unit × Store :=
  match s.transaction with
  | none => (.error (.database (some 1) "cannot commit - no transaction is active"), s)
  | some _ =>
    if s.books.Intact then (.ok (), { s with transaction := none })
    else (.error (.database (some 787) Enforcement.nativeMessage), s.discard)

def rollback (s : Store) : Except StorageFailure Unit × Store :=
  match s.transaction with
  | none => (.error (.database (some 1) "cannot rollback - no transaction is active"), s)
  | some _ => (.ok (), s.discard)

/-- A refused commit or rollback leaves the transaction unfinished. -/
def control (r : Refusals) : TransactionControl Store where
  begin s := match r.begin with
    | some f => (.error f, s)
    | none => s.begin
  commit s := match r.commit with
    | some f => (.error f, s.discard)
    | none => s.commit
  rollback s := match r.rollback with
    | some f => (.error f, s.discard)
    | none => s.rollback
  discard := Store.discard

end Store

def atomically (work : Work α) : Work α := fun s => (Store.control s.refusals).run work s

end Bookkeeping

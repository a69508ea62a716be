import Bookkeeping.Error.Domain
import Bookkeeping.Error.Storage

namespace Bookkeeping

inductive ViolationSide
  | parentMissing
  | stillReferenced
  deriving DecidableEq, Repr

namespace ViolationSide

def label : ViolationSide → String
  | .parentMissing => "parent missing"
  | .stillReferenced => "still referenced"

def code : ViolationSide → String
  | .parentMissing => "parent_missing"
  | .stillReferenced => "still_referenced"

end ViolationSide

inductive InfraError
  | unknownConstraint (name : Option String) (failure : StorageFailure)
  /-- A registered reference broken on a side that the schema rules out. -/
  | unexpectedConstraint (name : String) (side : ViolationSide) (failure : StorageFailure)
  | badSyntax (failure : StorageFailure)
  | connection (failure : StorageFailure)
  | begin (failure : StorageFailure)
  | commit (failure : StorageFailure)
  | rollback (failure : StorageFailure)
  | decode (message : String)
  | unknown (failure : StorageFailure)
  deriving DecidableEq, Repr

namespace InfraError

def message : InfraError → String
  | .unknownConstraint none f => s!"unhandled constraint <unnamed>: {f.describe}"
  | .unknownConstraint (some name) f => s!"unhandled constraint {name}: {f.describe}"
  | .unexpectedConstraint name side f =>
    s!"constraint {name} violated ({side.label}), the schema should prevent this: {f.describe}"
  | .badSyntax f => s!"SQL syntax error: {f.describe}"
  | .connection f => s!"storage connection failure: {f.describe}"
  | .begin f => s!"failed to begin unit of work: {f.describe}"
  | .commit f => s!"failed to commit unit of work: {f.describe}"
  | .rollback f => s!"failed to roll back unit of work: {f.describe}"
  | .decode m => s!"invalid stored value: {m}"
  | .unknown f => s!"unknown storage error: {f.describe}"

def code : InfraError → String
  | .unknownConstraint .. => "UnknownConstraint"
  | .unexpectedConstraint .. => "UnexpectedConstraint"
  | .badSyntax _ => "Syntax"
  | .connection _ => "Connection"
  | .begin _ => "Begin"
  | .commit _ => "Commit"
  | .rollback _ => "Rollback"
  | .decode _ => "Decode"
  | .unknown _ => "Unknown"

def failure? : InfraError → Option StorageFailure
  | .unknownConstraint _ f | .unexpectedConstraint _ _ f | .badSyntax f | .connection f
  | .begin f | .commit f | .rollback f | .unknown f => some f
  | .decode _ => none

end InfraError

inductive LedgerError
  | domain (e : DomainError)
  | infra (e : InfraError)
  | rollbackFailed (cause : LedgerError) (rollback : InfraError)
  deriving DecidableEq, Repr

namespace LedgerError

def message : LedgerError → String
  | .domain e => e.message
  | .infra e => e.message
  | .rollbackFailed cause rollback =>
    s!"{cause.message} (rollback failed: {rollback.message})"

/-- The broken rule, also behind a failed rollback. -/
def domain? : LedgerError → Option DomainError
  | .domain e => some e
  | .infra _ => none
  | .rollbackFailed cause _ => cause.domain?

def isDomain (e : LedgerError) : Bool := e.domain?.isSome

def isInfrastructure (e : LedgerError) : Bool := !e.isDomain

/-- Renames one broken rule; only an error that is that rule itself is touched. -/
def reclassify (old new : DomainError) : LedgerError → LedgerError
  | .domain e => .domain (if e = old then new else e)
  | e => e

def notFoundAs (new : DomainError) (e : LedgerError) : LedgerError :=
  e.reclassify .recordNotFound new

def sources : LedgerError → List String
  | .domain _ => []
  | .infra e => (e.failure?.map (·.describe)).toList
  | .rollbackFailed cause _ => cause.message :: cause.sources

@[simp] theorem domain?_reclassify_domain (a b e : DomainError) :
    ((LedgerError.domain e).reclassify a b).domain? = some (if e = a then b else e) := by
  rfl

end LedgerError

/-- An operation whose exact result leaves the 64-bit range. -/
inductive Overflow
  | add
  | subtract
  | negate
  deriving DecidableEq, Repr

def Overflow.message : Overflow → String
  | .add => "attempt to add with overflow"
  | .subtract => "attempt to subtract with overflow"
  | .negate => "attempt to negate with overflow"

inductive Fault
  | error (e : LedgerError)
  | overflow (o : Overflow)
  deriving DecidableEq, Repr

def Fault.domain (e : DomainError) : Fault := .error (.domain e)

end Bookkeeping

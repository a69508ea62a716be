namespace Bookkeeping

inductive FailureKind
  | noRows
  | database
  | connection
  | other
  deriving DecidableEq, Repr

def FailureKind.label : FailureKind → String
  | .noRows => "no rows"
  | .database => "database"
  | .connection => "connection"
  | .other => "other"

structure StorageFailure where
  kind : FailureKind
  code : Option Int
  message : String
  deriving DecidableEq, Repr

namespace StorageFailure

def database (code : Option Int) (message : String) : StorageFailure := ⟨.database, code, message⟩

def noRows (message : String) : StorageFailure := ⟨.noRows, none, message⟩

def connection (message : String) : StorageFailure := ⟨.connection, none, message⟩

def other (message : String) : StorageFailure := ⟨.other, none, message⟩

def codeText (f : StorageFailure) : String :=
  match f.code with
  | none => "none"
  | some code => toString code

def describe (f : StorageFailure) : String := s!"{f.message} (code {f.codeText})"

end StorageFailure

end Bookkeeping

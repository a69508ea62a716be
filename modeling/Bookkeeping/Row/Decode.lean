import Bookkeeping.Error.Ledger
import Bookkeeping.Uuid

namespace Bookkeeping

def decodeColumn (column : String) : Except DomainError α → Except InfraError α
  | .ok a => .ok a
  | .error e => .error (.decode s!"{column}: {e.message}")

def decodeId (column value : String) : Except InfraError Uuid :=
  match Uuid.parse? value with
  | some id => .ok id
  | none => .error (.decode s!"{column}: invalid id {value}")

def decodeOptionalId (column : String) : Option String → Except InfraError (Option Uuid)
  | none => .ok none
  | some value => (decodeId column value).map some

end Bookkeeping

import Bookkeeping.Decimal
import Bookkeeping.Error.Storage
import Bookkeeping.Money

namespace Bookkeeping

inductive WireError
  | database (code : Option String) (message : String)
  | rowNotFound
  | poolTimedOut
  | poolClosed
  | workerCrashed
  | io (message : String)
  | protocol (message : String)
  | columnNotFound (name : String)
  | decode (message : String)
  | configuration (message : String)
  /-- Whatever else there is, told apart by nothing but its text. -/
  | rest (text : String)
  deriving DecidableEq, Repr

namespace WireError

def message : WireError → String
  | .database _ m => s!"error returned from database: {m}"
  | .rowNotFound => "no rows returned by a query that expected to return at least one row"
  | .poolTimedOut => "pool timed out while waiting for an open connection"
  | .poolClosed => "attempted to acquire a connection on a closed pool"
  | .workerCrashed => "attempted to communicate with a crashed background worker"
  | .io m => s!"error communicating with database: {m}"
  | .protocol m => s!"encountered unexpected or invalid data: {m}"
  | .columnNotFound m => s!"no column found for name: {m}"
  | .decode m => s!"error occurred while decoding: {m}"
  | .configuration m => s!"error with configuration: {m}"
  | .rest m => m

/-- A code that is no number of 64 bits counts as absent. -/
def codeNumber? (code : String) : Option Int :=
  (Decimal.signed? code.toList).bind fun n => if FitsWord n then some n else none

def failure (e : WireError) : StorageFailure :=
  match e with
  | .rowNotFound => .noRows e.message
  | .database code m => .database (code.bind codeNumber?) m
  | .poolTimedOut | .poolClosed | .io _ => .connection e.message
  | _ => .other e.message

end WireError

inductive DriverCause
  | internal (message : String)
  | wire (e : WireError)
  deriving DecidableEq, Repr

inductive DriverError
  | connect (cause : DriverCause)
  | execute (cause : DriverCause)
  | query (cause : DriverCause)
  | acquireTimeout
  | acquireClosed
  | recordNotFound (message : String)
  | recordNotUpdated
  | recordNotInserted
  | unpackInsertId
  | updateGetPrimaryKey
  | attributeNotSet (name : String)
  | custom (message : String)
  | type (message : String)
  | json (message : String)
  | migration (message : String)
  | rest (text : String)
  deriving DecidableEq, Repr

namespace DriverError

def closedMessage : String := "Failed to acquire connection from pool: Connection closed"

def failure : DriverError → StorageFailure
  | .connect (.wire e) | .execute (.wire e) | .query (.wire e) => e.failure
  | .connect (.internal m) => .connection s!"Connection Error: {m}"
  | .execute (.internal m) => .other s!"Execution Error: {m}"
  | .query (.internal m) => .other s!"Query Error: {m}"
  | .acquireTimeout =>
    .connection "Failed to acquire connection from pool: Connection pool timed out"
  | .acquireClosed => .connection closedMessage
  | .recordNotFound m => .noRows m
  | .recordNotUpdated => .noRows "no row updated"
  | .recordNotInserted => .other "None of the records are inserted"
  | .unpackInsertId => .other "Failed to unpack last_insert_id"
  | .updateGetPrimaryKey => .other "Failed to get primary key from model"
  | .attributeNotSet name => .other s!"Attribute {name} is NotSet"
  | .custom m => .other s!"Custom Error: {m}"
  | .type m => .other s!"Type Error: {m}"
  | .json m => .other s!"Json Error: {m}"
  | .migration m => .other s!"Migration Error: {m}"
  | .rest m => .other m

end DriverError

end Bookkeeping

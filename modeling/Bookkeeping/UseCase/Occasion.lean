import Bookkeeping.Store.UnitOfWork

namespace Bookkeeping

structure Occasion where
  id : Uuid
  transactionId : Uuid
  now : Instant
  /-- The time at which an account is stored, a reading of its own. -/
  savedAt : Instant
  deriving DecidableEq, Repr

end Bookkeeping

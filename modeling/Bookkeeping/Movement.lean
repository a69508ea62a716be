import Bookkeeping.Currency
import Bookkeeping.Instant.Basic
import Bookkeeping.Label
import Bookkeeping.Money

namespace Bookkeeping

structure Transaction where
  id : Uuid
  account : Uuid
  amount : Money
  currency : Currency
  date : Instant
  description : Option String
  kind : TransactionKind
  balanceAfter : Money
  status : TransactionStatus
  createdAt : Instant
  updatedAt : Instant
  deriving DecidableEq, Repr

def Transaction.transition (t : Transaction) (next : TransactionStatus) (now : Instant) :
    Except DomainError Transaction :=
  if t.status.canBecome next then .ok { t with status := next, updatedAt := now }
  else .error .invalidStatusTransition

structure Expenditure where
  id : Uuid
  category : Uuid
  transaction : Uuid
  declared : Bool
  planned : Bool
  createdAt : Instant
  updatedAt : Instant
  deriving DecidableEq, Repr

structure Ingress where
  id : Uuid
  category : Uuid
  transaction : Uuid
  createdAt : Instant
  updatedAt : Instant
  deriving DecidableEq, Repr

structure Detail (R : Type) where
  record : R
  transaction : Transaction
  category : Category
  tags : List Tag
  deriving DecidableEq, Repr

structure NewMovement where
  account : Uuid
  category : Uuid
  amount : Money
  currency : Currency
  date : Instant
  description : Option String
  tags : List Uuid
  deriving DecidableEq, Repr

structure NewExpenditure extends NewMovement where
  declared : Bool
  planned : Bool
  deriving DecidableEq, Repr

structure ExpenditureFilter where
  account : Option Uuid
  category : Option Uuid
  since : Option Instant
  /-- The earliest later date that does not pass. -/
  before : Option Instant
  declared : Option Bool
  planned : Option Bool
  deriving DecidableEq, Repr

def ExpenditureFilter.all : ExpenditureFilter := ⟨none, none, none, none, none, none⟩

end Bookkeeping

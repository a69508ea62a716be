import Bookkeeping.Currency
import Bookkeeping.Instant.Basic
import Bookkeeping.Kind
import Bookkeeping.Money
import Bookkeeping.Uuid

namespace Bookkeeping

structure Account where
  id : Uuid
  name : String
  kind : AccountKind
  currency : Currency
  initialBalance : Money
  currentBalance : Money
  active : Bool
  owner : Option Uuid
  version : Int
  createdAt : Instant
  updatedAt : Instant
  deriving DecidableEq, Repr

structure NewAccount where
  name : String
  kind : AccountKind
  currency : Currency
  initialBalance : Money
  owner : Option Uuid
  active : Bool
  deriving DecidableEq, Repr

namespace Account

def new (cmd : NewAccount) (id : Uuid) (now : Instant) : Except DomainError Account :=
  match Text.tidy? cmd.name with
  | none => .error .accountNameEmpty
  | some name => .ok {
      id, name
      kind := cmd.kind
      currency := cmd.currency
      initialBalance := cmd.initialBalance
      currentBalance := cmd.initialBalance
      active := cmd.active
      owner := cmd.owner
      version := 0
      createdAt := now
      updatedAt := now }

def covers (a : Account) (amount : Money) : Bool := amount.minor ≤ a.currentBalance.minor

/-- Takes an amount out, whether the balance covers it or not. -/
def debit (a : Account) (amount : Money) : Except Overflow Account :=
  match a.currentBalance.sub amount with
  | .ok balance => .ok { a with currentBalance := balance }
  | .error o => .error o

def credit (a : Account) (amount : Money) : Except DomainError Account :=
  match a.currentBalance.checkedAdd amount with
  | some balance => .ok { a with currentBalance := balance }
  | none => .error .balanceOverflow

def rename (a : Account) (name : String) (now : Instant) : Except DomainError Account :=
  match Text.tidy? name with
  | none => .error .accountNameEmpty
  | some name => .ok { a with name, updatedAt := now }

def activate (a : Account) (now : Instant) : Except DomainError Account :=
  if a.active then .error .accountAlreadyActive
  else .ok { a with active := true, updatedAt := now }

def deactivate (a : Account) (now : Instant) : Except DomainError Account :=
  if a.active then .ok { a with active := false, updatedAt := now }
  else .error .accountAlreadyInactive

end Account

end Bookkeeping

import Bookkeeping.Error.Domain
import Bookkeeping.Instant.Basic
import Bookkeeping.Text.Blank
import Bookkeeping.Uuid

namespace Bookkeeping

structure Member where
  id : Uuid
  firstName : String
  lastName : Option String
  nickname : Option String
  role : Option String
  active : Bool
  createdAt : Instant
  updatedAt : Instant
  deriving DecidableEq, Repr

structure NewMember where
  firstName : String
  lastName : Option String
  nickname : Option String
  role : Option String
  deriving DecidableEq, Repr

namespace Member

def new (cmd : NewMember) (id : Uuid) (now : Instant) : Except DomainError Member :=
  match Text.tidy? cmd.firstName with
  | none => .error .memberNameEmpty
  | some firstName => .ok {
      id, firstName
      lastName := Text.tidyOption cmd.lastName
      nickname := Text.tidyOption cmd.nickname
      role := Text.tidyOption cmd.role
      active := true
      createdAt := now
      updatedAt := now }

def displayName (m : Member) : String := m.nickname.getD m.firstName

def activate (m : Member) (now : Instant) : Except DomainError Member :=
  if m.active then .error .householdMemberAlreadyActive
  else .ok { m with active := true, updatedAt := now }

def deactivate (m : Member) (now : Instant) : Except DomainError Member :=
  if m.active then .ok { m with active := false, updatedAt := now }
  else .error .householdMemberAlreadyInactive

end Member

end Bookkeeping

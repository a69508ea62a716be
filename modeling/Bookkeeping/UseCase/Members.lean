import Bookkeeping.Register.Accounts
import Bookkeeping.Register.Members
import Bookkeeping.UseCase.Occasion

namespace Bookkeeping.UseCase

def findMember (id : Uuid) : Work Member :=
  (Members.get id).notFoundAs .householdMemberNotFound

def createMember (cmd : NewMember) (o : Occasion) : Work Member := do
  let member ← Work.ofDomain (Member.new cmd o.id o.now)
  atomically do
    Members.create member
    return member

def changeMember (id : Uuid) (change : Member → Except DomainError Member) : Work Member :=
  atomically do
    let member ← Work.ofDomain (change (← findMember id))
    Members.save member
    return member

def activateMember (id : Uuid) (o : Occasion) : Work Member :=
  changeMember id (·.activate o.now)

def deactivateMember (id : Uuid) (o : Occasion) : Work Member :=
  changeMember id (·.deactivate o.now)

/-- Only a member without active accounts can go; inactive ones lose their owner. -/
def deleteMember (id : Uuid) : Work Unit :=
  atomically do
    discard (findMember id)
    if (← Accounts.listByOwner id).any (·.active) then Work.failDomain .memberHasActiveAccounts
    (Members.delete id).notFoundAs .householdMemberNotFound

end Bookkeeping.UseCase

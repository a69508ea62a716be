import Bookkeeping.Register.Accounts
import Bookkeeping.UseCase.Members

namespace Bookkeeping.UseCase

def findAccount (id : Uuid) : Work Account := (Accounts.get id).notFoundAs .accountNotFound

def checkOwner : Option Uuid → Work Unit
  | none => pure ()
  | some id => do
    if !(← findMember id).active then Work.failDomain .householdMemberInactive

def createAccount (cmd : NewAccount) (o : Occasion) : Work Account := do
  let account ← Work.ofDomain (Account.new cmd o.id o.now)
  atomically do
    checkOwner account.owner
    Accounts.create account
    return account

def changeAccount (id : Uuid) (change : Account → Except DomainError Account) (o : Occasion) :
    Work Account :=
  atomically do
    let account ← Work.ofDomain (change (← findAccount id))
    Accounts.save account o.savedAt

def activateAccount (id : Uuid) (o : Occasion) : Work Account :=
  changeAccount id (·.activate o.now) o

def deactivateAccount (id : Uuid) (o : Occasion) : Work Account :=
  changeAccount id (·.deactivate o.now) o

def renameAccount (id : Uuid) (name : String) (o : Occasion) : Work Account :=
  changeAccount id (·.rename name o.now) o

def deleteAccount (id : Uuid) : Work Unit :=
  atomically do
    discard (findAccount id)
    if ← Accounts.hasTransactions id then Work.failDomain .accountHasTransactions
    (Accounts.delete id).notFoundAs .accountNotFound

end Bookkeeping.UseCase

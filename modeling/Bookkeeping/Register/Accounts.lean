import Bookkeeping.Register.Basic

namespace Bookkeeping.Accounts

def create (a : Account) : Work Unit := Register.enter .accounts a.row

def get (id : Uuid) : Work Account :=
  Register.look (fun b => b.accounts.find? (·.id == id.text)) Account.ofRow

def nextVersion (version : Int) : Except Overflow Int :=
  if version + 1 ≤ greatestWord then .ok (version + 1) else .error .add

def changeable : List String :=
  AccountRow.columns.filter fun column => column != "id" && column != "created_at"

/-- Stores an account if nobody changed it since it was read, and gives back what is stored. The
time of the change is the store's own. -/
def save (a : Account) (savedAt : Instant) : Work Account := do
  let version ← Work.ofOverflow (nextVersion a.version)
  let stored := { a with version, updatedAt := savedAt }
  let current (r : AccountRow) : Bool := r.id == a.id.text && r.version == a.version
  -- asked before the change, as in `Register.replace`
  if ← Work.read (·.accounts.any current) then
    Register.replace .accounts changeable current stored.row
    return stored
  else if ← Work.read (·.accounts.any (·.id == a.id.text)) then
    Work.failDomain .concurrentUpdate
  else Work.failDomain .recordNotFound

def delete (id : Uuid) : Work Unit := Register.strike .accounts (·.id == id.text)

def list : Work (List Account) :=
  Register.list (·.accounts.mergeSort (Register.byText (·.name))) Account.ofRow

def listByOwner (owner : Uuid) : Work (List Account) :=
  Register.list
    (fun b => (b.accounts.filter (·.owner == some owner.text)).mergeSort (Register.byText (·.name)))
    Account.ofRow

def hasTransactions (id : Uuid) : Work Bool :=
  Work.read (·.transactions.any (·.account == id.text))

end Bookkeeping.Accounts

import Bookkeeping.Proofs.Ledger.Accounts
import Bookkeeping.UseCase.Command
import Mathlib.Logic.Function.Basic

namespace Bookkeeping

inductive Change
  | debit (amount : Money)
  | credit (amount : Money)
  | rename (name : String) (now : Instant)
  | activate (now : Instant)
  | deactivate (now : Instant)
  deriving DecidableEq, Repr

namespace Change

def result? : Change → Account → Option Account
  | debit amount, a => (a.debit amount).toOption
  | credit amount, a => (a.credit amount).toOption
  | rename name now, a => (a.rename name now).toOption
  | activate now, a => (a.activate now).toOption
  | deactivate now, a => (a.deactivate now).toOption

def replay? (cs : List Change) (a : Account) : Option Account :=
  cs.foldlM (fun a c => c.result? a) a

end Change

structure Copy where
  account : Account
  changes : List Change
  since : Nat

def Copy.change (copy : Copy) (c : Change) : Copy :=
  match c.result? copy.account with
  | some a => { copy with account := a, changes := copy.changes ++ [c] }
  | none => copy

structure Update where
  account : Uuid
  changes : List Change

def Copy.update (copy : Copy) : Update := ⟨copy.account.id, copy.changes⟩

def Update.on (us : List Update) (id : Uuid) : List Update := us.filter (·.account == id)

/-- A store, the clients' copies, and the updates accepted so far, oldest first. -/
structure Scene (κ : Type) where
  store : Store
  copies : κ → Option Copy
  accepted : List Update

inductive Move (κ : Type)
  | read (client : κ) (id : Uuid)
  | change (client : κ) (c : Change)
  | save (client : κ) (savedAt : Instant) (goesOn : Bool)
  | deleteAccount (id : Uuid)
  | deleteMember (id : Uuid)

namespace Scene

variable {κ : Type} [DecidableEq κ]

def start (s : Store) : Scene κ := ⟨s, fun _ => none, []⟩

def read (sc : Scene κ) (client : κ) (id : Uuid) : Scene κ :=
  match Accounts.get id sc.store with
  | (.ok a, s) => { sc with
      store := s
      copies := Function.update sc.copies client (some ⟨a, [], sc.accepted.length⟩) }
  | (.error _, s) => { sc with store := s }

def save (sc : Scene κ) (client : κ) (copy : Copy) (savedAt : Instant) (goesOn : Bool) : Scene κ :=
  match Accounts.save copy.account savedAt sc.store with
  | (.ok a, s) => {
      store := s
      accepted := sc.accepted ++ [copy.update]
      copies :=
        if goesOn then Function.update sc.copies client (some ⟨a, [], sc.accepted.length + 1⟩)
        else sc.copies }
  | (.error _, s) => { sc with store := s }

def move (sc : Scene κ) : Move κ → Scene κ
  | .read client id => sc.read client id
  | .change client c =>
    { sc with copies := Function.update sc.copies client ((sc.copies client).map (·.change c)) }
  | .save client savedAt goesOn =>
    match sc.copies client with
    | some copy => sc.save client copy savedAt goesOn
    | none => sc
  | .deleteAccount id => { sc with store := (UseCase.deleteAccount id sc.store).2 }
  | .deleteMember id => { sc with store := (UseCase.deleteMember id sc.store).2 }

def play (sc : Scene κ) (moves : List (Move κ)) : Scene κ := moves.foldl move sc

/-- What saving a copy has to answer: nothing that somebody else changed since may be lost. -/
def verdict (sc : Scene κ) (copy : Copy) (savedAt : Instant) : Except Fault Account :=
  if copy.account.id.text ∉ sc.store.books.accounts.map (·.id) then .error (.domain .recordNotFound)
  else if Update.on (sc.accepted.drop copy.since) copy.account.id ≠ [] then
    .error (.domain .concurrentUpdate)
  else if ∃ m ∈ copy.account.owner, m.text ∉ sc.store.books.members.map (·.id) then
    .error (.domain .householdMemberNotFound)
  else .ok (copy.account.saved savedAt)

end Scene

end Bookkeeping

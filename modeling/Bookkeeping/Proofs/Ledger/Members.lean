import Bookkeeping.Proofs.Ledger.Delete
import Bookkeeping.Proofs.Ledger.Register
import Bookkeeping.UseCase.Members

namespace Bookkeeping

namespace Ledger

def findMember (id : Uuid) : Query Member :=
  (Query.find members (·.id) id).notFoundAs .householdMemberNotFound

def listMembers : Query (List Member) :=
  .ask (·.members.mergeSort (Register.byText (·.firstName)))

def accountsOf (owner : Uuid) : Query (List Account) :=
  .ask fun L => (L.accounts.filter (·.owner == some owner)).mergeSort (Register.byText (·.name))

def createMember (cmd : NewMember) (o : Occasion) : Step Member := do
  let member ← Step.ask (.ofDomain (Member.new cmd o.id o.now))
  Step.edit (enterMember member)
  return member

def changeMember (id : Uuid) (change : Member → Except DomainError Member) : Step Member := do
  let member ← Step.ask (findMember id)
  let member ← Step.ask (.ofDomain (change member))
  Step.edit (replaceMember member)
  return member

def deleteMember (id : Uuid) : Step Unit := do
  discard (Step.ask (findMember id))
  if (← Step.ask (accountsOf id)).any (·.active) then Step.refuse .memberHasActiveAccounts
  (Step.edit (strikeMember id)).notFoundAs .householdMemberNotFound

end Ledger

open Ledger (Query Step)

theorem answers_findMember (id : Uuid) : Answers (UseCase.findMember id) (Ledger.findMember id) :=
  (Answers.look Books.members MemberRow.id Member.ofRow_row (fun _ => rfl) (fun _ => rfl) id)
    |>.notFoundAs _

theorem answers_listMembers : Answers Members.list Ledger.listMembers :=
  .list Member.ofRow_row fun L _ => sorted_rows (fun _ => rfl) L.members

theorem answers_accountsOf (owner : Uuid) :
    Answers (Accounts.listByOwner owner) (Ledger.accountsOf owner) := by
  refine .list Account.ofRow_row fun L _ => ?_
  have howner : L.books.accounts.filter (·.owner == some owner.text) =
      (L.accounts.filter (·.owner == some owner)).map Account.row := by
    rw [Ledger.books, List.filter_map]
    congr 1
    apply List.filter_congr
    intro a _
    cases ho : a.owner <;> simp [Account.row, ho]
  rw [howner]
  exact sorted_rows (fun _ => rfl) _

theorem simulates_saveMember (m : Member) :
    Simulates (Members.save m) (Step.edit (Ledger.replaceMember m)) :=
  simulates_replace Ledger.members (fun _ => rfl) (fun _ => rfl)
    (fun _ hs hm => Ledger.enforced_replaceMember hs hm) fun _ hm => if_neg hm

theorem simulates_deleteMember (id : Uuid) :
    Simulates (Members.delete id) (Step.edit (Ledger.strikeMember id)) :=
  simulates_strike Ledger.members (fun _ => rfl) (fun _ => rfl)
    (fun _ hs hm => Ledger.enforced_strikeMember hs hm) fun _ hm => if_neg hm

theorem performs_createMember (cmd : NewMember) (o : Occasion) :
    Performs (UseCase.createMember cmd o) (Ledger.createMember cmd o) :=
  .after (.ofDomain _) fun m => .atomically <|
    (simulates_enter fun _ hs => Ledger.enforced_enterMember hs m).bind fun _ => .pure m

theorem performs_changeMember (id : Uuid) (change : Member → Except DomainError Member) :
    Performs (UseCase.changeMember id change) (Ledger.changeMember id change) :=
  .atomically <| (answers_findMember id).simulates.bind fun m =>
    (Answers.ofDomain (change m)).simulates.bind fun m =>
      (simulates_saveMember m).bind fun _ => .pure m

theorem performs_deleteMember (id : Uuid) :
    Performs (UseCase.deleteMember id) (Ledger.deleteMember id) := by
  have hgo := (simulates_deleteMember id).notFoundAs .householdMemberNotFound
  exact .atomically <| ((answers_findMember id).simulates.map fun _ => ()).bind fun _ =>
    (answers_accountsOf id).simulates.bind fun _ =>
      .ite ((Simulates.failDomain _).bind fun _ => hgo) hgo

end Bookkeeping

import Bookkeeping.Proofs.UnitOfWork.Keeps

namespace Bookkeeping

inductive Call : Type → Type
  | createMember (m : Member) : Call Unit
  | getMember (id : Uuid) : Call Member
  | saveMember (m : Member) : Call Unit
  | deleteMember (id : Uuid) : Call Unit
  | listMembers : Call (List Member)
  | createAccount (a : Account) : Call Unit
  | getAccount (id : Uuid) : Call Account
  | saveAccount (a : Account) (savedAt : Instant) : Call Account
  | deleteAccount (id : Uuid) : Call Unit
  | listAccounts : Call (List Account)
  | listAccountsOf (owner : Uuid) : Call (List Account)
  | hasTransactions (id : Uuid) : Call Bool
  | createCategory (c : Category) : Call Unit
  | getCategory (id : Uuid) : Call Category
  | saveCategory (c : Category) : Call Unit
  | deleteCategory (id : Uuid) : Call Unit
  | listCategories : Call (List Category)
  | listCategoriesOf (kind : CategoryKind) : Call (List Category)
  | createTag (t : Tag) : Call Unit
  | getTag (id : Uuid) : Call Tag
  | saveTag (t : Tag) : Call Unit
  | deleteTag (id : Uuid) : Call Unit
  | listTagsOf (kind : TagKind) : Call (List Tag)
  | linkTags (kind : TagKind) (target : Uuid) (tags : List Uuid) : Call Unit
  | linkedTags (kind : TagKind) (target : Uuid) : Call (List Tag)
  | createTransaction (t : Transaction) : Call Unit
  | getTransaction (id : Uuid) : Call Transaction
  | listTransactions (account : Uuid) : Call (List Transaction)
  | createExpenditure (e : Expenditure) : Call Unit
  | getExpenditure (id : Uuid) : Call Expenditure
  | findExpenditures (filter : ExpenditureFilter) : Call (List Expenditure)
  | createIngress (i : Ingress) : Call Unit
  | getIngress (id : Uuid) : Call Ingress
  | deferForeignKeys : Call Unit

namespace Call

def run : Call α → Work α
  | createMember m => Members.create m
  | getMember id => Members.get id
  | saveMember m => Members.save m
  | deleteMember id => Members.delete id
  | listMembers => Members.list
  | createAccount a => Accounts.create a
  | getAccount id => Accounts.get id
  | saveAccount a savedAt => Accounts.save a savedAt
  | deleteAccount id => Accounts.delete id
  | listAccounts => Accounts.list
  | listAccountsOf owner => Accounts.listByOwner owner
  | hasTransactions id => Accounts.hasTransactions id
  | createCategory c => Categories.create c
  | getCategory id => Categories.get id
  | saveCategory c => Categories.save c
  | deleteCategory id => Categories.delete id
  | listCategories => Categories.list
  | listCategoriesOf kind => Categories.listByKind kind
  | createTag t => Tags.create t
  | getTag id => Tags.get id
  | saveTag t => Tags.save t
  | deleteTag id => Tags.delete id
  | listTagsOf kind => Tags.listByKind kind
  | linkTags kind target tags => Tags.link kind target tags
  | linkedTags kind target => Tags.linkedTo kind target
  | createTransaction t => Transactions.create t
  | getTransaction id => Transactions.get id
  | listTransactions account => Transactions.list account
  | createExpenditure e => Expenditures.create e
  | getExpenditure id => Expenditures.get id
  | findExpenditures filter => Expenditures.find filter
  | createIngress i => Ingresses.create i
  | getIngress id => Ingresses.get id
  | deferForeignKeys => Work.deferForeignKeys

open Work (Keeps)

theorem keeps_linkedTags {p : Store → γ} (hp : ∀ (s : Store) r, p { s with refusals := r } = p s)
    (kind : TagKind) (target : Uuid) : Keeps p (Tags.linkedTo kind target) := by
  cases kind with
  | expenditure => exact .list hp _ _
  | ingress => exact .list hp _ _
  | _ => exact .pure []

end Call

/-- Work that may look at the answer of each call, an error included, before it goes on. -/
inductive Closure (α : Type) : Type 1
  | done (r : Except Fault α)
  | call {β : Type} (c : Call β) (next : Except LedgerError β → Closure α)

namespace Closure

/-- An overflow cannot be caught. -/
def run : Closure α → Work α
  | done r => fun s => (r, s)
  | call c next => fun s =>
    match c.run s with
    | (.ok b, s) => (next (.ok b)).run s
    | (.error (.error e), s) => (next (.error e)).run s
    | (.error (.overflow o), s) => (.error (.overflow o), s)

theorem run_call {β : Type} (c : Call β) (next : Except LedgerError β → Closure α) (s : Store) :
    (call c next).run s = match c.run s with
      | (.ok b, s) => (next (.ok b)).run s
      | (.error (.error e), s) => (next (.error e)).run s
      | (.error (.overflow o), s) => (.error (.overflow o), s) := by
  rw [run]

end Closure

end Bookkeeping

import Bookkeeping.Register.Labels
import Bookkeeping.UseCase.Movements

namespace Bookkeeping

inductive Command
  | createMember (cmd : NewMember)
  | member (id : Uuid)
  | listMembers
  | activateMember (id : Uuid)
  | deactivateMember (id : Uuid)
  | deleteMember (id : Uuid)
  | createAccount (cmd : NewAccount)
  | account (id : Uuid)
  | listAccounts
  | activateAccount (id : Uuid)
  | deactivateAccount (id : Uuid)
  | renameAccount (id : Uuid) (name : String)
  | deleteAccount (id : Uuid)
  | createCategory (cmd : NewCategory)
  | category (id : Uuid)
  | listCategories
  | categoriesByKind (kind : CategoryKind)
  | updateCategory (id : Uuid) (changes : Changes)
  | activateCategory (id : Uuid)
  | deactivateCategory (id : Uuid)
  | deleteCategory (id : Uuid)
  | createTag (cmd : NewTag)
  | tag (id : Uuid)
  | tagsByKind (kind : TagKind)
  | updateTag (id : Uuid) (changes : Changes)
  | deleteTag (id : Uuid)
  | createExpenditure (cmd : NewExpenditure)
  | expenditure (id : Uuid)
  | findExpenditures (filter : ExpenditureFilter)
  | createIngress (cmd : NewMovement)
  | ingress (id : Uuid)
  | transaction (id : Uuid)
  | listTransactions (account : Uuid)
  deriving DecidableEq, Repr

inductive Reply
  | done
  | member (m : Member)
  | members (ms : List Member)
  | account (a : Account)
  | accounts (as : List Account)
  | category (c : Category)
  | categories (cs : List Category)
  | tag (t : Tag)
  | tags (ts : List Tag)
  | expenditure (d : Detail Expenditure)
  | expenditures (es : List Expenditure)
  | ingress (d : Detail Ingress)
  | transaction (t : Transaction)
  | transactions (ts : List Transaction)
  deriving DecidableEq, Repr

open UseCase

def Command.perform (c : Command) (o : Occasion) : Work Reply :=
  match c with
  | .createMember cmd => Reply.member <$> UseCase.createMember cmd o
  | .member id => Reply.member <$> findMember id
  | .listMembers => Reply.members <$> Members.list
  | .activateMember id => Reply.member <$> UseCase.activateMember id o
  | .deactivateMember id => Reply.member <$> UseCase.deactivateMember id o
  | .deleteMember id => (fun _ => Reply.done) <$> UseCase.deleteMember id
  | .createAccount cmd => Reply.account <$> UseCase.createAccount cmd o
  | .account id => Reply.account <$> findAccount id
  | .listAccounts => Reply.accounts <$> Accounts.list
  | .activateAccount id => Reply.account <$> UseCase.activateAccount id o
  | .deactivateAccount id => Reply.account <$> UseCase.deactivateAccount id o
  | .renameAccount id name => Reply.account <$> UseCase.renameAccount id name o
  | .deleteAccount id => (fun _ => Reply.done) <$> UseCase.deleteAccount id
  | .createCategory cmd => Reply.category <$> UseCase.createCategory cmd o
  | .category id => Reply.category <$> findCategory id
  | .listCategories => Reply.categories <$> Categories.list
  | .categoriesByKind kind => Reply.categories <$> Categories.listByKind kind
  | .updateCategory id changes => Reply.category <$> UseCase.updateCategory id changes o
  | .activateCategory id => Reply.category <$> UseCase.activateCategory id o
  | .deactivateCategory id => Reply.category <$> UseCase.deactivateCategory id o
  | .deleteCategory id => (fun _ => Reply.done) <$> UseCase.deleteCategory id
  | .createTag cmd => Reply.tag <$> UseCase.createTag cmd o
  | .tag id => Reply.tag <$> findTag id
  | .tagsByKind kind => Reply.tags <$> Tags.listByKind kind
  | .updateTag id changes => Reply.tag <$> UseCase.updateTag id changes o
  | .deleteTag id => (fun _ => Reply.done) <$> UseCase.deleteTag id
  | .createExpenditure cmd => Reply.expenditure <$> UseCase.createExpenditure cmd o
  | .expenditure id => Reply.expenditure <$> findExpenditure id
  | .findExpenditures filter => Reply.expenditures <$> Expenditures.find filter
  | .createIngress cmd => Reply.ingress <$> UseCase.createIngress cmd o
  | .ingress id => Reply.ingress <$> findIngress id
  | .transaction id => Reply.transaction <$> findTransaction id
  | .listTransactions id => Reply.transactions <$> UseCase.listTransactions id

def Command.run (c : Command) (o : Occasion) (s : Store) : Except Fault Reply × Store :=
  c.perform o s

def Store.after (s : Store) : List (Command × Occasion) → Store
  | [] => s
  | (c, o) :: rest => Store.after (c.run o s).2 rest

end Bookkeeping

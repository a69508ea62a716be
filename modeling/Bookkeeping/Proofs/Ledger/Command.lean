import Bookkeeping.Proofs.Ledger.Movements
import Bookkeeping.UseCase.Command

namespace Bookkeeping

namespace Ledger

def perform (c : Command) (o : Occasion) : Step Reply :=
  match c with
  | .createMember cmd => Reply.member <$> createMember cmd o
  | .member id => Step.ask (Reply.member <$> findMember id)
  | .listMembers => Step.ask (Reply.members <$> listMembers)
  | .activateMember id => Reply.member <$> changeMember id (·.activate o.now)
  | .deactivateMember id => Reply.member <$> changeMember id (·.deactivate o.now)
  | .deleteMember id => (fun _ => Reply.done) <$> deleteMember id
  | .createAccount cmd => Reply.account <$> createAccount cmd o
  | .account id => Step.ask (Reply.account <$> findAccount id)
  | .listAccounts => Step.ask (Reply.accounts <$> listAccounts)
  | .activateAccount id => Reply.account <$> changeAccount id (·.activate o.now) o
  | .deactivateAccount id => Reply.account <$> changeAccount id (·.deactivate o.now) o
  | .renameAccount id name => Reply.account <$> changeAccount id (·.rename name o.now) o
  | .deleteAccount id => (fun _ => Reply.done) <$> deleteAccount id
  | .createCategory cmd => Reply.category <$> createCategory cmd o
  | .category id => Step.ask (Reply.category <$> findCategory id)
  | .listCategories => Step.ask (Reply.categories <$> listCategories)
  | .categoriesByKind kind => Step.ask (Reply.categories <$> categoriesByKind kind)
  | .updateCategory id changes => Reply.category <$> changeCategory id (·.apply changes o.now)
  | .activateCategory id => Reply.category <$> changeCategory id (·.activate o.now)
  | .deactivateCategory id => Reply.category <$> changeCategory id (·.deactivate o.now)
  | .deleteCategory id => (fun _ => Reply.done) <$> deleteCategory id
  | .createTag cmd => Reply.tag <$> createTag cmd o
  | .tag id => Step.ask (Reply.tag <$> findTag id)
  | .tagsByKind kind => Step.ask (Reply.tags <$> tagsByKind kind)
  | .updateTag id changes => Reply.tag <$> updateTag id changes o
  | .deleteTag id => (fun _ => Reply.done) <$> deleteTag id
  | .createExpenditure cmd => Reply.expenditure <$> createExpenditure cmd o
  | .expenditure id => Step.ask (Reply.expenditure <$> findExpenditure id)
  | .findExpenditures filter => Step.ask (Reply.expenditures <$> findExpenditures filter)
  | .createIngress cmd => Reply.ingress <$> createIngress cmd o
  | .ingress id => Step.ask (Reply.ingress <$> findIngress id)
  | .transaction id => Step.ask (Reply.transaction <$> findTransaction id)
  | .listTransactions id => Step.ask (Reply.transactions <$> listTransactions id)

def run (c : Command) (o : Occasion) (L : Ledger) : Ledger :=
  match perform c o L with
  | .ok (_, L') => L'
  | .error _ => L

def after (L : Ledger) : List (Command × Occasion) → Ledger
  | [] => L
  | (c, o) :: rest => after (L.run c o) rest

end Ledger

/-- A store between commands, whose books are those of a sound ledger. -/
structure Store.Holds (s : Store) (L : Ledger) : Prop where
  ready : s.Ready
  transaction : s.transaction = none
  sound : L.Sound
  books : s.books = L.books

theorem Store.holds_fresh : Store.fresh.Holds .fresh :=
  ⟨ready_fresh, rfl, Ledger.sound_fresh, rfl⟩

theorem performs_command (c : Command) (o : Occasion) :
    Performs (c.perform o) (Ledger.perform c o) := by
  cases c with
  | createMember cmd => exact (performs_createMember cmd o).map _
  | member id => exact ((answers_findMember id).map _).settles.performs
  | listMembers => exact (answers_listMembers.map _).settles.performs
  | activateMember id => exact (performs_changeMember id _).map _
  | deactivateMember id => exact (performs_changeMember id _).map _
  | deleteMember id => exact (performs_deleteMember id).map _
  | createAccount cmd => exact (performs_createAccount cmd o).map _
  | account id => exact ((answers_findAccount id).map _).settles.performs
  | listAccounts => exact (answers_listAccounts.map _).settles.performs
  | activateAccount id => exact (performs_changeAccount id _ o).map _
  | deactivateAccount id => exact (performs_changeAccount id _ o).map _
  | renameAccount id name => exact (performs_changeAccount id _ o).map _
  | deleteAccount id => exact (performs_deleteAccount id).map _
  | createCategory cmd => exact (performs_createCategory cmd o).map _
  | category id => exact ((answers_findCategory id).map _).settles.performs
  | listCategories => exact (answers_listCategories.map _).settles.performs
  | categoriesByKind kind => exact ((answers_categoriesByKind kind).map _).settles.performs
  | updateCategory id changes => exact (performs_changeCategory id _).map _
  | activateCategory id => exact (performs_changeCategory id _).map _
  | deactivateCategory id => exact (performs_changeCategory id _).map _
  | deleteCategory id => exact (performs_deleteCategory id).map _
  | createTag cmd => exact (performs_createTag cmd o).map _
  | tag id => exact ((answers_findTag id).map _).settles.performs
  | tagsByKind kind => exact ((answers_tagsByKind kind).map _).settles.performs
  | updateTag id changes => exact (performs_updateTag id changes o).map _
  | deleteTag id => exact (performs_deleteTag id).map _
  | createExpenditure cmd => exact (performs_createExpenditure cmd o).map _
  | expenditure id => exact ((answers_findExpenditure id).map _).settles.performs
  | findExpenditures filter => exact ((answers_findExpenditures filter).map _).settles.performs
  | createIngress cmd => exact (performs_createIngress cmd o).map _
  | ingress id => exact ((answers_findIngress id).map _).settles.performs
  | transaction id => exact ((answers_findTransaction id).map _).settles.performs
  | listTransactions id => exact ((answers_listTransactions id).map _).settles.performs

namespace Store.Holds

variable {s : Store} {L : Ledger}

theorem withBooks {L' : Ledger} (h : s.Holds L) (hs : L'.Sound) :
    ({ s with books := L'.books } : Store).Holds L' :=
  ⟨h.ready.withBooks _, h.transaction, hs, rfl⟩

theorem run (h : s.Holds L) (c : Command) (o : Occasion) : (c.run o s).2.Holds (L.run c o) := by
  have hp := performs_command c o s L h.ready h.transaction h.sound h.books
  rw [Command.run, Ledger.run]
  cases hl : Ledger.perform c o L with
  | ok r =>
    obtain ⟨hs, hrun⟩ := hp.of_ok hl
    rw [hrun]
    exact h.withBooks hs
  | error e =>
    rw [hp.of_error hl]
    exact h

theorem after (h : s.Holds L) (steps : List (Command × Occasion)) :
    (s.after steps).Holds (L.after steps) := by
  induction steps generalizing s L with
  | nil => exact h
  | cons step steps ih => exact ih (h.run step.1 step.2)

end Store.Holds

end Bookkeeping

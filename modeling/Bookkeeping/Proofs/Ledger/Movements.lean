import Bookkeeping.Proofs.Ledger.Accounts
import Bookkeeping.Proofs.Ledger.Labels
import Bookkeeping.UseCase.Movements

namespace Bookkeeping

namespace Ledger

def activeAccount (id : Uuid) : Query Account := do
  let account ← findAccount id
  if account.active then return account else Query.refuse .accountInactive

def activeCategory (id : Uuid) : Query Category := do
  let category ← findCategory id
  if category.active then return category else Query.refuse .categoryInactive

def ensureCurrency (currency : Currency) (account : Account) : Query Unit :=
  if currency = account.currency then pure () else Query.refuse .currencyMismatch

def ensurePositive (amount : Money) : Query Unit :=
  if amount.isPositive then pure () else Query.refuse .invalidAmount

def expenditureOf (cmd : NewExpenditure) (o : Occasion) (category : Category) : Expenditure where
  id := o.id
  category := category.id
  transaction := o.transactionId
  declared := cmd.declared
  planned := cmd.planned
  createdAt := o.now
  updatedAt := o.now

def ingressOf (o : Occasion) (category : Category) : Ingress where
  id := o.id
  category := category.id
  transaction := o.transactionId
  createdAt := o.now
  updatedAt := o.now

def spend (cmd : NewExpenditure) (o : Occasion) : Step (Detail Expenditure) := do
  let account ← Step.ask (activeAccount cmd.account)
  let category ← Step.ask (activeCategory cmd.category)
  Step.ask (ensureCurrency cmd.currency account)
  if !account.covers cmd.amount then Step.refuse .insufficientBalance
  let account ← Step.ask (.ofOverflow (account.debit cmd.amount))
  let amount ← Step.ask (.ofOverflow cmd.amount.neg)
  let transaction := UseCase.completed cmd.toNewMovement account amount .expenditure o
  Step.edit (enterTransaction transaction)
  discard (saveAccount account o.savedAt)
  Step.edit (enterExpenditure (expenditureOf cmd o category))
  let tags ← Step.ask (resolveTags .expenditure cmd.tags)
  linkTags enterExpenditureTag o.id (tags.map (·.id))
  return ⟨expenditureOf cmd o category, transaction, category, tags⟩

def createExpenditure (cmd : NewExpenditure) (o : Occasion) : Step (Detail Expenditure) := do
  Step.ask (ensurePositive cmd.amount)
  spend cmd o

def receive (cmd : NewMovement) (o : Occasion) : Step (Detail Ingress) := do
  let account ← Step.ask (activeAccount cmd.account)
  let category ← Step.ask (activeCategory cmd.category)
  Step.ask (ensureCurrency cmd.currency account)
  let account ← Step.ask (.ofDomain (account.credit cmd.amount))
  let transaction := UseCase.completed cmd account cmd.amount .ingress o
  Step.edit (enterTransaction transaction)
  discard (saveAccount account o.savedAt)
  Step.edit (enterIngress (ingressOf o category))
  let tags ← Step.ask (resolveTags .ingress cmd.tags)
  linkTags enterIngressTag o.id (tags.map (·.id))
  return ⟨ingressOf o category, transaction, category, tags⟩

def createIngress (cmd : NewMovement) (o : Occasion) : Step (Detail Ingress) := do
  Step.ask (ensurePositive cmd.amount)
  receive cmd o

def findTransaction (id : Uuid) : Query Transaction :=
  (Query.find transactions (·.id) id).notFoundAs .transactionNotFound

def findExpenditure (id : Uuid) : Query (Detail Expenditure) := do
  let expenditure ← (Query.find expenditures (·.id) id).notFoundAs .expenditureNotFound
  let transaction ← findTransaction expenditure.transaction
  let category ← findCategory expenditure.category
  let tags ← attached expenditureTags expenditure.id
  return ⟨expenditure, transaction, category, tags⟩

def findIngress (id : Uuid) : Query (Detail Ingress) := do
  let ingress ← (Query.find ingresses (·.id) id).notFoundAs .ingressNotFound
  let transaction ← findTransaction ingress.transaction
  let category ← findCategory ingress.category
  let tags ← attached ingressTags ingress.id
  return ⟨ingress, transaction, category, tags⟩

def listTransactions (account : Uuid) : Query (List Transaction) := do
  discard (findAccount account)
  .ask fun L => (L.transactions.filter (·.account == account)).mergeSort
    (Register.byTexts (·.date.stamp) (·.createdAt.stamp))

structure Entry where
  expenditure : Expenditure
  transaction : Transaction

def entries (L : Ledger) : List Entry :=
  L.expenditures.flatMap fun e => (L.transactions.filter (·.id == e.transaction)).map (⟨e, ·⟩)

def Entry.passes (f : ExpenditureFilter) (e : Entry) : Bool :=
  f.account.all (· == e.transaction.account)
    && f.category.all (· == e.expenditure.category)
    && f.since.all (·.stamp ≤ e.transaction.date.stamp)
    && f.before.all (e.transaction.date.stamp < ·.stamp)
    && f.declared.all (· == e.expenditure.declared)
    && f.planned.all (· == e.expenditure.planned)

def Entry.newestFirst (a b : Entry) : Bool :=
  Register.byTexts (·.transaction.date.stamp) (·.expenditure.createdAt.stamp) b a

def findExpenditures (f : ExpenditureFilter) : Query (List Expenditure) :=
  .ask fun L => ((L.entries.filter (·.passes f)).mergeSort Entry.newestFirst).map (·.expenditure)

end Ledger

open Ledger (Query Step)

theorem answers_activeAccount (id : Uuid) :
    Answers (UseCase.activeAccount id) (Ledger.activeAccount id) :=
  (answers_findAccount id).bind fun a => .ite (.pure a) (.failDomain _)

theorem answers_activeCategory (id : Uuid) :
    Answers (UseCase.activeCategory id) (Ledger.activeCategory id) :=
  (answers_findCategory id).bind fun c => .ite (.pure c) (.failDomain _)

theorem answers_ensureCurrency (currency : Currency) (a : Account) :
    Answers (UseCase.ensureCurrency currency a) (Ledger.ensureCurrency currency a) :=
  .ite (.pure ()) (.failDomain _)

theorem answers_ensurePositive (amount : Money) :
    Answers (UseCase.ensurePositive amount) (Ledger.ensurePositive amount) :=
  .ite (.pure ()) (.failDomain _)

theorem simulates_spend (cmd : NewExpenditure) (o : Occasion) :
    Simulates (UseCase.spend cmd o) (Ledger.spend cmd o) := by
  refine (answers_activeAccount _).simulates.bind fun a => ?_
  refine (answers_activeCategory _).simulates.bind fun c => ?_
  refine (answers_ensureCurrency _ a).simulates.bind fun _ => ?_
  have hgo : Simulates _ _ :=
    (Answers.ofOverflow (a.debit cmd.amount)).simulates.bind fun a =>
    (Answers.ofOverflow cmd.amount.neg).simulates.bind fun amount =>
    (simulates_enter fun _ hs => Ledger.enforced_enterTransaction hs
      (UseCase.completed cmd.toNewMovement a amount .expenditure o)).bind fun _ =>
    ((settles_saveAccount a o.savedAt).simulates.map fun _ => ()).bind fun _ =>
    (simulates_enter fun _ hs => Ledger.enforced_enterExpenditure hs
      (Ledger.expenditureOf cmd o c)).bind fun _ =>
    (answers_resolveTags .expenditure cmd.tags).simulates.bind fun tags =>
    (simulates_linkExpenditure o.id (tags.map (·.id))).bind fun _ =>
    .pure (⟨Ledger.expenditureOf cmd o c,
      UseCase.completed cmd.toNewMovement a amount .expenditure o, c, tags⟩ : Detail Expenditure)
  exact .ite ((Simulates.failDomain _).bind fun _ => hgo) hgo

theorem simulates_receive (cmd : NewMovement) (o : Occasion) :
    Simulates (UseCase.receive cmd o) (Ledger.receive cmd o) :=
  (answers_activeAccount _).simulates.bind fun a =>
  (answers_activeCategory _).simulates.bind fun c =>
  (answers_ensureCurrency _ a).simulates.bind fun _ =>
  (Answers.ofDomain (a.credit cmd.amount)).simulates.bind fun a =>
  (simulates_enter fun _ hs => Ledger.enforced_enterTransaction hs
    (UseCase.completed cmd a cmd.amount .ingress o)).bind fun _ =>
  ((settles_saveAccount a o.savedAt).simulates.map fun _ => ()).bind fun _ =>
  (simulates_enter fun _ hs => Ledger.enforced_enterIngress hs (Ledger.ingressOf o c)).bind fun _ =>
  (answers_resolveTags .ingress cmd.tags).simulates.bind fun tags =>
  (simulates_linkIngress o.id (tags.map (·.id))).bind fun _ =>
  .pure (⟨Ledger.ingressOf o c, UseCase.completed cmd a cmd.amount .ingress o, c, tags⟩ :
    Detail Ingress)

theorem performs_createExpenditure (cmd : NewExpenditure) (o : Occasion) :
    Performs (UseCase.createExpenditure cmd o) (Ledger.createExpenditure cmd o) :=
  .after (answers_ensurePositive cmd.amount) fun _ => .atomically (simulates_spend cmd o)

theorem performs_createIngress (cmd : NewMovement) (o : Occasion) :
    Performs (UseCase.createIngress cmd o) (Ledger.createIngress cmd o) :=
  .after (answers_ensurePositive cmd.amount) fun _ => .atomically (simulates_receive cmd o)

theorem answers_findTransaction (id : Uuid) :
    Answers (UseCase.findTransaction id) (Ledger.findTransaction id) :=
  (Answers.look Books.transactions TransactionRow.id Transaction.ofRow_row (fun _ => rfl)
    (fun _ => rfl) id).notFoundAs _

theorem answers_findExpenditure (id : Uuid) :
    Answers (UseCase.findExpenditure id) (Ledger.findExpenditure id) :=
  ((Answers.look Books.expenditures ExpenditureRow.id Expenditure.ofRow_row (fun _ => rfl)
    (fun _ => rfl) id).notFoundAs _).bind fun e =>
  (answers_findTransaction e.transaction).bind fun t =>
  (answers_findCategory e.category).bind fun c =>
  (answers_attached Ledger.expenditureTags (fun _ => rfl) e.id).bind fun tags =>
  .pure (⟨e, t, c, tags⟩ : Detail Expenditure)

theorem answers_findIngress (id : Uuid) :
    Answers (UseCase.findIngress id) (Ledger.findIngress id) :=
  ((Answers.look Books.ingresses IngressRow.id Ingress.ofRow_row (fun _ => rfl)
    (fun _ => rfl) id).notFoundAs _).bind fun i =>
  (answers_findTransaction i.transaction).bind fun t =>
  (answers_findCategory i.category).bind fun c =>
  (answers_attached Ledger.ingressTags (fun _ => rfl) i.id).bind fun tags =>
  .pure (⟨i, t, c, tags⟩ : Detail Ingress)

theorem answers_listTransactions (account : Uuid) :
    Answers (UseCase.listTransactions account) (Ledger.listTransactions account) := by
  refine ((answers_findAccount account).map fun _ => ()).bind fun _ => ?_
  refine .list Transaction.ofRow_row fun L _ => ?_
  have howned := filter_rows (f := Transaction.row) (p := (·.account == account.text))
    (q := (·.account == account)) (fun t => Uuid.text_beq_text t.account account) L.transactions
  rw [Ledger.books, howned, List.map_mergeSort]
  intro a _ b _
  rfl

namespace Ledger.Entry

def row (e : Entry) : Expenditures.Entry := ⟨e.expenditure.row, e.transaction.row⟩

theorem entries_books (L : Ledger) : Expenditures.entries L.books = L.entries.map row := by
  have hof (e : Expenditure) : (L.transactions.map Transaction.row).filter
      (·.id == e.transaction.text) =
        (L.transactions.filter (·.id == e.transaction)).map Transaction.row :=
    filter_rows (fun t => Uuid.text_beq_text t.id e.transaction) L.transactions
  rw [Expenditures.entries, show L.books.expenditures = L.expenditures.map Expenditure.row from rfl,
    List.flatMap_map, entries, List.map_flatMap]
  congr 1
  funext e
  show ((L.transactions.map Transaction.row).filter (·.id == e.transaction.text)).map _ = _
  rw [hof, List.map_map, List.map_map]
  rfl

theorem passes_row (f : ExpenditureFilter) (e : Entry) :
    Expenditures.passes f e.row = e.passes f := by
  simp only [Expenditures.passes, passes, row, Transaction.row, Expenditure.row,
    Uuid.text_beq_text]
  rfl

end Ledger.Entry

theorem answers_findExpenditures (f : ExpenditureFilter) :
    Answers (Expenditures.find f) (Ledger.findExpenditures f) := by
  refine .list Expenditure.ofRow_row fun L _ => ?_
  have hsorted (es : List Ledger.Entry) :
      (es.map Ledger.Entry.row).mergeSort Expenditures.newestFirst =
        (es.mergeSort Ledger.Entry.newestFirst).map Ledger.Entry.row := by
    rw [List.map_mergeSort]
    intro a _ b _
    rfl
  rw [Ledger.Entry.entries_books, filter_rows (Ledger.Entry.passes_row f), hsorted, List.map_map,
    List.map_map]
  rfl

end Bookkeeping

import Bookkeeping.Register.Movements
import Bookkeeping.UseCase.Accounts
import Bookkeeping.UseCase.Labels

namespace Bookkeeping.UseCase

def activeAccount (id : Uuid) : Work Account := do
  let account ← findAccount id
  if account.active then return account else Work.failDomain .accountInactive

def activeCategory (id : Uuid) : Work Category := do
  let category ← findCategory id
  if category.active then return category else Work.failDomain .categoryInactive

def ensureCurrency (currency : Currency) (account : Account) : Work Unit :=
  if currency = account.currency then pure () else Work.failDomain .currencyMismatch

def ensurePositive (amount : Money) : Work Unit :=
  if amount.isPositive then pure () else Work.failDomain .invalidAmount

def completed (cmd : NewMovement) (account : Account) (amount : Money) (kind : TransactionKind)
    (o : Occasion) : Transaction where
  id := o.transactionId
  account := account.id
  amount := amount
  currency := account.currency
  date := cmd.date
  description := cmd.description
  kind := kind
  balanceAfter := account.currentBalance
  status := .completed
  createdAt := o.now
  updatedAt := o.now

/-- Spends an amount that is known to be positive, in whatever transaction is open. -/
def spend (cmd : NewExpenditure) (o : Occasion) : Work (Detail Expenditure) := do
  let account ← activeAccount cmd.account
  let category ← activeCategory cmd.category
  ensureCurrency cmd.currency account
  if !account.covers cmd.amount then Work.failDomain .insufficientBalance
  let account ← Work.ofOverflow (account.debit cmd.amount)
  let amount ← Work.ofOverflow cmd.amount.neg
  let transaction := completed cmd.toNewMovement account amount .expenditure o
  Transactions.create transaction
  discard (Accounts.save account o.savedAt)
  let expenditure : Expenditure := {
    id := o.id
    category := category.id
    transaction := transaction.id
    declared := cmd.declared
    planned := cmd.planned
    createdAt := o.now
    updatedAt := o.now }
  Expenditures.create expenditure
  let tags ← resolveTags .expenditure cmd.tags
  Tags.link .expenditure expenditure.id (tags.map (·.id))
  return ⟨expenditure, transaction, category, tags⟩

def createExpenditure (cmd : NewExpenditure) (o : Occasion) : Work (Detail Expenditure) := do
  ensurePositive cmd.amount
  atomically (spend cmd o)

def receive (cmd : NewMovement) (o : Occasion) : Work (Detail Ingress) := do
  let account ← activeAccount cmd.account
  let category ← activeCategory cmd.category
  ensureCurrency cmd.currency account
  let account ← Work.ofDomain (account.credit cmd.amount)
  let transaction := completed cmd account cmd.amount .ingress o
  Transactions.create transaction
  discard (Accounts.save account o.savedAt)
  let ingress : Ingress := {
    id := o.id
    category := category.id
    transaction := transaction.id
    createdAt := o.now
    updatedAt := o.now }
  Ingresses.create ingress
  let tags ← resolveTags .ingress cmd.tags
  Tags.link .ingress ingress.id (tags.map (·.id))
  return ⟨ingress, transaction, category, tags⟩

def createIngress (cmd : NewMovement) (o : Occasion) : Work (Detail Ingress) := do
  ensurePositive cmd.amount
  atomically (receive cmd o)

def findTransaction (id : Uuid) : Work Transaction :=
  (Transactions.get id).notFoundAs .transactionNotFound

def findExpenditure (id : Uuid) : Work (Detail Expenditure) := do
  let expenditure ← (Expenditures.get id).notFoundAs .expenditureNotFound
  let transaction ← findTransaction expenditure.transaction
  let category ← findCategory expenditure.category
  let tags ← Tags.linkedTo .expenditure expenditure.id
  return ⟨expenditure, transaction, category, tags⟩

def findIngress (id : Uuid) : Work (Detail Ingress) := do
  let ingress ← (Ingresses.get id).notFoundAs .ingressNotFound
  let transaction ← findTransaction ingress.transaction
  let category ← findCategory ingress.category
  let tags ← Tags.linkedTo .ingress ingress.id
  return ⟨ingress, transaction, category, tags⟩

def listTransactions (account : Uuid) : Work (List Transaction) := do
  discard (findAccount account)
  Transactions.list account

end Bookkeeping.UseCase

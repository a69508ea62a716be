import Bookkeeping.Store.Books

/-! A ledger: what the books say, as entities instead of rows. `books` writes a ledger down. -/

namespace Bookkeeping

structure Link where
  target : Uuid
  tag : Uuid
  deriving DecidableEq, Repr

def Link.row (l : Link) : LinkRow := ⟨l.target.text, l.tag.text⟩

structure Ledger where
  members : List Member
  accounts : List Account
  categories : List Category
  tags : List Tag
  transactions : List Transaction
  expenditures : List Expenditure
  ingresses : List Ingress
  expenditureTags : List Link
  ingressTags : List Link
  deriving DecidableEq, Repr

namespace Ledger

def fresh : Ledger := ⟨[], [], [], [], [], [], [], [], []⟩

def books (L : Ledger) : Books where
  currencies := CurrencyRow.seeded
  members := L.members.map Member.row
  accounts := L.accounts.map Account.row
  categories := L.categories.map Category.row
  tags := L.tags.map Tag.row
  transactions := L.transactions.map Transaction.row
  expenditures := L.expenditures.map Expenditure.row
  ingresses := L.ingresses.map Ingress.row
  transfers := []
  savingsGoals := []
  expenditureTags := L.expenditureTags.map Link.row
  ingressTags := L.ingressTags.map Link.row

def memberIds (L : Ledger) : List Uuid := L.members.map (·.id)

def accountIds (L : Ledger) : List Uuid := L.accounts.map (·.id)

def categoryIds (L : Ledger) : List Uuid := L.categories.map (·.id)

def tagIds (L : Ledger) : List Uuid := L.tags.map (·.id)

def transactionIds (L : Ledger) : List Uuid := L.transactions.map (·.id)

def expenditureIds (L : Ledger) : List Uuid := L.expenditures.map (·.id)

def ingressIds (L : Ledger) : List Uuid := L.ingresses.map (·.id)

def tagKeys (L : Ledger) : List (String × TagKind) := L.tags.map fun t => (t.name.key, t.kind)

end Ledger

def Currency.IsKnown (c : Currency) : Prop := c.code ∈ CurrencyRow.seeded.map (·.code)

instance (c : Currency) : Decidable c.IsKnown := by unfold Currency.IsKnown; infer_instance

namespace Ledger

/-- The keys of the books: identifiers are unique, and every reference resolves. -/
structure Sound (L : Ledger) : Prop where
  nodup_members : L.memberIds.Nodup
  nodup_accounts : L.accountIds.Nodup
  nodup_categories : L.categoryIds.Nodup
  nodup_tags : L.tagIds.Nodup
  nodup_tagKeys : L.tagKeys.Nodup
  nodup_transactions : L.transactionIds.Nodup
  nodup_expenditures : L.expenditureIds.Nodup
  nodup_ingresses : L.ingressIds.Nodup
  nodup_spent : (L.expenditures.map (·.transaction)).Nodup
  nodup_received : (L.ingresses.map (·.transaction)).Nodup
  nodup_expenditureTags : L.expenditureTags.Nodup
  nodup_ingressTags : L.ingressTags.Nodup
  currency_account : ∀ a ∈ L.accounts, a.currency.IsKnown
  owner_account : ∀ a ∈ L.accounts, ∀ m ∈ a.owner, m ∈ L.memberIds
  currency_transaction : ∀ t ∈ L.transactions, t.currency.IsKnown
  account_transaction : ∀ t ∈ L.transactions, t.account ∈ L.accountIds
  category_expenditure : ∀ e ∈ L.expenditures, e.category ∈ L.categoryIds
  transaction_expenditure : ∀ e ∈ L.expenditures, e.transaction ∈ L.transactionIds
  category_ingress : ∀ i ∈ L.ingresses, i.category ∈ L.categoryIds
  transaction_ingress : ∀ i ∈ L.ingresses, i.transaction ∈ L.transactionIds
  target_expenditureTag : ∀ l ∈ L.expenditureTags, l.target ∈ L.expenditureIds
  tag_expenditureTag : ∀ l ∈ L.expenditureTags, l.tag ∈ L.tagIds
  target_ingressTag : ∀ l ∈ L.ingressTags, l.target ∈ L.ingressIds
  tag_ingressTag : ∀ l ∈ L.ingressTags, l.tag ∈ L.tagIds

theorem sound_fresh : fresh.Sound := by
  constructor <;> simp [fresh, memberIds, accountIds, categoryIds, tagIds, tagKeys, transactionIds,
    expenditureIds, ingressIds]

end Ledger

end Bookkeeping

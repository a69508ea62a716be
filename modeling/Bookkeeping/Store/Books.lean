import Bookkeeping.ForeignKey.Schema
import Bookkeeping.Store.Table

namespace Bookkeeping

structure Books where
  currencies : List CurrencyRow
  members : List MemberRow
  accounts : List AccountRow
  categories : List CategoryRow
  tags : List TagRow
  transactions : List TransactionRow
  expenditures : List ExpenditureRow
  ingresses : List IngressRow
  transfers : List TransferRow
  savingsGoals : List SavingsGoalRow
  expenditureTags : List LinkRow
  ingressTags : List LinkRow
  deriving DecidableEq, Repr

namespace Books

def fresh : Books where
  currencies := CurrencyRow.seeded
  members := []
  accounts := []
  categories := []
  tags := []
  transactions := []
  expenditures := []
  ingresses := []
  transfers := []
  savingsGoals := []
  expenditureTags := []
  ingressTags := []

def rows (b : Books) : (t : Table) → List t.Row
  | .currencies => b.currencies
  | .members => b.members
  | .accounts => b.accounts
  | .categories => b.categories
  | .tags => b.tags
  | .transactions => b.transactions
  | .expenditures => b.expenditures
  | .ingresses => b.ingresses
  | .transfers => b.transfers
  | .savingsGoals => b.savingsGoals
  | .expenditureTags => b.expenditureTags
  | .ingressTags => b.ingressTags

def withRows (b : Books) : (t : Table) → List t.Row → Books
  | .currencies, rows => { b with currencies := rows }
  | .members, rows => { b with members := rows }
  | .accounts, rows => { b with accounts := rows }
  | .categories, rows => { b with categories := rows }
  | .tags, rows => { b with tags := rows }
  | .transactions, rows => { b with transactions := rows }
  | .expenditures, rows => { b with expenditures := rows }
  | .ingresses, rows => { b with ingresses := rows }
  | .transfers, rows => { b with transfers := rows }
  | .savingsGoals, rows => { b with savingsGoals := rows }
  | .expenditureTags, rows => { b with expenditureTags := rows }
  | .ingressTags, rows => { b with ingressTags := rows }

@[simp] theorem rows_withRows (b : Books) (t : Table) (rows : List t.Row) :
    (b.withRows t rows).rows t = rows := by
  cases t <;> rfl

theorem rows_withRows_of_ne (b : Books) {t u : Table} (rows : List t.Row) (h : u ≠ t) :
    (b.withRows t rows).rows u = b.rows u := by
  cases t <;> cases u <;> simp_all [Books.rows, withRows]

def column (b : Books) (table column : String) : List String :=
  match Table.ofName? table with
  | none => []
  | some t => (b.rows t).filterMap (t.text? · column)

def refersTo (b : Books) (k : ForeignKey) : List String := b.column k.childTable k.childColumn

def referable (b : Books) (k : ForeignKey) : List String := b.column k.parentTable k.parentColumn

def parentMissing (b : Books) (k : ForeignKey) (r : Record) : Bool :=
  match r.text? k.childColumn with
  | none => false
  | some value => !(b.referable k).contains value

def stillReferenced (b : Books) (k : ForeignKey) (r : Record) : Bool :=
  match r.text? k.parentColumn with
  | none => false
  | some value => (b.refersTo k).contains value

def Resolves (b : Books) (k : ForeignKey) : Prop := ∀ value ∈ b.refersTo k, value ∈ b.referable k

def Intact (b : Books) : Prop := ∀ k ∈ ForeignKey.all, b.Resolves k

instance (b : Books) (k : ForeignKey) : Decidable (b.Resolves k) := by
  unfold Resolves; infer_instance

instance (b : Books) : Decidable b.Intact := by unfold Intact; infer_instance

end Books

end Bookkeeping

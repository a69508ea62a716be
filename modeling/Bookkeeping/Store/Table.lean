import Bookkeeping.Row.Account
import Bookkeeping.Row.Label
import Bookkeeping.Row.Member
import Bookkeeping.Row.Movement
import Bookkeeping.Row.Reserve

namespace Bookkeeping

inductive Table
  | currencies
  | members
  | accounts
  | categories
  | tags
  | transactions
  | expenditures
  | ingresses
  | transfers
  | savingsGoals
  | expenditureTags
  | ingressTags
  deriving DecidableEq, Repr

structure UniqueKey where
  columns : List String
  primary : Bool
  deriving DecidableEq, Repr

namespace Table

def all : List Table := [
  .currencies, .members, .accounts, .categories, .tags, .transactions, .expenditures, .ingresses,
  .transfers, .savingsGoals, .expenditureTags, .ingressTags]

def name : Table → String
  | .currencies => "currencies"
  | .members => "household_members"
  | .accounts => "accounts"
  | .categories => "categories"
  | .tags => "tags"
  | .transactions => "transactions"
  | .expenditures => "expenditures"
  | .ingresses => "ingresses"
  | .transfers => "transfers"
  | .savingsGoals => "savings_goals"
  | .expenditureTags => "expenditure_tags"
  | .ingressTags => "ingress_tags"

def ofName? (name : String) : Option Table := all.find? (·.name == name)

abbrev Row : Table → Type
  | .currencies => CurrencyRow
  | .members => MemberRow
  | .accounts => AccountRow
  | .categories => CategoryRow
  | .tags => TagRow
  | .transactions => TransactionRow
  | .expenditures => ExpenditureRow
  | .ingresses => IngressRow
  | .transfers => TransferRow
  | .savingsGoals => SavingsGoalRow
  | .expenditureTags => LinkRow
  | .ingressTags => LinkRow

def columns : Table → List String
  | .currencies => CurrencyRow.columns
  | .members => MemberRow.columns
  | .accounts => AccountRow.columns
  | .categories => CategoryRow.columns
  | .tags => TagRow.columns
  | .transactions => TransactionRow.columns
  | .expenditures => ExpenditureRow.columns
  | .ingresses => IngressRow.columns
  | .transfers => TransferRow.columns
  | .savingsGoals => SavingsGoalRow.columns
  | .expenditureTags => LinkRow.columns "expenditure_id"
  | .ingressTags => LinkRow.columns "ingress_id"

def record : (t : Table) → t.Row → Record
  | .currencies => CurrencyRow.record
  | .members => MemberRow.record
  | .accounts => AccountRow.record
  | .categories => CategoryRow.record
  | .tags => TagRow.record
  | .transactions => TransactionRow.record
  | .expenditures => ExpenditureRow.record
  | .ingresses => IngressRow.record
  | .transfers => TransferRow.record
  | .savingsGoals => SavingsGoalRow.record
  | .expenditureTags => LinkRow.record "expenditure_id"
  | .ingressTags => LinkRow.record "ingress_id"

def ofRecord : (t : Table) → Record → Except StorageFailure t.Row
  | .currencies => CurrencyRow.ofRecord
  | .members => MemberRow.ofRecord
  | .accounts => AccountRow.ofRecord
  | .categories => CategoryRow.ofRecord
  | .tags => TagRow.ofRecord
  | .transactions => TransactionRow.ofRecord
  | .expenditures => ExpenditureRow.ofRecord
  | .ingresses => IngressRow.ofRecord
  | .transfers => TransferRow.ofRecord
  | .savingsGoals => SavingsGoalRow.ofRecord
  | .expenditureTags => LinkRow.ofRecord "expenditure_tags" "expenditure_id"
  | .ingressTags => LinkRow.ofRecord "ingress_tags" "ingress_id"

def uniqueKeys : Table → List UniqueKey
  | .currencies => [⟨["code"], true⟩]
  | .tags => [⟨["id"], true⟩, ⟨["name_norm", "tag_type"], false⟩]
  | .expenditures | .ingresses => [⟨["id"], true⟩, ⟨["transaction_id"], false⟩]
  | .expenditureTags => [⟨["expenditure_id", "tag_id"], true⟩]
  | .ingressTags => [⟨["ingress_id", "tag_id"], true⟩]
  | _ => [⟨["id"], true⟩]

def text? (t : Table) (row : t.Row) (column : String) : Option String :=
  (t.record row).text? column

theorem ofName?_name (t : Table) : ofName? t.name = some t := by
  cases t <;> decide

theorem ofRecord_record (t : Table) (r : t.Row) : t.ofRecord (t.record r) = .ok r := by
  cases t
  case currencies => exact CurrencyRow.ofRecord_record r
  case members => exact MemberRow.ofRecord_record r
  case accounts => exact AccountRow.ofRecord_record r
  case categories => exact CategoryRow.ofRecord_record r
  case tags => exact TagRow.ofRecord_record r
  case transactions => exact TransactionRow.ofRecord_record r
  case expenditures => exact ExpenditureRow.ofRecord_record r
  case ingresses => exact IngressRow.ofRecord_record r
  case transfers => exact TransferRow.ofRecord_record r
  case savingsGoals => exact SavingsGoalRow.ofRecord_record r
  case expenditureTags => exact LinkRow.ofRecord_record _ (by decide) r
  case ingressTags => exact LinkRow.ofRecord_record _ (by decide) r

end Table

namespace UniqueKey

def failure (k : UniqueKey) (t : Table) : StorageFailure :=
  .database (some (if k.primary then 1555 else 2067))
    ("UNIQUE constraint failed: " ++ ", ".intercalate (k.columns.map (s!"{t.name}." ++ ·)))

/-- Whether two rows have the same value of the key; `null` equals nothing. -/
def shared (k : UniqueKey) (t : Table) (a b : t.Row) : Bool :=
  k.columns.all fun c => (t.text? a c).isSome && t.text? a c == t.text? b c

end UniqueKey

def Table.clash? (t : Table) (row : t.Row) (others : List t.Row) : Option StorageFailure :=
  (t.uniqueKeys.find? fun k => others.any (k.shared t row)).map (·.failure t)

end Bookkeeping

import Bookkeeping.Movement
import Bookkeeping.Row.Cell
import Bookkeeping.Row.Decode

namespace Bookkeeping

structure TransactionRow where
  id : String
  account : String
  amount : Money
  currency : String
  date : Instant
  description : Option String
  kind : String
  balanceAfter : Money
  status : String
  createdAt : Instant
  updatedAt : Instant
  deriving DecidableEq, Repr

namespace TransactionRow

def columns : List String := [
  "id", "account_id", "amount", "currency", "date", "description", "transaction_type",
  "balance_after", "status", "created_at", "updated_at"]

def record (r : TransactionRow) : Record := [
  ("id", .text r.id), ("account_id", .text r.account), ("amount", .int r.amount.minor),
  ("currency", .text r.currency), ("date", .moment r.date),
  ("description", .ofText? r.description), ("transaction_type", .text r.kind),
  ("balance_after", .int r.balanceAfter.minor), ("status", .text r.status),
  ("created_at", .moment r.createdAt), ("updated_at", .moment r.updatedAt)]

def ofRecord (record : Record) : Except StorageFailure TransactionRow := do
  let r : RecordReader := ⟨"transactions", record⟩
  .ok {
    id := ← r.text "id"
    account := ← r.text "account_id"
    amount := ← r.money "amount" none
    currency := ← r.text "currency"
    date := ← r.moment "date"
    description := r.optional "description"
    kind := ← r.text "transaction_type"
    balanceAfter := ← r.money "balance_after" none
    status := ← r.text "status"
    createdAt := ← r.moment "created_at"
    updatedAt := ← r.moment "updated_at" }

theorem ofRecord_record (r : TransactionRow) : ofRecord r.record = .ok r := by
  simp [ofRecord, record, RecordReader.text, RecordReader.optional, RecordReader.int,
    RecordReader.money, RecordReader.moment, Record.text?, Record.cell?, List.lookup_cons, bind,
    Except.bind]

end TransactionRow

namespace Transaction

def row (t : Transaction) : TransactionRow where
  id := t.id.text
  account := t.account.text
  amount := t.amount
  currency := t.currency.code
  date := t.date
  description := t.description
  kind := t.kind.code
  balanceAfter := t.balanceAfter
  status := t.status.code
  createdAt := t.createdAt
  updatedAt := t.updatedAt

def ofRow (r : TransactionRow) : Except InfraError Transaction := do
  .ok {
    id := ← decodeId "transactions.id" r.id
    account := ← decodeId "transactions.account_id" r.account
    currency := ← decodeColumn "transactions.currency" (Currency.parse r.currency)
    kind := ← decodeColumn "transactions.transaction_type" (TransactionKind.parse r.kind)
    status := ← decodeColumn "transactions.status" (TransactionStatus.parse r.status)
    amount := r.amount
    date := r.date
    description := r.description
    balanceAfter := r.balanceAfter
    createdAt := r.createdAt
    updatedAt := r.updatedAt }

end Transaction

structure ExpenditureRow where
  id : String
  category : String
  transaction : String
  declared : Bool
  planned : Bool
  createdAt : Instant
  updatedAt : Instant
  deriving DecidableEq, Repr

namespace ExpenditureRow

def columns : List String :=
  ["id", "category_id", "transaction_id", "declared", "planned", "created_at", "updated_at"]

def record (r : ExpenditureRow) : Record := [
  ("id", .text r.id), ("category_id", .text r.category), ("transaction_id", .text r.transaction),
  ("declared", .ofBool r.declared), ("planned", .ofBool r.planned),
  ("created_at", .moment r.createdAt), ("updated_at", .moment r.updatedAt)]

def ofRecord (record : Record) : Except StorageFailure ExpenditureRow := do
  let r : RecordReader := ⟨"expenditures", record⟩
  .ok {
    id := ← r.text "id"
    category := ← r.text "category_id"
    transaction := ← r.text "transaction_id"
    declared := ← r.bool "declared" (some false)
    planned := ← r.bool "planned" (some false)
    createdAt := ← r.moment "created_at"
    updatedAt := ← r.moment "updated_at" }

theorem ofRecord_record (r : ExpenditureRow) : ofRecord r.record = .ok r := by
  simp [ofRecord, record, RecordReader.text, RecordReader.int, RecordReader.bool,
    RecordReader.moment, Record.text?, Record.cell?, List.lookup_cons, Cell.ofBool, bind,
    Except.bind]

end ExpenditureRow

namespace Expenditure

def row (e : Expenditure) : ExpenditureRow where
  id := e.id.text
  category := e.category.text
  transaction := e.transaction.text
  declared := e.declared
  planned := e.planned
  createdAt := e.createdAt
  updatedAt := e.updatedAt

def ofRow (r : ExpenditureRow) : Except InfraError Expenditure := do
  .ok {
    id := ← decodeId "expenditures.id" r.id
    category := ← decodeId "expenditures.category_id" r.category
    transaction := ← decodeId "expenditures.transaction_id" r.transaction
    declared := r.declared
    planned := r.planned
    createdAt := r.createdAt
    updatedAt := r.updatedAt }

end Expenditure

structure IngressRow where
  id : String
  category : String
  transaction : String
  createdAt : Instant
  updatedAt : Instant
  deriving DecidableEq, Repr

namespace IngressRow

def columns : List String := ["id", "category_id", "transaction_id", "created_at", "updated_at"]

def record (r : IngressRow) : Record := [
  ("id", .text r.id), ("category_id", .text r.category), ("transaction_id", .text r.transaction),
  ("created_at", .moment r.createdAt), ("updated_at", .moment r.updatedAt)]

def ofRecord (record : Record) : Except StorageFailure IngressRow := do
  let r : RecordReader := ⟨"ingresses", record⟩
  .ok {
    id := ← r.text "id"
    category := ← r.text "category_id"
    transaction := ← r.text "transaction_id"
    createdAt := ← r.moment "created_at"
    updatedAt := ← r.moment "updated_at" }

theorem ofRecord_record (r : IngressRow) : ofRecord r.record = .ok r := by
  simp [ofRecord, record, RecordReader.text, RecordReader.moment, Record.text?, Record.cell?,
    List.lookup_cons, bind, Except.bind]

end IngressRow

namespace Ingress

def row (i : Ingress) : IngressRow where
  id := i.id.text
  category := i.category.text
  transaction := i.transaction.text
  createdAt := i.createdAt
  updatedAt := i.updatedAt

def ofRow (r : IngressRow) : Except InfraError Ingress := do
  .ok {
    id := ← decodeId "ingresses.id" r.id
    category := ← decodeId "ingresses.category_id" r.category
    transaction := ← decodeId "ingresses.transaction_id" r.transaction
    createdAt := r.createdAt
    updatedAt := r.updatedAt }

end Ingress

end Bookkeeping

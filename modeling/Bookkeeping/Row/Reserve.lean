import Bookkeeping.Row.Cell

namespace Bookkeeping

structure CurrencyRow where
  code : String
  name : String
  minorUnits : Int
  deriving DecidableEq, Repr

namespace CurrencyRow

def columns : List String := ["code", "name", "minor_units"]

def record (r : CurrencyRow) : Record :=
  [("code", .text r.code), ("name", .text r.name), ("minor_units", .int r.minorUnits)]

def ofRecord (record : Record) : Except StorageFailure CurrencyRow := do
  let r : RecordReader := ⟨"currencies", record⟩
  .ok ⟨← r.text "code", ← r.text "name", ← r.int "minor_units" (some 2)⟩

def seeded : List CurrencyRow := [
  ⟨"EUR", "Euro", 2⟩, ⟨"USD", "US Dollar", 2⟩, ⟨"GBP", "Pound Sterling", 2⟩,
  ⟨"CHF", "Swiss Franc", 2⟩, ⟨"JPY", "Yen", 0⟩]

theorem ofRecord_record (r : CurrencyRow) : ofRecord r.record = .ok r := by
  simp [ofRecord, record, RecordReader.text, RecordReader.int, Record.text?, Record.cell?,
    List.lookup_cons, bind, Except.bind]

end CurrencyRow

structure LinkRow where
  target : String
  tag : String
  deriving DecidableEq, Repr

namespace LinkRow

def columns (targetColumn : String) : List String := [targetColumn, "tag_id"]

def record (targetColumn : String) (r : LinkRow) : Record :=
  [(targetColumn, .text r.target), ("tag_id", .text r.tag)]

def ofRecord (table targetColumn : String) (record : Record) : Except StorageFailure LinkRow := do
  let r : RecordReader := ⟨table, record⟩
  .ok ⟨← r.text targetColumn, ← r.text "tag_id"⟩

theorem ofRecord_record (table : String) {targetColumn : String} (h : targetColumn ≠ "tag_id")
    (r : LinkRow) : ofRecord table targetColumn (r.record targetColumn) = .ok r := by
  have h' : ("tag_id" == targetColumn) = false := by simpa using Ne.symm h
  simp [ofRecord, record, RecordReader.text, Record.text?, Record.cell?, List.lookup_cons, h', bind,
    Except.bind]

end LinkRow

structure TransferRow where
  id : String
  category : String
  source : String
  destination : String
  createdAt : Instant
  updatedAt : Instant
  deriving DecidableEq, Repr

namespace TransferRow

def columns : List String := [
  "id", "category_id", "source_transaction_id", "destination_transaction_id", "created_at",
  "updated_at"]

def record (r : TransferRow) : Record := [
  ("id", .text r.id), ("category_id", .text r.category),
  ("source_transaction_id", .text r.source), ("destination_transaction_id", .text r.destination),
  ("created_at", .moment r.createdAt), ("updated_at", .moment r.updatedAt)]

def ofRecord (record : Record) : Except StorageFailure TransferRow := do
  let r : RecordReader := ⟨"transfers", record⟩
  .ok {
    id := ← r.text "id"
    category := ← r.text "category_id"
    source := ← r.text "source_transaction_id"
    destination := ← r.text "destination_transaction_id"
    createdAt := ← r.moment "created_at"
    updatedAt := ← r.moment "updated_at" }

theorem ofRecord_record (r : TransferRow) : ofRecord r.record = .ok r := by
  simp [ofRecord, record, RecordReader.text, RecordReader.moment, Record.text?, Record.cell?,
    List.lookup_cons, bind, Except.bind]

end TransferRow

structure SavingsGoalRow where
  id : String
  name : String
  category : String
  currency : String
  targetAmount : Money
  currentAmount : Money
  createdAt : Instant
  updatedAt : Instant
  deriving DecidableEq, Repr

namespace SavingsGoalRow

def columns : List String := [
  "id", "name", "category_id", "currency", "target_amount", "current_amount", "created_at",
  "updated_at"]

def record (r : SavingsGoalRow) : Record := [
  ("id", .text r.id), ("name", .text r.name), ("category_id", .text r.category),
  ("currency", .text r.currency), ("target_amount", .int r.targetAmount.minor),
  ("current_amount", .int r.currentAmount.minor),
  ("created_at", .moment r.createdAt), ("updated_at", .moment r.updatedAt)]

def ofRecord (record : Record) : Except StorageFailure SavingsGoalRow := do
  let r : RecordReader := ⟨"savings_goals", record⟩
  .ok {
    id := ← r.text "id"
    name := ← r.text "name"
    category := ← r.text "category_id"
    currency := ← r.text "currency"
    targetAmount := ← r.money "target_amount" none
    currentAmount := ← r.money "current_amount" (some 0)
    createdAt := ← r.moment "created_at"
    updatedAt := ← r.moment "updated_at" }

theorem ofRecord_record (r : SavingsGoalRow) : ofRecord r.record = .ok r := by
  simp [ofRecord, record, RecordReader.text, RecordReader.int, RecordReader.money,
    RecordReader.moment, Record.text?, Record.cell?, List.lookup_cons, bind, Except.bind]

end SavingsGoalRow

end Bookkeeping

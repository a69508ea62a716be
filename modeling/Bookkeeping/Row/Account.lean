import Bookkeeping.Account
import Bookkeeping.Row.Cell
import Bookkeeping.Row.Decode

namespace Bookkeeping

structure AccountRow where
  id : String
  name : String
  kind : String
  currency : String
  initialBalance : Money
  currentBalance : Money
  active : Bool
  owner : Option String
  version : Int
  createdAt : Instant
  updatedAt : Instant
  deriving DecidableEq, Repr

namespace AccountRow

def columns : List String := [
  "id", "name", "account_type", "currency", "initial_balance", "current_balance", "active",
  "owner_id", "version", "created_at", "updated_at"]

def record (r : AccountRow) : Record := [
  ("id", .text r.id), ("name", .text r.name), ("account_type", .text r.kind),
  ("currency", .text r.currency), ("initial_balance", .int r.initialBalance.minor),
  ("current_balance", .int r.currentBalance.minor), ("active", .ofBool r.active),
  ("owner_id", .ofText? r.owner), ("version", .int r.version),
  ("created_at", .moment r.createdAt), ("updated_at", .moment r.updatedAt)]

def ofRecord (record : Record) : Except StorageFailure AccountRow := do
  let r : RecordReader := ⟨"accounts", record⟩
  .ok {
    id := ← r.text "id"
    name := ← r.text "name"
    kind := ← r.text "account_type"
    currency := ← r.text "currency"
    initialBalance := ← r.money "initial_balance" none
    currentBalance := ← r.money "current_balance" none
    active := ← r.bool "active" (some true)
    owner := r.optional "owner_id"
    version := ← r.int "version" (some 0)
    createdAt := ← r.moment "created_at"
    updatedAt := ← r.moment "updated_at" }

theorem ofRecord_record (r : AccountRow) : ofRecord r.record = .ok r := by
  simp [ofRecord, record, RecordReader.text, RecordReader.optional, RecordReader.int,
    RecordReader.money, RecordReader.bool, RecordReader.moment, Record.text?, Record.cell?,
    List.lookup_cons, Cell.ofBool, bind, Except.bind]

end AccountRow

namespace Account

def row (a : Account) : AccountRow where
  id := a.id.text
  name := a.name
  kind := a.kind.code
  currency := a.currency.code
  initialBalance := a.initialBalance
  currentBalance := a.currentBalance
  active := a.active
  owner := a.owner.map Uuid.text
  version := a.version
  createdAt := a.createdAt
  updatedAt := a.updatedAt

def ofRow (r : AccountRow) : Except InfraError Account := do
  .ok {
    id := ← decodeId "accounts.id" r.id
    kind := ← decodeColumn "accounts.account_type" (AccountKind.parse r.kind)
    currency := ← decodeColumn "accounts.currency" (Currency.parse r.currency)
    owner := ← decodeOptionalId "accounts.owner_id" r.owner
    name := r.name
    initialBalance := r.initialBalance
    currentBalance := r.currentBalance
    active := r.active
    version := r.version
    createdAt := r.createdAt
    updatedAt := r.updatedAt }

end Account

end Bookkeeping

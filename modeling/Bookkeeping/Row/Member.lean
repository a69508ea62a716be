import Bookkeeping.Member
import Bookkeeping.Row.Cell
import Bookkeeping.Row.Decode

namespace Bookkeeping

structure MemberRow where
  id : String
  firstName : String
  lastName : Option String
  nickname : Option String
  role : Option String
  active : Bool
  createdAt : Instant
  updatedAt : Instant
  deriving DecidableEq, Repr

namespace MemberRow

def columns : List String :=
  ["id", "first_name", "last_name", "nickname", "role", "active", "created_at", "updated_at"]

def record (r : MemberRow) : Record := [
  ("id", .text r.id), ("first_name", .text r.firstName), ("last_name", .ofText? r.lastName),
  ("nickname", .ofText? r.nickname), ("role", .ofText? r.role), ("active", .ofBool r.active),
  ("created_at", .moment r.createdAt), ("updated_at", .moment r.updatedAt)]

def ofRecord (record : Record) : Except StorageFailure MemberRow := do
  let r : RecordReader := ⟨"household_members", record⟩
  .ok {
    id := ← r.text "id"
    firstName := ← r.text "first_name"
    lastName := r.optional "last_name"
    nickname := r.optional "nickname"
    role := r.optional "role"
    active := ← r.bool "active" (some true)
    createdAt := ← r.moment "created_at"
    updatedAt := ← r.moment "updated_at" }

theorem ofRecord_record (r : MemberRow) : ofRecord r.record = .ok r := by
  simp [ofRecord, record, RecordReader.text, RecordReader.optional, RecordReader.int,
    RecordReader.bool, RecordReader.moment, Record.text?, Record.cell?, List.lookup_cons,
    Cell.ofBool, bind, Except.bind]

end MemberRow

namespace Member

def row (m : Member) : MemberRow where
  id := m.id.text
  firstName := m.firstName
  lastName := m.lastName
  nickname := m.nickname
  role := m.role
  active := m.active
  createdAt := m.createdAt
  updatedAt := m.updatedAt

def ofRow (r : MemberRow) : Except InfraError Member := do
  .ok {
    id := ← decodeId "household_members.id" r.id
    firstName := r.firstName
    lastName := r.lastName
    nickname := r.nickname
    role := r.role
    active := r.active
    createdAt := r.createdAt
    updatedAt := r.updatedAt }

end Member

end Bookkeeping

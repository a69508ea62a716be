import Bookkeeping.Label
import Bookkeeping.Row.Cell
import Bookkeeping.Row.Decode

namespace Bookkeeping

structure CategoryRow where
  id : String
  name : String
  look : Look
  kind : String
  active : Bool
  createdAt : Instant
  updatedAt : Instant
  deriving DecidableEq, Repr

namespace CategoryRow

def columns : List String := [
  "id", "name", "description", "color", "background_color", "category_type", "active",
  "created_at", "updated_at"]

def record (r : CategoryRow) : Record := [
  ("id", .text r.id), ("name", .text r.name), ("description", .ofText? r.look.description),
  ("color", .ofText? r.look.color), ("background_color", .ofText? r.look.backgroundColor),
  ("category_type", .text r.kind), ("active", .ofBool r.active),
  ("created_at", .moment r.createdAt), ("updated_at", .moment r.updatedAt)]

def ofRecord (record : Record) : Except StorageFailure CategoryRow := do
  let r : RecordReader := ⟨"categories", record⟩
  .ok {
    id := ← r.text "id"
    name := ← r.text "name"
    look := ⟨r.optional "description", r.optional "color", r.optional "background_color"⟩
    kind := ← r.text "category_type"
    active := ← r.bool "active" (some true)
    createdAt := ← r.moment "created_at"
    updatedAt := ← r.moment "updated_at" }

theorem ofRecord_record (r : CategoryRow) : ofRecord r.record = .ok r := by
  simp [ofRecord, record, RecordReader.text, RecordReader.optional, RecordReader.int,
    RecordReader.bool, RecordReader.moment, Record.text?, Record.cell?, List.lookup_cons,
    Cell.ofBool, bind, Except.bind]

end CategoryRow

namespace Category

def row (c : Category) : CategoryRow where
  id := c.id.text
  name := c.name
  look := c.look
  kind := c.kind.code
  active := c.active
  createdAt := c.createdAt
  updatedAt := c.updatedAt

def ofRow (r : CategoryRow) : Except InfraError Category := do
  .ok {
    id := ← decodeId "categories.id" r.id
    kind := ← decodeColumn "categories.category_type" (CategoryKind.parse r.kind)
    name := r.name
    look := r.look
    active := r.active
    createdAt := r.createdAt
    updatedAt := r.updatedAt }

end Category

structure TagRow where
  id : String
  name : String
  key : String
  look : Look
  kind : String
  createdAt : Instant
  updatedAt : Instant
  deriving DecidableEq, Repr

namespace TagRow

def columns : List String := [
  "id", "name", "name_norm", "description", "color", "background_color", "tag_type", "created_at",
  "updated_at"]

def record (r : TagRow) : Record := [
  ("id", .text r.id), ("name", .text r.name), ("name_norm", .text r.key),
  ("description", .ofText? r.look.description), ("color", .ofText? r.look.color),
  ("background_color", .ofText? r.look.backgroundColor), ("tag_type", .text r.kind),
  ("created_at", .moment r.createdAt), ("updated_at", .moment r.updatedAt)]

def ofRecord (record : Record) : Except StorageFailure TagRow := do
  let r : RecordReader := ⟨"tags", record⟩
  .ok {
    id := ← r.text "id"
    name := ← r.text "name"
    key := ← r.text "name_norm"
    look := ⟨r.optional "description", r.optional "color", r.optional "background_color"⟩
    kind := ← r.text "tag_type"
    createdAt := ← r.moment "created_at"
    updatedAt := ← r.moment "updated_at" }

theorem ofRecord_record (r : TagRow) : ofRecord r.record = .ok r := by
  simp [ofRecord, record, RecordReader.text, RecordReader.optional, RecordReader.moment,
    Record.text?, Record.cell?, List.lookup_cons, bind, Except.bind]

end TagRow

namespace Tag

def row (t : Tag) : TagRow where
  id := t.id.text
  name := t.name.display
  key := t.name.key
  look := t.look
  kind := t.kind.code
  createdAt := t.createdAt
  updatedAt := t.updatedAt

def ofRow (r : TagRow) : Except InfraError Tag := do
  .ok {
    id := ← decodeId "tags.id" r.id
    kind := ← decodeColumn "tags.tag_type" (TagKind.parse r.kind)
    name := ⟨r.name, r.key⟩
    look := r.look
    createdAt := r.createdAt
    updatedAt := r.updatedAt }

end Tag

end Bookkeeping

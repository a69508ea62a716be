import Bookkeeping.ForeignKey.Schema
import Bookkeeping.Store.Table
import Bookkeeping.Text.Blank

/-! The schema of a database and the migrations that change it. A migration that is applied can be
undone; the last one applied goes first. -/

namespace Bookkeeping

structure Attachment where
  name : String
  table : String
  deriving DecidableEq, Repr

structure Schema where
  tables : List String
  indexes : List Attachment
  triggers : List Attachment
  applied : List String
  deriving DecidableEq, Repr

namespace Schema

def empty : Schema := ⟨[], [], [], []⟩

/-- Names are compared without ASCII case. -/
def sameName (a b : String) : Bool := a.toList.map Char.toLower == b.toList.map Char.toLower

def attach (new : Attachment) (present : List Attachment) : List Attachment :=
  if present.any (sameName new.name ·.name) then present else present ++ [new]

def detach (name : String) (present : List Attachment) : List Attachment :=
  present.filter fun a => !sameName name a.name

def createTable (s : Schema) (name : String) : Schema :=
  if s.tables.contains name then s else { s with tables := s.tables ++ [name] }

def dropTable (s : Schema) (name : String) : Schema :=
  { s with
    tables := s.tables.filter (· != name)
    indexes := s.indexes.filter (·.table != name)
    triggers := s.triggers.filter (·.table != name) }

def createIndex (s : Schema) (index : Attachment) : Schema :=
  { s with indexes := attach index s.indexes }

/-- The trigger that a statement creates: the name follows `CREATE TRIGGER IF NOT EXISTS`, the table
the first `ON`. -/
def triggerOf? (statement : String) : Option Attachment :=
  match (Text.words statement.toList).map String.ofList with
  | "CREATE" :: "TRIGGER" :: "IF" :: "NOT" :: "EXISTS" :: name :: rest =>
    some ⟨name, ((rest.dropWhile (· != "ON")).drop 1).headD ""⟩
  | _ => none

-- A trigger on a table that is not there would be refused. The migrations run in order, so that the
-- tables stand before the guards are created, and refusals are left out here.
def createTrigger (s : Schema) (statement : String) : Schema :=
  match triggerOf? statement with
  | some trigger => { s with triggers := attach trigger s.triggers }
  | none => s

def dropStatement (name : String) : String := s!"DROP TRIGGER IF EXISTS {name};"

/-- The trigger that a statement drops: the name follows `DROP TRIGGER IF EXISTS`, and ends with the
statement. -/
def droppedBy? (statement : String) : Option String :=
  match (Text.words (statement.toList.takeWhile (· != ';'))).map String.ofList with
  | ["DROP", "TRIGGER", "IF", "EXISTS", name] => some name
  | _ => none

def dropTrigger (s : Schema) (statement : String) : Schema :=
  match droppedBy? statement with
  | some name => { s with triggers := detach name s.triggers }
  | none => s

def createGuards (keys : List ForeignKey) (s : Schema) : Schema :=
  (keys.flatMap (·.createTriggers)).foldl createTrigger s

def dropGuards (keys : List ForeignKey) (s : Schema) : Schema :=
  ((keys.flatMap (·.triggerNames)).map dropStatement).foldl dropTrigger s

end Schema

structure Migration where
  name : String
  up : Schema → Schema
  down : Schema → Schema

namespace Migration

def indexes : List Attachment := [
  ⟨"idx-accounts-owner_id", "accounts"⟩,
  ⟨"idx-tags-name_norm-tag_type-unique", "tags"⟩,
  ⟨"idx-transactions-account_id-date", "transactions"⟩]

def init : Migration where
  name := "m20260301_000000_init"
  up s := indexes.foldl Schema.createIndex ((Table.all.map Table.name).foldl Schema.createTable s)
  down s := (Table.all.map Table.name).reverse.foldl Schema.dropTable s

def guards : Migration where
  name := "m20260301_000001_foreign_key_guards"
  up := Schema.createGuards ForeignKey.all
  down := Schema.dropGuards ForeignKey.all

def all : List Migration := [init, guards]

def journal : String := "seaql_migrations"

end Migration

namespace Schema

def pending (s : Schema) : List Migration :=
  Migration.all.filter fun m => !s.applied.contains m.name

def inEffect (s : Schema) : List Migration :=
  Migration.all.filter fun m => s.applied.contains m.name

def applyOne (s : Schema) (m : Migration) : Schema :=
  let s := m.up s
  { s with applied := s.applied ++ [m.name] }

def undoOne (s : Schema) (m : Migration) : Schema :=
  let s := m.down s
  { s with applied := s.applied.filter (· != m.name) }

def upTo (count : Option Nat) (ms : List Migration) : List Migration :=
  match count with
  | none => ms
  | some n => ms.take n

def up (count : Option Nat) (s : Schema) : Schema :=
  let s := s.createTable Migration.journal
  (upTo count s.pending).foldl applyOne s

def down (count : Option Nat) (s : Schema) : Schema :=
  let s := s.createTable Migration.journal
  (upTo count s.inEffect.reverse).foldl undoOne s

def rebuild : Schema := up none empty

def refresh (s : Schema) : Schema := (s.down none).up none

end Schema

end Bookkeeping

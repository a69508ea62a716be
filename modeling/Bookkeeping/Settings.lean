import Bookkeeping.Text.Lowercase
import Bookkeeping.Text.Pieces
import Bookkeeping.Text.Quoted
import Bookkeeping.Toml.Reader

namespace Bookkeeping

inductive Database
  | memory
  | sqlite (path : String)
  deriving DecidableEq, Repr

namespace Database

def describe : Database → String
  | .memory => "Memory"
  | .sqlite path => s!"Sqlite({Text.quoted path})"

def url : Database → String
  | .memory => "sqlite::memory:"
  | .sqlite path => s!"sqlite:{path}?mode=rwc"

end Database

structure Settings where
  level : String
  database : Database
  deriving DecidableEq, Repr

inductive SettingsError
  | malformed
  | missingPath
  deriving DecidableEq, Repr

namespace Settings

open Toml

def standard : Settings := ⟨"info", .sqlite "./household.db"⟩

def fieldsOf : Toml → List (String × Toml)
  | .table _ fields => fields
  | _ => []

def put (name : String) (value : Toml) (fields : List (String × Toml)) : List (String × Toml) :=
  if (fields.lookup name).isSome then replaceField name value fields else fields ++ [(name, value)]

mutual

/-- Tables are merged, field by field; of all else the new value counts. -/
def merge (old : Toml) : Toml → Toml
  | .table origin fields => .table origin (mergeFields (fieldsOf old) fields)
  | new => new

def mergeFields (old : List (String × Toml)) : List (String × Toml) → List (String × Toml)
  | [] => old
  | (name, value) :: rest =>
    mergeFields (put name (merge ((old.lookup name).getD emptyDocument) value) old) rest

end

/-- Merges a value in at a path; what is no table on the way gives way to one. -/
def place (value : Toml) : List String → Toml → Toml
  | [], old => merge old value
  | name :: path, old =>
    let fields := fieldsOf old
    .table .header (put name (place value path ((fields.lookup name).getD emptyDocument)) fields)

def pathOf (key : String) : List String :=
  let parts := Text.splitOn '.' key.toList
  if parts.all fun part => !part.isEmpty && part.all isBare then parts.map String.ofList else [key]

def doubleUnderscoreToPoint : List Char → List Char
  | '_' :: '_' :: cs => '.' :: doubleUnderscoreToPoint cs
  | c :: cs => c :: doubleUnderscoreToPoint cs
  | [] => []

def variableNames : List String := [
  "HOUSEHOLD__APP", "HOUSEHOLD__APP__LEVEL", "HOUSEHOLD__DATABASE",
  "HOUSEHOLD__DATABASE__MEMORY", "HOUSEHOLD__DATABASE__SQLITE"]

def variablePrefix : List Char := "household__".toList

def variableKey? (name : String) : Option String :=
  let cs := (Text.lowercase name).toList
  if variablePrefix.isPrefixOf cs then
    some (String.ofList (doubleUnderscoreToPoint (cs.drop variablePrefix.length)))
  else none

def gather (file : Toml) (environment : List (String × String)) : Toml :=
  let fromFile := (fieldsOf file).foldl (fun t (key, value) => place value (pathOf key) t)
    emptyDocument
  environment.foldl (fun t (name, value) =>
    match variableKey? name with
    | some key => place (.text value) (pathOf key) t
    | none => t) fromFile

def text? : Toml → Option String
  | .text s => some s
  | .int n => some (toString n)
  | .fraction shown => some shown
  | .flag true => some "true"
  | .flag false => some "false"
  | .date shown => some shown
  | _ => none

def readLevel : Option Toml → Except SettingsError String
  | none => .ok standard.level
  | some app =>
    match ((fieldsOf app).lookup "level").bind text? with
    | some level => .ok level
    | none => .error .malformed

def readDatabase : Option Toml → Except SettingsError Database
  | none => .ok standard.database
  | some (.text "memory") => .ok .memory
  | some (.text "sqlite") => .error .missingPath
  | some (.table _ [("memory", _)]) => .ok .memory
  | some (.table _ [("sqlite", path)]) =>
    match text? path with
    | some path => .ok (.sqlite path)
    | none => .error .malformed
  | some _ => .error .malformed

def read (file : Option String) (environment : List (String × String)) :
    Except SettingsError Settings :=
  match file.elim (some emptyDocument) Toml.parse? with
  | none => .error .malformed
  | some file => do
    let fields := fieldsOf (gather file environment)
    .ok ⟨← readLevel (fields.lookup "app"), ← readDatabase (fields.lookup "database")⟩

end Settings

end Bookkeeping

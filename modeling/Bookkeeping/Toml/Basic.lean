namespace Bookkeeping

namespace Toml

inductive Origin
  | closed
  | header
  | implied
  | dotted
  deriving DecidableEq, Repr

end Toml

inductive Toml
  | text (s : String)
  | int (n : Int)
  | fraction (shown : String)
  | flag (b : Bool)
  | date (shown : String)
  | list (items : List Toml)
  | table (origin : Toml.Origin) (fields : List (String × Toml))
  | tables (items : List Toml)
  deriving Repr

namespace Toml

instance : Inhabited Toml := ⟨.table .header []⟩

def emptyDocument : Toml := .table .header []

def replaceField (name : String) (value : Toml) (fields : List (String × Toml)) :
    List (String × Toml) :=
  fields.map fun f => if f.1 == name then (name, value) else f

/-- Changes the table at the end of a path. A table missing on the way is made; a table that does
not let the path pass ends it. -/
def reach (made : Origin) (passes : Origin → Bool) (change : Toml → Option Toml) :
    List String → Toml → Option Toml
  | [], t => change t
  | name :: path, .table origin fields =>
    match fields.lookup name with
    | none => do
      let child ← reach made passes change path (.table made [])
      some (.table origin (fields ++ [(name, child)]))
    | some (.table o fs) =>
      if passes o then do
        let child ← reach made passes change path (.table o fs)
        some (.table origin (replaceField name child fields))
      else none
    | some (.tables ts) =>
      match ts.getLast? with
      | none => none
      | some last => do
        let child ← reach made passes change path last
        some (.table origin (replaceField name (.tables (ts.dropLast ++ [child])) fields))
    | some _ => none
  | _ :: _, _ => none

def setNew (name : String) (value : Toml) : Toml → Option Toml
  | .table origin fields =>
    if (fields.lookup name).isSome then none else some (.table origin (fields ++ [(name, value)]))
  | _ => none

def setKey (key : List String) (value : Toml) (t : Toml) : Option Toml :=
  match key.getLast? with
  | none => none
  | some name =>
    reach .dotted (fun o => o == .implied || o == .dotted) (setNew name value) key.dropLast t

def setUnder (header key : List String) (value : Toml) (document : Toml) : Option Toml :=
  reach .implied (· != .closed) (setKey key value) header document

def defineTable (name : String) : Toml → Option Toml
  | .table origin fields =>
    match fields.lookup name with
    | none => some (.table origin (fields ++ [(name, .table .header [])]))
    | some (.table .implied fs) =>
      some (.table origin (replaceField name (.table .header fs) fields))
    | some _ => none
  | _ => none

def defineEntry (name : String) : Toml → Option Toml
  | .table origin fields =>
    match fields.lookup name with
    | none => some (.table origin (fields ++ [(name, .tables [.table .header []])]))
    | some (.tables ts) =>
      some (.table origin (replaceField name (.tables (ts ++ [.table .header []])) fields))
    | some _ => none
  | _ => none

def openHeader (repeated : Bool) (header : List String) (document : Toml) : Option Toml :=
  match header.getLast? with
  | none => none
  | some name =>
    reach .implied (· != .closed) (if repeated then defineEntry name else defineTable name)
      header.dropLast document

end Toml

end Bookkeeping

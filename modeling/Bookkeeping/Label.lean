import Bookkeeping.Error.Domain
import Bookkeeping.Instant.Basic
import Bookkeeping.Kind
import Bookkeeping.Text.Key
import Bookkeeping.Uuid

namespace Bookkeeping

structure Look where
  description : Option String
  color : Option String
  backgroundColor : Option String
  deriving DecidableEq, Repr

structure Changes where
  name : Option String
  look : Look
  deriving DecidableEq, Repr

namespace Look

def tidy (l : Look) : Look where
  description := Text.tidyOption l.description
  color := Text.tidyOption l.color
  backgroundColor := Text.tidyOption l.backgroundColor

def editField (old change : Option String) : Option String :=
  match change with
  | none => old
  | some text => Text.tidy? text

def edit (l changes : Look) : Look where
  description := editField l.description changes.description
  color := editField l.color changes.color
  backgroundColor := editField l.backgroundColor changes.backgroundColor

end Look

structure Category where
  id : Uuid
  name : String
  look : Look
  kind : CategoryKind
  active : Bool
  createdAt : Instant
  updatedAt : Instant
  deriving DecidableEq, Repr

structure NewCategory where
  name : String
  kind : CategoryKind
  look : Look
  deriving DecidableEq, Repr

namespace Category

def new (cmd : NewCategory) (id : Uuid) (now : Instant) : Except DomainError Category :=
  match Text.tidy? cmd.name with
  | none => .error .categoryNameEmpty
  | some name => .ok {
      id, name
      look := cmd.look.tidy
      kind := cmd.kind
      active := true
      createdAt := now
      updatedAt := now }

def apply (c : Category) (changes : Changes) (now : Instant) : Except DomainError Category := do
  let name ← match changes.name with
    | none => .ok c.name
    | some text => match Text.tidy? text with
      | none => .error .categoryNameEmpty
      | some name => .ok name
  .ok { c with name, look := c.look.edit changes.look, updatedAt := now }

def activate (c : Category) (now : Instant) : Except DomainError Category :=
  if c.active then .error .categoryAlreadyActive
  else .ok { c with active := true, updatedAt := now }

def deactivate (c : Category) (now : Instant) : Except DomainError Category :=
  if c.active then .ok { c with active := false, updatedAt := now }
  else .error .categoryAlreadyInactive

end Category

/-- A tag's name and the key it is compared by. -/
structure TagName where
  display : String
  key : String
  deriving DecidableEq, Repr

def TagName.parse (raw : String) : Except DomainError TagName :=
  match Text.tidy? raw with
  | none => .error .tagNameEmpty
  | some display => .ok ⟨display, Text.comparisonKey display⟩

structure Tag where
  id : Uuid
  name : TagName
  look : Look
  kind : TagKind
  createdAt : Instant
  updatedAt : Instant
  deriving DecidableEq, Repr

/-- The kind is still text here: it is checked together with the name. -/
structure NewTag where
  name : String
  kind : String
  look : Look
  deriving DecidableEq, Repr

namespace Tag

def new (cmd : NewTag) (id : Uuid) (now : Instant) : Except DomainError Tag := do
  let name ← TagName.parse cmd.name
  let kind ← TagKind.parse cmd.kind
  .ok { id, name, look := cmd.look.tidy, kind, createdAt := now, updatedAt := now }

def apply (t : Tag) (changes : Changes) (now : Instant) : Except DomainError Tag := do
  let name ← match changes.name with
    | none => .ok t.name
    | some text => TagName.parse text
  .ok { t with name, look := t.look.edit changes.look, updatedAt := now }

def ensureKind (t : Tag) (expected : TagKind) : Except DomainError Unit :=
  if t.kind = expected then .ok () else .error .tagTypeMismatch

end Tag

end Bookkeeping

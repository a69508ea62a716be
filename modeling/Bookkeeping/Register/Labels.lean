import Bookkeeping.Register.Basic

namespace Bookkeeping

namespace Categories

def create (c : Category) : Work Unit := Register.enter .categories c.row

def get (id : Uuid) : Work Category :=
  Register.look (fun b => b.categories.find? (·.id == id.text)) Category.ofRow

def save (c : Category) : Work Unit :=
  Register.replace .categories (Register.bodyColumns .categories) (·.id == c.id.text) c.row

def delete (id : Uuid) : Work Unit := Register.strike .categories (·.id == id.text)

def list : Work (List Category) :=
  Register.list (·.categories.mergeSort (Register.byText (·.name))) Category.ofRow

def listByKind (kind : CategoryKind) : Work (List Category) :=
  Register.list
    (fun b => (b.categories.filter (·.kind == kind.code)).mergeSort (Register.byText (·.name)))
    Category.ofRow

end Categories

namespace Tags

/-- A tag is told from another of its kind by its key alone. -/
def duplicateAsExisting (work : Work α) : Work α :=
  work.mapError (·.reclassify .duplicateKey .tagAlreadyExists)

def create (t : Tag) : Work Unit := duplicateAsExisting (Register.enter .tags t.row)

def get (id : Uuid) : Work Tag :=
  Register.look (fun b => b.tags.find? (·.id == id.text)) Tag.ofRow

def save (t : Tag) : Work Unit :=
  duplicateAsExisting
    (Register.replace .tags (Register.bodyColumns .tags) (·.id == t.id.text) t.row)

def delete (id : Uuid) : Work Unit := Register.strike .tags (·.id == id.text)

def listByKind (kind : TagKind) : Work (List Tag) :=
  Register.list
    (fun b => (b.tags.filter (·.kind == kind.code)).mergeSort (Register.byText (·.key)))
    Tag.ofRow

def distinct (ids : List Uuid) : List Uuid := (ids.mergeSort Uuid.le).eraseReps

/-- Attaches tags to a record. Only expenditures and ingresses carry tags. -/
def link (kind : TagKind) (target : Uuid) (tags : List Uuid) : Work Unit :=
  let tags := distinct tags
  if tags.isEmpty then pure ()
  else match kind with
    | .expenditure =>
      Work.write (·.insert .expenditureTags (tags.map fun tag =>
        Table.record .expenditureTags ⟨target.text, tag.text⟩))
    | .ingress =>
      Work.write (·.insert .ingressTags (tags.map fun tag =>
        Table.record .ingressTags ⟨target.text, tag.text⟩))
    | _ => Work.failDomain .tagTypeMismatch

def attached (links : List LinkRow) (target : Uuid) (b : Books) : List TagRow :=
  (b.tags.filter fun tag => links.contains ⟨target.text, tag.id⟩).mergeSort
    (Register.byText (·.key))

def linkedTo (kind : TagKind) (target : Uuid) : Work (List Tag) :=
  match kind with
  | .expenditure => Register.list (fun b => attached b.expenditureTags target b) Tag.ofRow
  | .ingress => Register.list (fun b => attached b.ingressTags target b) Tag.ofRow
  | _ => pure []

end Tags

end Bookkeeping

import Bookkeeping.Register.Labels
import Bookkeeping.UseCase.Occasion

namespace Bookkeeping.UseCase

def findCategory (id : Uuid) : Work Category := (Categories.get id).notFoundAs .categoryNotFound

def createCategory (cmd : NewCategory) (o : Occasion) : Work Category := do
  let category ← Work.ofDomain (Category.new cmd o.id o.now)
  atomically do
    Categories.create category
    return category

def changeCategory (id : Uuid) (change : Category → Except DomainError Category) :
    Work Category :=
  atomically do
    let category ← Work.ofDomain (change (← findCategory id))
    Categories.save category
    return category

def updateCategory (id : Uuid) (changes : Changes) (o : Occasion) : Work Category :=
  changeCategory id (·.apply changes o.now)

def activateCategory (id : Uuid) (o : Occasion) : Work Category :=
  changeCategory id (·.activate o.now)

def deactivateCategory (id : Uuid) (o : Occasion) : Work Category :=
  changeCategory id (·.deactivate o.now)

def deleteCategory (id : Uuid) : Work Unit :=
  atomically ((Categories.delete id).notFoundAs .categoryNotFound)

def findTag (id : Uuid) : Work Tag := (Tags.get id).notFoundAs .tagNotFound

def createTag (cmd : NewTag) (o : Occasion) : Work Tag := do
  let tag ← Work.ofDomain (Tag.new cmd o.id o.now)
  atomically do
    Tags.create tag
    return tag

def updateTag (id : Uuid) (changes : Changes) (o : Occasion) : Work Tag :=
  atomically do
    let tag ← Work.ofDomain ((← findTag id).apply changes o.now)
    Tags.save tag
    return tag

def deleteTag (id : Uuid) : Work Unit :=
  atomically ((Tags.delete id).notFoundAs .tagNotFound)

/-- The tags with the given identifiers, in that order and each once. -/
def resolveTags (kind : TagKind) (ids : List Uuid) : Work (List Tag) :=
  ids.foldlM (fun tags id => do
    if tags.any (·.id == id) then return tags
    let tag ← findTag id
    Work.ofDomain (tag.ensureKind kind)
    return tags ++ [tag]) []

end Bookkeeping.UseCase

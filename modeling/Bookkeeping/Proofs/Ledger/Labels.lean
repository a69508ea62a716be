import Bookkeeping.Proofs.Ledger.Delete
import Bookkeeping.Proofs.Ledger.Register
import Bookkeeping.UseCase.Labels

namespace Bookkeeping

namespace Ledger

def findCategory (id : Uuid) : Query Category :=
  (Query.find categories (·.id) id).notFoundAs .categoryNotFound

def listCategories : Query (List Category) :=
  .ask (·.categories.mergeSort (Register.byText (·.name)))

def categoriesByKind (kind : CategoryKind) : Query (List Category) :=
  .ask fun L => (L.categories.filter (·.kind == kind)).mergeSort (Register.byText (·.name))

def createCategory (cmd : NewCategory) (o : Occasion) : Step Category := do
  let category ← Step.ask (.ofDomain (Category.new cmd o.id o.now))
  Step.edit (enterCategory category)
  return category

def changeCategory (id : Uuid) (change : Category → Except DomainError Category) :
    Step Category := do
  let category ← Step.ask (findCategory id)
  let category ← Step.ask (.ofDomain (change category))
  Step.edit (replaceCategory category)
  return category

def deleteCategory (id : Uuid) : Step Unit :=
  (Step.edit (strikeCategory id)).notFoundAs .categoryNotFound

def findTag (id : Uuid) : Query Tag := (Query.find tags (·.id) id).notFoundAs .tagNotFound

def tagsByKind (kind : TagKind) : Query (List Tag) :=
  .ask fun L => (L.tags.filter (·.kind == kind)).mergeSort (Register.byText (·.name.key))

def duplicateAsExisting (m : Step α) : Step α :=
  m.mapError (·.reclassify .duplicateKey .tagAlreadyExists)

def createTag (cmd : NewTag) (o : Occasion) : Step Tag := do
  let tag ← Step.ask (.ofDomain (Tag.new cmd o.id o.now))
  duplicateAsExisting (Step.edit (enterTag tag))
  return tag

def updateTag (id : Uuid) (changes : Changes) (o : Occasion) : Step Tag := do
  let tag ← Step.ask (findTag id)
  let tag ← Step.ask (.ofDomain (tag.apply changes o.now))
  duplicateAsExisting (Step.edit (replaceTag tag))
  return tag

def deleteTag (id : Uuid) : Step Unit := (Step.edit (strikeTag id)).notFoundAs .tagNotFound

def resolveTags (kind : TagKind) (ids : List Uuid) : Query (List Tag) :=
  ids.foldlM (fun tags id => do
    if tags.any (·.id == id) then return tags
    let tag ← findTag id
    Query.ofDomain (tag.ensureKind kind)
    return tags ++ [tag]) []

def linkTags (enter : Link → Edit) (target : Uuid) (tags : List Uuid) : Step Unit :=
  Step.edit fun L => (Tags.distinct tags).foldlM (fun L tag => enter ⟨target, tag⟩ L) L

def attached (links : Ledger → List Link) (target : Uuid) : Query (List Tag) :=
  .ask fun L => (L.tags.filter fun tag => (links L).contains ⟨target, tag.id⟩).mergeSort
    (Register.byText (·.name.key))

end Ledger

open Ledger (Query Step Enforced)

theorem filter_rows {f : α → ρ} {p : ρ → Bool} {q : α → Bool} (h : ∀ a, p (f a) = q a)
    (as : List α) : (as.map f).filter p = (as.filter q).map f := by
  rw [List.filter_map]
  congr 2
  funext a
  exact h a

theorem answers_findCategory (id : Uuid) :
    Answers (UseCase.findCategory id) (Ledger.findCategory id) :=
  (Answers.look Books.categories CategoryRow.id Category.ofRow_row (fun _ => rfl) (fun _ => rfl) id)
    |>.notFoundAs _

theorem answers_listCategories : Answers Categories.list Ledger.listCategories :=
  .list Category.ofRow_row fun L _ => sorted_rows (fun _ => rfl) L.categories

theorem CategoryKind.code_beq (k l : CategoryKind) : (k.code == l.code) = (k == l) := by
  cases k <;> cases l <;> decide

theorem TagKind.code_beq (k l : TagKind) : (k.code == l.code) = (k == l) := by
  cases k <;> cases l <;> decide

theorem answers_categoriesByKind (kind : CategoryKind) :
    Answers (Categories.listByKind kind) (Ledger.categoriesByKind kind) := by
  refine .list Category.ofRow_row fun L _ => ?_
  have hkind := filter_rows (f := Category.row) (p := (·.kind == kind.code)) (q := (·.kind == kind))
    (fun c => CategoryKind.code_beq c.kind kind) L.categories
  rw [Ledger.books, hkind]
  exact sorted_rows (fun _ => rfl) _

theorem answers_findTag (id : Uuid) : Answers (UseCase.findTag id) (Ledger.findTag id) :=
  (Answers.look Books.tags TagRow.id Tag.ofRow_row (fun _ => rfl) (fun _ => rfl) id)
    |>.notFoundAs _

theorem answers_tagsByKind (kind : TagKind) :
    Answers (Tags.listByKind kind) (Ledger.tagsByKind kind) := by
  refine .list Tag.ofRow_row fun L _ => ?_
  have hkind := filter_rows (f := Tag.row) (p := (·.kind == kind.code)) (q := (·.kind == kind))
    (fun t => TagKind.code_beq t.kind kind) L.tags
  rw [Ledger.books, hkind]
  exact sorted_rows (fun _ => rfl) _

theorem answers_resolveTags (kind : TagKind) (ids : List Uuid) :
    Answers (UseCase.resolveTags kind ids) (Ledger.resolveTags kind ids) :=
  .foldlM (fun tags id => .ite (.pure tags) <| (answers_findTag id).bind fun tag =>
    (Answers.ofDomain (tag.ensureKind kind)).bind fun _ => .pure _) ids []

theorem contains_row (ls : List Link) (target tag : Uuid) :
    (ls.map Link.row).contains ⟨target.text, tag.text⟩ = ls.contains ⟨target, tag⟩ := by
  rw [Bool.eq_iff_iff]
  simp only [List.contains_iff_mem, List.mem_map, Link.row, LinkRow.mk.injEq, Uuid.text_inj]
  constructor
  · rintro ⟨l, hl, rfl, rfl⟩
    exact hl
  · intro h
    exact ⟨_, h, rfl, rfl⟩

theorem answers_attached {rows : Books → List LinkRow} (links : Ledger → List Link)
    (h : ∀ L : Ledger, rows L.books = (links L).map Link.row) (target : Uuid) :
    Answers (Register.list (fun b => Tags.attached (rows b) target b) Tag.ofRow)
      (Ledger.attached links target) := by
  refine .list Tag.ofRow_row fun L _ => ?_
  have hlinked := filter_rows (f := Tag.row)
    (p := fun row => (rows L.books).contains ⟨target.text, row.id⟩)
    (q := fun tag => (links L).contains ⟨target, tag.id⟩)
    (fun tag => (h L).symm ▸ contains_row (links L) target tag.id) L.tags
  rw [Tags.attached, show L.books.tags = L.tags.map Tag.row from rfl, hlinked]
  exact sorted_rows (fun _ => rfl) _

theorem simulates_linkTags {t : Table} {f : Link → t.Row} {enter : Link → Ledger.Edit}
    (h : ∀ l {L : Ledger}, L.Sound →
      Enforced (Enforcement.guarded.insertRow t L.books (t.record (f l))) (enter l L))
    (target : Uuid) (tags : List Uuid) :
    Simulates
      (if (Tags.distinct tags).isEmpty then pure ()
        else Work.write (·.insert t ((Tags.distinct tags).map fun tag =>
          t.record (f ⟨target, tag⟩))))
      (Ledger.linkTags enter target tags) := by
  by_cases hempty : (Tags.distinct tags).isEmpty = true
  · rw [if_pos hempty, Ledger.linkTags, List.isEmpty_iff.1 hempty]
    exact .pure ()
  · rw [if_neg hempty]
    exact (Settles.write fun L hs =>
      Enforced.insert (Tags.distinct tags) (fun tag => h ⟨target, tag⟩) hs).simulates

theorem simulates_linkExpenditure (target : Uuid) (tags : List Uuid) :
    Simulates (Tags.link .expenditure target tags)
      (Ledger.linkTags Ledger.enterExpenditureTag target tags) :=
  simulates_linkTags (t := .expenditureTags) (f := Link.row)
    (fun l _ hs => Ledger.enforced_enterExpenditureTag hs l) target tags

theorem simulates_linkIngress (target : Uuid) (tags : List Uuid) :
    Simulates (Tags.link .ingress target tags)
      (Ledger.linkTags Ledger.enterIngressTag target tags) :=
  simulates_linkTags (t := .ingressTags) (f := Link.row)
    (fun l _ hs => Ledger.enforced_enterIngressTag hs l) target tags

theorem simulates_saveCategory (c : Category) :
    Simulates (Categories.save c) (Step.edit (Ledger.replaceCategory c)) :=
  simulates_replace Ledger.categories (fun _ => rfl) (fun _ => rfl)
    (fun _ hs hc => Ledger.enforced_replaceCategory hs hc) fun _ hc => if_neg hc

theorem simulates_createTag (t : Tag) :
    Simulates (Tags.create t) (Ledger.duplicateAsExisting (Step.edit (Ledger.enterTag t))) :=
  (simulates_enter fun _ hs => Ledger.enforced_enterTag hs t).mapError _

theorem simulates_saveTag (t : Tag) :
    Simulates (Tags.save t) (Ledger.duplicateAsExisting (Step.edit (Ledger.replaceTag t))) :=
  (simulates_replace Ledger.tags (fun _ => rfl) (fun _ => rfl)
    (fun _ hs ht => Ledger.enforced_replaceTag hs ht) fun _ ht => if_pos ht).mapError _

theorem performs_createCategory (cmd : NewCategory) (o : Occasion) :
    Performs (UseCase.createCategory cmd o) (Ledger.createCategory cmd o) :=
  .after (.ofDomain _) fun c => .atomically <|
    (simulates_enter fun _ hs => Ledger.enforced_enterCategory hs c).bind fun _ => .pure c

theorem performs_changeCategory (id : Uuid) (change : Category → Except DomainError Category) :
    Performs (UseCase.changeCategory id change) (Ledger.changeCategory id change) :=
  .atomically <| (answers_findCategory id).simulates.bind fun c =>
    (Answers.ofDomain (change c)).simulates.bind fun c =>
      (simulates_saveCategory c).bind fun _ => .pure c

theorem performs_deleteCategory (id : Uuid) :
    Performs (UseCase.deleteCategory id) (Ledger.deleteCategory id) :=
  .atomically <| (simulates_strike Ledger.categories (fun _ => rfl) (fun _ => rfl)
    (fun _ hs hc => Ledger.enforced_strikeCategory hs hc) fun _ hc => if_pos hc).notFoundAs _

theorem performs_createTag (cmd : NewTag) (o : Occasion) :
    Performs (UseCase.createTag cmd o) (Ledger.createTag cmd o) :=
  .after (.ofDomain _) fun t => .atomically <| (simulates_createTag t).bind fun _ => .pure t

theorem performs_updateTag (id : Uuid) (changes : Changes) (o : Occasion) :
    Performs (UseCase.updateTag id changes o) (Ledger.updateTag id changes o) :=
  .atomically <| (answers_findTag id).simulates.bind fun t =>
    (Answers.ofDomain (t.apply changes o.now)).simulates.bind fun t =>
      (simulates_saveTag t).bind fun _ => .pure t

theorem performs_deleteTag (id : Uuid) :
    Performs (UseCase.deleteTag id) (Ledger.deleteTag id) :=
  .atomically <| (simulates_strike Ledger.tags (fun _ => rfl) (fun _ => rfl)
    (fun _ hs ht => Ledger.enforced_strikeTag hs ht) fun _ ht => if_pos ht).notFoundAs _

end Bookkeeping

import Bookkeeping.Proofs.Guards.Register
import Bookkeeping.Proofs.Ledger.Accounts
import Bookkeeping.Proofs.UnitOfWork.Calls

namespace Bookkeeping

open Enforcement

namespace Tags

def links (kind : TagKind) (target : Uuid) (tags : List Uuid) : List Table.Entry :=
  match kind with
  | .expenditure => tags.map fun tag => ⟨.expenditureTags, ⟨target.text, tag.text⟩⟩
  | .ingress => tags.map fun tag => ⟨.ingressTags, ⟨target.text, tag.text⟩⟩
  | _ => []

def Repeats (b : Books) (links : List Table.Entry) : Prop :=
  ∃ e ∈ links, e.2 ∈ b.rows e.1 ∧ ∀ k, ¬b.Orphans e.1 e.2 k

section Link

variable {t : Table} {column : String}

theorem mem_of_clash (hkey : t.uniqueKeys = [⟨[column, "tag_id"], true⟩])
    (hends : ∀ r o : t.Row, t.text? r column = t.text? o column →
      t.text? r "tag_id" = t.text? o "tag_id" → r = o)
    {row : t.Row} {others : List t.Row} {f : StorageFailure} (h : t.clash? row others = some f) :
    row ∈ others := by
  obtain ⟨k, hfind, -⟩ := Option.map_eq_some_iff.1 h
  have hk := List.mem_of_find?_eq_some hfind
  have hany := List.find?_some hfind
  rw [hkey, List.mem_singleton] at hk
  obtain ⟨o, ho, hshared⟩ := List.any_eq_true.1 hany
  have hcolumns := List.all_eq_true.1 hshared
  have hagree (c : String) (hc : c ∈ k.columns) : t.text? row c = t.text? o c :=
    eq_of_beq (Bool.and_eq_true_iff.1 (hcolumns c hc)).2
  subst hk
  have heq : row = o := hends row o (hagree column (by simp)) (hagree "tag_id" (by simp))
  exact heq ▸ ho

variable {s : Store} (hr : s.Ready) (hi : s.books.Intact)

include hr hi

theorem heeds_write {tags : List Uuid} {link : Uuid → t.Row} (hlink : Function.Injective link)
    (hkey : t.uniqueKeys = [⟨[column, "tag_id"], true⟩])
    (hends : ∀ r o : t.Row, t.text? r column = t.text? o column →
      t.text? r "tag_id" = t.text? o "tag_id" → r = o) :
    Heeds (s.books.Broken (tags.map fun tag => ⟨t, link tag⟩) [])
      (Repeats s.books (tags.map fun tag => ⟨t, link tag⟩)) s
      (Work.write (·.insert t ((distinct tags).map fun tag => t.record (link tag))) s) := by
  have hmem (e : Table.Entry) : e ∈ ((distinct tags).map link).map (⟨t, ·⟩ : t.Row → Table.Entry) ↔
      e ∈ tags.map fun tag => (⟨t, link tag⟩ : Table.Entry) := by
    simp [mem_distinct]
  have hrecords : ((distinct tags).map fun tag => t.record (link tag)) =
      ((distinct tags).map link).map t.record := List.map_map.symm
  have hins := inserted hi t ((distinct tags).map link)
  rw [← hrecords] at hins
  refine (Heeds.write hr (hins.judged fun {before after row f} hrows hfree hc => .inl ?_)
    (List.forall_mem_nil _)).congr fun k side => ?_
  · have hrow : row ∈ (distinct tags).map link := hrows ▸ List.mem_append_right _ List.mem_cons_self
    have hnodup : (before ++ row :: after).Nodup := hrows ▸ (nodup_distinct tags).map hlink
    refine ⟨⟨t, row⟩, (hmem _).1 (List.mem_map_of_mem hrow), ?_, hfree⟩
    -- no link is asked for twice, so a clash can only be with a stored one
    refine (List.mem_append.1 (mem_of_clash hkey hends hc)).resolve_right fun hbefore => ?_
    exact (List.nodup_append.1 hnodup).2.2 row hbefore row List.mem_cons_self rfl
  · constructor
    · rintro (⟨he, h⟩ | ⟨he, h⟩)
      · exact .orphaned ((hmem _).1 he) h
      · exact .restrained he h
    · rintro (⟨he, h⟩ | ⟨he, h⟩)
      · exact .orphaned ((hmem _).2 he) h
      · exact .restrained he h

omit hr hi in
theorem heeds_unless_empty {tags : List Uuid} {entries : List Table.Entry} {w : Work Unit}
    (hnil : tags = [] → entries = [])
    (h : Heeds (s.books.Broken entries []) (Repeats s.books entries) s (w s)) :
    Heeds (s.books.Broken entries []) (Repeats s.books entries) s
      ((if (distinct tags).isEmpty then pure () else w) s) := by
  by_cases hempty : (distinct tags).isEmpty = true
  · have hnone : tags = [] := List.eq_nil_iff_forall_not_mem.2 fun tag ht => by
      have hd := mem_distinct.2 ht
      rw [List.isEmpty_iff.1 hempty] at hd
      exact List.not_mem_nil hd
    rw [if_pos hempty, hnil hnone]
    exact .ok s.books.not_broken_nil () s
  · rwa [if_neg hempty]

theorem heeds_link (kind : TagKind) (target : Uuid) (tags : List Uuid) :
    Heeds (s.books.Broken (links kind target tags) [])
      (Repeats s.books (links kind target tags)) s (link kind target tags s) := by
  have hinj : Function.Injective fun tag : Uuid => (⟨target.text, tag.text⟩ : LinkRow) :=
    fun _ _ h => Uuid.text_injective (LinkRow.mk.inj h).2
  cases kind with
  | expenditure =>
    refine heeds_unless_empty (by rintro rfl; rfl) ?_
    exact heeds_write hr hi (t := .expenditureTags) hinj rfl fun r o ht htag =>
      congrArg₂ LinkRow.mk (Option.some.inj ht) (Option.some.inj htag)
  | ingress =>
    refine heeds_unless_empty (by rintro rfl; rfl) ?_
    exact heeds_write hr hi (t := .ingressTags) hinj rfl fun r o ht htag =>
      congrArg₂ LinkRow.mk (Option.some.inj ht) (Option.some.inj htag)
  | _ =>
    refine heeds_unless_empty (fun _ => rfl) ?_
    exact .failDomain s.books.not_broken_nil (by decide)

end Link

end Tags

namespace Call

def isCurrent (a : Account) (r : AccountRow) : Bool := r.id == a.id.text && r.version == a.version

def written (b : Books) : Call α → List Table.Entry
  | createMember m => [⟨.members, m.row⟩]
  | saveMember m => (b.members.filter (·.id == m.id.text)).map fun _ => ⟨.members, m.row⟩
  | createAccount a => [⟨.accounts, a.row⟩]
  | saveAccount a savedAt =>
    if a.version + 1 ≤ greatestWord then
      (b.accounts.filter (isCurrent a)).map fun old =>
        ⟨.accounts, { (a.saved savedAt).row with createdAt := old.createdAt }⟩
    else []
  | createCategory c => [⟨.categories, c.row⟩]
  | saveCategory c => (b.categories.filter (·.id == c.id.text)).map fun _ => ⟨.categories, c.row⟩
  | createTag t => [⟨.tags, t.row⟩]
  | saveTag t => (b.tags.filter (·.id == t.id.text)).map fun _ => ⟨.tags, t.row⟩
  | linkTags kind target tags => Tags.links kind target tags
  | createTransaction t => [⟨.transactions, t.row⟩]
  | createExpenditure e => [⟨.expenditures, e.row⟩]
  | createIngress i => [⟨.ingresses, i.row⟩]
  | _ => []

def deleted (b : Books) : Call α → List Table.Entry
  | deleteMember id => (b.members.filter (·.id == id.text)).map (⟨.members, ·⟩)
  | deleteAccount id => (b.accounts.filter (·.id == id.text)).map (⟨.accounts, ·⟩)
  | deleteCategory id => (b.categories.filter (·.id == id.text)).map (⟨.categories, ·⟩)
  | deleteTag id => (b.tags.filter (·.id == id.text)).map (⟨.tags, ·⟩)
  | _ => []

/-- The keys that a call breaks, and on which side. -/
def Breaks (c : Call α) (b : Books) : ForeignKey → ViolationSide → Prop :=
  b.Broken (c.written b) (c.deleted b)

def RepeatsLink (b : Books) : Call α → Prop
  | linkTags kind target tags => Tags.Repeats b (Tags.links kind target tags)
  | _ => False

section Save

variable {s : Store} (hr : s.Ready) (hi : s.books.Intact)

include hr hi

theorem heeds_save {t : Table} (hchild : t.childKeys = [])
    (hparent : ∀ k ∈ ForeignKey.all, k.parentTable = t.name → k.parentColumn = "id")
    {rowId : t.Row → String} (hid : ∀ row, t.text? row "id" = some (rowId row))
    (hnew : ∀ old row, rowId old = rowId row →
      Register.merged t (Register.bodyColumns t) row old = t.record row)
    (row : t.Row) (repeats : Prop) :
    Heeds (s.books.Broken
        (((s.books.rows t).filter (rowId · == rowId row)).map fun _ => ⟨t, row⟩) []) repeats s
      (Register.replace t (Register.bodyColumns t) (rowId · == rowId row) row s) := by
  refine .replace hr hi (fun _ => row) (by simp [hchild])
    (fun old h => hnew old row (eq_of_beq h)) (fun _ _ _ h => h) fun k hk hp old h => ?_
  rw [hparent k hk hp, hid, hid, eq_of_beq h]

theorem heeds_replaceAccount {chosen : AccountRow → Bool} {row : AccountRow}
    (hid : ∀ old, chosen old = true → old.id = row.id) (repeats : Prop) :
    Heeds (s.books.Broken ((s.books.accounts.filter chosen).map fun old =>
        ⟨.accounts, { row with createdAt := old.createdAt }⟩) []) repeats s
      (Register.replace .accounts Accounts.changeable chosen row s) := by
  have hkeys : ∀ k ∈ ForeignKey.all, k.childTable = Table.name .accounts →
      k = .accountsOwner ∨ k = .accountsCurrency := by decide
  have hparents : ∀ k ∈ ForeignKey.all, k.parentTable = Table.name .accounts →
      k.parentColumn = "id" := by decide
  refine .replace hr hi (t := .accounts) (fun old => { row with createdAt := old.createdAt })
    (by decide) (fun old h => Register.merged_accounts old row (hid old h)) (fun _ _ k h => ?_)
    fun k hk hp old h => ?_
  · refine ⟨h.mem, h.child, ?_⟩
    rcases hkeys k h.mem h.child with rfl | rfl <;> exact h.missing
  · rw [hparents k hk hp]
    exact congrArg some (hid old h).symm

theorem heeds_saveAccount (a : Account) (savedAt : Instant) :
    Heeds ((saveAccount a savedAt).Breaks s.books) ((saveAccount a savedAt).RepeatsLink s.books) s
      (Accounts.save a savedAt s) := by
  show Heeds (s.books.Broken (if a.version + 1 ≤ greatestWord then
    (s.books.accounts.filter (isCurrent a)).map fun old =>
      (⟨.accounts, { (a.saved savedAt).row with createdAt := old.createdAt }⟩ : Table.Entry)
    else []) []) False s _
  rw [Accounts.save, Accounts.nextVersion]
  by_cases hv : a.version + 1 ≤ greatestWord
  · rw [if_pos hv, if_pos hv,
      Work.bind_ok (rfl : Work.ofOverflow (.ok (a.version + 1)) s = (.ok (a.version + 1), s)),
      Work.bind_ok (Work.read_apply hr _)]
    split
    · have hid (old : AccountRow) (h : isCurrent a old = true) :
          old.id = (a.saved savedAt).row.id :=
        eq_of_beq (Bool.and_eq_true_iff.1 h).1
      exact .then_pure (heeds_replaceAccount hr hi hid False) _
    · rename_i hany
      have hnone : s.books.accounts.filter (isCurrent a) = [] := by simpa [isCurrent] using hany
      rw [hnone, Work.bind_ok (Work.read_apply hr _)]
      split
      · exact .failDomain s.books.not_broken_nil (by decide)
      · exact .failDomain s.books.not_broken_nil (by decide)
  · rw [if_neg hv, if_neg hv]
    exact .overflow s.books.not_broken_nil _ s

end Save

/-- On intact books a call fails for a key exactly if the rows that it is to write or to delete
break one, and it reports what the registry lists for such a key. -/
theorem heeds_keys (c : Call α) {s : Store} (hr : s.Ready) (hi : s.books.Intact) :
    Heeds (c.Breaks s.books) (c.RepeatsLink s.books) s (c.run s) := by
  -- calls that only read have no rows to break a key with
  have hnone := s.books.not_broken_nil
  cases c with rw [run]
  | createMember m => exact .enter hr hi (t := .members) m.row
  | getMember id => exact .look hr hnone _ Member.decodes
  | saveMember m =>
    exact heeds_save hr hi (t := .members) (by decide) (by decide) (fun _ => rfl)
      Register.merged_members
      m.row _
  | deleteMember id =>
    exact .strike hr (t := .members) (by decide) (judged_delete_members hi _ _)
  | listMembers => exact .list hr hnone _ Member.decodes
  | createAccount a => exact .enter hr hi (t := .accounts) a.row
  | getAccount id => exact .look hr hnone _ Account.decodes
  | saveAccount a savedAt => exact heeds_saveAccount hr hi a savedAt
  | deleteAccount id =>
    exact .strike hr (t := .accounts) (by decide) (judged_delete hi (by decide) _ _)
  | listAccounts => exact .list hr hnone _ Account.decodes
  | listAccountsOf owner => exact .list hr hnone _ Account.decodes
  | hasTransactions id =>
    rw [Accounts.hasTransactions, Work.read_apply hr]
    exact .ok hnone _ s
  | createCategory c => exact .enter hr hi (t := .categories) c.row
  | getCategory id => exact .look hr hnone _ Category.decodes
  | saveCategory c =>
    exact heeds_save hr hi (t := .categories) (by decide) (by decide) (fun _ => rfl)
      Register.merged_categories c.row _
  | deleteCategory id =>
    exact .strike hr (t := .categories) (by decide) (judged_delete hi (by decide) _ _)
  | listCategories => exact .list hr hnone _ Category.decodes
  | listCategoriesOf kind => exact .list hr hnone _ Category.decodes
  | createTag t =>
    have hfree : ∀ k side, ¬(createTag t).Breaks s.books k side :=
      Books.not_broken_of_childKeys_eq_nil (List.forall_mem_singleton.2 rfl)
    exact .duplicateAsExisting (.enter hr hi (t := .tags) t.row) hfree
  | getTag id => exact .look hr hnone _ Tag.decodes
  | saveTag t =>
    have hfree : ∀ k side, ¬(saveTag t).Breaks s.books k side :=
      Books.not_broken_of_childKeys_eq_nil (List.forall_mem_map.2 fun _ _ => rfl)
    exact .duplicateAsExisting (heeds_save hr hi (t := .tags) (by decide) (by decide)
      (fun _ => rfl) Register.merged_tags t.row _) hfree
  | deleteTag id =>
    exact .strike hr (t := .tags) (by decide) (judged_delete hi (by decide) _ _)
  | listTagsOf kind => exact .list hr hnone _ Tag.decodes
  | linkTags kind target tags => exact Tags.heeds_link hr hi kind target tags
  | linkedTags kind target =>
    cases kind with
    | expenditure => exact .list hr hnone _ Tag.decodes
    | ingress => exact .list hr hnone _ Tag.decodes
    | _ => exact .ok hnone [] s
  | createTransaction t => exact .enter hr hi (t := .transactions) t.row
  | getTransaction id => exact .look hr hnone _ Transaction.decodes
  | listTransactions account => exact .list hr hnone _ Transaction.decodes
  | createExpenditure e => exact .enter hr hi (t := .expenditures) e.row
  | getExpenditure id => exact .look hr hnone _ Expenditure.decodes
  | findExpenditures filter => exact .list hr hnone _ Expenditure.decodes
  | createIngress i => exact .enter hr hi (t := .ingresses) i.row
  | getIngress id => exact .look hr hnone _ Ingress.decodes
  | deferForeignKeys =>
    rw [Work.deferForeignKeys, Work.bind_ok (Work.connected_apply hr)]
    exact .ok hnone () _

theorem lone_expenditure_is_refused :
    let x : Expenditure := ⟨.ofNat 1, .ofNat 2, .ofNat 3, false, false, .ofSeconds 0, .ofSeconds 0⟩
    let c : Call Unit := .createExpenditure x
    Store.fresh.Ready ∧ Books.fresh.Intact ∧
      c.Breaks Books.fresh .expendituresCategory .parentMissing ∧
      c.Breaks Books.fresh .expendituresTransaction .parentMissing ∧
      ∃ e, c.run .fresh = (.error (.domain e), .fresh) ∧
        ∃ k side, c.Breaks Books.fresh k side ∧ KeyRule.Lists k side e := by
  intro x c
  have hintact : Books.fresh.Intact := by decide
  have hcategory : c.Breaks Books.fresh .expendituresCategory .parentMissing :=
    .orphaned List.mem_cons_self ⟨by decide, rfl, x.category.text, rfl, List.not_mem_nil⟩
  have htransaction : c.Breaks Books.fresh .expendituresTransaction .parentMissing :=
    .orphaned List.mem_cons_self ⟨by decide, rfl, x.transaction.text, rfl, List.not_mem_nil⟩
  obtain ⟨e, hrun, hlisted | ⟨-, hrepeats⟩⟩ :=
    (heeds_keys c Store.ready_fresh hintact).fails ⟨_, _, hcategory⟩
  · exact ⟨Store.ready_fresh, hintact, hcategory, htransaction, e, hrun, hlisted⟩
  · exact hrepeats.elim

end Call

end Bookkeeping

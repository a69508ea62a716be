import Bookkeeping.Proofs.Ledger.Insert

namespace Bookkeeping

open Keyed

namespace Enforcement

variable {b : Books} {t : Table} {r : Record}

theorem guardParent_guarded (b : Books) (t : Table) (r : Record) :
    guarded.guardParent b t r = match t.parentKeys.find? (b.stillReferenced · r) with
      | some k => .error (.database (some 1811) k.parentMessage)
      | none => .ok () := by
  rw [guardParent, restricting?_reverse]
  cases hf : t.parentKeys.find? (b.stillReferenced · r) with
  | some k => rfl
  | none =>
    have hall : restricting? ForeignKey.all b t r = none := by
      rw [← restricting?_reverse] at hf
      simpa [restricting?, guarded] using hf
    simp [hall]

theorem release_of_restrict
    (h : ∀ k ∈ ForeignKey.all, k.parentTable = t.name → k.onDelete = .restrict) :
    release t r b = .ok b := by
  have hk : ∀ k ∈ ForeignKey.all.filter (·.parentTable == t.name), k.onDelete = .restrict := by
    intro k hk
    obtain ⟨hk, hp⟩ := List.mem_filter.1 hk
    exact h k hk (by simpa using hp)
  rw [release]
  generalize ForeignKey.all.filter (·.parentTable == t.name) = keys at hk
  induction keys with
  | nil => rfl
  | cons k keys ih =>
    have hone (value : String) : releaseBy k value b = .ok b := by
      rw [releaseBy, hk k List.mem_cons_self]
      cases Table.ofName? k.childTable <;> rfl
    rw [List.foldlM_cons]
    cases r.text? k.parentColumn with
    | none => exact ih fun k hmem => hk k (List.mem_cons_of_mem _ hmem)
    | some value =>
      simp only [hone]
      exact ih fun k hmem => hk k (List.mem_cons_of_mem _ hmem)

theorem mapM_ok {f : α → Except ε β} {g : α → β} (h : ∀ x, f x = .ok (g x)) (xs : List α) :
    xs.mapM f = .ok (xs.map g) := by
  induction xs with
  | nil => rfl
  | cons x xs ih =>
    rw [List.mapM_cons, h, ih]
    rfl

def disowned (id : String) (row : AccountRow) : AccountRow :=
  if row.owner = some id then { row with owner := none } else row

theorem record_disowned (id : String) (row : AccountRow) :
    (if Table.text? .accounts row "owner_id" = some id then
        Table.ofRecord .accounts ((Table.record .accounts row).assign [("owner_id", .null)])
      else .ok row) = .ok (disowned id row) := by
  rw [Ledger.text?_owner_id, disowned]
  split
  · have hrecord : (Table.record .accounts row).assign [("owner_id", .null)] =
        Table.record .accounts { row with owner := none } := rfl
    rw [hrecord]
    exact Table.ofRecord_record .accounts _
  · rfl

theorem release_members (b : Books) (m : MemberRow) :
    release .members (Table.record .members m) b =
      .ok (b.withRows .accounts (b.accounts.map (disowned m.id))) := by
  have hkeys : ForeignKey.all.filter (·.parentTable == Table.name .members) = [.accountsOwner] := by
    decide
  have hrows : b.accounts.mapM (fun row =>
      if Table.text? .accounts row "owner_id" = some m.id then
        Table.ofRecord .accounts ((Table.record .accounts row).assign [("owner_id", .null)])
      else .ok row) = .ok (b.accounts.map (disowned m.id)) := by
    exact mapM_ok (record_disowned m.id) b.accounts
  have hone : releaseBy .accountsOwner m.id b =
      .ok (b.withRows .accounts (b.accounts.map (disowned m.id))) := by
    rw [releaseBy, show Table.ofName? ForeignKey.accountsOwner.childTable = some .accounts from
      Table.ofName?_name .accounts]
    exact congrArg (Except.map (b.withRows .accounts)) hrows
  rw [release, hkeys, List.foldlM_cons]
  show (releaseBy .accountsOwner m.id b >>= pure) = _
  rw [hone]
  rfl

end Enforcement

open Enforcement

namespace Ledger

section Delete

variable {α : Type} {L L' : Ledger} {t : Table} {f : α → t.Row} {id : α → Uuid} {xs : List α}
  {x : α} {rowId : t.Row → String}

theorem filter_id (hn : (xs.map id).Nodup) (hx : x ∈ xs) (hrow : ∀ x, rowId (f x) = (id x).text) :
    (xs.map f).filter (rowId · == (id x).text) = [f x] := by
  obtain ⟨before, after, rfl, hbefore, hafter⟩ := split_of_mem hn hx
  rw [List.filter_map, ← List.map_singleton, ← filter_split hbefore hafter]
  simp [Function.comp_def, hrow]

theorem filter_not_id (hrow : ∀ x, rowId (f x) = (id x).text) (u : Uuid) :
    (xs.map f).filter (fun r => !(rowId r == u.text)) = (xs.filter (id · != u)).map f := by
  rw [List.filter_map]
  congr 1
  simp [Function.comp_def, hrow, bne]

structure Chosen (L : Ledger) (t : Table) (rowId : t.Row → String) (f : α → t.Row) (id : α → Uuid)
    (xs : List α) (x : α) : Prop where
  rows : L.books.rows t = xs.map f
  nodup : (xs.map id).Nodup
  mem : x ∈ xs
  rowId_row : ∀ x, rowId (f x) = (id x).text

theorem Chosen.delete_fails (h : L.Chosen t rowId f id xs x) {k : ForeignKey} {e : DomainError}
    (hk : t.parentKeys.find? (L.books.stillReferenced · (t.record (f x))) = some k)
    (he : (k.name, some e) ∈ KeyRule.registry.map fun r => (r.name, r.stillReferenced)) :
    Enforced (guarded.delete t (rowId · == (id x).text) L.books) (.error e) := by
  obtain ⟨r, hr, heq⟩ := List.mem_map.1 he
  obtain ⟨hkey, hm⟩ := Prod.ext_iff.1 heq
  refine ⟨.database (some 1811) k.parentMessage, ?_, Diagnosis.diagnose_parentMessage hr hkey hm⟩
  have hone := filter_id h.nodup h.mem h.rowId_row
  rw [← h.rows] at hone
  rw [delete_record guarded hone, guardParent_guarded, hk]

theorem Chosen.delete_ok (h : L.Chosen t rowId f id xs x) {b : Books}
    (hk : t.parentKeys.find? (L.books.stillReferenced · (t.record (f x))) = none)
    (hrelease : release t (t.record (f x)) L.books = .ok b) (hrows : b.rows t = xs.map f)
    (hs : L'.Sound) (hb : b.withRows t ((xs.filter (id · != id x)).map f) = L'.books) :
    Enforced (guarded.delete t (rowId · == (id x).text) L.books) (.ok L') := by
  refine ⟨hs, ?_⟩
  have hone := filter_id h.nodup h.mem h.rowId_row
  rw [← h.rows] at hone
  rw [delete_record guarded hone, guardParent_guarded, hk, hrelease]
  simp only [hrows, filter_not_id h.rowId_row, hb]
  exact settle_of_intact _ hs.intact

theorem stillReferenced_uuid {k : ForeignKey} {r : Record} {u : Uuid} {g : α → Uuid}
    (hr : r.text? k.parentColumn = some u.text)
    (hc : L.books.refersTo k = xs.map fun x => (g x).text) :
    L.books.stillReferenced k r = decide (u ∈ xs.map g) := by
  simp [Books.stillReferenced, hr, hc]

end Delete

variable {L : Ledger} (h : L.Sound)

include h

theorem enforced_strikeAccount {id : Uuid} (hid : id ∈ L.accountIds) :
    Enforced (guarded.delete .accounts (·.id == id.text) L.books) (L.strikeAccount id) := by
  obtain ⟨a, ha, rfl⟩ := List.mem_map.1 hid
  have hc : L.Chosen .accounts AccountRow.id Account.row (·.id) L.accounts a :=
    ⟨rfl, h.nodup_accounts, ha, fun _ => rfl⟩
  have hk : Table.parentKeys .accounts = [.transactionsAccount] := by decide
  have hused : L.books.stillReferenced .transactionsAccount (Table.record .accounts a.row)
      = decide (a.id ∈ L.transactions.map (·.account)) :=
    stillReferenced_uuid rfl (column_transactions_account L)
  rw [strikeAccount, if_neg (not_not_intro hid)]
  by_cases hu : a.id ∈ L.transactions.map (·.account)
  · rw [if_pos hu]
    refine hc.delete_fails (k := .transactionsAccount) ?_ (by decide)
    rw [hk, List.find?_cons_of_pos (by rw [hused, decide_eq_true hu])]
  · rw [if_neg hu]
    refine hc.delete_ok ?_ (release_of_restrict (by decide)) rfl (h.strikeAccount hu) rfl
    rw [hk, List.find?_cons_of_neg (by rw [hused, decide_eq_false hu]; decide), List.find?_nil]

theorem enforced_strikeTag {id : Uuid} (hid : id ∈ L.tagIds) :
    Enforced (guarded.delete .tags (·.id == id.text) L.books) (L.strikeTag id) := by
  obtain ⟨t, ht, rfl⟩ := List.mem_map.1 hid
  have hc : L.Chosen .tags TagRow.id Tag.row (·.id) L.tags t :=
    ⟨rfl, h.nodup_tags, ht, fun _ => rfl⟩
  have hk : Table.parentKeys .tags = [.ingressTagsTag, .expenditureTagsTag] := by decide
  have hi : L.books.stillReferenced .ingressTagsTag (Table.record .tags t.row)
      = decide (t.id ∈ L.ingressTags.map (·.tag)) :=
    stillReferenced_uuid rfl (column_ingressTags_tag L)
  have he : L.books.stillReferenced .expenditureTagsTag (Table.record .tags t.row)
      = decide (t.id ∈ L.expenditureTags.map (·.tag)) :=
    stillReferenced_uuid rfl (column_expenditureTags_tag L)
  have hfind : (Table.parentKeys .tags).find?
      (L.books.stillReferenced · (Table.record .tags t.row)) =
        if t.id ∈ L.ingressTags.map (·.tag) then some .ingressTagsTag
        else if t.id ∈ L.expenditureTags.map (·.tag) then some .expenditureTagsTag else none := by
    rw [hk, find?_pair, hi, he]
    simp only [decide_eq_true_eq]
  rw [strikeTag, if_neg (not_not_intro hid)]
  by_cases hui : t.id ∈ L.ingressTags.map (·.tag)
  · rw [if_pos hui] at hfind
    rw [if_pos (.inl hui)]
    exact hc.delete_fails hfind (by decide)
  rw [if_neg hui] at hfind
  by_cases hue : t.id ∈ L.expenditureTags.map (·.tag)
  · rw [if_pos hue] at hfind
    rw [if_pos (.inr hue)]
    exact hc.delete_fails hfind (by decide)
  · rw [if_neg hue] at hfind
    rw [if_neg (not_or.2 ⟨hui, hue⟩)]
    exact hc.delete_ok hfind (release_of_restrict (by decide)) rfl (h.strikeTag hui hue) rfl

theorem enforced_strikeCategory {id : Uuid} (hid : id ∈ L.categoryIds) :
    Enforced (guarded.delete .categories (·.id == id.text) L.books) (L.strikeCategory id) := by
  obtain ⟨c, hmem, rfl⟩ := List.mem_map.1 hid
  have hc : L.Chosen .categories CategoryRow.id Category.row (·.id) L.categories c :=
    ⟨rfl, h.nodup_categories, hmem, fun _ => rfl⟩
  have hk : Table.parentKeys .categories =
      [.savingsGoalsCategory, .transfersCategory, .ingressesCategory, .expendituresCategory] := by
    decide
  have hi : L.books.stillReferenced .ingressesCategory (Table.record .categories c.row)
      = decide (c.id ∈ L.ingresses.map (·.category)) :=
    stillReferenced_uuid rfl (column_ingresses_category L)
  have he : L.books.stillReferenced .expendituresCategory (Table.record .categories c.row)
      = decide (c.id ∈ L.expenditures.map (·.category)) :=
    stillReferenced_uuid rfl (column_expenditures_category L)
  have hfind : (Table.parentKeys .categories).find?
      (L.books.stillReferenced · (Table.record .categories c.row)) =
        if c.id ∈ L.ingresses.map (·.category) then some .ingressesCategory
        else if c.id ∈ L.expenditures.map (·.category) then some .expendituresCategory
        else none := by
    -- transfers and savings goals have no rows
    rw [hk, List.find?_cons_of_neg Bool.false_ne_true, List.find?_cons_of_neg Bool.false_ne_true,
      find?_pair, hi, he]
    simp only [decide_eq_true_eq]
  rw [strikeCategory, if_neg (not_not_intro hid)]
  by_cases hui : c.id ∈ L.ingresses.map (·.category)
  · rw [if_pos hui] at hfind ⊢
    exact hc.delete_fails hfind (by decide)
  rw [if_neg hui] at hfind ⊢
  by_cases hue : c.id ∈ L.expenditures.map (·.category)
  · rw [if_pos hue] at hfind ⊢
    exact hc.delete_fails hfind (by decide)
  · rw [if_neg hue] at hfind ⊢
    exact hc.delete_ok hfind (release_of_restrict (by decide)) rfl (h.strikeCategory hui hue) rfl

omit h in
theorem owner_row {id : Uuid} (a : Account) : a.row.owner = some id.text ↔ a.owner = some id := by
  simp [Account.row]

omit h in
theorem disowned_row (id : Uuid) (a : Account) : disowned id.text a.row = (a.release id).row := by
  rw [disowned, Account.release]
  by_cases ho : a.owner = some id
  · rw [if_pos ((owner_row a).2 ho), if_pos ho]
    rfl
  · rw [if_neg ((owner_row a).not.2 ho), if_neg ho]

omit h in
theorem release_rows (id : Uuid) (as : List Account) : (as.map (·.release id)).map Account.row =
    (as.map Account.row).map (disowned id.text) := by
  rw [List.map_map, List.map_map]
  exact List.map_congr_left fun a _ => (disowned_row id a).symm

omit h in
theorem release_member (L : Ledger) (m : Member) :
    release .members (Table.record .members m.row) L.books =
      .ok { L.books with accounts := (L.accounts.map (·.release m.id)).map Account.row } := by
  rw [release_rows]
  exact release_members L.books m.row

theorem enforced_strikeMember {id : Uuid} (hid : id ∈ L.memberIds) :
    Enforced (guarded.delete .members (·.id == id.text) L.books) (L.strikeMember id) := by
  obtain ⟨m, hm, rfl⟩ := List.mem_map.1 hid
  have hc : L.Chosen .members MemberRow.id Member.row (·.id) L.members m :=
    ⟨rfl, h.nodup_members, hm, fun _ => rfl⟩
  have hk : Table.parentKeys .members = [] := by decide
  rw [strikeMember, if_pos hid]
  exact hc.delete_ok (by rw [hk, List.find?_nil]) (release_member L m) rfl (h.strikeMember m.id) rfl

end Ledger

end Bookkeeping

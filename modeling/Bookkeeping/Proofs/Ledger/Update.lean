import Bookkeeping.Proofs.Ledger.Insert
import Bookkeeping.Register.Accounts

namespace Bookkeeping

open Enforcement Keyed

namespace Register

def merged (t : Table) (columns : List String) (row old : t.Row) : Record :=
  (t.record old).assign ((t.record row).filter fun (column, _) => columns.contains column)

theorem merged_members (old row : MemberRow) (h : old.id = row.id) :
    merged .members (bodyColumns .members) row old =
      Table.record .members row := by
  cases old
  cases row
  cases h
  rfl

theorem merged_categories (old row : CategoryRow) (h : old.id = row.id) :
    merged .categories (bodyColumns .categories) row old =
      Table.record .categories row := by
  cases old
  cases row
  cases h
  rfl

theorem merged_tags (old row : TagRow) (h : old.id = row.id) :
    merged .tags (bodyColumns .tags) row old = Table.record .tags row := by
  cases old
  cases row
  cases h
  rfl

theorem merged_accounts (old row : AccountRow) (h : old.id = row.id) :
    merged .accounts Accounts.changeable row old =
      Table.record .accounts { row with createdAt := old.createdAt } := by
  cases old
  cases row
  cases h
  rfl

end Register

namespace Ledger

section Update

variable {α : Type} {L L' : Ledger} {t : Table} {columns : List String} {chosen : t.Row → Bool}
  {change : t.Row → Record} {f : α → t.Row} {id : α → Uuid} {xs : List α} {old new : α}

structure Picks (L : Ledger) (t : Table) (chosen : t.Row → Bool) (change : t.Row → Record)
    (f : α → t.Row) (id : α → Uuid) (xs : List α) (old new : α) : Prop where
  rows : L.books.rows t = xs.map f
  nodup : (xs.map id).Nodup
  mem : old ∈ xs
  chosen_old : chosen (f old) = true
  id_of_chosen : ∀ x, chosen (f x) = true → id x = id old
  id_new : id new = id old
  change_old : change (f old) = t.record (f new)

theorem Picks.update (h : L.Picks t chosen change f id xs old new) (columns : List String) :
    ∃ before after, xs.filter (id · != id new) = before ++ after ∧
      replace id new xs = before ++ new :: after ∧
      guarded.update t columns chosen change L.books =
        match guarded.accept L.books t columns ((before ++ after).map f) (t.record (f new)) with
        | .error e => .error e
        | .ok row => guarded.settle (L.books.withRows t (before.map f ++ row :: after.map f)) := by
  obtain ⟨before, after, rfl, hbefore, hafter⟩ := split_of_mem h.nodup h.mem
  have hpass {x : α} (hx : id x ≠ id old) : chosen (f x) = false :=
    Bool.eq_false_iff.2 fun hc => hx (h.id_of_chosen x hc)
  have hrows : L.books.rows t = before.map f ++ f old :: after.map f := by simp [h.rows]
  refine ⟨before, after, ?_, replace_split h.id_new hbefore hafter, ?_⟩
  · rw [h.id_new]
    exact filter_ne_split hbefore hafter
  · rw [List.map_append]
    exact update_record guarded columns hrows
      (List.forall_mem_map.2 fun x hx => hpass (hbefore x hx)) h.chosen_old
      (List.forall_mem_map.2 fun x hx => hpass (hafter x hx)) h.change_old

theorem Picks.update_fails (h : L.Picks t chosen change f id xs old new) {e : DomainError}
    (hf : FailsWith (guarded.accept L.books t columns ((xs.filter (id · != id new)).map f)
      (t.record (f new))) e) :
    Enforced (guarded.update t columns chosen change L.books) (.error e) := by
  obtain ⟨before, after, hothers, -, hupdate⟩ := h.update columns
  rw [hothers] at hf
  obtain ⟨g, hg, he⟩ := hf
  refine ⟨g, ?_, he⟩
  rw [hupdate, hg]

theorem Picks.update_ok (h : L.Picks t chosen change f id xs old new)
    (hg : guarded.childGuard? L.books t columns (t.record (f new)) = none)
    (hc : t.clash? (f new) ((xs.filter (id · != id new)).map f) = none) (hs : L'.Sound)
    (hb : L.books.withRows t ((replace id new xs).map f) = L'.books) :
    Enforced (guarded.update t columns chosen change L.books) (.ok L') := by
  obtain ⟨before, after, hothers, hreplace, hupdate⟩ := h.update columns
  rw [hothers] at hc
  rw [hreplace, List.map_append, List.map_cons] at hb
  refine ⟨hs, ?_⟩
  rw [hupdate, accept_ok hg hc]
  simp only [hb]
  exact settle_of_intact _ hs.intact

theorem Picks.of_id {id : α → Uuid} {rowId : t.Row → String} (hrows : L.books.rows t = xs.map f)
    (hn : (xs.map id).Nodup) (hold : old ∈ xs) (hid : id old = id new)
    (hrow : ∀ x, rowId (f x) = (id x).text) (hchange : change (f old) = t.record (f new)) :
    L.Picks t (rowId · == (id new).text) change f id xs old new where
  rows := hrows
  nodup := hn
  mem := hold
  chosen_old := by simp [hrow, hid]
  id_of_chosen x hx := by simpa [hrow, hid] using hx
  id_new := hid.symm
  change_old := hchange

end Update

variable {L : Ledger} (h : L.Sound)

include h

theorem enforced_replaceMember {m : Member} (hm : m.id ∈ L.memberIds) :
    Enforced (guarded.update .members (Register.bodyColumns .members) (·.id == m.id.text)
      (Register.merged .members (Register.bodyColumns .members) m.row) L.books)
      (L.replaceMember m) := by
  obtain ⟨old, hold, hid⟩ := List.mem_map.1 hm
  have hp : L.Picks .members (·.id == m.id.text)
      (Register.merged .members (Register.bodyColumns .members) m.row) Member.row (·.id) L.members
      old m :=
    .of_id rfl h.nodup_members hold hid (fun _ => rfl)
      (Register.merged_members _ _ (congrArg Uuid.text hid))
  have hc : Table.clash? .members m.row ((L.members.filter (·.id != m.id)).map Member.row) = none ↔
      m.id ∉ (L.members.filter (·.id != m.id)).map (·.id) := Table.clash?_id rfl fun _ => rfl
  rw [replaceMember, if_pos hm]
  exact hp.update_ok (childGuard?_of_childKeys_eq_nil (by decide) _ _ _) (hc.2 (by simp))
    (h.replaceMember m) rfl

theorem enforced_replaceCategory {c : Category} (hc : c.id ∈ L.categoryIds) :
    Enforced (guarded.update .categories (Register.bodyColumns .categories) (·.id == c.id.text)
      (Register.merged .categories (Register.bodyColumns .categories) c.row) L.books)
      (L.replaceCategory c) := by
  obtain ⟨old, hold, hid⟩ := List.mem_map.1 hc
  have hp : L.Picks .categories (·.id == c.id.text)
      (Register.merged .categories (Register.bodyColumns .categories) c.row) Category.row (·.id)
      L.categories old c :=
    .of_id rfl h.nodup_categories hold hid (fun _ => rfl)
      (Register.merged_categories _ _ (congrArg Uuid.text hid))
  have hclash : Table.clash? .categories c.row
      ((L.categories.filter (·.id != c.id)).map Category.row) = none ↔
        c.id ∉ (L.categories.filter (·.id != c.id)).map (·.id) := Table.clash?_id rfl fun _ => rfl
  rw [replaceCategory, if_pos hc]
  exact hp.update_ok (childGuard?_of_childKeys_eq_nil (by decide) _ _ _) (hclash.2 (by simp))
    (h.replaceCategory c) rfl

theorem enforced_replaceTag {t : Tag} (ht : t.id ∈ L.tagIds) :
    Enforced (guarded.update .tags (Register.bodyColumns .tags) (·.id == t.id.text)
      (Register.merged .tags (Register.bodyColumns .tags) t.row) L.books) (L.replaceTag t) := by
  obtain ⟨old, hold, hid⟩ := List.mem_map.1 ht
  have hp : L.Picks .tags (·.id == t.id.text)
      (Register.merged .tags (Register.bodyColumns .tags) t.row) Tag.row (·.id) L.tags old t :=
    .of_id rfl h.nodup_tags hold hid (fun _ => rfl)
      (Register.merged_tags _ _ (congrArg Uuid.text hid))
  have hg : guarded.childGuard? L.books .tags (Register.bodyColumns .tags)
      (Table.record .tags t.row) = none := childGuard?_of_childKeys_eq_nil (by decide) _ _ _
  have hclash : Table.clash? .tags t.row ((L.tags.filter (·.id != t.id)).map Tag.row) = none ↔
      ¬∃ o ∈ L.tags, o.id ≠ t.id ∧ o.name.key = t.name.key ∧ o.kind = t.kind := by
    rw [Table.clash?_tag]
    simp
  rw [replaceTag, if_neg (not_not_intro ht)]
  by_cases hk : ∃ o ∈ L.tags, o.id ≠ t.id ∧ o.name.key = t.name.key ∧ o.kind = t.kind
  · rw [if_pos hk]
    exact hp.update_fails (accept_clash hg (hclash.not.2 (not_not_intro hk)))
  · rw [if_neg hk]
    exact hp.update_ok hg (hclash.2 hk) (h.replaceTag hk) rfl

theorem enforced_replaceAccount {old new : Account} (hold : old ∈ L.accounts)
    (hid : old.id = new.id) :
    Enforced (guarded.update .accounts Accounts.changeable
      (fun r => r.id == new.id.text && r.version == old.version)
      (Register.merged .accounts Accounts.changeable new.row) L.books)
      (L.replaceAccount old new) := by
  have hp : L.Picks .accounts (fun r => r.id == new.id.text && r.version == old.version)
      (Register.merged .accounts Accounts.changeable new.row) Account.row (·.id) L.accounts old
      { new with createdAt := old.createdAt } := {
    rows := rfl
    nodup := h.nodup_accounts
    mem := hold
    chosen_old := by simp [Account.row, hid]
    id_of_chosen x hx := by
      have hx : x.id = new.id ∧ x.version = old.version := by simpa [Account.row] using hx
      exact hx.1.trans hid.symm
    id_new := hid.symm
    change_old := Register.merged_accounts old.row new.row (congrArg Uuid.text hid) }
  have hg := childGuard?_account L { new with createdAt := old.createdAt } Accounts.changeable
    (by decide) (by decide)
  have hclash : Table.clash? .accounts (Account.row { new with createdAt := old.createdAt })
      ((L.accounts.filter (·.id != new.id)).map Account.row) = none ↔
        new.id ∉ (L.accounts.filter (·.id != new.id)).map (·.id) := Table.clash?_id rfl fun _ => rfl
  rw [replaceAccount]
  by_cases hk : ¬new.currency.IsKnown
  · rw [if_pos hk] at hg ⊢
    exact hp.update_fails (accept_guard hg (by decide))
  rw [if_neg hk] at hg ⊢
  by_cases ho : ¬∀ m ∈ new.owner, m ∈ L.memberIds
  · rw [if_pos ho] at hg ⊢
    exact hp.update_fails (accept_guard hg (by decide))
  · rw [if_neg ho] at hg ⊢
    exact hp.update_ok hg (hclash.2 (by simp)) (h.replaceAccount (not_not.1 hk) (not_not.1 ho)) rfl

end Ledger

end Bookkeeping

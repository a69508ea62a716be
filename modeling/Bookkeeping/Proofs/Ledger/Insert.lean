import Bookkeeping.Proofs.Ledger.Edit
import Bookkeeping.Proofs.Ledger.Keys

namespace Bookkeeping

open Enforcement

namespace Enforcement

variable {b : Books} {t : Table} {columns : List String} {others : List t.Row} {row : t.Row}

def FailsWith (r : Except StorageFailure α) (e : DomainError) : Prop :=
  ∃ f, r = .error f ∧ Diagnosis.diagnose f = .domain e

theorem accept_guard {k : ForeignKey} {e : DomainError}
    (hg : guarded.childGuard? b t columns (t.record row) = some k)
    (he : (k.name, some e) ∈ KeyRule.registry.map fun r => (r.name, r.parentMissing)) :
    FailsWith (guarded.accept b t columns others (t.record row)) e := by
  obtain ⟨r, hr, heq⟩ := List.mem_map.1 he
  obtain ⟨hk, hm⟩ := Prod.ext_iff.1 heq
  refine ⟨.database (some 1811) k.childMessage, ?_, Diagnosis.diagnose_childMessage hr hk hm⟩
  rw [accept_record, hg]

theorem accept_clash (hg : guarded.childGuard? b t columns (t.record row) = none)
    (hc : ¬t.clash? row others = none) :
    FailsWith (guarded.accept b t columns others (t.record row)) .duplicateKey := by
  obtain ⟨f, hf⟩ := Option.ne_none_iff_exists'.1 hc
  refine ⟨f, ?_, Table.diagnose_clash? hf⟩
  rw [accept_record, hg, hf]

theorem accept_ok (hg : guarded.childGuard? b t columns (t.record row) = none)
    (hc : t.clash? row others = none) :
    guarded.accept b t columns others (t.record row) = .ok row := by
  rw [accept_record, hg, hc]

end Enforcement

namespace Ledger

def Enforced (r : Except StorageFailure Books) : Except DomainError Ledger → Prop
  | .ok L => L.Sound ∧ r = .ok L.books
  | .error e => FailsWith r e

section Insert

variable {L L' : Ledger} {t : Table} {row : t.Row} {e : DomainError}

theorem Enforced.insert_fails
    (h : FailsWith (guarded.accept L.books t t.columns (L.books.rows t) (t.record row)) e) :
    Enforced (guarded.insertRow t L.books (t.record row)) (.error e) := by
  obtain ⟨f, hf, he⟩ := h
  refine ⟨f, ?_, he⟩
  rw [insertRow, hf]
  rfl

theorem Enforced.insert_ok
    (hg : guarded.childGuard? L.books t t.columns (t.record row) = none)
    (hc : t.clash? row (L.books.rows t) = none) (hs : L'.Sound)
    (hb : L.books.withRows t (L.books.rows t ++ [row]) = L'.books) :
    Enforced (guarded.insertRow t L.books (t.record row)) (.ok L') := by
  refine ⟨hs, ?_⟩
  rw [insertRow, accept_ok hg hc]
  exact congrArg Except.ok hb

theorem Enforced.insert {f : α → t.Row} {x : α → Edit} (as : List α)
    (hrow : ∀ a {L : Ledger}, L.Sound →
      Enforced (guarded.insertRow t L.books (t.record (f a))) (x a L)) (h : L.Sound) :
    Enforced (guarded.insert t (as.map fun a => t.record (f a)) L.books)
      (as.foldlM (fun L a => x a L) L) := by
  rw [Enforcement.insert, List.foldlM_map]
  induction as generalizing L with
  | nil => exact ⟨h, settle_of_intact _ h.intact⟩
  | cons a as ih =>
    have ha := hrow a h
    rw [List.foldlM_cons, List.foldlM_cons]
    cases hL : x a L with
    | ok L' =>
      rw [hL] at ha
      obtain ⟨hs, hb⟩ := ha
      rw [hb]
      exact ih hs
    | error e =>
      rw [hL] at ha
      obtain ⟨f, hf, he⟩ := ha
      exact ⟨f, by rw [hf]; rfl, he⟩

variable (h : L.Sound)

include h

theorem enforced_enterMember (m : Member) :
    Enforced (guarded.insertRow .members L.books (Table.record .members m.row))
      (L.enterMember m) := by
  have hg := childGuard?_of_childKeys_eq_nil (t := .members) (by decide) L.books
    Table.members.columns (Table.record .members m.row)
  have hc : Table.clash? .members m.row (L.members.map Member.row) = none ↔ m.id ∉ L.memberIds :=
    Table.clash?_id rfl fun _ => rfl
  rw [enterMember]
  by_cases hm : m.id ∈ L.memberIds
  · rw [if_pos hm]
    exact .insert_fails (accept_clash hg (hc.not.2 (not_not_intro hm)))
  · rw [if_neg hm]
    exact .insert_ok hg (hc.2 hm) (h.enterMember hm) (by simp [books, Books.withRows, Books.rows])

theorem enforced_enterCategory (c : Category) :
    Enforced (guarded.insertRow .categories L.books (Table.record .categories c.row))
      (L.enterCategory c) := by
  have hg := childGuard?_of_childKeys_eq_nil (t := .categories) (by decide) L.books
    Table.categories.columns (Table.record .categories c.row)
  have hc : Table.clash? .categories c.row (L.categories.map Category.row) = none ↔
      c.id ∉ L.categoryIds := Table.clash?_id rfl fun _ => rfl
  rw [enterCategory]
  by_cases hi : c.id ∈ L.categoryIds
  · rw [if_pos hi]
    exact .insert_fails (accept_clash hg (hc.not.2 (not_not_intro hi)))
  · rw [if_neg hi]
    exact .insert_ok hg (hc.2 hi) (h.enterCategory hi) (by simp [books, Books.withRows, Books.rows])

theorem enforced_enterTag (t : Tag) :
    Enforced (guarded.insertRow .tags L.books (Table.record .tags t.row)) (L.enterTag t) := by
  have hg := childGuard?_of_childKeys_eq_nil (t := .tags) (by decide) L.books
    Table.tags.columns (Table.record .tags t.row)
  have hc : Table.clash? .tags t.row (L.tags.map Tag.row) = none ↔
      t.id ∉ L.tagIds ∧ (t.name.key, t.kind) ∉ L.tagKeys := Table.clash?_tag
  rw [enterTag]
  by_cases hi : t.id ∈ L.tagIds ∨ (t.name.key, t.kind) ∈ L.tagKeys
  · rw [if_pos hi]
    exact .insert_fails (accept_clash hg (hc.not.2 fun hn => hi.elim hn.1 hn.2))
  · rw [if_neg hi]
    have hn := not_or.1 hi
    exact .insert_ok hg (hc.2 hn) (h.enterTag hn.1 hn.2)
      (by simp [books, Books.withRows, Books.rows])

theorem enforced_enterAccount (a : Account) :
    Enforced (guarded.insertRow .accounts L.books (Table.record .accounts a.row))
      (L.enterAccount a) := by
  have hg := childGuard?_account L a Table.accounts.columns (by decide) (by decide)
  have hc : Table.clash? .accounts a.row (L.accounts.map Account.row) = none ↔
      a.id ∉ L.accountIds := Table.clash?_id rfl fun _ => rfl
  rw [enterAccount]
  by_cases hk : ¬a.currency.IsKnown
  · rw [if_pos hk] at hg ⊢
    exact .insert_fails (accept_guard hg (by decide))
  rw [if_neg hk] at hg ⊢
  by_cases ho : ¬∀ m ∈ a.owner, m ∈ L.memberIds
  · rw [if_pos ho] at hg ⊢
    exact .insert_fails (accept_guard hg (by decide))
  rw [if_neg ho] at hg ⊢
  by_cases hi : a.id ∈ L.accountIds
  · rw [if_pos hi]
    exact .insert_fails (accept_clash hg (hc.not.2 (not_not_intro hi)))
  · rw [if_neg hi]
    exact .insert_ok hg (hc.2 hi) (h.enterAccount (not_not.1 hk) (not_not.1 ho) hi)
      (by simp [books, Books.withRows, Books.rows])

theorem enforced_enterTransaction (t : Transaction) :
    Enforced (guarded.insertRow .transactions L.books (Table.record .transactions t.row))
      (L.enterTransaction t) := by
  have hg := childGuard?_transaction L t
  have hc : Table.clash? .transactions t.row (L.transactions.map Transaction.row) = none ↔
      t.id ∉ L.transactionIds := Table.clash?_id rfl fun _ => rfl
  rw [enterTransaction]
  by_cases hk : ¬t.currency.IsKnown
  · rw [if_pos hk] at hg ⊢
    exact .insert_fails (accept_guard hg (by decide))
  rw [if_neg hk] at hg ⊢
  by_cases ha : t.account ∉ L.accountIds
  · rw [if_pos ha] at hg ⊢
    exact .insert_fails (accept_guard hg (by decide))
  rw [if_neg ha] at hg ⊢
  by_cases hi : t.id ∈ L.transactionIds
  · rw [if_pos hi]
    exact .insert_fails (accept_clash hg (hc.not.2 (not_not_intro hi)))
  · rw [if_neg hi]
    exact .insert_ok hg (hc.2 hi) (h.enterTransaction (not_not.1 hk) (not_not.1 ha) hi)
      (by simp [books, Books.withRows, Books.rows])

theorem enforced_enterExpenditure (e : Expenditure) :
    Enforced (guarded.insertRow .expenditures L.books (Table.record .expenditures e.row))
      (L.enterExpenditure e) := by
  have hg := childGuard?_expenditure L e
  have hc : Table.clash? .expenditures e.row (L.expenditures.map Expenditure.row) = none ↔
      e.id ∉ L.expenditureIds ∧ e.transaction ∉ L.expenditures.map (·.transaction) :=
    Table.clash?_id_transaction rfl (fun _ => rfl) fun _ => rfl
  rw [enterExpenditure]
  by_cases ht : e.transaction ∉ L.transactionIds
  · rw [if_pos ht] at hg ⊢
    exact .insert_fails (accept_guard hg (by decide))
  rw [if_neg ht] at hg ⊢
  by_cases hk : e.category ∉ L.categoryIds
  · rw [if_pos hk] at hg ⊢
    exact .insert_fails (accept_guard hg (by decide))
  rw [if_neg hk] at hg ⊢
  by_cases hi : e.id ∈ L.expenditureIds ∨ e.transaction ∈ L.expenditures.map (·.transaction)
  · rw [if_pos hi]
    exact .insert_fails (accept_clash hg (hc.not.2 fun hn => hi.elim hn.1 hn.2))
  · rw [if_neg hi]
    have hn := not_or.1 hi
    exact .insert_ok hg (hc.2 hn) (h.enterExpenditure (not_not.1 ht) (not_not.1 hk) hn.1 hn.2)
      (by simp [books, Books.withRows, Books.rows])

theorem enforced_enterIngress (i : Ingress) :
    Enforced (guarded.insertRow .ingresses L.books (Table.record .ingresses i.row))
      (L.enterIngress i) := by
  have hg := childGuard?_ingress L i
  have hc : Table.clash? .ingresses i.row (L.ingresses.map Ingress.row) = none ↔
      i.id ∉ L.ingressIds ∧ i.transaction ∉ L.ingresses.map (·.transaction) :=
    Table.clash?_id_transaction rfl (fun _ => rfl) fun _ => rfl
  rw [enterIngress]
  by_cases ht : i.transaction ∉ L.transactionIds
  · rw [if_pos ht] at hg ⊢
    exact .insert_fails (accept_guard hg (by decide))
  rw [if_neg ht] at hg ⊢
  by_cases hk : i.category ∉ L.categoryIds
  · rw [if_pos hk] at hg ⊢
    exact .insert_fails (accept_guard hg (by decide))
  rw [if_neg hk] at hg ⊢
  by_cases hi : i.id ∈ L.ingressIds ∨ i.transaction ∈ L.ingresses.map (·.transaction)
  · rw [if_pos hi]
    exact .insert_fails (accept_clash hg (hc.not.2 fun hn => hi.elim hn.1 hn.2))
  · rw [if_neg hi]
    have hn := not_or.1 hi
    exact .insert_ok hg (hc.2 hn) (h.enterIngress (not_not.1 ht) (not_not.1 hk) hn.1 hn.2)
      (by simp [books, Books.withRows, Books.rows])

theorem enforced_enterExpenditureTag (l : Link) :
    Enforced (guarded.insertRow .expenditureTags L.books (Table.record .expenditureTags l.row))
      (L.enterExpenditureTag l) := by
  have hg := childGuard?_expenditureTag L l
  have hc : Table.clash? .expenditureTags l.row (L.expenditureTags.map Link.row) = none ↔
      l ∉ L.expenditureTags := Table.clash?_link rfl (fun _ => rfl) fun _ => rfl
  rw [enterExpenditureTag]
  by_cases ht : l.tag ∉ L.tagIds
  · rw [if_pos ht] at hg ⊢
    exact .insert_fails (accept_guard hg (by decide))
  rw [if_neg ht] at hg ⊢
  by_cases he : l.target ∉ L.expenditureIds
  · rw [if_pos he] at hg ⊢
    exact .insert_fails (accept_guard hg (by decide))
  rw [if_neg he] at hg ⊢
  by_cases hl : l ∈ L.expenditureTags
  · rw [if_pos hl]
    exact .insert_fails (accept_clash hg (hc.not.2 (not_not_intro hl)))
  · rw [if_neg hl]
    exact .insert_ok hg (hc.2 hl) (h.enterExpenditureTag (not_not.1 ht) (not_not.1 he) hl)
      (by simp [books, Books.withRows, Books.rows])

theorem enforced_enterIngressTag (l : Link) :
    Enforced (guarded.insertRow .ingressTags L.books (Table.record .ingressTags l.row))
      (L.enterIngressTag l) := by
  have hg := childGuard?_ingressTag L l
  have hc : Table.clash? .ingressTags l.row (L.ingressTags.map Link.row) = none ↔
      l ∉ L.ingressTags := Table.clash?_link rfl (fun _ => rfl) fun _ => rfl
  rw [enterIngressTag]
  by_cases ht : l.tag ∉ L.tagIds
  · rw [if_pos ht] at hg ⊢
    exact .insert_fails (accept_guard hg (by decide))
  rw [if_neg ht] at hg ⊢
  by_cases hi : l.target ∉ L.ingressIds
  · rw [if_pos hi] at hg ⊢
    exact .insert_fails (accept_guard hg (by decide))
  rw [if_neg hi] at hg ⊢
  by_cases hl : l ∈ L.ingressTags
  · rw [if_pos hl]
    exact .insert_fails (accept_clash hg (hc.not.2 (not_not_intro hl)))
  · rw [if_neg hl]
    exact .insert_ok hg (hc.2 hl) (h.enterIngressTag (not_not.1 ht) (not_not.1 hi) hl)
      (by simp [books, Books.withRows, Books.rows])

end Insert

end Ledger

end Bookkeeping

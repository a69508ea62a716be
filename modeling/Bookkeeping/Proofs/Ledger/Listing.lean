import Bookkeeping.Proofs.Ledger.WellFormed
import Mathlib.Data.List.Perm.Basic

namespace Bookkeeping

open Ledger (Query)

section Groups

variable [DecidableEq κ] {groups : List κ} {own : α → κ} {as : List α}

theorem flatMap_own {k : κ} (hn : groups.Nodup) (hk : k ∈ groups) (a : α) :
    groups.flatMap (fun g => if k = g then [a] else []) = [a] := by
  obtain ⟨before, after, rfl⟩ := List.append_of_mem hk
  rw [List.nodup_middle, List.nodup_cons, List.mem_append, not_or] at hn
  have hnil {gs : List κ} (h : k ∉ gs) : gs.flatMap (fun g => if k = g then [a] else []) = [] := by
    refine List.flatMap_eq_nil_iff.2 fun g hg => if_neg ?_
    rintro rfl
    exact h hg
  rw [List.flatMap_append, List.flatMap_cons, if_pos rfl, hnil hn.1.1, hnil hn.1.2]
  rfl

theorem flatMap_filter_perm (hn : groups.Nodup) (h : ∀ a ∈ as, own a ∈ groups) :
    (groups.flatMap fun g => as.filter (own · == g)).Perm as := by
  induction as with
  | nil => simp
  | cons a as ih =>
    obtain ⟨ha, has⟩ := List.forall_mem_cons.1 h
    have hsplit : (groups.flatMap fun g => (a :: as).filter (own · == g)) =
        groups.flatMap fun g => (if own a = g then [a] else []) ++ as.filter (own · == g) := by
      refine List.flatMap_congr fun g _ => ?_
      by_cases hg : own a = g <;> simp [hg]
    rw [hsplit]
    refine (List.flatMap_append_perm groups _ _).symm.trans ?_
    rw [flatMap_own hn ha]
    exact (ih has).cons a

theorem flatMap_sorted_perm (hn : groups.Nodup) (h : ∀ a ∈ as, own a ∈ groups)
    (le : α → α → Bool) :
    (groups.flatMap fun g => (as.filter (own · == g)).mergeSort le).Perm as :=
  (List.Perm.flatMap_left groups fun _ _ => List.mergeSort_perm _ le).trans
    (flatMap_filter_perm hn h)

end Groups

def ExpenditureFilter.ofAccount (id : Uuid) : ExpenditureFilter := { all with account := some id }

namespace Store

/-- A list holds all rows. An identifier is found exactly if the list has it, and the list has it
once, for what is found. -/
structure Lists (s : Store) (as : List α) (key : α → Uuid) (find : Uuid → Work α) (e : DomainError)
    (row : α → ρ) (rows : List ρ) : Prop where
  rows : (as.map row).Perm rows
  found : ∀ id, (∃ a, find id s = (.ok a, s) ∧ as.filter (key · == id) = [a]) ∨
    find id s = (.error (.domain e), s) ∧ as.filter (key · == id) = []

def Parts (s : Store) (groups : List κ) (list : κ → Work (List α)) (own : κ → α → Prop)
    (whole : List α) : Prop :=
  ∃ parts : κ → List α,
    (∀ k ∈ groups, list k s = (.ok (parts k), s) ∧ ∀ a ∈ parts k, own k a) ∧
      (groups.flatMap parts).Perm whole

structure Agrees (s : Store) : Prop where
  members : ∃ ms, Members.list s = (.ok ms, s) ∧
    s.Lists ms (·.id) UseCase.findMember .householdMemberNotFound Member.row s.books.members
  accounts : ∃ as, Accounts.list s = (.ok as, s) ∧
    s.Lists as (·.id) UseCase.findAccount .accountNotFound Account.row s.books.accounts
  categories : ∃ cs, Categories.list s = (.ok cs, s) ∧
    s.Lists cs (·.id) UseCase.findCategory .categoryNotFound Category.row s.books.categories ∧
    s.Parts CategoryKind.all Categories.listByKind (fun k c => c.kind = k) cs
  tags : ∃ ts,
    s.Lists ts (·.id) UseCase.findTag .tagNotFound Tag.row s.books.tags ∧
    s.Parts TagKind.all Tags.listByKind (fun k t => t.kind = k) ts
  transactions : ∃ ts as, Accounts.list s = (.ok as, s) ∧
    s.Lists ts (·.id) UseCase.findTransaction .transactionNotFound Transaction.row
      s.books.transactions ∧
    s.Parts (as.map (·.id)) UseCase.listTransactions (fun id t => t.account = id) ts
  expenditures : ∃ es as, Expenditures.find .all s = (.ok es, s) ∧ Accounts.list s = (.ok as, s) ∧
    s.Lists es (·.id) (fun id => (·.record) <$> UseCase.findExpenditure id) .expenditureNotFound
      Expenditure.row s.books.expenditures ∧
    s.Parts (as.map (·.id)) (fun id => Expenditures.find (.ofAccount id))
      (fun id e => ∃ t ∈ s.books.transactions, t.id = e.transaction.text ∧ t.account = id.text) es

theorem Parts.of_filter [DecidableEq κ] {s : Store} {groups : List κ} {list : κ → Work (List α)}
    {own : α → κ} {as whole : List α} {le : α → α → Bool} (hn : groups.Nodup)
    (hown : ∀ a ∈ as, own a ∈ groups)
    (hlist : ∀ k ∈ groups, list k s = (.ok ((as.filter (own · == k)).mergeSort le), s))
    (hp : as.Perm whole) : s.Parts groups list (fun k a => own a = k) whole := by
  refine ⟨_, fun k hk => ⟨hlist k hk, fun a ha => ?_⟩, (flatMap_sorted_perm hn hown le).trans hp⟩
  exact beq_iff_eq.1 (List.mem_filter.1 (List.mem_mergeSort.1 ha)).2

end Store

namespace Ledger

variable {L : Ledger}

theorem accountIds_perm (L : Ledger) :
    ((L.accounts.mergeSort (Register.byText (·.name))).map (·.id)).Perm L.accountIds :=
  (List.mergeSort_perm _ _).map _

theorem map_entries (hs : L.Sound) : L.entries.map (·.expenditure) = L.expenditures := by
  rw [entries, List.map_flatMap]
  refine (List.flatMap_congr fun e he => ?_).trans (List.flatMap_singleton' L.expenditures)
  obtain ⟨t, ht, hid⟩ := List.mem_map.1 (hs.transaction_expenditure e he)
  rw [← hid, Keyed.filter_of_mem hs.nodup_transactions ht]
  rfl

theorem transaction_of_entry {x : Entry} (h : x ∈ L.entries) :
    x.transaction ∈ L.transactions ∧ x.transaction.id = x.expenditure.transaction := by
  obtain ⟨e, -, hx⟩ := List.mem_flatMap.1 h
  obtain ⟨t, ht, rfl⟩ := List.mem_map.1 hx
  exact ⟨(List.mem_filter.1 ht).1, beq_iff_eq.1 (List.mem_filter.1 ht).2⟩

theorem passes_account (id : Uuid) (x : Entry) :
    x.passes (.ofAccount id) = (x.transaction.account == id) := by
  simp [Entry.passes, ExpenditureFilter.ofAccount, ExpenditureFilter.all, BEq.comm]

theorem passes_all (x : Entry) : x.passes .all = true := rfl

theorem record_findExpenditure (hs : L.Sound) (id : Uuid) :
    ((·.record) <$> findExpenditure id) L =
      (Query.find expenditures (·.id) id).notFoundAs .expenditureNotFound L := by
  cases hfind : (Query.find expenditures (·.id) id).notFoundAs .expenditureNotFound L with
  | ok e =>
    obtain ⟨he, rfl⟩ := Query.find_ok (Query.notFoundAs_ok.1 hfind)
    obtain ⟨d, hd, rfl⟩ := findExpenditure_of_mem hs he
    exact Query.map_ok.2 ⟨d, hd, rfl⟩
  | error e =>
    rw [map_eq_pure_bind]
    show Except.bind (Except.bind _ _) _ = _
    rw [hfind]
    rfl

theorem listTransactions_of_mem (hs : L.Sound) {id : Uuid} (h : id ∈ L.accountIds) :
    listTransactions id L = .ok ((L.transactions.filter (·.account == id)).mergeSort
      (Register.byTexts (·.date.stamp) (·.createdAt.stamp))) := by
  obtain ⟨a, ha, rfl⟩ := List.mem_map.1 h
  have hfind := Query.find_of_mem hs.nodup_accounts ha
  refine Query.bind_ok.2 ⟨(), ?_, rfl⟩
  exact Query.map_ok.2 ⟨a, Query.notFoundAs_ok.2 hfind, rfl⟩

end Ledger

namespace Store

variable {s : Store} {L : Ledger}

theorem Lists.of_perm {xs : Ledger → List α} {key : α → Uuid} {find : Uuid → Work α}
    {e : DomainError} {row : α → ρ} {rows : List ρ} {as : List α} (hn : ((xs L).map key).Nodup)
    (hfind : ∀ id, find id s = ((Query.find xs key id).notFoundAs e L, s))
    (hrows : rows = (xs L).map row) (hp : as.Perm (xs L)) :
    s.Lists as key find e row rows where
  rows := hrows ▸ hp.map row
  found id := by
    by_cases hid : id ∈ (xs L).map key
    · obtain ⟨a, ha, rfl⟩ := List.mem_map.1 hid
      refine .inl ⟨a, ?_, ?_⟩
      · rw [hfind, Query.notFoundAs_ok.2 (Query.find_of_mem hn ha)]
      · exact List.perm_singleton.1 ((hp.filter _).trans (.of_eq (Keyed.filter_of_mem hn ha)))
    · refine .inr ⟨?_, ?_⟩
      · rw [hfind, Query.notFoundAs, Query.mapError, Query.find_of_not_mem hid]
        rfl
      · refine List.filter_eq_nil_iff.2 fun a ha hkey => hid ?_
        exact beq_iff_eq.1 hkey ▸ List.mem_map_of_mem (hp.mem_iff.1 ha)

namespace Holds

theorem answers (h : s.Holds L) {w : Work α} {q : Query α} (hw : Answers w q) : w s = (q L, s) :=
  hw s L h.ready h.sound h.books

theorem lists_categories (h : s.Holds L) : ∃ cs, Categories.list s = (.ok cs, s) ∧
    s.Lists cs (·.id) UseCase.findCategory .categoryNotFound Category.row s.books.categories ∧
    s.Parts CategoryKind.all Categories.listByKind (fun k c => c.kind = k) cs := by
  have hperm := List.mergeSort_perm L.categories (Register.byText (·.name))
  refine ⟨_, h.answers answers_listCategories, ?_, ?_⟩
  · exact .of_perm h.sound.nodup_categories
      (fun id => h.answers (answers_findCategory id))
      (congrArg Books.categories h.books) hperm
  · refine .of_filter (by decide) (fun c _ => ?_)
      (fun k _ => h.answers (answers_categoriesByKind k)) hperm.symm
    cases c.kind <;> decide

theorem lists_tags (h : s.Holds L) : ∃ ts,
    s.Lists ts (·.id) UseCase.findTag .tagNotFound Tag.row s.books.tags ∧
    s.Parts TagKind.all Tags.listByKind (fun k t => t.kind = k) ts := by
  refine ⟨L.tags, ?_, ?_⟩
  · exact .of_perm h.sound.nodup_tags (fun id => h.answers (answers_findTag id))
      (congrArg Books.tags h.books) (.refl _)
  · refine .of_filter (by decide) (fun t _ => ?_)
      (fun k _ => h.answers (answers_tagsByKind k)) (.refl _)
    cases t.kind <;> decide

theorem lists_transactions (h : s.Holds L) : ∃ ts as, Accounts.list s = (.ok as, s) ∧
    s.Lists ts (·.id) UseCase.findTransaction .transactionNotFound Transaction.row
      s.books.transactions ∧
    s.Parts (as.map (·.id)) UseCase.listTransactions (fun id t => t.account = id) ts := by
  have hids := L.accountIds_perm
  refine ⟨L.transactions, _, h.answers answers_listAccounts, ?_, ?_⟩
  · exact .of_perm h.sound.nodup_transactions
      (fun id => h.answers (answers_findTransaction id))
      (congrArg Books.transactions h.books) (.refl _)
  · exact .of_filter (hids.nodup_iff.2 h.sound.nodup_accounts)
      (fun t ht => hids.mem_iff.2 (h.sound.account_transaction t ht))
      (fun id hid => (h.answers (answers_listTransactions id)).trans
        (congrArg (·, s) (Ledger.listTransactions_of_mem h.sound (hids.mem_iff.1 hid)))) (.refl _)

theorem lists_expenditures (h : s.Holds L) : ∃ es as, Expenditures.find .all s = (.ok es, s) ∧
    Accounts.list s = (.ok as, s) ∧
    s.Lists es (·.id) (fun id => (·.record) <$> UseCase.findExpenditure id) .expenditureNotFound
      Expenditure.row s.books.expenditures ∧
    s.Parts (as.map (·.id)) (fun id => Expenditures.find (.ofAccount id))
      (fun id e => ∃ t ∈ s.books.transactions, t.id = e.transaction.text ∧ t.account = id.text)
      es := by
  have hids := L.accountIds_perm
  have hall : ((L.entries.filter (·.passes .all)).mergeSort Ledger.Entry.newestFirst).Perm
      L.entries := by
    rw [List.filter_eq_self.2 fun x _ => Ledger.passes_all x]
    exact List.mergeSort_perm _ _
  refine ⟨_, _, h.answers (answers_findExpenditures .all),
    h.answers answers_listAccounts, ?_, ?_⟩
  · refine .of_perm h.sound.nodup_expenditures (fun id => ?_) (congrArg Books.expenditures h.books)
      ((hall.map _).trans (.of_eq (Ledger.map_entries h.sound)))
    rw [← Ledger.record_findExpenditure h.sound]
    exact h.answers ((answers_findExpenditure id).map _)
  · refine ⟨_, fun id _ => ⟨h.answers (answers_findExpenditures (.ofAccount id)),
      fun e he => ?_⟩, ?_⟩
    · obtain ⟨x, hx, rfl⟩ := List.mem_map.1 he
      obtain ⟨hx, hpasses⟩ := List.mem_filter.1 (List.mem_mergeSort.1 hx)
      obtain ⟨ht, hid⟩ := Ledger.transaction_of_entry hx
      rw [Ledger.passes_account, beq_iff_eq] at hpasses
      refine ⟨x.transaction.row, h.books ▸ List.mem_map_of_mem ht, congrArg Uuid.text hid, ?_⟩
      exact congrArg Uuid.text hpasses
    · rw [← List.map_flatMap]
      refine .map _ (.trans ?_ hall.symm)
      simp only [Ledger.passes_account]
      refine flatMap_sorted_perm (hids.nodup_iff.2 h.sound.nodup_accounts) (fun x hx => ?_) _
      exact hids.mem_iff.2 (h.sound.account_transaction _ (Ledger.transaction_of_entry hx).1)

theorem agrees (h : s.Holds L) : s.Agrees where
  members := ⟨_, h.answers answers_listMembers,
    .of_perm h.sound.nodup_members (fun id => h.answers (answers_findMember id))
      (congrArg Books.members h.books) (List.mergeSort_perm _ _)⟩
  accounts := ⟨_, h.answers answers_listAccounts,
    .of_perm h.sound.nodup_accounts (fun id => h.answers (answers_findAccount id))
      (congrArg Books.accounts h.books) (List.mergeSort_perm _ _)⟩
  categories := h.lists_categories
  tags := h.lists_tags
  transactions := h.lists_transactions
  expenditures := h.lists_expenditures

end Holds

end Store

end Bookkeeping

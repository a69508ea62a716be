import Bookkeeping.Proofs.Diagnosis.Message
import Bookkeeping.Proofs.Ledger.Reference
import Bookkeeping.Proofs.Store.Statement

namespace Bookkeeping

theorem UniqueKey.shared_single {t : Table} {row other : t.Row} {column : String} {primary : Bool}
    {u v : Uuid} (hu : t.text? row column = some u.text) (hv : t.text? other column = some v.text) :
    (⟨[column], primary⟩ : UniqueKey).shared t row other = (v == u) := by
  simp [shared, hu, hv, BEq.comm]

theorem UniqueKey.shared_pair {t : Table} {row other : t.Row} {c d : String} {primary : Bool}
    {u v u' v' : String} (hu : t.text? row c = some u) (hv : t.text? row d = some v)
    (hu' : t.text? other c = some u') (hv' : t.text? other d = some v') :
    (⟨[c, d], primary⟩ : UniqueKey).shared t row other = (u' == u && v' == v) := by
  simp [shared, hu, hv, hu', hv', BEq.comm]

theorem TagKind.code_inj {k l : TagKind} : k.code = l.code ↔ k = l :=
  ⟨fun h => Option.some.inj (by rw [← ofCode?_code k, h, ofCode?_code]), congrArg code⟩

namespace Table

section Clash

variable {t : Table} {f : α → t.Row} {a : α} {others : List α}

theorem clash?_eq_none_iff {row : t.Row} {others : List t.Row} :
    t.clash? row others = none ↔ ∀ k ∈ t.uniqueKeys, ∀ o ∈ others, k.shared t row o = false := by
  simp [clash?]

theorem clash?_id {id : α → Uuid} (hk : t.uniqueKeys = [⟨["id"], true⟩])
    (hid : ∀ a, t.text? (f a) "id" = some (id a).text) :
    t.clash? (f a) (others.map f) = none ↔ id a ∉ others.map id := by
  have h (o : α) : (⟨["id"], true⟩ : UniqueKey).shared t (f a) (f o) = (id o == id a) :=
    UniqueKey.shared_single (hid a) (hid o)
  simp [clash?_eq_none_iff, hk, h]

theorem clash?_id_transaction {id transaction : α → Uuid}
    (hk : t.uniqueKeys = [⟨["id"], true⟩, ⟨["transaction_id"], false⟩])
    (hid : ∀ a, t.text? (f a) "id" = some (id a).text)
    (ht : ∀ a, t.text? (f a) "transaction_id" = some (transaction a).text) :
    t.clash? (f a) (others.map f) = none ↔
      id a ∉ others.map id ∧ transaction a ∉ others.map transaction := by
  have h (o : α) : (⟨["id"], true⟩ : UniqueKey).shared t (f a) (f o) = (id o == id a) :=
    UniqueKey.shared_single (hid a) (hid o)
  have h' (o : α) : (⟨["transaction_id"], false⟩ : UniqueKey).shared t (f a) (f o)
      = (transaction o == transaction a) := UniqueKey.shared_single (ht a) (ht o)
  simp [clash?_eq_none_iff, hk, h, h']

theorem clash?_tag {tag : Tag} {others : List Tag} :
    clash? .tags tag.row (others.map Tag.row) = none ↔
      tag.id ∉ others.map (·.id) ∧
        (tag.name.key, tag.kind) ∉ others.map fun o => (o.name.key, o.kind) := by
  have h (o : Tag) : (⟨["id"], true⟩ : UniqueKey).shared .tags tag.row o.row = (o.id == tag.id) :=
    UniqueKey.shared_single rfl rfl
  have h' (o : Tag) : (⟨["name_norm", "tag_type"], false⟩ : UniqueKey).shared .tags tag.row o.row
      = (o.name.key == tag.name.key && o.kind.code == tag.kind.code) :=
    UniqueKey.shared_pair rfl rfl rfl rfl
  simp only [clash?_eq_none_iff, uniqueKeys, List.forall_mem_cons, List.forall_mem_map, h, h']
  simp [TagKind.code_inj]

theorem clash?_link {t : Table} {f : Link → t.Row} {column : String}
    (hk : t.uniqueKeys = [⟨[column, "tag_id"], true⟩])
    (htarget : ∀ l, t.text? (f l) column = some l.target.text)
    (htag : ∀ l, t.text? (f l) "tag_id" = some l.tag.text) {l : Link} {others : List Link} :
    t.clash? (f l) (others.map f) = none ↔ l ∉ others := by
  have h (o : Link) : (⟨[column, "tag_id"], true⟩ : UniqueKey).shared t (f l) (f o)
      = (o.target.text == l.target.text && o.tag.text == l.tag.text) :=
    UniqueKey.shared_pair (htarget l) (htag l) (htarget o) (htag o)
  have heq (o : Link) : (o.target = l.target → ¬o.tag = l.tag) ↔ ¬o = l := by
    rw [← not_and]
    exact not_congr ⟨fun ⟨h₁, h₂⟩ => by cases o; cases l; simp_all, fun h => h ▸ ⟨rfl, rfl⟩⟩
  simp [clash?_eq_none_iff, hk, h, heq]
  grind

end Clash

end Table

namespace Ledger

section Guards

open Enforcement

variable {L : Ledger}

theorem parentMissing_uuid {k : ForeignKey} {r : Record} {u : Uuid} {xs : List α} {f : α → Uuid}
    (hr : r.text? k.childColumn = some u.text)
    (hp : L.books.referable k = xs.map fun x => (f x).text) :
    L.books.parentMissing k r = !decide (u ∈ xs.map f) := by
  simp [Books.parentMissing, hr, hp]

theorem parentMissing_currency {k : ForeignKey} {r : Record} {c : Currency}
    (hr : r.text? k.childColumn = some c.code)
    (hp : L.books.referable k = CurrencyRow.seeded.map (·.code)) :
    L.books.parentMissing k r = !decide c.IsKnown := by
  simp only [Books.parentMissing, hr, hp, Currency.IsKnown]
  simp

theorem find?_pair {k l : ForeignKey} {p : ForeignKey → Bool} :
    [k, l].find? p = if p k then some k else if p l then some l else none := by
  cases hk : p k <;> cases hl : p l <;> simp [hk, hl]

theorem childGuard?_account (L : Ledger) (a : Account) (columns : List String)
    (hc : columns.contains "currency" = true) (ho : columns.contains "owner_id" = true) :
    guarded.childGuard? L.books .accounts columns (Table.record .accounts a.row) =
      if ¬a.currency.IsKnown then some .accountsCurrency
      else if ¬∀ m ∈ a.owner, m ∈ L.memberIds then some .accountsOwner else none := by
  have hk : Table.childKeys .accounts = [.accountsCurrency, .accountsOwner] := by decide
  have hcurrency : L.books.parentMissing .accountsCurrency (Table.record .accounts a.row)
      = !decide a.currency.IsKnown := parentMissing_currency rfl rfl
  have howner : L.books.parentMissing .accountsOwner (Table.record .accounts a.row)
      = !decide (∀ m ∈ a.owner, m ∈ L.memberIds) := by
    have hr := text?_owner a
    cases ha : a.owner with
    | none =>
      rw [ha] at hr
      have hr : (Table.record .accounts a.row).text? "owner_id" = none := hr
      simp [Books.parentMissing, ForeignKey.accountsOwner, hr]
    | some m =>
      rw [ha] at hr
      have := parentMissing_uuid (k := .accountsOwner) hr (column_members_id L)
      rw [this]
      simp [memberIds]
  rw [childGuard?_guarded, hk, find?_pair, hcurrency, howner]
  simp only [ForeignKey.accountsCurrency, ForeignKey.accountsOwner, hc, ho, Bool.true_and]
  simp

theorem childGuard?_transaction (L : Ledger) (t : Transaction) :
    guarded.childGuard? L.books .transactions Table.transactions.columns
        (Table.record .transactions t.row) =
      if ¬t.currency.IsKnown then some .transactionsCurrency
      else if t.account ∉ L.accountIds then some .transactionsAccount else none := by
  have hk : Table.childKeys .transactions = [.transactionsCurrency, .transactionsAccount] := by
    decide
  have hcurrency : L.books.parentMissing .transactionsCurrency (Table.record .transactions t.row)
      = !decide t.currency.IsKnown := parentMissing_currency rfl rfl
  have haccount : L.books.parentMissing .transactionsAccount (Table.record .transactions t.row)
      = !decide (t.account ∈ L.accountIds) := parentMissing_uuid rfl (column_accounts_id L)
  rw [childGuard?_guarded, hk, find?_pair, hcurrency, haccount]
  simp [ForeignKey.transactionsCurrency, ForeignKey.transactionsAccount, Table.columns,
    TransactionRow.columns]

theorem childGuard?_expenditure (L : Ledger) (e : Expenditure) :
    guarded.childGuard? L.books .expenditures Table.expenditures.columns
        (Table.record .expenditures e.row) =
      if e.transaction ∉ L.transactionIds then some .expendituresTransaction
      else if e.category ∉ L.categoryIds then some .expendituresCategory else none := by
  have hk : Table.childKeys .expenditures = [.expendituresTransaction, .expendituresCategory] := by
    decide
  have ht : L.books.parentMissing .expendituresTransaction (Table.record .expenditures e.row)
      = !decide (e.transaction ∈ L.transactionIds) :=
    parentMissing_uuid rfl (column_transactions_id L)
  have hc : L.books.parentMissing .expendituresCategory (Table.record .expenditures e.row)
      = !decide (e.category ∈ L.categoryIds) := parentMissing_uuid rfl (column_categories_id L)
  rw [childGuard?_guarded, hk, find?_pair, ht, hc]
  simp [ForeignKey.expendituresTransaction, ForeignKey.expendituresCategory, Table.columns,
    ExpenditureRow.columns]

theorem childGuard?_ingress (L : Ledger) (i : Ingress) :
    guarded.childGuard? L.books .ingresses Table.ingresses.columns (Table.record .ingresses i.row) =
      if i.transaction ∉ L.transactionIds then some .ingressesTransaction
      else if i.category ∉ L.categoryIds then some .ingressesCategory else none := by
  have hk : Table.childKeys .ingresses = [.ingressesTransaction, .ingressesCategory] := by decide
  have ht : L.books.parentMissing .ingressesTransaction (Table.record .ingresses i.row)
      = !decide (i.transaction ∈ L.transactionIds) :=
    parentMissing_uuid rfl (column_transactions_id L)
  have hc : L.books.parentMissing .ingressesCategory (Table.record .ingresses i.row)
      = !decide (i.category ∈ L.categoryIds) := parentMissing_uuid rfl (column_categories_id L)
  rw [childGuard?_guarded, hk, find?_pair, ht, hc]
  simp [ForeignKey.ingressesTransaction, ForeignKey.ingressesCategory, Table.columns,
    IngressRow.columns]

theorem childGuard?_expenditureTag (L : Ledger) (l : Link) :
    guarded.childGuard? L.books .expenditureTags Table.expenditureTags.columns
        (Table.record .expenditureTags l.row) =
      if l.tag ∉ L.tagIds then some .expenditureTagsTag
      else if l.target ∉ L.expenditureIds then some .expenditureTagsExpenditure else none := by
  have hk : Table.childKeys .expenditureTags = [.expenditureTagsTag, .expenditureTagsExpenditure] :=
    by decide
  have htag : L.books.parentMissing .expenditureTagsTag (Table.record .expenditureTags l.row)
      = !decide (l.tag ∈ L.tagIds) := parentMissing_uuid rfl (column_tags_id L)
  have htarget : L.books.parentMissing .expenditureTagsExpenditure
      (Table.record .expenditureTags l.row) = !decide (l.target ∈ L.expenditureIds) :=
    parentMissing_uuid rfl (column_expenditures_id L)
  rw [childGuard?_guarded, hk, find?_pair, htag, htarget]
  simp [ForeignKey.expenditureTagsTag, ForeignKey.expenditureTagsExpenditure, Table.columns,
    LinkRow.columns]

theorem childGuard?_ingressTag (L : Ledger) (l : Link) :
    guarded.childGuard? L.books .ingressTags Table.ingressTags.columns
        (Table.record .ingressTags l.row) =
      if l.tag ∉ L.tagIds then some .ingressTagsTag
      else if l.target ∉ L.ingressIds then some .ingressTagsIngress else none := by
  have hk : Table.childKeys .ingressTags = [.ingressTagsTag, .ingressTagsIngress] := by decide
  have htag : L.books.parentMissing .ingressTagsTag (Table.record .ingressTags l.row)
      = !decide (l.tag ∈ L.tagIds) := parentMissing_uuid rfl (column_tags_id L)
  have htarget : L.books.parentMissing .ingressTagsIngress (Table.record .ingressTags l.row)
      = !decide (l.target ∈ L.ingressIds) := parentMissing_uuid rfl (column_ingresses_id L)
  rw [childGuard?_guarded, hk, find?_pair, htag, htarget]
  simp [ForeignKey.ingressTagsTag, ForeignKey.ingressTagsIngress, Table.columns, LinkRow.columns]

theorem childGuard?_of_childKeys_eq_nil {t : Table} (h : t.childKeys = []) (b : Books)
    (columns : List String) (r : Record) : guarded.childGuard? b t columns r = none := by
  rw [childGuard?_guarded, h, List.find?_nil]

end Guards

end Ledger

end Bookkeeping

import Bookkeeping.Proofs.Ledger.Basic
import Bookkeeping.Proofs.Row.RoundTrip
import Bookkeeping.Store.Statement

namespace Bookkeeping

theorem Books.column_map {b : Books} {t : Table} {f : α → t.Row} {xs : List α} {c : String}
    {g : α → String} (hb : b.rows t = xs.map f) (h : ∀ x, t.text? (f x) c = some (g x)) :
    b.column t.name c = xs.map g := by
  have hcolumn : (t.text? · c) ∘ f = some ∘ g := funext h
  rw [Books.column, Table.ofName?_name]
  show (b.rows t).filterMap (t.text? · c) = xs.map g
  rw [hb, List.filterMap_map, hcolumn, List.filterMap_eq_map]

namespace Ledger

variable (L : Ledger)

theorem column_members_id : L.books.column "household_members" "id" = L.members.map (·.id.text) :=
  Books.column_map (t := .members) (f := Member.row) rfl fun _ => rfl

theorem column_accounts_id : L.books.column "accounts" "id" = L.accounts.map (·.id.text) :=
  Books.column_map (t := .accounts) (f := Account.row) rfl fun _ => rfl

theorem column_accounts_currency :
    L.books.column "accounts" "currency" = L.accounts.map (·.currency.code) :=
  Books.column_map (t := .accounts) (f := Account.row) rfl fun _ => rfl

theorem text?_owner_id (r : AccountRow) : Table.text? .accounts r "owner_id" = r.owner :=
  Cell.text?_ofText? r.owner

theorem text?_owner (a : Account) :
    Table.text? .accounts a.row "owner_id" = a.owner.map Uuid.text :=
  text?_owner_id a.row

theorem column_accounts_owner :
    L.books.column "accounts" "owner_id" = L.accounts.filterMap fun a => a.owner.map Uuid.text := by
  rw [Books.column,
    show Table.ofName? "accounts" = some .accounts from Table.ofName?_name .accounts]
  show (L.accounts.map Account.row).filterMap (Table.text? .accounts · "owner_id") = _
  have howner : (Table.text? .accounts · "owner_id") ∘ Account.row =
      fun a => a.owner.map Uuid.text := funext text?_owner
  rw [List.filterMap_map, howner]

theorem column_categories_id : L.books.column "categories" "id" = L.categories.map (·.id.text) :=
  Books.column_map (t := .categories) (f := Category.row) rfl fun _ => rfl

theorem column_tags_id : L.books.column "tags" "id" = L.tags.map (·.id.text) :=
  Books.column_map (t := .tags) (f := Tag.row) rfl fun _ => rfl

theorem column_transactions_id :
    L.books.column "transactions" "id" = L.transactions.map (·.id.text) :=
  Books.column_map (t := .transactions) (f := Transaction.row) rfl fun _ => rfl

theorem column_transactions_account :
    L.books.column "transactions" "account_id" = L.transactions.map (·.account.text) :=
  Books.column_map (t := .transactions) (f := Transaction.row) rfl fun _ => rfl

theorem column_transactions_currency :
    L.books.column "transactions" "currency" = L.transactions.map (·.currency.code) :=
  Books.column_map (t := .transactions) (f := Transaction.row) rfl fun _ => rfl

theorem column_expenditures_id :
    L.books.column "expenditures" "id" = L.expenditures.map (·.id.text) :=
  Books.column_map (t := .expenditures) (f := Expenditure.row) rfl fun _ => rfl

theorem column_expenditures_category :
    L.books.column "expenditures" "category_id" = L.expenditures.map (·.category.text) :=
  Books.column_map (t := .expenditures) (f := Expenditure.row) rfl fun _ => rfl

theorem column_expenditures_transaction :
    L.books.column "expenditures" "transaction_id" = L.expenditures.map (·.transaction.text) :=
  Books.column_map (t := .expenditures) (f := Expenditure.row) rfl fun _ => rfl

theorem column_ingresses_id : L.books.column "ingresses" "id" = L.ingresses.map (·.id.text) :=
  Books.column_map (t := .ingresses) (f := Ingress.row) rfl fun _ => rfl

theorem column_ingresses_category :
    L.books.column "ingresses" "category_id" = L.ingresses.map (·.category.text) :=
  Books.column_map (t := .ingresses) (f := Ingress.row) rfl fun _ => rfl

theorem column_ingresses_transaction :
    L.books.column "ingresses" "transaction_id" = L.ingresses.map (·.transaction.text) :=
  Books.column_map (t := .ingresses) (f := Ingress.row) rfl fun _ => rfl

theorem column_expenditureTags_target :
    L.books.column "expenditure_tags" "expenditure_id" = L.expenditureTags.map (·.target.text) :=
  Books.column_map (t := .expenditureTags) (f := Link.row) rfl fun _ => rfl

theorem column_expenditureTags_tag :
    L.books.column "expenditure_tags" "tag_id" = L.expenditureTags.map (·.tag.text) :=
  Books.column_map (t := .expenditureTags) (f := Link.row) rfl fun _ => rfl

theorem column_ingressTags_target :
    L.books.column "ingress_tags" "ingress_id" = L.ingressTags.map (·.target.text) :=
  Books.column_map (t := .ingressTags) (f := Link.row) rfl fun _ => rfl

theorem column_ingressTags_tag :
    L.books.column "ingress_tags" "tag_id" = L.ingressTags.map (·.tag.text) :=
  Books.column_map (t := .ingressTags) (f := Link.row) rfl fun _ => rfl

variable {L}

theorem mem_texts {us : List α} {f : α → Uuid} {vs : List β} {g : β → Uuid}
    (h : ∀ u ∈ us, f u ∈ vs.map g) : ∀ s ∈ us.map (f ·|>.text), s ∈ vs.map (g ·|>.text) := by
  intro s hs
  obtain ⟨u, hu, rfl⟩ := List.mem_map.1 hs
  obtain ⟨v, hv, huv⟩ := List.mem_map.1 (h u hu)
  exact List.mem_map.2 ⟨v, hv, congrArg Uuid.text huv⟩

theorem Sound.intact (h : L.Sound) : L.books.Intact := by
  simp only [Books.Intact, ForeignKey.all, List.forall_mem_cons, List.not_mem_nil,
    false_imp_iff, implies_true, and_true, Books.Resolves, Books.refersTo, Books.referable]
  refine ⟨?_, ?_, ?_, ?_, ?_, ?_, ?_, ?_, ?_, ?_, ?_, ?_, ?_, ?_, ?_, ?_, ?_⟩
  case refine_1 =>
    show ∀ s ∈ L.books.column "accounts" "owner_id", s ∈ L.books.column "household_members" "id"
    rw [column_accounts_owner, column_members_id]
    intro s hs
    obtain ⟨a, ha, hs⟩ := List.mem_filterMap.1 hs
    obtain ⟨m, hm, rfl⟩ := Option.map_eq_some_iff.1 hs
    simpa [memberIds] using h.owner_account a ha m hm
  case refine_2 =>
    show ∀ s ∈ L.books.column "accounts" "currency", s ∈ L.books.column "currencies" "code"
    rw [column_accounts_currency]
    exact List.forall_mem_map.2 h.currency_account
  case refine_3 =>
    show ∀ s ∈ L.books.column "transactions" "account_id", s ∈ L.books.column "accounts" "id"
    rw [column_transactions_account, column_accounts_id]
    exact mem_texts h.account_transaction
  case refine_4 =>
    show ∀ s ∈ L.books.column "transactions" "currency", s ∈ L.books.column "currencies" "code"
    rw [column_transactions_currency]
    exact List.forall_mem_map.2 h.currency_transaction
  case refine_5 =>
    show ∀ s ∈ L.books.column "expenditures" "category_id", s ∈ L.books.column "categories" "id"
    rw [column_expenditures_category, column_categories_id]
    exact mem_texts h.category_expenditure
  case refine_6 =>
    show ∀ s ∈ L.books.column "expenditures" "transaction_id",
      s ∈ L.books.column "transactions" "id"
    rw [column_expenditures_transaction, column_transactions_id]
    exact mem_texts h.transaction_expenditure
  case refine_7 =>
    show ∀ s ∈ L.books.column "ingresses" "category_id", s ∈ L.books.column "categories" "id"
    rw [column_ingresses_category, column_categories_id]
    exact mem_texts h.category_ingress
  case refine_8 =>
    show ∀ s ∈ L.books.column "ingresses" "transaction_id", s ∈ L.books.column "transactions" "id"
    rw [column_ingresses_transaction, column_transactions_id]
    exact mem_texts h.transaction_ingress
  case refine_14 =>
    show ∀ s ∈ L.books.column "expenditure_tags" "expenditure_id",
      s ∈ L.books.column "expenditures" "id"
    rw [column_expenditureTags_target, column_expenditures_id]
    exact mem_texts h.target_expenditureTag
  case refine_15 =>
    show ∀ s ∈ L.books.column "expenditure_tags" "tag_id", s ∈ L.books.column "tags" "id"
    rw [column_expenditureTags_tag, column_tags_id]
    exact mem_texts h.tag_expenditureTag
  case refine_16 =>
    show ∀ s ∈ L.books.column "ingress_tags" "ingress_id", s ∈ L.books.column "ingresses" "id"
    rw [column_ingressTags_target, column_ingresses_id]
    exact mem_texts h.target_ingressTag
  case refine_17 =>
    show ∀ s ∈ L.books.column "ingress_tags" "tag_id", s ∈ L.books.column "tags" "id"
    rw [column_ingressTags_tag, column_tags_id]
    exact mem_texts h.tag_ingressTag
  -- transfers and savings goals have no rows
  all_goals exact List.forall_mem_nil _

section Texts

variable {xs : List α} {key : α → Uuid} {id : Uuid} (f : α → ρ) (column : ρ → String)

theorem texts_eq (h : ∀ x, column (f x) = (key x).text) :
    (xs.map f).map column = (xs.map key).map Uuid.text := by
  simp only [List.map_map]
  exact List.map_congr_left fun x _ => h x

theorem mem_texts_iff (h : ∀ x, column (f x) = (key x).text) :
    id.text ∈ (xs.map f).map column ↔ id ∈ xs.map key := by
  rw [texts_eq f column h]
  simp

theorem nodup_texts (h : ∀ x, column (f x) = (key x).text) (hn : (xs.map key).Nodup) :
    ((xs.map f).map column).Nodup := by
  rw [texts_eq f column h]
  exact List.Pairwise.map Uuid.text (fun _ _ hne heq => hne (Uuid.text_injective heq)) hn

end Texts

end Ledger

end Bookkeeping

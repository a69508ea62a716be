import Bookkeeping.Proofs.Ledger.Basic
import Bookkeeping.Proofs.Ledger.Keyed

namespace Bookkeeping

open Keyed

def Account.release (m : Uuid) (a : Account) : Account :=
  if a.owner = some m then { a with owner := none } else a

@[simp] theorem Account.release_id (m : Uuid) (a : Account) : (a.release m).id = a.id := by
  unfold release
  split <;> rfl

@[simp] theorem Account.release_currency (m : Uuid) (a : Account) :
    (a.release m).currency = a.currency := by
  unfold release
  split <;> rfl

@[simp] theorem Account.release_initialBalance (m : Uuid) (a : Account) :
    (a.release m).initialBalance = a.initialBalance := by
  unfold release
  split <;> rfl

@[simp] theorem Account.release_currentBalance (m : Uuid) (a : Account) :
    (a.release m).currentBalance = a.currentBalance := by
  unfold release
  split <;> rfl

@[simp] theorem Account.release_version (m : Uuid) (a : Account) :
    (a.release m).version = a.version := by
  unfold release
  split <;> rfl

theorem Account.mem_owner_release {m o : Uuid} {a : Account} (h : o ∈ (a.release m).owner) :
    o ∈ a.owner ∧ o ≠ m := by
  unfold release at h
  split at h
  · exact absurd h (by simp)
  · rename_i hm
    exact ⟨h, fun ho => hm (ho ▸ h)⟩

namespace Ledger

abbrev Edit := Ledger → Except DomainError Ledger

def enterMember (m : Member) : Edit := fun L =>
  if m.id ∈ L.memberIds then .error .duplicateKey
  else .ok { L with members := L.members ++ [m] }

def enterAccount (a : Account) : Edit := fun L =>
  if ¬a.currency.IsKnown then .error .currencyNotFound
  else if ¬∀ m ∈ a.owner, m ∈ L.memberIds then .error .householdMemberNotFound
  else if a.id ∈ L.accountIds then .error .duplicateKey
  else .ok { L with accounts := L.accounts ++ [a] }

def enterCategory (c : Category) : Edit := fun L =>
  if c.id ∈ L.categoryIds then .error .duplicateKey
  else .ok { L with categories := L.categories ++ [c] }

def enterTag (t : Tag) : Edit := fun L =>
  if t.id ∈ L.tagIds ∨ (t.name.key, t.kind) ∈ L.tagKeys then .error .duplicateKey
  else .ok { L with tags := L.tags ++ [t] }

def enterTransaction (t : Transaction) : Edit := fun L =>
  if ¬t.currency.IsKnown then .error .currencyNotFound
  else if t.account ∉ L.accountIds then .error .accountNotFound
  else if t.id ∈ L.transactionIds then .error .duplicateKey
  else .ok { L with transactions := L.transactions ++ [t] }

def enterExpenditure (e : Expenditure) : Edit := fun L =>
  if e.transaction ∉ L.transactionIds then .error .transactionNotFound
  else if e.category ∉ L.categoryIds then .error .categoryNotFound
  else if e.id ∈ L.expenditureIds ∨ e.transaction ∈ L.expenditures.map (·.transaction) then
    .error .duplicateKey
  else .ok { L with expenditures := L.expenditures ++ [e] }

def enterIngress (i : Ingress) : Edit := fun L =>
  if i.transaction ∉ L.transactionIds then .error .transactionNotFound
  else if i.category ∉ L.categoryIds then .error .categoryNotFound
  else if i.id ∈ L.ingressIds ∨ i.transaction ∈ L.ingresses.map (·.transaction) then
    .error .duplicateKey
  else .ok { L with ingresses := L.ingresses ++ [i] }

def enterExpenditureTag (l : Link) : Edit := fun L =>
  if l.tag ∉ L.tagIds then .error .tagNotFound
  else if l.target ∉ L.expenditureIds then .error .expenditureNotFound
  else if l ∈ L.expenditureTags then .error .duplicateKey
  else .ok { L with expenditureTags := L.expenditureTags ++ [l] }

def enterIngressTag (l : Link) : Edit := fun L =>
  if l.tag ∉ L.tagIds then .error .tagNotFound
  else if l.target ∉ L.ingressIds then .error .ingressNotFound
  else if l ∈ L.ingressTags then .error .duplicateKey
  else .ok { L with ingressTags := L.ingressTags ++ [l] }

def replaceMember (m : Member) : Edit := fun L =>
  if m.id ∈ L.memberIds then .ok { L with members := replace (·.id) m L.members }
  else .error .recordNotFound

def replaceCategory (c : Category) : Edit := fun L =>
  if c.id ∈ L.categoryIds then .ok { L with categories := replace (·.id) c L.categories }
  else .error .recordNotFound

def replaceTag (t : Tag) : Edit := fun L =>
  if t.id ∉ L.tagIds then .error .recordNotFound
  else if ∃ o ∈ L.tags, o.id ≠ t.id ∧ o.name.key = t.name.key ∧ o.kind = t.kind then
    .error .duplicateKey
  else .ok { L with tags := replace (·.id) t L.tags }

def replaceAccount (old new : Account) : Edit := fun L =>
  if ¬new.currency.IsKnown then .error .currencyNotFound
  else if ¬∀ m ∈ new.owner, m ∈ L.memberIds then .error .householdMemberNotFound
  else .ok { L with accounts := replace (·.id) { new with createdAt := old.createdAt } L.accounts }

def strikeMember (id : Uuid) : Edit := fun L =>
  if id ∈ L.memberIds then
    .ok { L with
      members := L.members.filter (·.id != id)
      accounts := L.accounts.map (·.release id) }
  else .error .recordNotFound

def strikeAccount (id : Uuid) : Edit := fun L =>
  if id ∉ L.accountIds then .error .recordNotFound
  else if id ∈ L.transactions.map (·.account) then .error .accountHasTransactions
  else .ok { L with accounts := L.accounts.filter (·.id != id) }

def strikeCategory (id : Uuid) : Edit := fun L =>
  if id ∉ L.categoryIds then .error .recordNotFound
  else if id ∈ L.ingresses.map (·.category) then .error .categoryInUseByIngress
  else if id ∈ L.expenditures.map (·.category) then .error .categoryInUseByExpenditure
  else .ok { L with categories := L.categories.filter (·.id != id) }

def strikeTag (id : Uuid) : Edit := fun L =>
  if id ∉ L.tagIds then .error .recordNotFound
  else if id ∈ L.ingressTags.map (·.tag) ∨ id ∈ L.expenditureTags.map (·.tag) then .error .tagInUse
  else .ok { L with tags := L.tags.filter (·.id != id) }

namespace Sound

variable {L : Ledger} (h : L.Sound)

include h

theorem enterMember {m : Member} (hm : m.id ∉ L.memberIds) :
    Sound { L with members := L.members ++ [m] } :=
  { h with
    nodup_members := nodup_map_append h.nodup_members hm
    owner_account := fun a ha o ho => mem_map_append (h.owner_account a ha o ho) }

theorem enterAccount {a : Account} (hc : a.currency.IsKnown) (ho : ∀ m ∈ a.owner, m ∈ L.memberIds)
    (ha : a.id ∉ L.accountIds) : Sound { L with accounts := L.accounts ++ [a] } :=
  { h with
    nodup_accounts := nodup_map_append h.nodup_accounts ha
    currency_account := forall_mem_concat h.currency_account hc
    owner_account := forall_mem_concat h.owner_account ho
    account_transaction := fun t ht => mem_map_append (h.account_transaction t ht) }

theorem enterCategory {c : Category} (hc : c.id ∉ L.categoryIds) :
    Sound { L with categories := L.categories ++ [c] } :=
  { h with
    nodup_categories := nodup_map_append h.nodup_categories hc
    category_expenditure := fun e he => mem_map_append (h.category_expenditure e he)
    category_ingress := fun i hi => mem_map_append (h.category_ingress i hi) }

theorem enterTag {t : Tag} (ht : t.id ∉ L.tagIds) (hk : (t.name.key, t.kind) ∉ L.tagKeys) :
    Sound { L with tags := L.tags ++ [t] } :=
  { h with
    nodup_tags := nodup_map_append h.nodup_tags ht
    nodup_tagKeys := nodup_map_append h.nodup_tagKeys hk
    tag_expenditureTag := fun l hl => mem_map_append (h.tag_expenditureTag l hl)
    tag_ingressTag := fun l hl => mem_map_append (h.tag_ingressTag l hl) }

theorem enterTransaction {t : Transaction} (hc : t.currency.IsKnown) (ha : t.account ∈ L.accountIds)
    (ht : t.id ∉ L.transactionIds) : Sound { L with transactions := L.transactions ++ [t] } :=
  { h with
    nodup_transactions := nodup_map_append h.nodup_transactions ht
    currency_transaction := forall_mem_concat h.currency_transaction hc
    account_transaction := forall_mem_concat h.account_transaction ha
    transaction_expenditure := fun e he => mem_map_append (h.transaction_expenditure e he)
    transaction_ingress := fun i hi => mem_map_append (h.transaction_ingress i hi) }

theorem enterExpenditure {e : Expenditure} (ht : e.transaction ∈ L.transactionIds)
    (hc : e.category ∈ L.categoryIds) (he : e.id ∉ L.expenditureIds)
    (hs : e.transaction ∉ L.expenditures.map (·.transaction)) :
    Sound { L with expenditures := L.expenditures ++ [e] } :=
  { h with
    nodup_expenditures := nodup_map_append h.nodup_expenditures he
    nodup_spent := nodup_map_append h.nodup_spent hs
    category_expenditure := forall_mem_concat h.category_expenditure hc
    transaction_expenditure :=
      forall_mem_concat h.transaction_expenditure ht
    target_expenditureTag := fun l hl => mem_map_append (h.target_expenditureTag l hl) }

theorem enterIngress {i : Ingress} (ht : i.transaction ∈ L.transactionIds)
    (hc : i.category ∈ L.categoryIds) (hi : i.id ∉ L.ingressIds)
    (hr : i.transaction ∉ L.ingresses.map (·.transaction)) :
    Sound { L with ingresses := L.ingresses ++ [i] } :=
  { h with
    nodup_ingresses := nodup_map_append h.nodup_ingresses hi
    nodup_received := nodup_map_append h.nodup_received hr
    category_ingress := forall_mem_concat h.category_ingress hc
    transaction_ingress := forall_mem_concat h.transaction_ingress ht
    target_ingressTag := fun l hl => mem_map_append (h.target_ingressTag l hl) }

theorem enterExpenditureTag {l : Link} (ht : l.tag ∈ L.tagIds) (he : l.target ∈ L.expenditureIds)
    (hl : l ∉ L.expenditureTags) :
    Sound { L with expenditureTags := L.expenditureTags ++ [l] } :=
  { h with
    nodup_expenditureTags := nodup_append_singleton h.nodup_expenditureTags hl
    target_expenditureTag := forall_mem_concat h.target_expenditureTag he
    tag_expenditureTag := forall_mem_concat h.tag_expenditureTag ht }

theorem enterIngressTag {l : Link} (ht : l.tag ∈ L.tagIds) (hi : l.target ∈ L.ingressIds)
    (hl : l ∉ L.ingressTags) : Sound { L with ingressTags := L.ingressTags ++ [l] } :=
  { h with
    nodup_ingressTags := nodup_append_singleton h.nodup_ingressTags hl
    target_ingressTag := forall_mem_concat h.target_ingressTag hi
    tag_ingressTag := forall_mem_concat h.tag_ingressTag ht }

theorem replaceMember (m : Member) :
    Sound { L with members := replace (·.id) m L.members } :=
  { h with
    nodup_members := nodup_map_key_replace h.nodup_members _
    owner_account := fun a ha o ho => mem_map_key_replace (h.owner_account a ha o ho) _ }

theorem replaceCategory (c : Category) :
    Sound { L with categories := replace (·.id) c L.categories } :=
  { h with
    nodup_categories := nodup_map_key_replace h.nodup_categories _
    category_expenditure := fun e he => mem_map_key_replace (h.category_expenditure e he) _
    category_ingress := fun i hi => mem_map_key_replace (h.category_ingress i hi) _ }

theorem replaceTag {t : Tag}
    (ht : ¬∃ o ∈ L.tags, o.id ≠ t.id ∧ o.name.key = t.name.key ∧ o.kind = t.kind) :
    Sound { L with tags := replace (·.id) t L.tags } :=
  { h with
    nodup_tags := nodup_map_key_replace h.nodup_tags _
    nodup_tagKeys := nodup_map_replace h.nodup_tags h.nodup_tagKeys fun o ho hne heq =>
      ht ⟨o, ho, hne, (Prod.ext_iff.1 heq).1, (Prod.ext_iff.1 heq).2⟩
    tag_expenditureTag := fun l hl => mem_map_key_replace (h.tag_expenditureTag l hl) _
    tag_ingressTag := fun l hl => mem_map_key_replace (h.tag_ingressTag l hl) _ }

theorem replaceAccount {a : Account} (hc : a.currency.IsKnown)
    (ho : ∀ m ∈ a.owner, m ∈ L.memberIds) :
    Sound { L with accounts := replace (·.id) a L.accounts } :=
  { h with
    nodup_accounts := nodup_map_key_replace h.nodup_accounts _
    currency_account := fun b hb =>
      (mem_replace hb).elim (· ▸ hc) fun hb => h.currency_account b hb.1
    owner_account := fun b hb => (mem_replace hb).elim (· ▸ ho) fun hb => h.owner_account b hb.1
    account_transaction := fun t ht => mem_map_key_replace (h.account_transaction t ht) _ }

theorem strikeMember (id : Uuid) :
    Sound { L with
      members := L.members.filter (·.id != id)
      accounts := L.accounts.map (·.release id) } := by
  have hi : (L.accounts.map (·.release id)).map (·.id) = L.accountIds := by
    simp [accountIds, Function.comp_def]
  exact { h with
    nodup_members := h.nodup_members.sublist (List.filter_sublist.map _)
    nodup_accounts := by
      rw [accountIds, hi]
      exact h.nodup_accounts
    currency_account := List.forall_mem_map.2 fun a ha =>
      (a.release_currency id).symm ▸ h.currency_account a ha
    owner_account := List.forall_mem_map.2 fun a ha o ho => by
      obtain ⟨ho, hne⟩ := Account.mem_owner_release ho
      exact mem_map_filter_ne (h.owner_account a ha o ho) hne
    account_transaction := fun t ht => by
      rw [accountIds, hi]
      exact h.account_transaction t ht }

theorem strikeAccount {id : Uuid} (hid : id ∉ L.transactions.map (·.account)) :
    Sound { L with accounts := L.accounts.filter (·.id != id) } :=
  { h with
    nodup_accounts := h.nodup_accounts.sublist (List.filter_sublist.map _)
    currency_account := fun a ha => h.currency_account a (List.mem_of_mem_filter ha)
    owner_account := fun a ha => h.owner_account a (List.mem_of_mem_filter ha)
    account_transaction := fun t ht =>
      mem_map_filter_ne (h.account_transaction t ht) fun heq => hid (List.mem_map.2 ⟨t, ht, heq⟩) }

theorem strikeCategory {id : Uuid} (hi : id ∉ L.ingresses.map (·.category))
    (he : id ∉ L.expenditures.map (·.category)) :
    Sound { L with categories := L.categories.filter (·.id != id) } :=
  { h with
    nodup_categories := h.nodup_categories.sublist (List.filter_sublist.map _)
    category_expenditure := fun e hmem =>
      mem_map_filter_ne (h.category_expenditure e hmem) fun heq =>
        he (List.mem_map.2 ⟨e, hmem, heq⟩)
    category_ingress := fun i hmem =>
      mem_map_filter_ne (h.category_ingress i hmem) fun heq => hi (List.mem_map.2 ⟨i, hmem, heq⟩) }

theorem strikeTag {id : Uuid} (hi : id ∉ L.ingressTags.map (·.tag))
    (he : id ∉ L.expenditureTags.map (·.tag)) :
    Sound { L with tags := L.tags.filter (·.id != id) } :=
  { h with
    nodup_tags := h.nodup_tags.sublist (List.filter_sublist.map _)
    nodup_tagKeys := h.nodup_tagKeys.sublist (List.filter_sublist.map _)
    tag_expenditureTag := fun l hl =>
      mem_map_filter_ne (h.tag_expenditureTag l hl) fun heq => he (List.mem_map.2 ⟨l, hl, heq⟩)
    tag_ingressTag := fun l hl =>
      mem_map_filter_ne (h.tag_ingressTag l hl) fun heq => hi (List.mem_map.2 ⟨l, hl, heq⟩) }

end Sound

end Ledger

end Bookkeeping

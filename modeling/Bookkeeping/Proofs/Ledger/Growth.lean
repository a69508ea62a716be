import Bookkeeping.Proofs.Ledger.Command
import Bookkeeping.Proofs.Ledger.Keyed

namespace Bookkeeping

namespace Command

def generated (c : Command) (o : Occasion) : List Uuid :=
  match c with
  | .createMember _ | .createAccount _ | .createCategory _ | .createTag _ => [o.id]
  | .createExpenditure _ | .createIngress _ => [o.transactionId, o.id]
  | _ => []

def generatedIn (steps : List (Command × Occasion)) : List Uuid :=
  steps.flatMap fun (c, o) => c.generated o

def updated : Command → Option Uuid
  | .activateAccount id | .deactivateAccount id | .renameAccount id _ => some id
  | .createExpenditure cmd => some cmd.account
  | .createIngress cmd => some cmd.account
  | _ => none

end Command

namespace Ledger

def ids (L : Ledger) : List Uuid :=
  L.memberIds ++ (L.accountIds ++ (L.categoryIds ++ (L.tagIds ++ (L.transactionIds ++
    (L.expenditureIds ++ L.ingressIds)))))

/-- A ledger grew: each identifier was there or is one of `ids`, and each account that was there
kept its version, except that `updated` may have got the next one. -/
structure Grown (ids : List Uuid) (updated : Option Uuid) (L L' : Ledger) : Prop where
  members : ∀ id ∈ L'.memberIds, id ∈ L.memberIds ∨ id ∈ ids
  categories : ∀ id ∈ L'.categoryIds, id ∈ L.categoryIds ∨ id ∈ ids
  tags : ∀ id ∈ L'.tagIds, id ∈ L.tagIds ∨ id ∈ ids
  transactions : ∀ id ∈ L'.transactionIds, id ∈ L.transactionIds ∨ id ∈ ids
  expenditures : ∀ id ∈ L'.expenditureIds, id ∈ L.expenditureIds ∨ id ∈ ids
  ingresses : ∀ id ∈ L'.ingressIds, id ∈ L.ingressIds ∨ id ∈ ids
  accounts : ∀ a ∈ L'.accounts, (a.id ∈ ids ∧ a.version = 0) ∨ ∃ old ∈ L.accounts, old.id = a.id ∧
    (a.version = old.version ∨ updated = some a.id ∧ a.version = old.version + 1)

namespace Grown

variable {ids : List Uuid} {updated : Option Uuid} {L L' : Ledger}

theorem refl (ids : List Uuid) (updated : Option Uuid) (L : Ledger) : Grown ids updated L L where
  members _ h := .inl h
  categories _ h := .inl h
  tags _ h := .inl h
  transactions _ h := .inl h
  expenditures _ h := .inl h
  ingresses _ h := .inl h
  accounts a ha := .inr ⟨a, ha, rfl, .inl rfl⟩

theorem mem_ids (h : Grown ids updated L L') {id : Uuid} (hid : id ∈ L'.ids) :
    id ∈ L.ids ∨ id ∈ ids := by
  have haccounts : id ∈ L'.accountIds → id ∈ L.accountIds ∨ id ∈ ids := by
    intro hid
    obtain ⟨a, ha, rfl⟩ := List.mem_map.1 hid
    rcases h.accounts a ha with ⟨hids, -⟩ | ⟨old, hold, hold_id, -⟩
    · exact .inr hids
    · exact .inl (hold_id ▸ List.mem_map_of_mem hold)
  simp only [Ledger.ids, List.mem_append] at hid ⊢
  grind [h.members id, h.categories id, h.tags id, h.transactions id, h.expenditures id,
    h.ingresses id]

end Grown

theorem mem_ids_append {key : α → Uuid} {as : List α} {a : α} {id : Uuid} {ids : List Uuid}
    (ha : key a ∈ ids) (h : id ∈ (as ++ [a]).map key) : id ∈ as.map key ∨ id ∈ ids := by
  rw [List.map_append, List.mem_append, List.map_singleton, List.mem_singleton] at h
  exact h.imp_right fun (h : id = key a) => h ▸ ha

end Ledger

end Bookkeeping

import Bookkeeping.Proofs.Row.Entities

namespace Bookkeeping

def Decodes (x : Except InfraError α) : Prop := ∀ e, x = .error e → ∃ m, e = .decode m

namespace Decodes

theorem ok (a : α) : Decodes (.ok a) := nofun

theorem bind {x : Except InfraError α} {f : α → Except InfraError β} (hx : Decodes x)
    (hf : ∀ a, Decodes (f a)) : Decodes (x >>= f) := by
  cases x with
  | ok a => exact hf a
  | error e =>
    intro e' h
    cases h
    exact hx e rfl

theorem mapM {f : α → Except InfraError β} (hf : ∀ a, Decodes (f a)) (as : List α) :
    Decodes (as.mapM f) := by
  induction as with
  | nil => exact ok []
  | cons a as ih =>
    rw [List.mapM_cons]
    exact (hf a).bind fun b => ih.bind fun bs => ok (b :: bs)

end Decodes

theorem Read.decodes {table : String} {r : Record} {P : α → Prop} {fields : List Field}
    {x : Except InfraError α} (h : Read table r P fields x) : Decodes x := by
  intro e he
  obtain ⟨_, _, _, _, -, -, -, -, rfl⟩ := h.of_error he
  exact ⟨_, rfl⟩

theorem Member.decodes (r : MemberRow) : Decodes (Member.ofRow r) :=
  (Entity.read .member r).decodes

theorem Account.decodes (r : AccountRow) : Decodes (Account.ofRow r) :=
  (Entity.read .account r).decodes

theorem Category.decodes (r : CategoryRow) : Decodes (Category.ofRow r) :=
  (Entity.read .category r).decodes

theorem Tag.decodes (r : TagRow) : Decodes (Tag.ofRow r) :=
  (Entity.read .tag r).decodes

theorem Transaction.decodes (r : TransactionRow) : Decodes (Transaction.ofRow r) :=
  (Entity.read .transaction r).decodes

theorem Expenditure.decodes (r : ExpenditureRow) : Decodes (Expenditure.ofRow r) :=
  (Entity.read .expenditure r).decodes

theorem Ingress.decodes (r : IngressRow) : Decodes (Ingress.ofRow r) :=
  (Entity.read .ingress r).decodes

end Bookkeeping

import Bookkeeping.Proofs.Clients.Basic
import Bookkeeping.Proofs.Ledger.Outcome

namespace Bookkeeping

structure Account.Agrees (a b : Account) : Prop where
  id : a.id = b.id
  name : a.name = b.name
  kind : a.kind = b.kind
  currency : a.currency = b.currency
  initialBalance : a.initialBalance = b.initialBalance
  currentBalance : a.currentBalance = b.currentBalance
  active : a.active = b.active
  createdAt : a.createdAt = b.createdAt

namespace Account.Agrees

variable {a b c : Account}

theorem refl (a : Account) : a.Agrees a := ⟨rfl, rfl, rfl, rfl, rfl, rfl, rfl, rfl⟩

theorem symm (h : a.Agrees b) : b.Agrees a :=
  ⟨h.id.symm, h.name.symm, h.kind.symm, h.currency.symm, h.initialBalance.symm,
    h.currentBalance.symm, h.active.symm, h.createdAt.symm⟩

theorem trans (h : a.Agrees b) (h' : b.Agrees c) : a.Agrees c :=
  ⟨h.id.trans h'.id, h.name.trans h'.name, h.kind.trans h'.kind, h.currency.trans h'.currency,
    h.initialBalance.trans h'.initialBalance, h.currentBalance.trans h'.currentBalance,
    h.active.trans h'.active, h.createdAt.trans h'.createdAt⟩

theorem release (m : Uuid) (a : Account) : (a.release m).Agrees a := by
  rw [Account.release]
  split <;> exact ⟨rfl, rfl, rfl, rfl, rfl, rfl, rfl, rfl⟩

end Account.Agrees

namespace Change

open Account (Agrees)

variable {c : Change} {cs ds : List Change} {a a' b : Account}

theorem toOption_eq_some {x : Except ε α} {y : α} : x.toOption = some y ↔ x = .ok y := by
  cases x <;> simp [Except.toOption]

theorem result?_debit {m : Money} : (debit m).result? a = some b ↔
    ∃ n : Money, n.minor = a.currentBalance.minor - m.minor ∧ { a with currentBalance := n } = b :=
  toOption_eq_some.trans Ledger.debit_ok

theorem result?_credit {m : Money} : (credit m).result? a = some b ↔
    ∃ n : Money, n.minor = a.currentBalance.minor + m.minor ∧ { a with currentBalance := n } = b :=
  toOption_eq_some.trans Ledger.credit_ok

theorem result?_rename {name : String} {now : Instant} : (rename name now).result? a = some b ↔
    ∃ n, Text.tidy? name = some n ∧ { a with name := n, updatedAt := now } = b :=
  toOption_eq_some.trans Ledger.rename_ok

theorem result?_activate {now : Instant} : (activate now).result? a = some b ↔
    a.active = false ∧ { a with active := true, updatedAt := now } = b :=
  toOption_eq_some.trans Ledger.activate_ok

theorem result?_deactivate {now : Instant} : (deactivate now).result? a = some b ↔
    a.active = true ∧ { a with active := false, updatedAt := now } = b :=
  toOption_eq_some.trans Ledger.deactivate_ok

theorem result?_agrees (h : a.Agrees b) (ha : c.result? a = some a') :
    ∃ b', c.result? b = some b' ∧ a'.Agrees b' := by
  cases c with
  | debit m =>
    obtain ⟨n, hn, rfl⟩ := result?_debit.1 ha
    exact ⟨_, result?_debit.2 ⟨n, h.currentBalance ▸ hn, rfl⟩, { h with currentBalance := rfl }⟩
  | credit m =>
    obtain ⟨n, hn, rfl⟩ := result?_credit.1 ha
    exact ⟨_, result?_credit.2 ⟨n, h.currentBalance ▸ hn, rfl⟩, { h with currentBalance := rfl }⟩
  | rename name now =>
    obtain ⟨n, hn, rfl⟩ := result?_rename.1 ha
    exact ⟨_, result?_rename.2 ⟨n, hn, rfl⟩, { h with name := rfl }⟩
  | activate now =>
    obtain ⟨hn, rfl⟩ := result?_activate.1 ha
    exact ⟨_, result?_activate.2 ⟨h.active ▸ hn, rfl⟩, { h with active := rfl }⟩
  | deactivate now =>
    obtain ⟨hn, rfl⟩ := result?_deactivate.1 ha
    exact ⟨_, result?_deactivate.2 ⟨h.active ▸ hn, rfl⟩, { h with active := rfl }⟩

theorem result?_keeps (h : c.result? a = some b) :
    b.id = a.id ∧ b.currency = a.currency ∧ b.createdAt = a.createdAt ∧ b.version = a.version ∧
      b.owner = a.owner := by
  cases c with
  | debit m =>
    obtain ⟨_, -, rfl⟩ := result?_debit.1 h
    exact ⟨rfl, rfl, rfl, rfl, rfl⟩
  | credit m =>
    obtain ⟨_, -, rfl⟩ := result?_credit.1 h
    exact ⟨rfl, rfl, rfl, rfl, rfl⟩
  | rename name now =>
    obtain ⟨_, -, rfl⟩ := result?_rename.1 h
    exact ⟨rfl, rfl, rfl, rfl, rfl⟩
  | activate now =>
    obtain ⟨-, rfl⟩ := result?_activate.1 h
    exact ⟨rfl, rfl, rfl, rfl, rfl⟩
  | deactivate now =>
    obtain ⟨-, rfl⟩ := result?_deactivate.1 h
    exact ⟨rfl, rfl, rfl, rfl, rfl⟩

theorem replay?_append : replay? (cs ++ ds) a = (replay? cs a).bind (replay? ds) :=
  List.foldlM_append

theorem replay?_agrees (h : a.Agrees b) (ha : replay? cs a = some a') :
    ∃ b', replay? cs b = some b' ∧ a'.Agrees b' := by
  induction cs generalizing a b with
  | nil =>
    cases ha
    exact ⟨b, rfl, h⟩
  | cons c cs ih =>
    rw [replay?, List.foldlM_cons] at ha
    obtain ⟨a₁, ha₁, ha⟩ := Option.bind_eq_some_iff.1 ha
    obtain ⟨b₁, hb₁, h₁⟩ := result?_agrees h ha₁
    obtain ⟨b', hb', h'⟩ := ih h₁ ha
    refine ⟨b', ?_, h'⟩
    rw [replay?, List.foldlM_cons, hb₁]
    exact hb'

theorem replay?_keeps (h : replay? cs a = some b) :
    b.currency = a.currency ∧ b.createdAt = a.createdAt := by
  induction cs generalizing a with
  | nil =>
    cases h
    exact ⟨rfl, rfl⟩
  | cons c cs ih =>
    rw [replay?, List.foldlM_cons] at h
    obtain ⟨a₁, ha₁, h⟩ := Option.bind_eq_some_iff.1 h
    obtain ⟨-, hc, ht, -, -⟩ := result?_keeps ha₁
    obtain ⟨hc', ht'⟩ := ih h
    exact ⟨hc'.trans hc, ht'.trans ht⟩

end Change

end Bookkeeping

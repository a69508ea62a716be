import Bookkeeping.Proofs.Ledger.Command
import Bookkeeping.Proofs.Ledger.Outcome

namespace Bookkeeping

structure Condition where
  holds : Bool
  error : DomainError
  deriving DecidableEq, Repr

def Condition.firstBroken (cs : List Condition) : Option DomainError :=
  cs.findSome? fun c => if c.holds then none else some c.error

namespace Spending

def tagConditions (b : Books) (kind : TagKind) (id : Uuid) : List Condition := [
  ⟨b.tags.any (·.id == id.text), .tagNotFound⟩,
  ⟨b.tags.any fun t => t.id == id.text && t.kind == kind.code, .tagTypeMismatch⟩]

/-- What has to hold for money to be spent, in the order in which it is checked. -/
def conditions (cmd : NewExpenditure) (b : Books) : List Condition :=
  [⟨0 < cmd.amount.minor, .invalidAmount⟩,
    ⟨b.accounts.any (·.id == cmd.account.text), .accountNotFound⟩,
    ⟨b.accounts.any fun a => a.id == cmd.account.text && a.active, .accountInactive⟩,
    ⟨b.categories.any (·.id == cmd.category.text), .categoryNotFound⟩,
    ⟨b.categories.any fun c => c.id == cmd.category.text && c.active, .categoryInactive⟩,
    ⟨b.accounts.any fun a => a.id == cmd.account.text && a.currency == cmd.currency.code,
      .currencyMismatch⟩,
    ⟨b.accounts.any fun a =>
        a.id == cmd.account.text && cmd.amount.minor ≤ a.currentBalance.minor,
      .insufficientBalance⟩]
    ++ cmd.tags.flatMap (tagConditions b .expenditure)

def payment (cmd : NewExpenditure) (o : Occasion) (amount balance : Money) : Transaction where
  id := o.transactionId
  account := cmd.account
  amount := amount
  currency := cmd.currency
  date := cmd.date
  description := cmd.description
  kind := .expenditure
  balanceAfter := balance
  status := .completed
  createdAt := o.now
  updatedAt := o.now

def explanation (cmd : NewExpenditure) (o : Occasion) : Expenditure where
  id := o.id
  category := cmd.category
  transaction := o.transactionId
  declared := cmd.declared
  planned := cmd.planned
  createdAt := o.now
  updatedAt := o.now

/-- What spending does to the books, and what it tells of it. -/
structure Spent (cmd : NewExpenditure) (o : Occasion) (b b' : Books) (d : Detail Expenditure)
    (old : AccountRow) (amount balance : Money) (links : List LinkRow) : Prop where
  mem : old ∈ b.accounts
  account : old.id = cmd.account.text
  currency : old.currency = cmd.currency.code
  amount_eq : amount.minor = -cmd.amount.minor
  balance_eq : balance.minor = old.currentBalance.minor - cmd.amount.minor
  transaction : d.transaction = payment cmd o amount balance
  record : d.record = explanation cmd o
  category : d.category.row ∈ b.categories ∧ d.category.id = cmd.category
  tags : ∀ t ∈ d.tags, t.row ∈ b.tags ∧ t.kind = .expenditure
  mem_tags : ∀ id, id ∈ d.tags.map (·.id) ↔ id ∈ cmd.tags
  nodup_tags : (d.tags.map (·.id)).Nodup
  mem_links : ∀ l, l ∈ links ↔ ∃ tag ∈ cmd.tags, l = ⟨o.id.text, tag.text⟩
  nodup_links : links.Nodup
  books : b' = { b with
    accounts := Keyed.replace (·.id) { old with
      currentBalance := balance
      version := old.version + 1
      updatedAt := o.savedAt } b.accounts
    transactions := b.transactions ++ [d.transaction.row]
    expenditures := b.expenditures ++ [d.record.row]
    expenditureTags := b.expenditureTags ++ links }

end Spending

namespace Ledger.Step

open Condition (firstBroken)

/-- A step that refuses what breaks a condition, with the error of the first one; else it ends as
`P` says. -/
def Checks (m : Step α) (cs : List Condition) (L : Ledger) (P : α → Ledger → Prop) : Prop :=
  match firstBroken cs with
  | some e => m L = .error (.domain e)
  | none => ∃ a L', m L = .ok (a, L') ∧ P a L'

namespace Checks

variable {m : Step α} {c : Condition} {cs ds : List Condition} {L L' : Ledger}
  {P Q : α → Ledger → Prop} {a : α}

theorem done (h : m L = .ok (a, L')) (ha : P a L') : Checks m [] L P := ⟨a, L', h, ha⟩

theorem broken (hc : c.holds = false) (h : m L = .error (.domain c.error)) :
    Checks m (c :: cs) L P := by
  rwa [Checks, firstBroken, List.findSome?_cons, hc]

theorem kept (hc : c.holds = true) (h : Checks m cs L P) : Checks m (c :: cs) L P := by
  rwa [Checks, firstBroken, List.findSome?_cons, hc]

theorem of_ok (hm : Checks m cs L P) (h : m L = .ok (a, L')) : P a L' := by
  rw [Checks] at hm
  cases hb : firstBroken cs with
  | some e =>
    rw [hb, h] at hm
    cases hm
  | none =>
    rw [hb, h] at hm
    obtain ⟨_, _, heq, hP⟩ := hm
    cases heq
    exact hP

theorem imp (h : Checks m cs L P) (hPQ : ∀ a L', P a L' → Q a L') : Checks m cs L Q := by
  rw [Checks] at h ⊢
  cases hb : firstBroken cs with
  | some e =>
    rw [hb] at h
    exact h
  | none =>
    rw [hb] at h
    obtain ⟨a, L', h, ha⟩ := h
    exact ⟨a, L', h, hPQ a L' ha⟩

theorem bind {f : α → Step β} {R : β → Ledger → Prop} (hm : Checks m cs L P)
    (hf : ∀ a L', P a L' → Checks (f a) ds L' R) : Checks (m >>= f) (cs ++ ds) L R := by
  have happend : firstBroken (cs ++ ds) = (firstBroken cs).or (firstBroken ds) :=
    List.findSome?_append
  rw [Checks] at hm ⊢
  rw [Step.bind_apply, happend]
  cases hb : firstBroken cs with
  | some e =>
    rw [hb] at hm
    rw [hm]
    rfl
  | none =>
    rw [hb] at hm
    obtain ⟨a, L', hm, ha⟩ := hm
    rw [hm]
    exact hf a L' ha

theorem after {f : α → Step β} {R : β → Ledger → Prop} (hm : m L = .ok (a, L'))
    (hf : Checks (f a) cs L' R) : Checks (m >>= f) cs L R := by
  rw [Checks, Step.bind_apply, hm]
  exact hf

theorem refuse_if {p : Prop} [Decidable p] {f : β → Step α} (hc : c.holds = !decide p)
    (h : ¬p → Checks m cs L P) :
    Checks (if p then refuse c.error >>= f else m) (c :: cs) L P := by
  by_cases hp : p
  · rw [if_pos hp]
    exact .broken (by simp [hc, hp]) rfl
  · rw [if_neg hp]
    exact .kept (by simp [hc, hp]) (h hp)

end Checks

end Ledger.Step

end Bookkeeping

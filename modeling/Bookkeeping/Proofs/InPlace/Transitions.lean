import Bookkeeping.Proofs.Clients.Changes
import Bookkeeping.Proofs.InPlace.Activity

namespace Bookkeeping

open InPlace (accepted after ofOverflow update Strict)

namespace Account

def debitInPlace (amount : Money) : InPlace Account Unit := do
  let balance ← ofOverflow ((← get).currentBalance.sub amount)
  modify ({ · with currentBalance := balance })

def creditInPlace (amount : Money) : InPlace Account Unit := do
  match (← get).currentBalance.checkedAdd amount with
  | some balance => modify ({ · with currentBalance := balance })
  | none => throw (.domain .balanceOverflow)

def renameInPlace (name : String) (now : Instant) : InPlace Account Unit := do
  match Text.tidy? name with
  | some name => modify ({ · with name })
  | none => throw (.domain .accountNameEmpty)
  modify ({ · with updatedAt := now })

end Account

namespace Change

def call : Change → InPlace Account Unit
  | debit amount => Account.debitInPlace amount
  | credit amount => Account.creditInPlace amount
  | rename name now => Account.renameInPlace name now
  | activate now => Account.toggle ⟨true, now⟩
  | deactivate now => Account.toggle ⟨false, now⟩

def result : Change → Account → Except Fault Account
  | debit amount, a => (a.debit amount).mapError .overflow
  | credit amount, a => (a.credit amount).mapError .domain
  | rename name now, a => (a.rename name now).mapError .domain
  | activate now, a => (a.activate now).mapError .domain
  | deactivate now, a => (a.deactivate now).mapError .domain

theorem call_eq (c : Change) : c.call = update c.result := by
  funext a
  cases c with
  | debit amount =>
    rw [call, Account.debitInPlace, update, result, Account.debit,
      InPlace.bind_get]
    cases a.currentBalance.sub amount <;> rfl
  | credit amount =>
    rw [call, Account.creditInPlace, update, result, Account.credit,
      InPlace.bind_get]
    cases a.currentBalance.checkedAdd amount <;> rfl
  | rename name now =>
    rw [call, Account.renameInPlace, update, result, Account.rename]
    cases Text.tidy? name <;> rfl
  | activate now => exact congrFun (Account.toggle_eq ⟨true, now⟩) a
  | deactivate now => exact congrFun (Account.toggle_eq ⟨false, now⟩) a

theorem result_ok {c : Change} {a b : Account} : c.result a = .ok b ↔ c.result? a = some b := by
  have hmap {ε : Type} (f : ε → Fault) (x : Except ε Account) :
      x.mapError f = .ok b ↔ x.toOption = some b := by
    cases x <;> simp [Except.mapError, Except.toOption]
  cases c <;> exact hmap _ _

theorem call_ok {c : Change} {a b : Account} : c.call a = (.ok (), b) ↔ c.result? a = some b := by
  rw [call_eq, InPlace.update_ok, result_ok]

def toggle? : Change → Option Bool
  | activate _ => some true
  | deactivate _ => some false
  | _ => none

theorem result?_active {c : Change} {a b : Account} (hc : c.toggle? = none)
    (h : c.result? a = some b) : b.active = a.active := by
  cases c with
  | debit amount =>
    obtain ⟨_, -, rfl⟩ := result?_debit.1 h
    rfl
  | credit amount =>
    obtain ⟨_, -, rfl⟩ := result?_credit.1 h
    rfl
  | rename name now =>
    obtain ⟨_, -, rfl⟩ := result?_rename.1 h
    rfl
  | activate now => cases hc
  | deactivate now => cases hc

theorem switches_call : Switches call (·.active) toggle? where
  accepts c on ht a := by
    cases c with
    | activate now =>
      cases ht
      exact Account.switches_toggle.accepts ⟨true, now⟩ true rfl a
    | deactivate now =>
      cases ht
      exact Account.switches_toggle.accepts ⟨false, now⟩ false rfl a
    | _ => cases ht
  turned c on ht a := by
    cases c with
    | activate now =>
      cases ht
      exact Account.switches_toggle.turned ⟨true, now⟩ true rfl a
    | deactivate now =>
      cases ht
      exact Account.switches_toggle.turned ⟨false, now⟩ false rfl a
    | _ => cases ht
  others c ht a := by
    rw [call_eq, update]
    cases hr : c.result a with
    | error e => rfl
    | ok b => exact result?_active ht (result_ok.1 hr)

theorem credit_debit {amount : Money} {a b : Account} (h : (debit amount).call a = (.ok (), b)) :
    (credit amount).call b = (.ok (), a) := by
  obtain ⟨m, hm, rfl⟩ := result?_debit.1 (call_ok.1 h)
  refine call_ok.2 (result?_credit.2 ⟨a.currentBalance, ?_, rfl⟩)
  show a.currentBalance.minor = m.minor + amount.minor
  omega

end Change

structure Settlement where
  next : TransactionStatus
  now : Instant
  deriving DecidableEq, Repr

namespace Transaction

def settle (c : Settlement) : InPlace Transaction Unit := do
  if !(← get).status.canBecome c.next then throw (.domain .invalidStatusTransition)
  modify ({ · with status := c.next })
  modify ({ · with updatedAt := c.now })

def settled (c : Settlement) (t : Transaction) : Except Fault Transaction :=
  (t.transition c.next c.now).mapError .domain

theorem settle_eq (c : Settlement) : settle c = update (settled c) := by
  funext t
  rw [settle, InPlace.bind_get, update, settled, transition]
  cases t.status.canBecome c.next <;> rfl

theorem settled_ok {c : Settlement} {t t' : Transaction} : settled c t = .ok t' ↔
    (t.status = .pending ∧ c.next ≠ .pending) ∧
      { t with status := c.next, updatedAt := c.now } = t' := by
  rw [settled, transition, ← TransactionStatus.canBecome_iff]
  cases t.status.canBecome c.next <;> simp [Except.mapError]

theorem settle_ok {c : Settlement} {t t' : Transaction} : settle c t = (.ok (), t') ↔
    (t.status = .pending ∧ c.next ≠ .pending) ∧
      { t with status := c.next, updatedAt := c.now } = t' := by
  rw [settle_eq, InPlace.update_ok, settled_ok]

theorem settle_error {c : Settlement} {t t' : Transaction} {e : Fault}
    (h : settle c t = (.error e, t')) : ¬(t.status = .pending ∧ c.next ≠ .pending) ∧ t' = t := by
  constructor
  · intro hc
    rw [settle_ok.2 ⟨hc, rfl⟩] at h
    cases h
  · exact InPlace.eq_of_error (fun c => settle_eq c ▸ InPlace.traceless_update _) h

theorem accepted_settle_of_final {t : Transaction} (h : t.status ≠ .pending)
    (cs : List Settlement) : accepted settle cs t = [] := by
  induction cs with
  | nil => rfl
  | cons c cs ih =>
    rcases hc : settle c t with ⟨e | ⟨⟩, t'⟩
    · obtain ⟨-, rfl⟩ := settle_error hc
      rw [InPlace.accepted_of_error hc, ih]
    · exact absurd (settle_ok.1 hc).1.1 h

theorem accepted_settle {t : Transaction} (h : t.status = .pending) (cs : List Settlement) :
    accepted settle cs t = (cs.find? (·.next != .pending)).toList := by
  induction cs with
  | nil => rfl
  | cons c cs ih =>
    rcases hc : settle c t with ⟨e | ⟨⟩, t'⟩
    · obtain ⟨hrefused, rfl⟩ := settle_error hc
      have hnext : c.next = .pending := by
        by_contra hne
        exact hrefused ⟨h, hne⟩
      rw [InPlace.accepted_of_error hc, ih, List.find?_cons_of_neg (by simp [hnext])]
    · obtain ⟨⟨-, hnext⟩, rfl⟩ := settle_ok.1 hc
      rw [InPlace.accepted_of_ok hc, accepted_settle_of_final hnext,
        List.find?_cons_of_pos (by simpa using hnext)]
      rfl

theorem settle_others (c : Settlement) (t : Transaction) :
    { (settle c t).2 with status := t.status, updatedAt := t.updatedAt } = t := by
  rcases hc : settle c t with ⟨e | ⟨⟩, t'⟩
  · obtain ⟨-, rfl⟩ := settle_error hc
    rfl
  · obtain ⟨-, rfl⟩ := settle_ok.1 hc
    rfl

theorem after_settle_others (cs : List Settlement) (t : Transaction) :
    { after settle cs t with status := t.status, updatedAt := t.updatedAt } = t := by
  induction cs generalizing t with
  | nil => rfl
  | cons c cs ih =>
    have hlater := ih (settle c t).2
    have hnow := settle_others c t
    rw [← hlater] at hnow
    exact hnow

/-- Over its life, a transaction takes one turn at most: the first that is asked for while it is
pending. -/
structure SettlesOnce (cs : List Settlement) (t : Transaction) : Prop where
  once : (accepted settle cs t).length ≤ 1
  pending : accepted settle cs t ≠ [] → t.status = .pending
  first : t.status = .pending → accepted settle cs t = (cs.find? (·.next != .pending)).toList
  others : { after settle cs t with status := t.status, updatedAt := t.updatedAt } = t

theorem settlesOnce (cs : List Settlement) (t : Transaction) : SettlesOnce cs t where
  once := by
    by_cases h : t.status = .pending
    · rw [accepted_settle h]
      cases cs.find? (·.next != .pending) <;> simp
    · rw [accepted_settle_of_final h]
      exact Nat.zero_le 1
  pending hne := by
    by_contra h
    exact hne (accepted_settle_of_final h cs)
  first h := accepted_settle h cs
  others := after_settle_others cs t

end Transaction

/-- A call that is refused changes nothing, so that any history leads where its accepted calls alone
lead. Calls into and out of use are accepted if they change the state, and take turns. A transaction
is settled once, and only while it is pending. Taking an amount out and putting it back is as if
nothing happened. -/
theorem refused_changes_leave_no_trace :
    Strict Change.call Change.result ∧
    Alternates Change.call Account.active Change.toggle? ∧
    Strict Category.toggle Category.toggled ∧
    Alternates Category.toggle Category.active (some ·.on) ∧
    Strict Member.toggle Member.toggled ∧
    Alternates Member.toggle Member.active (some ·.on) ∧
    Strict Transaction.settle Transaction.settled ∧
    (∀ cs t, Transaction.SettlesOnce cs t) ∧
    ∀ amount a b, (Change.debit amount).call a = (.ok (), b) →
      (Change.credit amount).call b = (.ok (), a) :=
  ⟨InPlace.strict Change.call_eq, Change.switches_call.alternates,
    InPlace.strict Category.toggle_eq, Category.switches_toggle.alternates,
    InPlace.strict Member.toggle_eq, Member.switches_toggle.alternates,
    InPlace.strict Transaction.settle_eq, Transaction.settlesOnce,
    fun _ _ _ => Change.credit_debit⟩

end Bookkeeping

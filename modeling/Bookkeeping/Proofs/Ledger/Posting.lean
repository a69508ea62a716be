import Bookkeeping.Proofs.Ledger.Effect

namespace Bookkeeping

def Command.posted : Command → Reply → List Transaction
  | .createExpenditure _, .expenditure d => [d.transaction]
  | .createIngress _, .ingress d => [d.transaction]
  | _, _ => []

namespace Ledger

/-- One way of changing the accounts of a ledger and of posting transactions on them. -/
inductive Posting (L L' : Ledger) : List Transaction → Prop
  | nothing (ha : L'.accounts = L.accounts) (ht : L'.transactions = L.transactions) :
    Posting L L' []
  | opened {a : Account} (hb : a.currentBalance = a.initialBalance) (hid : a.id ∉ L.accountIds)
      (ha : L'.accounts = L.accounts ++ [a]) (ht : L'.transactions = L.transactions) :
    Posting L L' []
  | changed {old : Account} (new : Account) (hold : old ∈ L.accounts) (hid : new.id = old.id)
      (hi : new.initialBalance = old.initialBalance) (hc : new.currentBalance = old.currentBalance)
      (ha : L'.accounts = Keyed.replace (·.id) new L.accounts)
      (ht : L'.transactions = L.transactions) :
    Posting L L' []
  | closed {id : Uuid} (ha : L'.accounts = L.accounts.filter (·.id != id))
      (ht : L'.transactions = L.transactions) :
    Posting L L' []
  | released {m : Uuid} (ha : L'.accounts = L.accounts.map (·.release m))
      (ht : L'.transactions = L.transactions) :
    Posting L L' []
  | moved {old : Account} (new : Account) {t : Transaction} (hold : old ∈ L.accounts)
      (hid : new.id = old.id) (hi : new.initialBalance = old.initialBalance)
      (hto : t.account = old.id)
      (hc : new.currentBalance.minor = old.currentBalance.minor + t.amount.minor)
      (hb : t.balanceAfter = new.currentBalance) (hs : t.status = .completed)
      (ha : L'.accounts = Keyed.replace (·.id) new L.accounts)
      (ht : L'.transactions = L.transactions ++ [t]) :
    Posting L L' [t]

theorem Posting.transactions {L L' : Ledger} {ts : List Transaction} (h : Posting L L' ts) :
    L'.transactions = L.transactions ++ ts := by
  cases h with
  | moved _ _ _ _ _ _ _ _ _ ht => exact ht
  | _ => simpa

variable {L L' : Ledger} {c : Command} {o : Occasion} {r : Reply}

theorem posted_of_looks (hc : c.looks = true) : c.posted r = [] := by
  cases c <;> first | rfl | cases hc

theorem posted_member {m : Member} : c.posted (.member m) = [] := by
  cases c <;> rfl

theorem posted_account {a : Account} : c.posted (.account a) = [] := by
  cases c <;> rfl

theorem posted_category {k : Category} : c.posted (.category k) = [] := by
  cases c <;> rfl

theorem posted_payment (p : Payment) (t : Transaction) (k : Category) (tags : List Tag) :
    p.command.posted ((p.reason o k).reply t k tags) = [t] := by
  cases p <;> rfl

theorem currentBalance_new {cmd : NewAccount} {id : Uuid} {now : Instant} {a : Account}
    (h : Account.new cmd id now = .ok a) : a.currentBalance = a.initialBalance := by
  rw [Account.new] at h
  split at h
  · cases h
  · cases h
    rfl

theorem Effect.posting (h : Effect L o c r L') : Posting L L' (c.posted r) := by
  cases h with
  | looked hc => exact posted_of_looks hc ▸ .nothing rfl rfl
  | memberCreated | categoryCreated | categoryDeleted | tagCreated | tagChanged | tagDeleted =>
    exact .nothing rfl rfl
  | memberChanged => exact posted_member ▸ .nothing rfl rfl
  | categoryChanged => exact posted_category ▸ .nothing rfl rfl
  | memberDeleted => exact .released rfl rfl
  | accountCreated hnew hid => exact .opened (currentBalance_new hnew) hid rfl rfl
  | accountDeleted => exact .closed rfl rfl
  | @accountChanged _ _ old new hc hold hnew =>
    have hkept := accountChange_ok hc hnew
    rw [posted_account]
    have hid : new.id = old.id := by rw [← hkept]
    have hinitial : new.initialBalance = old.initialBalance := by rw [← hkept]
    have hcurrent : new.currentBalance = old.currentBalance := by rw [← hkept]
    exact .changed (new.saved o.savedAt) hold hid hinitial hcurrent rfl rfl
  | @paid p _ b hplan =>
    obtain ⟨a, k, balance, amount, tags, h⟩ := Payment.plan_ok hplan
    have hb := h.booking
    subst hb
    rw [h.reply, posted_payment]
    exact .moved (Account.saved { a with currentBalance := balance } o.savedAt) h.mem rfl rfl rfl
      h.sum rfl rfl (L.book_accounts _) (L.book_transactions _)

theorem perform_posting (hs : L.Sound) (h : perform c o L = .ok (r, L')) :
    Posting L L' (c.posted r) :=
  (perform_effect hs h).posting

end Ledger

end Bookkeeping

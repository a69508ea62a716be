import Bookkeeping.Proofs.Spending.Outcome
import Bookkeeping.Proofs.UnitOfWork.Payments

namespace Bookkeeping

open Ledger (Query Step Edit)

inductive Reason
  | expenditure (e : Expenditure)
  | ingress (i : Ingress)
  deriving DecidableEq, Repr

namespace Reason

def id : Reason → Uuid
  | .expenditure e => e.id
  | .ingress i => i.id

def transaction : Reason → Uuid
  | .expenditure e => e.transaction
  | .ingress i => i.transaction

def category : Reason → Uuid
  | .expenditure e => e.category
  | .ingress i => i.category

def tagKind : Reason → TagKind
  | .expenditure _ => .expenditure
  | .ingress _ => .ingress

def ids : Reason → Ledger → List Uuid
  | .expenditure _ => Ledger.expenditureIds
  | .ingress _ => Ledger.ingressIds

def expenditures : Reason → List Expenditure
  | .expenditure e => [e]
  | .ingress _ => []

def ingresses : Reason → List Ingress
  | .expenditure _ => []
  | .ingress i => [i]

def enter : Reason → Edit
  | .expenditure e => Ledger.enterExpenditure e
  | .ingress i => Ledger.enterIngress i

def enterTag : Reason → Link → Edit
  | .expenditure _ => Ledger.enterExpenditureTag
  | .ingress _ => Ledger.enterIngressTag

def reply (r : Reason) (t : Transaction) (c : Category) (tags : List Tag) : Reply :=
  match r with
  | .expenditure e => .expenditure ⟨e, t, c, tags⟩
  | .ingress i => .ingress ⟨i, t, c, tags⟩

end Reason

/-- What a payment leaves in a ledger: an account in the place of an old one, a transaction on it,
and the record that explains it, with its tags. -/
structure Booking where
  account : Account
  transaction : Transaction
  reason : Reason
  tags : List Uuid
  deriving DecidableEq, Repr

namespace Booking

def expenditureTags (b : Booking) : List Link :=
  b.reason.expenditures.flatMap fun e => b.tags.map (⟨e.id, ·⟩)

def ingressTags (b : Booking) : List Link :=
  b.reason.ingresses.flatMap fun i => b.tags.map (⟨i.id, ·⟩)

end Booking

namespace Ledger

def explained (L : Ledger) (r : Reason) : Ledger :=
  match r with
  | .expenditure e => { L with expenditures := L.expenditures ++ [e] }
  | .ingress i => { L with ingresses := L.ingresses ++ [i] }

def tagged (L : Ledger) (r : Reason) (tags : List Uuid) : Ledger :=
  match r with
  | .expenditure e => { L with expenditureTags := L.expenditureTags ++ tags.map (⟨e.id, ·⟩) }
  | .ingress i => { L with ingressTags := L.ingressTags ++ tags.map (⟨i.id, ·⟩) }

def book (L : Ledger) (b : Booking) : Ledger :=
  (((L.posted b.transaction).withAccount b.account).explained b.reason).tagged b.reason b.tags

section Book

variable (L : Ledger) (b : Booking)

@[simp] theorem book_members : (L.book b).members = L.members := by
  rw [book]
  cases b.reason <;> rfl

@[simp] theorem book_accounts :
    (L.book b).accounts = Keyed.replace (·.id) b.account L.accounts := by
  rw [book]
  cases b.reason <;> rfl

@[simp] theorem book_categories : (L.book b).categories = L.categories := by
  rw [book]
  cases b.reason <;> rfl

@[simp] theorem book_tags : (L.book b).tags = L.tags := by
  rw [book]
  cases b.reason <;> rfl

@[simp] theorem book_transactions :
    (L.book b).transactions = L.transactions ++ [b.transaction] := by
  rw [book]
  cases b.reason <;> rfl

@[simp] theorem book_expenditures :
    (L.book b).expenditures = L.expenditures ++ b.reason.expenditures := by
  rw [book]
  cases b.reason <;> simp [tagged, explained, withAccount, posted, Reason.expenditures]

@[simp] theorem book_ingresses : (L.book b).ingresses = L.ingresses ++ b.reason.ingresses := by
  rw [book]
  cases b.reason <;> simp [tagged, explained, withAccount, posted, Reason.ingresses]

@[simp] theorem book_expenditureTags :
    (L.book b).expenditureTags = L.expenditureTags ++ b.expenditureTags := by
  rw [book, Booking.expenditureTags]
  cases b.reason <;> simp [tagged, explained, withAccount, posted, Reason.expenditures]

@[simp] theorem book_ingressTags :
    (L.book b).ingressTags = L.ingressTags ++ b.ingressTags := by
  rw [book, Booking.ingressTags]
  cases b.reason <;> simp [tagged, explained, withAccount, posted, Reason.ingresses]

end Book

def unused (ids : Ledger → List Uuid) (id : Uuid) : Query Unit := fun L =>
  if id ∈ ids L then .error (.domain .duplicateKey) else .ok ()

theorem unused_ok {L : Ledger} {ids : Ledger → List Uuid} {id : Uuid} {u : Unit} :
    unused ids id L = .ok u ↔ id ∉ ids L := by
  rw [unused]
  by_cases hid : id ∈ ids L <;> simp [hid]

def settle (t : Transaction) (a : Account) (r : Reason) (c : Category) (tags : List Uuid)
    (savedAt : Instant) : Step Reply := do
  Step.edit (enterTransaction t)
  discard (saveAccount a savedAt)
  Step.edit r.enter
  let tags ← Step.ask (resolveTags r.tagKind tags)
  linkTags r.enterTag r.id (tags.map (·.id))
  return r.reply t c tags

def settlement (t : Transaction) (a : Account) (r : Reason) (c : Category) (tags : List Uuid)
    (savedAt : Instant) : Query (Reply × Booking) := do
  unused transactionIds t.id
  let _ ← Query.ofOverflow (Accounts.nextVersion a.version)
  unused r.ids r.id
  let tags ← resolveTags r.tagKind tags
  return (r.reply t c tags, ⟨a.saved savedAt, t, r, Tags.distinct (tags.map (·.id))⟩)

end Ledger

namespace Payment

def movement : Payment → NewMovement
  | .spend cmd => cmd.toNewMovement
  | .receive cmd => cmd

def kind : Payment → TransactionKind
  | .spend _ => .expenditure
  | .receive _ => .ingress

def change : Payment → Int
  | .spend cmd => -cmd.amount.minor
  | .receive cmd => cmd.amount.minor

def moved (p : Payment) (a : Account) : Query (Account × Money) :=
  match p with
  | .spend cmd =>
    if a.covers cmd.amount then do
      let a ← Query.ofOverflow (a.debit cmd.amount)
      let amount ← Query.ofOverflow cmd.amount.neg
      return (a, amount)
    else Query.refuse .insufficientBalance
  | .receive cmd => do
    let a ← Query.ofDomain (a.credit cmd.amount)
    return (a, cmd.amount)

def reason (p : Payment) (o : Occasion) (c : Category) : Reason :=
  match p with
  | .spend cmd => .expenditure (Ledger.expenditureOf cmd o c)
  | .receive _ => .ingress (Ledger.ingressOf o c)

def transaction (p : Payment) (o : Occasion) (a : Account) (amount : Money) : Transaction :=
  UseCase.completed p.movement a amount p.kind o

/-- What a payment is going to answer and to book. -/
def plan (p : Payment) (o : Occasion) : Query (Reply × Booking) := do
  Ledger.ensurePositive p.amount
  let a ← Ledger.activeAccount p.movement.account
  let c ← Ledger.activeCategory p.movement.category
  Ledger.ensureCurrency p.movement.currency a
  let (a, amount) ← p.moved a
  Ledger.settlement (p.transaction o a amount) a (p.reason o c) c p.movement.tags o.savedAt

theorem perform_eq (p : Payment) (o : Occasion) : Ledger.perform p.command o = (do
    Step.ask (Ledger.ensurePositive p.amount)
    let a ← Step.ask (Ledger.activeAccount p.movement.account)
    let c ← Step.ask (Ledger.activeCategory p.movement.category)
    Step.ask (Ledger.ensureCurrency p.movement.currency a)
    let (a, amount) ← Step.ask (p.moved a)
    Ledger.settle (p.transaction o a amount) a (p.reason o c) c p.movement.tags o.savedAt) := by
  have hpure {α : Type} (x : α) : Step.ask (pure x : Query α) = pure x := rfl
  cases p with
  | spend cmd =>
    simp only [command, Ledger.perform, Ledger.createExpenditure, Ledger.spend, map_bind]
    refine bind_congr fun _ => bind_congr fun a => bind_congr fun c => bind_congr fun _ => ?_
    cases hcovers : a.covers cmd.amount with
    | true =>
      simp only [moved, hcovers, Bool.not_true, Bool.false_eq_true, if_false, if_true, map_bind,
        map_pure, Step.ask_bind_eq, bind_assoc, hpure, pure_bind]
      rfl
    | false =>
      simp only [moved, hcovers, Bool.not_false, Bool.false_eq_true, if_false, if_true, map_bind]
      rfl
  | receive cmd =>
    simp only [command, Ledger.perform, Ledger.createIngress, Ledger.receive, map_bind]
    refine bind_congr fun _ => bind_congr fun a => bind_congr fun c => bind_congr fun _ => ?_
    simp only [moved, map_pure, Step.ask_bind_eq, bind_assoc, hpure, pure_bind]
    rfl

end Payment

namespace Ledger

variable {L L' L'' : Ledger}

def Tells (q : Query (Reply × Booking)) (m : Step Reply) (L L' : Ledger) : Prop :=
  m L' = (q L).map fun (r, b) => (r, L.book b)

namespace Tells

variable {x : Query α} {m : Step β} {f : α → Query (Reply × Booking)} {g : β → Step Reply}

theorem stop {e : Fault} (hx : x L = .error e) (hm : m L' = .error e) :
    Tells (x >>= f) (m >>= g) L L' := by
  rw [Tells, Step.bind_apply, hm]
  show _ = Except.map _ ((x L).bind fun a => f a L)
  rw [hx]
  rfl

theorem after {a : α} {b : β} (hx : x L = .ok a) (hm : m L' = .ok (b, L''))
    (h : Tells (f a) (g b) L L'') : Tells (x >>= f) (m >>= g) L L' := by
  rw [Tells, Step.bind_apply, hm]
  show _ = Except.map _ ((x L).bind fun a => f a L)
  rw [hx]
  exact h

theorem ask {g : α → Step Reply} (hx : x L' = x L) (h : ∀ a, x L = .ok a → Tells (f a) (g a) L L') :
    Tells (x >>= f) (Step.ask x >>= g) L L' := by
  cases hok : x L with
  | ok a => exact after hok (Step.ask_ok.2 ⟨hx.trans hok, rfl⟩) (h a hok)
  | error e =>
    refine stop hok ?_
    rw [Step.ask, hx, hok]
    rfl

theorem enter {y : Edit} {ids : Ledger → List Uuid} {id : Uuid} {f : Unit → Query (Reply × Booking)}
    {g : Unit → Step Reply} (hused : id ∈ ids L → y L' = .error .duplicateKey)
    (hnew : id ∉ ids L → y L' = .ok L'') (h : id ∉ ids L → Tells (f ()) (g ()) L L'') :
    Tells (unused ids id >>= f) (Step.edit y >>= g) L L' := by
  by_cases hid : id ∈ ids L
  · refine stop (if_pos hid) ?_
    rw [Step.edit, hused hid]
  · exact after (if_neg hid) (Step.edit_ok.2 (hnew hid)) (h hid)

end Tells

section Settle

variable {t : Transaction} {a : Account} {r : Reason}

theorem enterTransaction_used (hk : t.currency.IsKnown) (ha : t.account ∈ L.accountIds)
    (ht : t.id ∈ L.transactionIds) : enterTransaction t L = .error .duplicateKey := by
  rw [enterTransaction, if_neg (not_not_intro hk), if_neg (not_not_intro ha), if_pos ht]

theorem saveAccount_worn {x : Overflow} (hv : Accounts.nextVersion a.version = .error x)
    (savedAt : Instant) : saveAccount a savedAt L = .error (.overflow x) := by
  rw [saveAccount, Step.ask_bind, hv]
  rfl

theorem enterReason_used (htrans : r.transaction ∈ L.transactionIds)
    (hcategory : r.category ∈ L.categoryIds) (hid : r.id ∈ r.ids L) :
    r.enter L = .error .duplicateKey := by
  cases r with
  | expenditure e =>
    exact (if_neg (not_not_intro htrans)).trans
      ((if_neg (not_not_intro hcategory)).trans (if_pos (.inl hid)))
  | ingress i =>
    exact (if_neg (not_not_intro htrans)).trans
      ((if_neg (not_not_intro hcategory)).trans (if_pos (.inl hid)))

theorem enterReason_of (htrans : r.transaction ∈ L.transactionIds)
    (hcategory : r.category ∈ L.categoryIds) (hid : r.id ∉ r.ids L)
    (hspent : r.transaction ∉ L.expenditures.map (·.transaction))
    (hreceived : r.transaction ∉ L.ingresses.map (·.transaction)) :
    r.enter L = .ok (L.explained r) := by
  cases r with
  | expenditure e => exact enterExpenditure_ok.2 ⟨htrans, hcategory, ⟨hid, hspent⟩, rfl⟩
  | ingress i => exact enterIngress_ok.2 ⟨htrans, hcategory, ⟨hid, hreceived⟩, rfl⟩

theorem linkReason_of (hs : L.Sound) (hid : r.id ∉ r.ids L) {tags : List Uuid}
    (htags : ∀ tag ∈ tags, tag ∈ L.tagIds) : linkTags r.enterTag r.id tags (L.explained r) =
      .ok ((), (L.explained r).tagged r (Tags.distinct tags)) := by
  cases r with
  | expenditure e =>
    refine linkExpenditure_of (L := { L with expenditures := L.expenditures ++ [e] }) ?_ htags ?_
    · exact List.mem_map_of_mem (List.mem_append_right _ List.mem_cons_self)
    · exact fun l hl heq => hid (heq ▸ hs.target_expenditureTag l hl)
  | ingress i =>
    refine linkIngress_of (L := { L with ingresses := L.ingresses ++ [i] }) ?_ htags ?_
    · exact List.mem_map_of_mem (List.mem_append_right _ List.mem_cons_self)
    · exact fun l hl heq => hid (heq ▸ hs.target_ingressTag l hl)

theorem tells_explain (hs : L.Sound) (ht : t.id ∉ L.transactionIds)
    (hs' : ((L.posted t).withAccount a).Sound) (htrans : r.transaction = t.id)
    (hcategory : r.category ∈ L.categoryIds) (c : Category) (tags : List Uuid) :
    Tells (do
      unused r.ids r.id
      let tags ← resolveTags r.tagKind tags
      return (r.reply t c tags, ⟨a, t, r, Tags.distinct (tags.map (·.id))⟩))
    (do
      Step.edit r.enter
      let tags ← Step.ask (resolveTags r.tagKind tags)
      linkTags r.enterTag r.id (tags.map (·.id))
      return r.reply t c tags) L ((L.posted t).withAccount a) := by
  have hposted : r.transaction ∈ ((L.posted t).withAccount a).transactionIds :=
    htrans ▸ List.mem_map_of_mem (List.mem_append_right _ List.mem_cons_self)
  have hids : r.ids ((L.posted t).withAccount a) = r.ids L := by cases r <;> rfl
  have htags : (((L.posted t).withAccount a).explained r).tags = L.tags := by cases r <;> rfl
  have hnew : r.transaction ∉ L.transactionIds := htrans ▸ ht
  refine .enter (fun h => enterReason_used hposted hcategory (hids ▸ h)) (fun h =>
    enterReason_of hposted hcategory (hids ▸ h) (hs.unspent hnew) (hs.unreceived hnew)) fun h => ?_
  refine .ask (resolveTags_congr htags r.tagKind tags) fun tags hresolve => ?_
  rw [Tells, Step.bind_apply,
    linkReason_of hs' (hids ▸ h) (mem_tagIds_of_resolve hs.nodup_tags hresolve)]
  rfl

theorem tells_settle (hs : L.Sound) {old : Account} (hold : old ∈ L.accounts) (hid : old.id = a.id)
    (hv : old.version = a.version) (hopened : old.createdAt = a.createdAt)
    (hk : a.currency.IsKnown) (ho : ∀ m ∈ a.owner, m ∈ L.memberIds) (hto : t.account = a.id)
    (hcurrency : t.currency = a.currency) (htrans : r.transaction = t.id)
    {c : Category} (hcategory : r.category ∈ L.categoryIds) (tags : List Uuid) (savedAt : Instant) :
    Tells (settlement t a r c tags savedAt) (settle t a r c tags savedAt) L L := by
  have hto : t.account ∈ L.accountIds := hto ▸ hid ▸ List.mem_map_of_mem hold
  have hknown : t.currency.IsKnown := hcurrency ▸ hk
  have hpost (ht : t.id ∉ L.transactionIds) : enterTransaction t L = .ok (L.posted t) :=
    enterTransaction_ok.2 ⟨hknown, hto, ht, rfl⟩
  refine .enter (enterTransaction_used hknown hto) hpost fun ht => ?_
  cases hnext : Accounts.nextVersion a.version with
  | error x =>
    have hworn : saveAccount a savedAt (L.posted t) = .error (.overflow x) :=
      saveAccount_worn hnext savedAt
    refine .stop (e := .overflow x) rfl ?_
    show ((fun _ => ()) <$> saveAccount a savedAt) (L.posted t) = _
    rw [map_eq_pure_bind, Step.bind_apply, hworn]
  | ok version =>
    have hlt : a.version < greatestWord := by
      have := (nextVersion_ok.1 hnext).1
      omega
    have hover : a.over old savedAt = a.saved savedAt := by
      rw [Account.over, hopened]
      rfl
    have hsave : saveAccount a savedAt (L.posted t) =
        .ok (a.saved savedAt, (L.posted t).withAccount (a.saved savedAt)) :=
      (saveAccount_of (L := L.posted t) old hs.nodup_accounts hold hid hv hlt hk ho).trans
        (by rw [hover])
    have hs' : ((L.posted t).withAccount (a.saved savedAt)).Sound :=
      (hs.enterTransaction hknown hto ht).replaceAccount (a := a.saved savedAt) hk ho
    exact .after (a := version) (b := ()) rfl (Step.discard_ok.2 ⟨_, hsave⟩)
      (tells_explain hs ht hs' htrans hcategory c tags)

end Settle

end Ledger

namespace Payment

open Ledger (Tells)

variable {L : Ledger} {a b : Account} {amount : Money}

theorem moved_ok {p : Payment} (h : p.moved a L = .ok (b, amount)) :
    ∃ balance, { a with currentBalance := balance } = b ∧
      balance.minor = a.currentBalance.minor + amount.minor ∧ amount.minor = p.change := by
  cases p with
  | spend cmd =>
    rw [moved] at h
    split_ifs at h
    · simp only [Query.bind_ok, Query.ofOverflow_ok, Query.pure_ok, Prod.mk.injEq] at h
      obtain ⟨_, hdebit, _, hneg, rfl, rfl⟩ := h
      obtain ⟨balance, hbalance, hb⟩ := Ledger.debit_ok.1 hdebit
      have hneg := Ledger.neg_ok.1 hneg
      exact ⟨balance, hb, by rw [hneg, hbalance, Int.sub_eq_add_neg], hneg⟩
    · exact absurd h Query.not_refuse_ok
  | receive cmd =>
    simp only [moved, Query.bind_ok, Query.ofDomain_ok, Query.pure_ok, Prod.mk.injEq] at h
    obtain ⟨_, hcredit, rfl, rfl⟩ := h
    obtain ⟨balance, hbalance, hb⟩ := Ledger.credit_ok.1 hcredit
    exact ⟨balance, hb, hbalance, rfl⟩

structure Planned (p : Payment) (o : Occasion) (L : Ledger) (r : Reply) (b : Booking) (a : Account)
    (c : Category) (balance amount : Money) (tags : List Tag) : Prop where
  positive : 0 < p.amount.minor
  mem : a ∈ L.accounts
  account : a.id = p.movement.account
  category : c ∈ L.categories ∧ c.id = p.movement.category
  sum : balance.minor = a.currentBalance.minor + amount.minor
  shown : amount.minor = p.change
  unposted : o.transactionId ∉ L.transactionIds
  unrecorded : (p.reason o c).id ∉ (p.reason o c).ids L
  resolved : Ledger.resolveTags (p.reason o c).tagKind p.movement.tags L = .ok tags
  reply : r = (p.reason o c).reply (p.transaction o { a with currentBalance := balance } amount)
    c tags
  booking : b = {
    account := Account.saved { a with currentBalance := balance } o.savedAt
    transaction := p.transaction o { a with currentBalance := balance } amount
    reason := p.reason o c
    tags := Tags.distinct (tags.map (·.id)) }

theorem plan_ok {p : Payment} {o : Occasion} {r : Reply} {b : Booking}
    (h : p.plan o L = .ok (r, b)) : ∃ a c balance amount tags,
      Planned p o L r b a c balance amount tags := by
  simp only [plan, Ledger.settlement, Query.bind_ok, Query.pure_ok, Prod.mk.injEq] at h
  obtain ⟨_, hpos, a, ha, c, hc, _, -, ⟨_, amount⟩, hmoved, _, hposted, _, -, _, hrecorded, tags,
    htags, rfl, rfl⟩ := h
  obtain ⟨balance, rfl, hsum, hshown⟩ := moved_ok hmoved
  obtain ⟨hmem, hid⟩ := Ledger.activeAccount_ok ha
  exact ⟨a, c, balance, amount, tags, {
    positive := Ledger.ensurePositive_ok hpos
    mem := hmem
    account := hid
    category := Ledger.activeCategory_ok hc
    sum := hsum
    shown := hshown
    unposted := Ledger.unused_ok.1 hposted
    unrecorded := Ledger.unused_ok.1 hrecorded
    resolved := htags
    reply := rfl
    booking := rfl }⟩

theorem perform_plan (hs : L.Sound) (p : Payment) (o : Occasion) :
    Ledger.perform p.command o L = (p.plan o L).map fun (r, b) => (r, L.book b) := by
  show Tells (p.plan o) (Ledger.perform p.command o) L L
  rw [perform_eq, plan]
  refine .ask rfl fun _ _ => .ask rfl fun a ha => .ask rfl fun c hc => .ask rfl fun _ _ => ?_
  refine .ask rfl fun (b, amount) hb => ?_
  obtain ⟨ha, -⟩ := Ledger.activeAccount_ok ha
  have hcid : c.id ∈ L.categoryIds := List.mem_map_of_mem (Ledger.activeCategory_ok hc).1
  obtain ⟨balance, rfl, -, -⟩ := moved_ok hb
  have htrans : (p.reason o c).transaction = o.transactionId := by cases p <;> rfl
  have hcategory : (p.reason o c).category ∈ L.categoryIds := by cases p <;> exact hcid
  exact Ledger.tells_settle (a := { a with currentBalance := balance }) hs ha rfl rfl rfl
    (hs.currency_account a ha) (hs.owner_account a ha) rfl rfl htrans hcategory _ _

end Payment

end Bookkeeping

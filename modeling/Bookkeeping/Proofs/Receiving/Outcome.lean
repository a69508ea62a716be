import Bookkeeping.Proofs.Payment.Booking

namespace Bookkeeping

open Ledger (Query Step)
open Ledger.Step (Checks)

namespace Receiving

def conditions (cmd : NewMovement) (b : Books) : List Condition :=
  [⟨0 < cmd.amount.minor, .invalidAmount⟩,
    ⟨b.accounts.any (·.id == cmd.account.text), .accountNotFound⟩,
    ⟨b.accounts.any fun a => a.id == cmd.account.text && a.active, .accountInactive⟩,
    ⟨b.categories.any (·.id == cmd.category.text), .categoryNotFound⟩,
    ⟨b.categories.any fun c => c.id == cmd.category.text && c.active, .categoryInactive⟩,
    ⟨b.accounts.any fun a => a.id == cmd.account.text && a.currency == cmd.currency.code,
      .currencyMismatch⟩,
    ⟨b.accounts.any fun a =>
        a.id == cmd.account.text && a.currentBalance.minor + cmd.amount.minor ≤ greatestWord,
      .balanceOverflow⟩]
    ++ cmd.tags.flatMap (Spending.tagConditions b .ingress)

def receipt (cmd : NewMovement) (o : Occasion) (balance : Money) : Transaction where
  id := o.transactionId
  account := cmd.account
  amount := cmd.amount
  currency := cmd.currency
  date := cmd.date
  description := cmd.description
  kind := .ingress
  balanceAfter := balance
  status := .completed
  createdAt := o.now
  updatedAt := o.now

def explanation (cmd : NewMovement) (o : Occasion) : Ingress where
  id := o.id
  category := cmd.category
  transaction := o.transactionId
  createdAt := o.now
  updatedAt := o.now

/-- What receiving does to the books, and what it tells of it. -/
structure Received (cmd : NewMovement) (o : Occasion) (b b' : Books) (d : Detail Ingress)
    (old : AccountRow) (balance : Money) (links : List LinkRow) : Prop where
  mem : old ∈ b.accounts
  account : old.id = cmd.account.text
  currency : old.currency = cmd.currency.code
  balance_eq : balance.minor = old.currentBalance.minor + cmd.amount.minor
  transaction : d.transaction = receipt cmd o balance
  record : d.record = explanation cmd o
  category : d.category.row ∈ b.categories ∧ d.category.id = cmd.category
  tags : ∀ t ∈ d.tags, t.row ∈ b.tags ∧ t.kind = .ingress
  mem_tags : ∀ id, id ∈ d.tags.map (·.id) ↔ id ∈ cmd.tags
  nodup_tags : (d.tags.map (·.id)).Nodup
  mem_links : ∀ l, l ∈ links ↔ ∃ tag ∈ cmd.tags, l = ⟨o.id.text, tag.text⟩
  nodup_links : links.Nodup
  books : b' = { b with
    accounts := Keyed.replace (·.id) { old with
      currentBalance := balance
      version := old.version + 1
      updatedAt := o.savedAt } b.accounts
    transactions := b.transactions ++ [d.transaction.row]
    ingresses := b.ingresses ++ [d.record.row]
    ingressTags := b.ingressTags ++ links }

end Receiving

namespace Ledger

variable {L : Ledger} {a : Account} {amount : Money}

theorem checks_credit (hs : L.Sound) (ha : a ∈ L.accounts) {id : Uuid} (hid : a.id = id)
    (hpos : 0 < amount.minor) :
    Checks (Step.ask (.ofDomain (a.credit amount)))
      [⟨L.books.accounts.any fun r =>
          r.id == id.text && r.currentBalance.minor + amount.minor ≤ greatestWord,
        .balanceOverflow⟩] L
      fun b L' => L' = L ∧ ∃ balance, balance.minor = a.currentBalance.minor + amount.minor ∧
        { a with currentBalance := balance } = b := by
  subst hid
  have hany : L.books.accounts.any (fun r =>
      r.id == a.id.text && r.currentBalance.minor + amount.minor ≤ greatestWord) =
        decide (a.currentBalance.minor + amount.minor ≤ greatestWord) :=
    any_row_of_mem Account.row (fun _ => rfl) hs.nodup_accounts ha
      fun r => decide (r.currentBalance.minor + amount.minor ≤ greatestWord)
  by_cases hsum : a.currentBalance.minor + amount.minor ≤ greatestWord
  · -- a positive amount cannot take the balance below the range
    have hfits : FitsWord (a.currentBalance.minor + amount.minor) := by
      have hleast := a.currentBalance.fits.1
      exact ⟨by omega, hsum⟩
    refine .kept (hany.trans (decide_eq_true hsum)) ?_
    refine .done (a := { a with currentBalance := ⟨_, hfits⟩ }) ?_ ⟨rfl, _, rfl, rfl⟩
    exact Step.ask_ok.2 ⟨Query.ofDomain_ok.2 (credit_ok.2 ⟨_, rfl, rfl⟩), rfl⟩
  · refine .broken (hany.trans (decide_eq_false hsum)) ?_
    cases hcredit : a.credit amount with
    | ok b =>
      obtain ⟨balance, hbalance, -⟩ := credit_ok.1 hcredit
      exact absurd (hbalance ▸ balance.fits.2) hsum
    | error e =>
      rw [Account.credit] at hcredit
      split at hcredit
      · cases hcredit
      · cases hcredit
        rfl

theorem checks_settlement (hn : L.tagIds.Nodup) {t : Transaction} {r : Reason}
    (ht : t.id ∉ L.transactionIds) (hv : a.version < greatestWord) (hr : r.id ∉ r.ids L)
    (c : Category) (ids : List Uuid) (savedAt : Instant) :
    Checks (Step.ask (settlement t a r c ids savedAt))
      (ids.flatMap (Spending.tagConditions L.books r.tagKind)) L
      fun told L' => L' = L ∧ ∃ tags, Resolved L r.tagKind ids tags ∧
        told = (r.reply t c tags, ⟨a.saved savedAt, t, r, Tags.distinct (tags.map (·.id))⟩) := by
  have hnext : Query.ofOverflow (Accounts.nextVersion a.version) L = .ok (a.version + 1) :=
    Query.ofOverflow_ok.2 (nextVersion_ok.2 ⟨by omega, rfl⟩)
  simp only [settlement, Step.ask_bind_eq]
  refine .after (a := ()) (Step.ask_ok.2 ⟨unused_ok.2 ht, rfl⟩) ?_
  refine .after (Step.ask_ok.2 ⟨hnext, rfl⟩) ?_
  refine .after (a := ()) (Step.ask_ok.2 ⟨unused_ok.2 hr, rfl⟩) ?_
  rw [← List.append_nil (ids.flatMap _)]
  refine (checks_resolveTags hn r.tagKind ids).bind ?_
  rintro tags _ ⟨rfl, htags⟩
  exact .done rfl ⟨rfl, tags, htags, rfl⟩

end Ledger

namespace Receiving

variable {L : Ledger} {cmd : NewMovement} {o : Occasion}

theorem received_book {a : Account} {c : Category} {balance : Money} {tags : List Tag}
    (ha : a ∈ L.accounts) (haid : a.id = cmd.account) (hcurrency : cmd.currency = a.currency)
    (hc : c ∈ L.categories) (hcid : c.id = cmd.category)
    (hbalance : balance.minor = a.currentBalance.minor + cmd.amount.minor)
    (htags : L.Resolved .ingress cmd.tags tags) :
    let links := (Tags.distinct (tags.map (·.id))).map (Link.mk o.id)
    let b : Booking := {
      account := Account.saved { a with currentBalance := balance } o.savedAt
      transaction := receipt cmd o balance
      reason := .ingress (explanation cmd o)
      tags := Tags.distinct (tags.map (·.id)) }
    Received cmd o L.books (L.book b).books ⟨explanation cmd o, receipt cmd o balance, c, tags⟩
      a.row balance (links.map Link.row) where
  mem := List.mem_map_of_mem ha
  account := congrArg Uuid.text haid
  currency := congrArg Currency.code hcurrency.symm
  balance_eq := hbalance
  transaction := rfl
  record := rfl
  category := ⟨List.mem_map_of_mem hc, hcid⟩
  tags t ht := ⟨List.mem_map_of_mem (htags.mem t ht).1, (htags.mem t ht).2⟩
  mem_tags := htags.ids
  nodup_tags := htags.nodup
  mem_links l := htags.mem_links
  nodup_links := Ledger.nodup_links o.id tags
  books := by
    simp only [Ledger.books, Ledger.book_members, Ledger.book_accounts, Ledger.book_categories,
      Ledger.book_tags, Ledger.book_transactions, Ledger.book_expenditures, Ledger.book_ingresses,
      Ledger.book_expenditureTags, Ledger.book_ingressTags, Account.map_row_replace,
      List.map_append]
    simp [Reason.expenditures, Reason.ingresses, Booking.expenditureTags, Booking.ingressTags,
      explanation]
    rfl

theorem checks_plan (cmd : NewMovement) (hs : L.Sound)
    (hv : ∀ a ∈ L.accounts, a.version < greatestWord) (hid : o.id ∉ L.ingressIds)
    (htid : o.transactionId ∉ L.transactionIds) :
    Checks (Step.ask ((Payment.receive cmd).plan o)) (conditions cmd L.books) L
      fun (r, b) L' => L' = L ∧ ∃ d old balance links, r = .ingress d ∧
        Received cmd o L.books (L.book b).books d old balance links := by
  simp only [Payment.plan, Step.ask_bind_eq]
  refine (Checks.ensure (c := ⟨_, .invalidAmount⟩) (decide_eq_decide.2 ?_) ()).bind ?_
  · exact decide_eq_true_iff.symm
  rintro _ _ ⟨rfl, -, hpos⟩
  have hpos : 0 < cmd.amount.minor := decide_eq_true_iff.1 hpos
  refine (Checks.activeAccount hs cmd.account).bind ?_
  rintro a _ ⟨rfl, ha, haid⟩
  refine (Checks.activeCategory hs cmd.category).bind ?_
  rintro c _ ⟨rfl, hc, hcid⟩
  have hensure := Checks.ensureCurrency hs ha cmd.currency
  rw [haid] at hensure
  refine hensure.bind ?_
  rintro _ _ ⟨rfl, hcurrency⟩
  rw [Payment.moved, Step.ask_bind_eq, bind_assoc]
  refine (Ledger.checks_credit hs ha haid hpos).bind ?_
  rintro _ _ ⟨rfl, balance, hbalance, rfl⟩
  have ht : (Payment.receive cmd).transaction o { a with currentBalance := balance } cmd.amount =
      receipt cmd o balance := by
    simp only [Payment.transaction, Payment.movement, Payment.kind, UseCase.completed, receipt,
      haid, hcurrency]
  have hr : (Payment.receive cmd).reason o c = .ingress (explanation cmd o) := by
    simp only [Payment.reason, Ledger.ingressOf, explanation, hcid]
  refine .after (a := ({ a with currentBalance := balance }, cmd.amount)) rfl ?_
  simp only [ht, hr]
  refine (Ledger.checks_settlement (a := { a with currentBalance := balance })
    (t := receipt cmd o balance) (r := .ingress (explanation cmd o)) hs.nodup_tags htid (hv a ha)
    hid c cmd.tags o.savedAt).imp ?_
  rintro _ _ ⟨rfl, tags, htags, rfl⟩
  exact ⟨rfl, _, _, _, _, rfl, received_book ha haid hcurrency hc hcid hbalance htags⟩

theorem checks_createIngress (cmd : NewMovement) (hs : L.Sound)
    (hv : ∀ a ∈ L.accounts, a.version < greatestWord)
    (hid : o.id ∉ L.ingressIds) (htid : o.transactionId ∉ L.transactionIds) :
    Checks (Ledger.createIngress cmd o) (conditions cmd L.books) L
      fun d L' => ∃ old balance links, Received cmd o L.books L'.books d old balance links := by
  have hplan := checks_plan cmd hs hv hid htid
  have hperform := Payment.perform_plan hs (.receive cmd) o
  rw [Checks] at hplan ⊢
  cases hb : Condition.firstBroken (conditions cmd L.books) with
  | some e =>
    rw [hb] at hplan
    rw [Step.ask_error.1 hplan] at hperform
    exact Step.map_error.1 hperform
  | none =>
    rw [hb] at hplan
    obtain ⟨⟨_, b⟩, _, hplan, -, d, old, balance, links, rfl, hreceived⟩ := hplan
    rw [(Step.ask_ok.1 hplan).1] at hperform
    obtain ⟨d', hd, heq⟩ := Step.map_ok.1 hperform
    cases heq
    exact ⟨d, L.book b, hd, old, balance, links, hreceived⟩

/-- Receiving money fails for the first condition that is broken and leaves the store as it was, or
it succeeds and changes what `Received` says. An amount that is not positive is refused by any
store, even one that opens no transaction. -/
theorem receives_or_refuses (steps : List (Command × Occasion)) (cmd : NewMovement) (o : Occasion)
    (hv : ∀ r ∈ (Store.fresh.after steps).books.accounts, r.version < greatestWord)
    (hid : o.id.text ∉ (Store.fresh.after steps).books.ingresses.map (·.id))
    (htid : o.transactionId.text ∉ (Store.fresh.after steps).books.transactions.map (·.id)) :
    let s := Store.fresh.after steps
    (match Condition.firstBroken (conditions cmd s.books) with
      | some e => UseCase.createIngress cmd o s = (.error (.domain e), s)
      | none => ∃ d b old balance links,
        UseCase.createIngress cmd o s = (.ok d, { s with books := b }) ∧
          Received cmd o s.books b d old balance links) ∧
    (cmd.amount.minor ≤ 0 → ∀ s : Store,
      UseCase.createIngress cmd o s = (.error (.domain .invalidAmount), s)) := by
  intro s
  have h := Store.holds_fresh.after steps
  generalize Ledger.fresh.after steps = L at h
  refine ⟨?_, ?_⟩
  · rw [h.books] at hv hid htid
    have hid : o.id ∉ L.ingressIds := by
      simpa [Ledger.books, Ledger.ingressIds, Ingress.row] using hid
    have htid : o.transactionId ∉ L.transactionIds := by
      simpa [Ledger.books, Ledger.transactionIds, Transaction.row] using htid
    have hchecks := checks_createIngress cmd h.sound
      (fun a ha => hv a.row (List.mem_map_of_mem ha)) hid htid
    have hmatches := performs_createIngress cmd o s L h.ready h.transaction h.sound h.books
    rw [Checks] at hchecks
    rw [h.books]
    cases hb : Condition.firstBroken (conditions cmd L.books) with
    | some e =>
      rw [hb] at hchecks
      exact hmatches.of_error hchecks
    | none =>
      rw [hb] at hchecks
      obtain ⟨d, L', hok, old, balance, links, hreceived⟩ := hchecks
      exact ⟨d, L'.books, old, balance, links, (hmatches.of_ok hok).2, hreceived⟩
  · intro hamount s
    have hpos : cmd.amount.isPositive = false := decide_eq_false (Int.not_lt.2 hamount)
    rw [UseCase.createIngress, UseCase.ensurePositive, hpos]
    rfl

theorem receives_wages :
    let steps : List (Command × Occasion) := [
      (.createAccount ⟨"Giro", .bank, .euro, ⟨greatestWord - 300, by decide⟩, none, true⟩,
        ⟨.ofNat 1, .ofNat 9, .ofSeconds 0, .ofSeconds 0⟩),
      (.createCategory ⟨"Wages", .ingress, ⟨none, none, none⟩⟩,
        ⟨.ofNat 2, .ofNat 9, .ofSeconds 0, .ofSeconds 0⟩),
      (.createTag ⟨"monthly", "ingress", ⟨none, none, none⟩⟩,
        ⟨.ofNat 3, .ofNat 9, .ofSeconds 0, .ofSeconds 0⟩)]
    let cmd : NewMovement := ⟨.ofNat 1, .ofNat 2, ⟨300, by decide⟩, .euro, .ofSeconds 0, none,
      [.ofNat 3, .ofNat 3]⟩
    let o : Occasion := ⟨.ofNat 4, .ofNat 5, .ofSeconds 1, .ofSeconds 2⟩
    let s := Store.fresh.after steps
    (∀ r ∈ s.books.accounts, r.version < greatestWord) ∧
      o.id.text ∉ s.books.ingresses.map (·.id) ∧
      o.transactionId.text ∉ s.books.transactions.map (·.id) ∧
      ∃ d b old balance links,
        UseCase.createIngress cmd o s = (.ok d, { s with books := b }) ∧
          Received cmd o s.books b d old balance links := by
  intro steps cmd o s
  have hv : ∀ r ∈ s.books.accounts, r.version < greatestWord := by decide +kernel
  have hid : o.id.text ∉ s.books.ingresses.map (·.id) := by decide +kernel
  have htid : o.transactionId.text ∉ s.books.transactions.map (·.id) := by decide +kernel
  have hnone : Condition.firstBroken (conditions cmd s.books) = none := by decide +kernel
  have h := (receives_or_refuses steps cmd o hv hid htid).1
  rw [hnone] at h
  exact ⟨hv, hid, htid, h⟩

end Receiving

end Bookkeeping

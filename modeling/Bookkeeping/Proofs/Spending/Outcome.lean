import Bookkeeping.Proofs.Spending.Tags

namespace Bookkeeping

open Ledger (Query Step)
open Ledger.Step (Checks)

namespace Keyed

theorem map_replace {key : α → κ} {rowKey : ρ → κ'} [DecidableEq κ] [DecidableEq κ'] {f : α → ρ}
    (h : ∀ x y, rowKey (f x) = rowKey (f y) ↔ key x = key y) (a : α) (as : List α) :
    (replace key a as).map f = replace rowKey (f a) (as.map f) := by
  rw [replace, replace, List.map_map, List.map_map]
  refine List.map_congr_left fun x _ => ?_
  by_cases hx : key x = key a
  · simp [hx, (h x a).2 hx]
  · simp [hx, (h x a).not.2 hx]

end Keyed

theorem Account.map_row_replace (a : Account) (as : List Account) :
    (Keyed.replace (·.id) a as).map row = Keyed.replace (·.id) a.row (as.map row) :=
  Keyed.map_replace (fun x y => (Uuid.text_inj : x.row.id = y.row.id ↔ x.id = y.id)) a as

namespace Ledger

variable {L : Ledger} {cmd : NewExpenditure} {o : Occasion} {a : Account} {c : Category}

theorem covers_fits (hpos : 0 < cmd.amount.minor) (hcovers : a.covers cmd.amount = true) :
    FitsWord (-cmd.amount.minor) ∧ FitsWord (a.currentBalance.minor - cmd.amount.minor) := by
  have hcovers : cmd.amount.minor ≤ a.currentBalance.minor := by
    simpa [Account.covers] using hcovers
  obtain ⟨-, hb⟩ := a.currentBalance.fits
  simp only [FitsWord, leastWord, greatestWord] at hb ⊢
  omega

def posted (L : Ledger) (t : Transaction) : Ledger :=
  { L with transactions := L.transactions ++ [t] }

def withAccount (L : Ledger) (a : Account) : Ledger :=
  { L with accounts := Keyed.replace (·.id) a L.accounts }

def spent (L : Ledger) (a : Account) (t : Transaction) (e : Expenditure) : Ledger :=
  { (L.posted t).withAccount a with expenditures := L.expenditures ++ [e] }

theorem Sound.unspent (hs : L.Sound) {id : Uuid} (h : id ∉ L.transactionIds) :
    id ∉ L.expenditures.map (·.transaction) := by
  intro hmem
  obtain ⟨e, he, rfl⟩ := List.mem_map.1 hmem
  exact h (hs.transaction_expenditure e he)

theorem Sound.unreceived (hs : L.Sound) {id : Uuid} (h : id ∉ L.transactionIds) :
    id ∉ L.ingresses.map (·.transaction) := by
  intro hmem
  obtain ⟨i, hi, rfl⟩ := List.mem_map.1 hmem
  exact h (hs.transaction_ingress i hi)

theorem enterExpenditure_of {t : Transaction} {e : Expenditure} (hs : L.Sound)
    (ht : t.id ∉ L.transactionIds) (htrans : e.transaction = t.id)
    (hcategory : e.category ∈ L.categoryIds) (hid : e.id ∉ L.expenditureIds) :
    enterExpenditure e ((L.posted t).withAccount a) = .ok (L.spent a t e) := by
  have hposted : t.id ∈ (L.posted t).transactionIds :=
    List.mem_map_of_mem (List.mem_append_right _ List.mem_cons_self)
  exact enterExpenditure_ok.2 ⟨htrans ▸ hposted, hcategory, ⟨hid, htrans ▸ hs.unspent ht⟩, rfl⟩

theorem saveAccount_of (old : Account) {savedAt : Instant} (hn : L.accountIds.Nodup)
    (hold : old ∈ L.accounts) (hid : old.id = a.id) (hv : old.version = a.version)
    (hlt : a.version < greatestWord) (hk : a.currency.IsKnown)
    (ho : ∀ m ∈ a.owner, m ∈ L.memberIds) : saveAccount a savedAt L =
      .ok (a.saved savedAt, L.withAccount (a.over old savedAt)) := by
  have hfind := (Keyed.find?_eq_some_iff hn).2 ⟨hold, hid⟩
  exact saveAccount_ok.2 ⟨by omega, rfl, storeAccount_ok.2 ⟨old, hfind, hv,
    replaceAccount_ok.2 ⟨hk, ho, rfl⟩⟩⟩

end Ledger

namespace Spending

variable {L : Ledger} {cmd : NewExpenditure} {o : Occasion} {a : Account} {c : Category}

theorem spent_of_link {amount balance : Money} {tags : List Tag} (ha : a ∈ L.accounts)
    (haid : a.id = cmd.account) (hcurrency : cmd.currency = a.currency) (hc : c ∈ L.categories)
    (hcid : c.id = cmd.category) (hamount : amount.minor = -cmd.amount.minor)
    (hbalance : balance.minor = a.currentBalance.minor - cmd.amount.minor)
    (htags : L.Resolved .expenditure cmd.tags tags) :
    let links := (Tags.distinct (tags.map (·.id))).map (Link.mk o.id)
    let L₁ := L.spent (Account.saved { a with currentBalance := balance } o.savedAt)
      (payment cmd o amount balance) (explanation cmd o)
    Spent cmd o L.books { L₁ with expenditureTags := L.expenditureTags ++ links }.books
      ⟨explanation cmd o, payment cmd o amount balance, c, tags⟩ a.row amount balance
      (links.map Link.row) where
  mem := List.mem_map_of_mem ha
  account := congrArg Uuid.text haid
  currency := congrArg Currency.code hcurrency.symm
  amount_eq := hamount
  balance_eq := hbalance
  transaction := rfl
  record := rfl
  category := ⟨List.mem_map_of_mem hc, hcid⟩
  tags t ht := ⟨List.mem_map_of_mem (htags.mem t ht).1, (htags.mem t ht).2⟩
  mem_tags := htags.ids
  nodup_tags := htags.nodup
  mem_links l := htags.mem_links
  nodup_links := Ledger.nodup_links o.id tags
  books := by
    simp only [Ledger.books, Ledger.spent, Ledger.withAccount, Ledger.posted, List.map_append,
      Account.map_row_replace]
    rfl

theorem checks_write (hs : L.Sound) (hid : o.id ∉ L.expenditureIds)
    (htid : o.transactionId ∉ L.transactionIds) (hpos : 0 < cmd.amount.minor) (ha : a ∈ L.accounts)
    (haid : a.id = cmd.account) (hcurrency : cmd.currency = a.currency) (hc : c ∈ L.categories)
    (hcid : c.id = cmd.category) (hv : a.version < greatestWord)
    (hcovers : a.covers cmd.amount = true) :
    Checks (do
      let account ← Step.ask (.ofOverflow (a.debit cmd.amount))
      let amount ← Step.ask (.ofOverflow cmd.amount.neg)
      let transaction := UseCase.completed cmd.toNewMovement account amount .expenditure o
      Step.edit (Ledger.enterTransaction transaction)
      discard (Ledger.saveAccount account o.savedAt)
      Step.edit (Ledger.enterExpenditure (Ledger.expenditureOf cmd o c))
      let tags ← Step.ask (Ledger.resolveTags .expenditure cmd.tags)
      Ledger.linkTags Ledger.enterExpenditureTag o.id (tags.map (·.id))
      return (⟨Ledger.expenditureOf cmd o c, transaction, c, tags⟩ : Detail Expenditure))
      (cmd.tags.flatMap (tagConditions L.books .expenditure)) L
      fun d L' => ∃ old amount balance links,
        Spent cmd o L.books L'.books d old amount balance links := by
  obtain ⟨hneg, hdebit⟩ := Ledger.covers_fits hpos hcovers
  let amount : Money := ⟨-cmd.amount.minor, hneg⟩
  let balance : Money := ⟨a.currentBalance.minor - cmd.amount.minor, hdebit⟩
  have hk := hs.currency_account a ha
  have ht : UseCase.completed cmd.toNewMovement { a with currentBalance := balance } amount
      .expenditure o = payment cmd o amount balance := by
    simp only [UseCase.completed, payment, haid, hcurrency]
  have he : Ledger.expenditureOf cmd o c = explanation cmd o := by
    simp only [Ledger.expenditureOf, explanation, hcid]
  let t := payment cmd o amount balance
  let new : Account := { a with currentBalance := balance }
  -- the writes, none of which can fail
  have hpost : Ledger.enterTransaction t L = .ok (L.posted t) := by
    have hto : cmd.account ∈ L.accountIds := haid ▸ List.mem_map_of_mem ha
    exact Ledger.enterTransaction_ok.2 ⟨by simpa only [t, payment, hcurrency], hto, htid, rfl⟩
  have hsave : Ledger.saveAccount new o.savedAt (L.posted t) =
      .ok (new.saved o.savedAt, (L.posted t).withAccount (new.saved o.savedAt)) :=
    Ledger.saveAccount_of a hs.nodup_accounts ha rfl rfl hv hk (hs.owner_account a ha)
  have hexplain : Ledger.enterExpenditure (explanation cmd o)
      ((L.posted t).withAccount (new.saved o.savedAt)) =
        .ok (L.spent (new.saved o.savedAt) t (explanation cmd o)) := by
    have hcategory : cmd.category ∈ L.categoryIds := hcid ▸ List.mem_map_of_mem hc
    exact Ledger.enterExpenditure_of hs htid rfl hcategory hid
  refine .after (a := new) (Step.ask_ok.2
    ⟨Query.ofOverflow_ok.2 (Ledger.debit_ok.2 ⟨balance, rfl, rfl⟩), rfl⟩) ?_
  refine .after (a := amount) (Step.ask_ok.2
    ⟨Query.ofOverflow_ok.2 (Ledger.neg_ok.2 rfl), rfl⟩) ?_
  simp only [new, ht, he]
  refine .after (a := ()) (Step.edit_ok.2 hpost) ?_
  refine .after (a := ()) (Step.discard_ok.2 ⟨_, hsave⟩) ?_
  refine .after (a := ()) (Step.edit_ok.2 hexplain) ?_
  rw [← List.append_nil (cmd.tags.flatMap _)]
  have hresolve := Ledger.checks_resolveTags
    (L := L.spent (new.saved o.savedAt) t (explanation cmd o)) hs.nodup_tags .expenditure cmd.tags
  refine hresolve.bind ?_
  rintro tags _ ⟨rfl, htags⟩
  refine .after (Ledger.linkExpenditure_of ?_ ?_ ?_) (.done rfl ?_)
  · exact List.mem_map_of_mem (List.mem_append_right _ List.mem_cons_self)
  · intro id hid
    obtain ⟨t, hmem, rfl⟩ := List.mem_map.1 hid
    exact List.mem_map_of_mem (htags.mem t hmem).1
  · exact fun l hl heq => hid (heq ▸ hs.target_expenditureTag l hl)
  · exact ⟨_, _, _, _, spent_of_link ha haid hcurrency hc hcid rfl rfl
      ⟨htags.mem, htags.nodup, htags.ids⟩⟩

theorem checks_spend (hs : L.Sound) (hv : ∀ a ∈ L.accounts, a.version < greatestWord)
    (hid : o.id ∉ L.expenditureIds) (htid : o.transactionId ∉ L.transactionIds)
    (hpos : 0 < cmd.amount.minor) :
    Checks (Ledger.spend cmd o) (conditions cmd L.books).tail L
      fun d L' => ∃ old amount balance links,
        Spent cmd o L.books L'.books d old amount balance links := by
  rw [Ledger.spend]
  refine (Checks.activeAccount hs cmd.account).bind ?_
  rintro a _ ⟨rfl, ha, haid⟩
  refine (Checks.activeCategory hs cmd.category).bind ?_
  rintro c _ ⟨rfl, hc, hcid⟩
  have hensure := Checks.ensureCurrency hs ha cmd.currency
  rw [haid] at hensure
  refine hensure.bind ?_
  rintro _ _ ⟨rfl, hcurrency⟩
  refine .refuse_if (c := ⟨_, .insufficientBalance⟩) ?_ fun hcovers => ?_
  · rw [← haid]
    refine (any_row_of_mem Account.row (fun _ => rfl) hs.nodup_accounts ha
      fun r => decide (cmd.amount.minor ≤ r.currentBalance.minor)).trans ?_
    show a.covers cmd.amount = !decide ((!a.covers cmd.amount) = true)
    cases a.covers cmd.amount <;> rfl
  · exact checks_write hs hid htid hpos ha haid hcurrency hc hcid (hv a ha) (by simpa using hcovers)

theorem checks_createExpenditure (cmd : NewExpenditure) (hs : L.Sound)
    (hv : ∀ a ∈ L.accounts, a.version < greatestWord)
    (hid : o.id ∉ L.expenditureIds) (htid : o.transactionId ∉ L.transactionIds) :
    Checks (Ledger.createExpenditure cmd o) (conditions cmd L.books) L
      fun d L' => ∃ old amount balance links,
        Spent cmd o L.books L'.books d old amount balance links := by
  refine (Checks.ensure (c := ⟨_, .invalidAmount⟩) ?_ ()).bind ?_
  · simp [Money.isPositive]
  · rintro _ _ ⟨rfl, -, hpos⟩
    exact checks_spend hs hv hid htid (by simpa [Money.isPositive] using hpos)

/-- Spending fails for the first condition that is broken and leaves the store as it was, or it
succeeds and changes what `Spent` says. An amount that is not positive is refused by any store, even
one that opens no transaction. -/
theorem spends_or_refuses (steps : List (Command × Occasion)) (cmd : NewExpenditure) (o : Occasion)
    (hv : ∀ r ∈ (Store.fresh.after steps).books.accounts, r.version < greatestWord)
    (hid : o.id.text ∉ (Store.fresh.after steps).books.expenditures.map (·.id))
    (htid : o.transactionId.text ∉ (Store.fresh.after steps).books.transactions.map (·.id)) :
    let s := Store.fresh.after steps
    (match Condition.firstBroken (conditions cmd s.books) with
      | some e => UseCase.createExpenditure cmd o s = (.error (.domain e), s)
      | none => ∃ d b old amount balance links,
        UseCase.createExpenditure cmd o s = (.ok d, { s with books := b }) ∧
          Spent cmd o s.books b d old amount balance links) ∧
    (cmd.amount.minor ≤ 0 → ∀ s : Store,
      UseCase.createExpenditure cmd o s = (.error (.domain .invalidAmount), s)) := by
  intro s
  have h := Store.holds_fresh.after steps
  generalize Ledger.fresh.after steps = L at h
  refine ⟨?_, ?_⟩
  · rw [h.books] at hv hid htid
    have hid : o.id ∉ L.expenditureIds := by
      simpa [Ledger.books, Ledger.expenditureIds, Expenditure.row] using hid
    have htid : o.transactionId ∉ L.transactionIds := by
      simpa [Ledger.books, Ledger.transactionIds, Transaction.row] using htid
    have hchecks := checks_createExpenditure cmd h.sound
      (fun a ha => hv a.row (List.mem_map_of_mem ha)) hid htid
    have hmatches := performs_createExpenditure cmd o s L h.ready h.transaction h.sound h.books
    rw [Checks] at hchecks
    rw [h.books]
    cases hb : Condition.firstBroken (conditions cmd L.books) with
    | some e =>
      rw [hb] at hchecks
      exact hmatches.of_error hchecks
    | none =>
      rw [hb] at hchecks
      obtain ⟨d, L', hok, old, amount, balance, links, hspent⟩ := hchecks
      exact ⟨d, L'.books, old, amount, balance, links, (hmatches.of_ok hok).2, hspent⟩
  · intro hamount s
    have hpos : cmd.amount.isPositive = false := by simpa [Money.isPositive] using hamount
    rw [UseCase.createExpenditure, UseCase.ensurePositive, hpos]
    rfl

theorem spends_on_food :
    let steps : List (Command × Occasion) := [
      (.createAccount ⟨"Wallet", .cash, .euro, ⟨1000, by decide⟩, none, true⟩,
        ⟨.ofNat 1, .ofNat 9, .ofSeconds 0, .ofSeconds 0⟩),
      (.createCategory ⟨"Food", .expenditure, ⟨none, none, none⟩⟩,
        ⟨.ofNat 2, .ofNat 9, .ofSeconds 0, .ofSeconds 0⟩),
      (.createTag ⟨"weekly", "expenditure", ⟨none, none, none⟩⟩,
        ⟨.ofNat 3, .ofNat 9, .ofSeconds 0, .ofSeconds 0⟩)]
    let cmd : NewExpenditure := ⟨⟨.ofNat 1, .ofNat 2, ⟨300, by decide⟩, .euro, .ofSeconds 0, none,
      [.ofNat 3, .ofNat 3]⟩, true, false⟩
    let o : Occasion := ⟨.ofNat 4, .ofNat 5, .ofSeconds 1, .ofSeconds 2⟩
    let s := Store.fresh.after steps
    (∀ r ∈ s.books.accounts, r.version < greatestWord) ∧
      o.id.text ∉ s.books.expenditures.map (·.id) ∧
      o.transactionId.text ∉ s.books.transactions.map (·.id) ∧
      ∃ d b old amount balance links,
        UseCase.createExpenditure cmd o s = (.ok d, { s with books := b }) ∧
          Spent cmd o s.books b d old amount balance links := by
  intro steps cmd o s
  have hv : ∀ r ∈ s.books.accounts, r.version < greatestWord := by decide +kernel
  have hid : o.id.text ∉ s.books.expenditures.map (·.id) := by decide +kernel
  have htid : o.transactionId.text ∉ s.books.transactions.map (·.id) := by decide +kernel
  have hnone : Condition.firstBroken (conditions cmd s.books) = none := by decide +kernel
  have h := (spends_or_refuses steps cmd o hv hid htid).1
  rw [hnone] at h
  exact ⟨hv, hid, htid, h⟩

end Spending

end Bookkeeping

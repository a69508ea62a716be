import Bookkeeping.Proofs.Payment.Booking

namespace Bookkeeping

open Ledger (Query)

namespace Ledger

variable {L L' : Ledger}

theorem Query.bind_congr {x : Query α} {f : α → Query β} (hx : x L' = x L)
    (hf : ∀ a, f a L' = f a L) : (x >>= f) L' = (x >>= f) L := by
  show (x L').bind (fun a => f a L') = (x L).bind (fun a => f a L)
  rw [hx, funext hf]

theorem unused_congr {ids : Ledger → List Uuid} {id : Uuid} (h : id ∈ ids L' ↔ id ∈ ids L) :
    unused ids id L' = unused ids id L := by
  rw [unused, unused]
  by_cases hid : id ∈ ids L
  · rw [if_pos hid, if_pos (h.2 hid)]
  · rw [if_neg hid, if_neg (h.not.2 hid)]

theorem findAccount_book {b : Booking} {id : Uuid} (h : b.account.id ≠ id) (L : Ledger) :
    findAccount id (L.book b) = findAccount id L := by
  have hfind : (Keyed.replace (·.id) b.account L.accounts).find? (·.id == id) =
      L.accounts.find? (·.id == id) := Keyed.find?_replace_of_ne h L.accounts
  rw [findAccount, Query.notFoundAs, Query.mapError, Query.find, book_accounts, hfind]
  rfl

theorem mem_ids_book {b : Booking} {r : Reason} (h : b.reason.id ≠ r.id) (L : Ledger) :
    r.id ∈ r.ids (L.book b) ↔ r.id ∈ r.ids L := by
  cases r with
  | expenditure e =>
    have hother : e.id ∉ b.reason.expenditures.map (·.id) := by
      cases hb : b.reason with
      | expenditure e' => simpa [Reason.expenditures, Reason.id, hb] using Ne.symm h
      | ingress i => exact List.not_mem_nil
    simp only [Reason.ids, Reason.id, expenditureIds, book_expenditures, List.map_append,
      List.mem_append, hother, or_false]
  | ingress i =>
    have hother : i.id ∉ b.reason.ingresses.map (·.id) := by
      cases hb : b.reason with
      | expenditure e => exact List.not_mem_nil
      | ingress i' => simpa [Reason.ingresses, Reason.id, hb] using Ne.symm h
    simp only [Reason.ids, Reason.id, ingressIds, book_ingresses, List.map_append,
      List.mem_append, hother, or_false]

theorem mem_transactionIds_book {b : Booking} {id : Uuid} (h : b.transaction.id ≠ id) (L : Ledger) :
    id ∈ (L.book b).transactionIds ↔ id ∈ L.transactionIds := by
  simp [transactionIds, h.symm]

theorem book_comm {b b' : Booking} (h : b.account.id ≠ b'.account.id) (L : Ledger) (t : Table) :
    (((L.book b).book b').books.rows t).Perm (((L.book b').book b).books.rows t) := by
  have hswap {α : Type} (xs ys zs : List α) : (xs ++ (ys ++ zs)).Perm (xs ++ (zs ++ ys)) :=
    List.perm_append_comm.append_left xs
  cases t <;> simp only [books, Books.rows, book_members, book_accounts, book_categories, book_tags,
    book_transactions, book_expenditures, book_ingresses, book_expenditureTags, book_ingressTags,
    List.append_assoc, List.Perm.refl]
  case accounts =>
    have hcomm : Keyed.replace (·.id) b.account (Keyed.replace (·.id) b'.account L.accounts) =
        Keyed.replace (·.id) b'.account (Keyed.replace (·.id) b.account L.accounts) :=
      Keyed.replace_comm h L.accounts
    rw [hcomm]
  all_goals exact (hswap _ _ _).map _

end Ledger

namespace Payment

variable {L : Ledger} {p : Payment} {o : Occasion} {b : Booking} {r : Reply}

theorem plan_ids (h : p.plan o L = .ok (r, b)) : b.account.id = p.movement.account ∧
    b.transaction.id = o.transactionId ∧ b.reason.id = o.id := by
  obtain ⟨a, c, balance, amount, tags, h⟩ := plan_ok h
  rw [h.booking]
  refine ⟨h.account, rfl, ?_⟩
  cases p <;> rfl

theorem plan_book (ha : b.account.id ≠ p.movement.account) (ht : b.transaction.id ≠ o.transactionId)
    (hr : b.reason.id ≠ o.id) : p.plan o (L.book b) = p.plan o L := by
  have hite {q : Prop} [Decidable q] (e : DomainError) :
      (if q then pure () else Query.refuse e : Query Unit) (L.book b) =
        (if q then pure () else Query.refuse e : Query Unit) L := by
    split <;> rfl
  have haccount : Ledger.activeAccount p.movement.account (L.book b) =
      Ledger.activeAccount p.movement.account L := by
    refine Query.bind_congr (Ledger.findAccount_book ha L) fun a => ?_
    split <;> rfl
  have hcategory : Ledger.activeCategory p.movement.category (L.book b) =
      Ledger.activeCategory p.movement.category L := by
    refine Query.bind_congr ?_ fun c => ?_
    · rw [Ledger.findCategory, Query.notFoundAs, Query.mapError, Query.find, L.book_categories b]
      rfl
    · split <;> rfl
  have hmoved (a : Account) : p.moved a (L.book b) = p.moved a L := by
    cases p with
    | spend cmd =>
      rw [moved]
      split <;> rfl
    | receive cmd => rfl
  refine Query.bind_congr (hite _) fun _ => Query.bind_congr haccount fun a =>
    Query.bind_congr hcategory fun c => Query.bind_congr (hite _) fun _ =>
    Query.bind_congr (hmoved a) fun moved => ?_
  obtain ⟨a, amount⟩ := moved
  refine Query.bind_congr (Ledger.unused_congr (Ledger.mem_transactionIds_book ht L)) fun _ =>
    Query.bind_congr rfl fun _ => Query.bind_congr (Ledger.unused_congr ?_) fun _ =>
    Query.bind_congr (Ledger.resolveTags_congr (L.book_tags b) _ _) fun tags => rfl
  refine Ledger.mem_ids_book ?_ L
  cases p <;> exact hr

end Payment

namespace Store.Holds

variable {s : Store} {L : Ledger} {p q : Payment} {o o' : Occasion} {b : Booking} {r : Reply}

theorem pay_ok (h : s.Holds L) (hp : p.plan o L = .ok (r, b)) :
    p.command.run o s = (.ok r, { s with books := (L.book b).books }) ∧
      ({ s with books := (L.book b).books } : Store).Holds (L.book b) := by
  have hperform := Payment.perform_plan h.sound p o
  rw [hp] at hperform
  obtain ⟨hs, hrun⟩ := h.run_of_ok hperform
  exact ⟨hrun, h.withBooks hs⟩

theorem pay_error (h : s.Holds L) {e : Fault} (hp : p.plan o L = .error e) :
    p.command.run o s = (.error e, s) := by
  have hperform := Payment.perform_plan h.sound p o
  rw [hp] at hperform
  exact h.run_of_error hperform

end Store.Holds

namespace Payment

/-- Payments on different accounts can be made in either order: each command answers the same, and
the books list the same rows. -/
theorem payments_commute (steps : List (Command × Occasion)) (p q : Payment) (o o' : Occasion)
    (haccount : p.movement.account ≠ q.movement.account) (hid : o.id ≠ o'.id)
    (htransaction : o.transactionId ≠ o'.transactionId) :
    let s := Store.fresh.after steps
    let pThenQ := [(p.command, o), (q.command, o')]
    let qThenP := [(q.command, o'), (p.command, o)]
    s.answers qThenP = (s.answers pThenQ).reverse ∧
      (∀ t, ((s.after qThenP).books.rows t).Perm ((s.after pThenQ).books.rows t)) ∧
      s.after qThenP = { s.after pThenQ with books := (s.after qThenP).books } := by
  intro s pThenQ qThenP
  have h := Store.holds_fresh.after steps
  simp only [pThenQ, qThenP, Store.answers, Store.after]
  change s.Holds _ at h
  generalize Ledger.fresh.after steps = L at h
  -- neither plan sees what the other payment books
  have hq {r : Reply} {b : Booking} (hp : p.plan o L = .ok (r, b)) :
      q.plan o' (L.book b) = q.plan o' L := by
    obtain ⟨ha, ht, hr⟩ := plan_ids hp
    exact plan_book (ha ▸ haccount) (ht ▸ htransaction) (hr ▸ hid)
  have hp {r : Reply} {b : Booking} (hq : q.plan o' L = .ok (r, b)) :
      p.plan o (L.book b) = p.plan o L := by
    obtain ⟨ha, ht, hr⟩ := plan_ids hq
    exact plan_book (ha ▸ haccount.symm) (ht ▸ htransaction.symm) (hr ▸ hid.symm)
  cases hplan : p.plan o L with
  | error e =>
    have hrun := h.pay_error hplan
    cases hplan' : q.plan o' L with
    | error e' =>
      simp only [hrun, h.pay_error hplan', and_true]
      exact ⟨rfl, fun t => .refl _⟩
    | ok r' =>
      obtain ⟨hrun', h'⟩ := h.pay_ok hplan'
      simp only [hrun, hrun', h'.pay_error ((hp hplan').trans hplan), and_true]
      exact ⟨rfl, fun t => .refl _⟩
  | ok r =>
    obtain ⟨hrun, h₁⟩ := h.pay_ok hplan
    cases hplan' : q.plan o' L with
    | error e' =>
      simp only [hrun, h.pay_error hplan', h₁.pay_error ((hq hplan).trans hplan'), and_true]
      exact ⟨rfl, fun t => .refl _⟩
    | ok r' =>
      obtain ⟨hrun', h₂⟩ := h.pay_ok hplan'
      have hne : r'.2.account.id ≠ r.2.account.id := by
        rw [(plan_ids hplan).1, (plan_ids hplan').1]
        exact haccount.symm
      simp only [hrun, hrun', (h₁.pay_ok ((hq hplan).trans hplan')).1,
        (h₂.pay_ok ((hp hplan').trans hplan)).1, and_true]
      exact ⟨rfl, Ledger.book_comm hne L⟩

theorem groceries_commute :
    let o (id : Nat) : Occasion := ⟨.ofNat id, .ofNat (id + 1), .ofSeconds id, .ofSeconds (id + 1)⟩
    let steps : List (Command × Occasion) := [
      (.createAccount ⟨"Wallet", .cash, .euro, ⟨1000, by decide⟩, none, true⟩, o 1),
      (.createAccount ⟨"Giro", .bank, .euro, ⟨500, by decide⟩, none, true⟩, o 3),
      (.createCategory ⟨"Food", .expenditure, ⟨none, none, none⟩⟩, o 5),
      (.createTag ⟨"weekly", "expenditure", ⟨none, none, none⟩⟩, o 7)]
    let pay (account : Nat) (amount : Money) : Payment := .spend ⟨⟨.ofNat account, .ofNat 5, amount,
      .euro, .ofSeconds 0, none, [.ofNat 7]⟩, true, false⟩
    let p := pay 1 ⟨300, by decide⟩
    let q := pay 3 ⟨400, by decide⟩
    let s := Store.fresh.after steps
    let pThenQ := [(p.command, o 9), (q.command, o 11)]
    let qThenP := [(q.command, o 11), (p.command, o 9)]
    p.movement.account ≠ q.movement.account ∧ (o 9).id ≠ (o 11).id ∧
      (o 9).transactionId ≠ (o 11).transactionId ∧
      (s.answers pThenQ).map (·.isOk) = [true, true] ∧
      s.answers qThenP = (s.answers pThenQ).reverse ∧
      (∀ t, ((s.after qThenP).books.rows t).Perm ((s.after pThenQ).books.rows t)) ∧
      s.after qThenP = { s.after pThenQ with books := (s.after qThenP).books } := by
  intro o steps pay p q s pThenQ qThenP
  have haccount : p.movement.account ≠ q.movement.account := by decide
  have hid : (o 9).id ≠ (o 11).id := by decide
  have htransaction : (o 9).transactionId ≠ (o 11).transactionId := by decide
  exact ⟨haccount, hid, htransaction, by decide +kernel,
    payments_commute steps p q (o 9) (o 11) haccount hid htransaction⟩

end Payment

end Bookkeeping

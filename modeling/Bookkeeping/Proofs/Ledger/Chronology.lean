import Bookkeeping.Proofs.Instant.Stamp
import Bookkeeping.Proofs.Ledger.Listing

namespace Bookkeeping

namespace Register

variable {first second : α → String} {a b c : α}

theorem byTexts_iff : byTexts first second a b = true ↔
    first a < first b ∨ first a = first b ∧ second a ≤ second b := by
  simp [byTexts]

theorem byTexts_trans (hab : byTexts first second a b = true)
    (hbc : byTexts first second b c = true) : byTexts first second a c = true := by
  rw [byTexts_iff] at hab hbc ⊢
  rcases hab with hab | ⟨hab, hab'⟩ <;> rcases hbc with hbc | ⟨hbc, hbc'⟩
  · exact .inl (String.lt_trans hab hbc)
  · exact .inl (hbc ▸ hab)
  · exact .inl (hab ▸ hbc)
  · exact .inr ⟨hab.trans hbc, String.le_trans hab' hbc'⟩

theorem byTexts_total (a b : α) :
    (byTexts first second a b || byTexts first second b a) = true := by
  rw [Bool.or_eq_true, byTexts_iff, byTexts_iff]
  by_cases hab : first a < first b
  · exact .inl (.inl hab)
  by_cases hba : first b < first a
  · exact .inr (.inl hba)
  have hsame : first a = first b := String.le_antisymm (String.not_lt.1 hba) (String.not_lt.1 hab)
  exact (String.le_total (second a) (second b)).imp (.inr ⟨hsame, ·⟩) (.inr ⟨hsame.symm, ·⟩)

end Register

namespace Ledger

variable {L L' : Ledger} {P : Instant → Prop}

structure Entered (P : Instant → Prop) (L : Ledger) : Prop where
  transaction : ∀ t ∈ L.transactions, P t.createdAt
  expenditure : ∀ e ∈ L.expenditures, P e.createdAt

theorem entered_fresh : fresh.Entered P :=
  ⟨fun _ ht => absurd ht List.not_mem_nil, fun _ he => absurd he List.not_mem_nil⟩

theorem Entered.book (hL : L.Entered P) {p : Payment} {o : Occasion} {r : Reply} {b : Booking}
    (h : p.plan o L = .ok (r, b)) (ho : P o.now) : (L.book b).Entered P := by
  obtain ⟨a, k, balance, amount, tags, h⟩ := Payment.plan_ok h
  obtain rfl := h.booking
  refine ⟨fun t ht => ?_, fun e he => ?_⟩
  · rw [book_transactions, List.mem_append, List.mem_singleton] at ht
    rcases ht with ht | rfl
    · exact hL.transaction t ht
    · exact ho
  · rw [book_expenditures, List.mem_append] at he
    rcases he with he | he
    · exact hL.expenditure e he
    · cases p with
      | spend cmd =>
        obtain rfl := List.mem_singleton.1 he
        exact ho
      | receive cmd => cases he

theorem Effect.entered {c : Command} {o : Occasion} {r : Reply} (h : Effect L o c r L')
    (hL : L.Entered P) (ho : P o.now) : L'.Entered P := by
  cases h with
  | paid hplan => exact hL.book hplan ho
  | _ => exact ⟨hL.transaction, hL.expenditure⟩

theorem Entered.after (hL : L.Entered P) {s : Store} (h : s.Holds L)
    {steps : List (Command × Occasion)} (hclock : ∀ step ∈ steps, P step.2.now) :
    (L.after steps).Entered P := by
  induction steps generalizing s L with
  | nil => exact hL
  | cons step steps ih =>
    obtain ⟨c, o⟩ := step
    obtain ⟨ho, hclock⟩ := List.forall_mem_cons.1 hclock
    refine ih ?_ (h.run c o) hclock
    rw [Ledger.run]
    cases hp : Ledger.perform c o L with
    | ok r => exact (Ledger.perform_effect h.sound hp).entered hL ho
    | error e => exact hL

theorem entered_after (steps : List (Command × Occasion)) :
    (fresh.after steps).Entered fun d => ∃ step ∈ steps, step.2.now = d :=
  entered_fresh.after Store.holds_fresh fun step hstep => ⟨step, hstep, rfl⟩

end Ledger

/-- How two transactions follow one another in the list of their account. Years with four digits are
in the order of time, after all other years, and entries of one date are in the order in which they
were made, as far as the clock showed such years. -/
structure Transaction.Precedes (t u : Transaction) : Prop where
  date : t.date.HasFourDigitYear → u.date.HasFourDigitYear → t.date ≤ u.date
  entry : t.date = u.date → t.createdAt.HasFourDigitYear → u.createdAt.HasFourDigitYear →
    t.createdAt ≤ u.createdAt
  other : u.date.HasFourDigitYear ∨ ¬t.date.HasFourDigitYear

theorem Transaction.precedes_of_byTexts {t u : Transaction}
    (h : Register.byTexts (·.date.stamp) (·.createdAt.stamp) t u = true) : t.Precedes u := by
  rw [Register.byTexts_iff] at h
  have hle : t.date.stamp ≤ u.date.stamp := by
    rcases h with h | ⟨h, -⟩
    · exact String.not_lt.1 (String.lt_asymm h)
    · exact h ▸ String.le_refl _
  constructor
  case date =>
    intro hdate hdate'
    exact (Instant.stamp_le_stamp hdate hdate').1 hle
  case entry =>
    intro hsame ht hu
    rw [hsame] at h
    obtain ⟨-, h⟩ := h.resolve_left (String.lt_irrefl _)
    exact (Instant.stamp_le_stamp ht hu).1 h
  case other =>
    by_contra hother
    obtain ⟨hdate', hdate⟩ := not_or.1 hother
    exact String.not_lt.2 hle (Instant.stamp_lt_of_sign hdate' (not_not.1 hdate))

namespace Ledger

def listed (id : Uuid) (L : Ledger) : List Transaction :=
  (L.transactions.filter (·.account == id)).mergeSort
    (Register.byTexts (·.date.stamp) (·.createdAt.stamp))

theorem mem_listed {L : Ledger} {id : Uuid} {t : Transaction} :
    t ∈ L.listed id ↔ t ∈ L.transactions ∧ t.account = id := by
  rw [listed, List.mem_mergeSort, List.mem_filter, beq_iff_eq]

theorem pairwise_listed (L : Ledger) (id : Uuid) :
    (L.listed id).Pairwise Transaction.Precedes := by
  have hsorted : (L.listed id).Pairwise fun t u =>
      Register.byTexts (·.date.stamp) (·.createdAt.stamp) t u = true := by
    apply List.pairwise_mergeSort
    · intro t u v
      exact Register.byTexts_trans
    · intro t u
      exact Register.byTexts_total t u
  exact hsorted.imp Transaction.precedes_of_byTexts

end Ledger

namespace Store

variable {s : Store} {L : Ledger}

structure InOrder (s : Store) (id : Uuid) (ts : List Transaction) : Prop where
  all : (ts.map Transaction.row).Perm (s.books.transactions.filter (·.account == id.text))
  ordered : ts.Pairwise Transaction.Precedes

theorem Holds.list (h : s.Holds L) {id : Uuid} (hid : id ∈ L.accountIds) (o : Occasion) :
    (Command.listTransactions id).run o s = (.ok (.transactions (L.listed id)), s) := by
  have hlist : (Reply.transactions <$> Ledger.listTransactions id) L =
      .ok (.transactions (L.listed id)) :=
    Ledger.Query.map_ok.2 ⟨_, Ledger.listTransactions_of_mem h.sound hid, rfl⟩
  rw [← hlist]
  exact h.answers ((answers_listTransactions id).map Reply.transactions)

theorem Holds.inOrder (h : s.Holds L) (id : Uuid) : s.InOrder id (L.listed id) where
  all := by
    have howned := filter_rows (f := Transaction.row) (p := (·.account == id.text))
      (q := (·.account == id)) (fun t => Uuid.text_beq_text t.account id) L.transactions
    rw [h.books, Ledger.books, howned]
    exact (List.mergeSort_perm _ _).map _
  ordered := L.pairwise_listed id

/-- All transactions of an account are listed, each once and whatever their dates: those of years
without four digits, and then the oldest first. Their times of entry are the clock's. -/
theorem listed_oldest_first (steps : List (Command × Occasion)) (id : Uuid)
    (hid : id.text ∈ (fresh.after steps).books.accounts.map (·.id)) (o : Occasion) :
    let s := fresh.after steps
    ∃ ts, (Command.listTransactions id).run o s = (.ok (.transactions ts), s) ∧ s.InOrder id ts ∧
      ∀ t ∈ ts, ∃ step ∈ steps, step.2.now = t.createdAt := by
  have h := holds_fresh.after steps
  rw [h.books] at hid
  have hmem := (Ledger.mem_texts_iff Account.row AccountRow.id fun _ => rfl).1 hid
  exact ⟨_, h.list hmem o, h.inOrder id, fun t ht =>
    (Ledger.entered_after steps).transaction t (Ledger.mem_listed.1 ht).1⟩

theorem back_dated_listed :
    let o (id : Nat) : Occasion := ⟨.ofNat id, .ofNat (id + 1), .ofSeconds id, .ofSeconds (id + 1)⟩
    let receive (date : Int) : Command := .createIngress
      ⟨.ofNat 1, .ofNat 3, ⟨100, by decide⟩, .euro, .ofSeconds date, none, []⟩
    let steps : List (Command × Occasion) := [
      (.createAccount ⟨"Wallet", .cash, .euro, ⟨0, by decide⟩, none, true⟩, o 1),
      (.createCategory ⟨"Wages", .ingress, ⟨none, none, none⟩⟩, o 3),
      (receive 946684800, o 5), (receive (-946684800), o 7)]
    let s := fresh.after steps
    s.books.transactions.length = 2 ∧
      ∃ ts, (Command.listTransactions (.ofNat 1)).run (o 9) s = (.ok (.transactions ts), s) ∧
        s.InOrder (.ofNat 1) ts ∧ ∀ t ∈ ts, ∃ step ∈ steps, step.2.now = t.createdAt := by
  intro o receive steps s
  have h := holds_fresh.after steps
  have hid : (Uuid.ofNat 1).text ∈ (fresh.after steps).books.accounts.map (·.id) := by
    rw [h.books]
    decide +kernel
  refine ⟨?_, listed_oldest_first steps (.ofNat 1) hid (o 9)⟩
  rw [h.books]
  decide +kernel

/-- The first day of the year 10000 is listed before the first day of the year 2000. -/
theorem far_future_listed_first :
    let o (id : Nat) : Occasion := ⟨.ofNat id, .ofNat (id + 1), .ofSeconds id, .ofSeconds (id + 1)⟩
    let receive (date : Int) : Command := .createIngress
      ⟨.ofNat 1, .ofNat 3, ⟨100, by decide⟩, .euro, .ofSeconds date, none, []⟩
    let steps : List (Command × Occasion) := [
      (.createAccount ⟨"Wallet", .cash, .euro, ⟨0, by decide⟩, none, true⟩, o 1),
      (.createCategory ⟨"Wages", .ingress, ⟨none, none, none⟩⟩, o 3),
      (receive 946684800, o 5), (receive 253402300800, o 7)]
    let s := fresh.after steps
    ∃ t u, (Command.listTransactions (.ofNat 1)).run (o 9) s = (.ok (.transactions [t, u]), s) ∧
      u.date < t.date := by
  intro o receive steps s
  have h := holds_fresh.after steps
  have hid : Uuid.ofNat 1 ∈ (Ledger.fresh.after steps).accountIds := by decide +kernel
  have hdates : ((Ledger.fresh.after steps).transactions.filter (·.account == .ofNat 1)).map
      (·.date) = [.ofSeconds 946684800, .ofSeconds 253402300800] := by decide +kernel
  have hstamps : ¬(Instant.ofSeconds 946684800).stamp ≤ (Instant.ofSeconds 253402300800).stamp := by
    decide +kernel
  simp only [List.map_eq_cons_iff, List.map_eq_nil_iff] at hdates
  obtain ⟨u, _, hfilter, hu, t, _, rfl, ht, rfl⟩ := hdates
  have hlisted : (Ledger.fresh.after steps).listed (.ofNat 1) = [t, u] := by
    have hlater : Register.byTexts (·.date.stamp) (·.createdAt.stamp) u t = false := by
      rw [Bool.eq_false_iff, Ne, Register.byTexts_iff, ht, hu]
      rintro (h | ⟨h, -⟩)
      · exact hstamps (String.not_lt.1 (String.lt_asymm h))
      · exact hstamps (h ▸ String.le_refl _)
    rw [Ledger.listed, hfilter]
    simp [List.mergeSort, hlater]
  refine ⟨t, u, ?_, ?_⟩
  · rw [← hlisted]
    exact h.list hid (o 9)
  · rw [ht, hu]
    decide

end Store

end Bookkeeping

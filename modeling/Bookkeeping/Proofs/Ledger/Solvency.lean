import Bookkeeping.Proofs.Failure.Specific
import Bookkeeping.Proofs.Ledger.Balance
import Mathlib.Data.Int.Order.Basic

namespace Bookkeeping

inductive Transaction.Covered (t : Transaction) : Prop
  | spent (hkind : t.kind = .expenditure) (hbalance : 0 ≤ t.balanceAfter.minor) : Covered t
  | received (hkind : t.kind = .ingress) (hamount : 0 < t.amount.minor) : Covered t

namespace Ledger

structure Solvent (L : Ledger) : Prop where
  spent : ∀ t ∈ L.transactions, t.kind = .expenditure → 0 ≤ t.balanceAfter.minor
  accounts : ∀ a ∈ L.accounts, min 0 a.initialBalance.minor ≤ a.currentBalance.minor

theorem solvent_fresh : fresh.Solvent := ⟨by simp [fresh], by simp [fresh]⟩

variable {L L' : Ledger}

theorem createExpenditure_covered {cmd : NewExpenditure} {o : Occasion} {d : Detail Expenditure}
    (h : createExpenditure cmd o L = .ok (d, L')) : d.transaction.Covered := by
  simp only [createExpenditure, spend, Step.bind_ok, Step.ask_ok, Step.pure_ok,
    Query.ofOverflow_ok, refused_bind_or_ok] at h
  obtain ⟨_, _, -, a, _, -, _, _, -, _, _, -, hcovers, b, _, ⟨hdebit, -⟩, _, _, -, _, _, -, _, _, -,
    _, _, -, _, _, -, _, _, -, rfl, -⟩ := h
  obtain ⟨balance, hbalance, rfl⟩ := debit_ok.1 hdebit
  have hcovers : cmd.amount.minor ≤ a.currentBalance.minor := by
    simpa [Account.covers] using hcovers
  refine .spent rfl ?_
  show 0 ≤ balance.minor
  omega

theorem createIngress_covered {cmd : NewMovement} {o : Occasion} {d : Detail Ingress}
    (h : createIngress cmd o L = .ok (d, L')) : d.transaction.Covered := by
  simp only [createIngress, receive, Step.bind_ok, Step.ask_ok, Step.pure_ok] at h
  obtain ⟨_, _, ⟨hpos, -⟩, _, _, -, _, _, -, _, _, -, _, _, -, _, _, -, _, _, -, _, _, -, _, _, -,
    _, _, -, rfl, -⟩ := h
  exact .received rfl (ensurePositive_ok hpos)

theorem perform_covered {c : Command} {o : Occasion} {r : Reply}
    (h : perform c o L = .ok (r, L')) : ∀ t ∈ c.posted r, t.Covered := by
  cases c with
  | createExpenditure cmd =>
    obtain ⟨d, hd, rfl⟩ := Step.map_ok.1 h
    exact List.forall_mem_singleton.2 (createExpenditure_covered hd)
  | createIngress cmd =>
    obtain ⟨d, hd, rfl⟩ := Step.map_ok.1 h
    exact List.forall_mem_singleton.2 (createIngress_covered hd)
  | _ => exact fun _ h => nomatch h

theorem Posting.solvent {ts : List Transaction} (h : Posting L L' ts)
    (hts : ∀ t ∈ ts, t.Covered) (hL : L.Solvent) : L'.Solvent := by
  have hspent : ∀ t ∈ L'.transactions, t.kind = .expenditure → 0 ≤ t.balanceAfter.minor := by
    rw [h.transactions]
    refine List.forall_mem_append.2 ⟨hL.spent, fun t ht hkind => ?_⟩
    cases hts t ht with
    | spent _ hbalance => exact hbalance
    | received hingress _ => simp [hkind] at hingress
  refine ⟨hspent, ?_⟩
  -- only spending lowers a balance, and that leaves it at zero or above
  cases h with
  | nothing ha ht => exact ha ▸ hL.accounts
  | opened hopen hid ha ht =>
    rw [ha]
    refine Keyed.forall_mem_concat hL.accounts ?_
    rw [hopen]
    exact min_le_right _ _
  | @changed old new hold hid hi hc ha ht =>
    rw [ha]
    intro b hb
    rcases Keyed.mem_replace hb with rfl | ⟨hb, -⟩
    · rw [hi, hc]
      exact hL.accounts old hold
    · exact hL.accounts b hb
  | closed ha ht =>
    rw [ha]
    exact fun a ha => hL.accounts a (List.mem_of_mem_filter ha)
  | released ha ht =>
    rw [ha]
    refine List.forall_mem_map.2 fun a ha => ?_
    rw [Account.release_initialBalance, Account.release_currentBalance]
    exact hL.accounts a ha
  | @moved old new t hold hid hi hto hc hbalance hs ha ht =>
    rw [ha]
    intro b hb
    rcases Keyed.mem_replace hb with rfl | ⟨hb, -⟩
    · have hold := hL.accounts old hold
      rw [hi]
      cases List.forall_mem_singleton.1 hts with
      | spent _ hafter =>
        rw [hbalance] at hafter
        exact (min_le_left _ _).trans hafter
      | received _ hamount => omega
    · exact hL.accounts b hb

end Ledger

/-- Money is only spent where it is, and no account is deeper below zero than it was opened. -/
structure Books.Solvent (b : Books) : Prop where
  spent : ∀ t ∈ b.transactions, t.kind = TransactionKind.expenditure.code → 0 ≤ t.balanceAfter.minor
  accounts : ∀ a ∈ b.accounts, min 0 a.initialBalance.minor ≤ a.currentBalance.minor

theorem TransactionKind.code_inj {k l : TransactionKind} : k.code = l.code ↔ k = l := by
  cases k <;> cases l <;> decide

theorem Ledger.Solvent.books {L : Ledger} (h : L.Solvent) : L.books.Solvent where
  spent := List.forall_mem_map.2 fun t ht hkind => h.spent t ht (TransactionKind.code_inj.1 hkind)
  accounts := List.forall_mem_map.2 h.accounts

/-- How often a command changes and stores an account: once if it succeeds, or not at all. -/
def Command.updates (c : Command) (o : Occasion) (s : Store) (id : Uuid) : Nat :=
  if c.updated = some id ∧ (c.run o s).1.isOk = true then 1 else 0

namespace Store

def updates (s : Store) (id : Uuid) : List (Command × Occasion) → Nat
  | [] => 0
  | (c, o) :: rest => c.updates o s id + updates (c.run o s).2 id rest

theorem updates_le_length (s : Store) (id : Uuid) (steps : List (Command × Occasion)) :
    s.updates id steps ≤ steps.length := by
  induction steps generalizing s with
  | nil => exact Nat.le_refl 0
  | cons step steps ih =>
    obtain ⟨c, o⟩ := step
    have hone : c.updates o s id ≤ 1 := by
      rw [Command.updates]
      split <;> decide
    have := ih (c.run o s).2
    simp only [updates, List.length_cons]
    omega

theorem updates_concat (s : Store) (id : Uuid) (steps : List (Command × Occasion)) (c : Command)
    (o : Occasion) :
    s.updates id (steps ++ [(c, o)]) = s.updates id steps + c.updates o (s.after steps) id := by
  induction steps generalizing s with
  | nil => simp [updates, after]
  | cons step steps ih =>
    rw [List.cons_append, updates, updates, ih, after, Nat.add_assoc]

namespace Holds

variable {s : Store} {L : Ledger}

theorem solvent_after (h : s.Holds L) (hL : L.Solvent) (steps : List (Command × Occasion)) :
    (L.after steps).Solvent := by
  induction steps generalizing s L with
  | nil => exact hL
  | cons step steps ih =>
    obtain ⟨c, o⟩ := step
    refine ih (h.run c o) ((h.posting c o).solvent ?_ hL)
    rw [Command.committed]
    cases hp : Ledger.perform c o L with
    | ok r =>
      rw [(h.run_of_ok hp).2]
      exact Ledger.perform_covered hp
    | error e =>
      rw [h.run_of_error hp]
      rintro _ ⟨⟩

theorem version_run (h : s.Holds L) {used : Uuid → Nat} (hused : ∀ a ∈ L.accounts,
    a.version ≤ used a.id) (c : Command) (o : Occasion) :
    ∀ a ∈ (L.run c o).accounts, a.version ≤ (used a.id + c.updates o s a.id : Nat) := by
  cases hp : Ledger.perform c o L with
  | ok r =>
    have hgrown := h.sound.grown_run c o
    intro a ha
    rcases hgrown.accounts a ha with ⟨-, hv⟩ | ⟨old, hold, hid, hv⟩
    · omega
    · have hold := hid ▸ hused old hold
      rcases hv with hv | ⟨hupdated, hv⟩
      · omega
      · rw [Command.updates, (h.run_of_ok hp).2, if_pos ⟨hupdated, rfl⟩]
        omega
  | error e =>
    rw [Ledger.run, hp]
    intro a ha
    have := hused a ha
    omega

theorem answers_no_overflow (h : s.Holds L) (used : Uuid → Nat)
    (hused : ∀ a ∈ L.accounts, a.version ≤ used a.id) {steps : List (Command × Occasion)}
    (hupdates : ∀ id, ((used id + s.updates id steps : Nat) : Int) < greatestWord) :
    ∀ r ∈ s.answers steps, ∀ x, r ≠ .error (.overflow x) := by
  induction steps generalizing s L used with
  | nil => exact fun _ h => nomatch h
  | cons step steps ih =>
    obtain ⟨c, o⟩ := step
    rw [answers]
    refine List.forall_mem_cons.2 ⟨fun x hx => ?_, ?_⟩
    · -- the account that is worn out would have been stored too often already
      have htold := Ledger.told_perform h.sound c o
      cases hp : Ledger.perform c o L with
      | ok r =>
        rw [(h.run_of_ok hp).2] at hx
        cases hx
      | error f =>
        rw [h.run_of_error hp] at hx
        cases hx
        rw [hp] at htold
        cases htold with
        | worn hworn =>
          obtain ⟨a, ha, hv⟩ := hworn
          have := hused a ha
          have := hupdates a.id
          omega
    · refine ih (h.run c o) (fun id => used id + c.updates o s id) (h.version_run hused c o)
        fun id => ?_
      have := hupdates id
      rw [updates] at this
      omega

end Holds

/-- No run of commands overflows, unless it changes one account more often than a version can
count. Whatever opening balances and amounts are asked for, the books stay solvent. -/
theorem stays_solvent (steps : List (Command × Occasion))
    (hupdates : ∀ id, (fresh.updates id steps : Int) < greatestWord) :
    (∀ answer ∈ fresh.answers steps, ∀ x, answer ≠ .error (.overflow x)) ∧
      ∀ earlier, earlier <+: steps → (fresh.after earlier).books.Solvent := by
  refine ⟨?_, fun earlier _ => ?_⟩
  · refine holds_fresh.answers_no_overflow (fun _ => 0) (fun _ h => nomatch h) fun id => ?_
    rw [Nat.zero_add]
    exact hupdates id
  · rw [(holds_fresh.after earlier).books]
    exact (holds_fresh.solvent_after Ledger.solvent_fresh earlier).books

/-- An account that is opened as far below zero as can be, and filled up as much as can be, is still
below zero: nothing can be spent from it. -/
theorem stays_solvent_at_the_limits :
    let o (id : Nat) : Occasion := ⟨.ofNat id, .ofNat (id + 1), .ofSeconds 0, .ofSeconds 0⟩
    let move (category : Nat) (amount : Money) : NewMovement :=
      ⟨.ofNat 1, .ofNat category, amount, .euro, .ofSeconds 0, none, []⟩
    let steps : List (Command × Occasion) := [
      (.createAccount ⟨"Debts", .bank, .euro, ⟨leastWord, by decide⟩, none, true⟩, o 1),
      (.createCategory ⟨"Wages", .ingress, ⟨none, none, none⟩⟩, o 3),
      (.createCategory ⟨"Rent", .expenditure, ⟨none, none, none⟩⟩, o 5),
      (.createIngress (move 3 ⟨greatestWord, by decide⟩), o 7),
      (.createExpenditure ⟨move 5 ⟨greatestWord, by decide⟩, false, false⟩, o 9)]
    (∀ id, (fresh.updates id steps : Int) < greatestWord) ∧
      (fresh.answers steps).map (·.isOk) = [true, true, true, true, false] ∧
      (∀ answer ∈ fresh.answers steps, ∀ x, answer ≠ .error (.overflow x)) ∧
      ∀ earlier, earlier <+: steps → (fresh.after earlier).books.Solvent := by
  intro o move steps
  have hupdates (id : Uuid) : (fresh.updates id steps : Int) < greatestWord :=
    lt_of_le_of_lt (Int.ofNat_le.2 (fresh.updates_le_length id steps)) (by decide)
  exact ⟨hupdates, by decide +kernel, stays_solvent steps hupdates⟩

end Store

end Bookkeeping

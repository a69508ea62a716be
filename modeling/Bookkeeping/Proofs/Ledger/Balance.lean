import Bookkeeping.Proofs.Ledger.Posting
import Mathlib.Algebra.Ring.Int.Defs

namespace Bookkeeping

/-- Each balance is the one before it and the amount moved; the last one is `finish`. -/
def Trail (start : Int) : List TransactionRow → Int → Prop
  | [], finish => finish = start
  | t :: ts, finish =>
    t.balanceAfter.minor = start + t.amount.minor ∧ Trail t.balanceAfter.minor ts finish

namespace Trail

variable {start mid finish : Int} {t : TransactionRow} {ts : List TransactionRow}

theorem append (h : Trail start ts mid) (ht : t.balanceAfter.minor = mid + t.amount.minor) :
    Trail start (ts ++ [t]) t.balanceAfter.minor := by
  induction ts generalizing start with
  | nil =>
    cases h
    exact ⟨ht, rfl⟩
  | cons u ts ih => exact ⟨h.1, ih h.2⟩

theorem finish_eq (h : Trail start ts finish) : finish = start + (ts.map (·.amount.minor)).sum := by
  induction ts generalizing start with
  | nil => simpa [Trail] using h
  | cons u ts ih =>
    rw [ih h.2, h.1, List.map_cons, List.sum_cons, Int.add_assoc]

end Trail

namespace Ledger

def history (L : Ledger) (id : Uuid) : List TransactionRow :=
  (L.transactions.filter (·.account == id)).map Transaction.row

structure Balanced (L : Ledger) : Prop where
  trail : ∀ a ∈ L.accounts, Trail a.initialBalance.minor (L.history a.id) a.currentBalance.minor
  completed : ∀ t ∈ L.transactions, t.status = .completed

theorem balanced_fresh : fresh.Balanced := ⟨by simp [fresh], by simp [fresh]⟩

variable {L L' : Ledger}

theorem Sound.history_eq_nil (h : L.Sound) {id : Uuid} (hid : id ∉ L.accountIds) :
    L.history id = [] := by
  rw [history, List.map_eq_nil_iff, List.filter_eq_nil_iff]
  intro t ht heq
  exact hid (by simpa [← beq_iff_eq.1 heq] using h.account_transaction t ht)

theorem Posting.balanced {ts : List Transaction} (hs : L.Sound) (hb : L.Balanced)
    (h : Posting L L' ts) : L'.Balanced := by
  have hsame (ht : L'.transactions = L.transactions) (id : Uuid) :
      L'.history id = L.history id := by
    rw [history, ht, history]
  cases h with
  | nothing ha ht => exact ⟨by simpa [ha, hsame ht] using hb.trail, ht ▸ hb.completed⟩
  | @opened a hopen hid ha ht =>
    refine ⟨?_, ht ▸ hb.completed⟩
    rw [ha]
    refine List.forall_mem_append.2 ⟨?_, List.forall_mem_singleton.2 ?_⟩
    · simpa [hsame ht] using hb.trail
    · rw [hsame ht, hs.history_eq_nil hid, hopen]
      rfl
  | @changed old new hold hid hi hc ha ht =>
    refine ⟨?_, ht ▸ hb.completed⟩
    rw [ha]
    intro b hmem
    rw [hsame ht]
    rcases Keyed.mem_replace hmem with rfl | ⟨hmem, -⟩
    · rw [hid, hi, hc]
      exact hb.trail old hold
    · exact hb.trail b hmem
  | closed ha ht =>
    refine ⟨?_, ht ▸ hb.completed⟩
    rw [ha]
    intro b hmem
    rw [hsame ht]
    exact hb.trail b (List.mem_of_mem_filter hmem)
  | released ha ht =>
    refine ⟨?_, ht ▸ hb.completed⟩
    rw [ha]
    refine List.forall_mem_map.2 fun a hmem => ?_
    simpa [hsame ht] using hb.trail a hmem
  | @moved old new t hold hid hi hto hc hafter hcompleted ha ht =>
    -- the trail of the account that is moved gets longer by `t`, every other one stays
    refine ⟨?_, ?_⟩
    · rw [ha]
      intro b hmem
      rcases Keyed.mem_replace hmem with rfl | ⟨hmem, hne⟩
      · have hrow : L'.history b.id = L.history old.id ++ [t.row] := by
          simp [history, ht, hid, hto]
        have hlast : b.currentBalance.minor = t.row.balanceAfter.minor := by rw [← hafter]; rfl
        rw [hrow, hi, hlast]
        exact (hb.trail old hold).append (by rw [← hlast, hc]; rfl)
      · have hrow : L'.history b.id = L.history b.id := by
          have hother : t.account ≠ b.id := fun h => hne (h ▸ hto.trans hid.symm)
          simp [history, ht, hother]
        rw [hrow]
        exact hb.trail b hmem
    · rw [ht]
      exact List.forall_mem_append.2 ⟨hb.completed, List.forall_mem_singleton.2 hcompleted⟩

end Ledger

def Command.committed (c : Command) (o : Occasion) (s : Store) : List Transaction :=
  match (c.run o s).1 with
  | .ok r => c.posted r
  | .error _ => []

namespace Store

def committed (s : Store) : List (Command × Occasion) → List Transaction
  | [] => []
  | (c, o) :: rest => c.committed o s ++ committed (c.run o s).2 rest

theorem Holds.posting {s : Store} {L : Ledger} (h : s.Holds L) (c : Command) (o : Occasion) :
    L.Posting (L.run c o) (c.committed o s) := by
  have hp := performs_command c o s L h.ready h.transaction h.sound h.books
  rw [Command.committed, Command.run, Ledger.run]
  cases hl : Ledger.perform c o L with
  | ok r =>
    obtain ⟨-, hrun⟩ := hp.of_ok hl
    rw [hrun]
    exact Ledger.perform_posting h.sound hl
  | error e =>
    rw [hp.of_error hl]
    exact .nothing rfl rfl

theorem Holds.transactions_after {s : Store} {L : Ledger} (h : s.Holds L)
    (steps : List (Command × Occasion)) :
    (L.after steps).transactions = L.transactions ++ s.committed steps := by
  induction steps generalizing s L with
  | nil => simp [Ledger.after, committed]
  | cons step steps ih =>
    obtain ⟨c, o⟩ := step
    rw [Ledger.after, committed, ih (h.run c o), (h.posting c o).transactions, List.append_assoc]

theorem Holds.balanced_after {s : Store} {L : Ledger} (h : s.Holds L) (hb : L.Balanced)
    (steps : List (Command × Occasion)) : (L.after steps).Balanced := by
  induction steps generalizing s L with
  | nil => exact hb
  | cons step steps ih =>
    obtain ⟨c, o⟩ := step
    exact ih (h.run c o) ((h.posting c o).balanced h.sound hb)

/-- After any commands on a new household's books, the transactions are those that the commands
committed, in that order, and the balances of every account run along its own ones. -/
theorem balances_along_transactions (steps : List (Command × Occasion)) :
    (fresh.after steps).books.transactions = (fresh.committed steps).map Transaction.row ∧
      ∀ a ∈ (fresh.after steps).books.accounts,
        let own := (fresh.after steps).books.transactions.filter (·.account == a.id)
        Trail a.initialBalance.minor own a.currentBalance.minor ∧
          a.currentBalance.minor = a.initialBalance.minor +
            ((own.filter (·.status == TransactionStatus.completed.code)).map
              (·.amount.minor)).sum := by
  have h := holds_fresh.after steps
  have hb := holds_fresh.balanced_after Ledger.balanced_fresh steps
  have ht := holds_fresh.transactions_after steps
  generalize Ledger.fresh.after steps = L at h hb ht
  rw [h.books]
  refine ⟨congrArg (List.map Transaction.row) ht, List.forall_mem_map.2 fun a ha => ?_⟩
  have hown : L.books.transactions.filter (·.account == a.row.id) = L.history a.id :=
    filter_rows (fun t => Uuid.text_beq_text t.account a.id) L.transactions
  have hcompleted : (L.history a.id).filter (·.status == TransactionStatus.completed.code) =
      L.history a.id := by
    apply List.filter_eq_self.2
    intro r hr
    obtain ⟨t, ht, rfl⟩ := List.mem_map.1 hr
    simp [Transaction.row, hb.completed t (List.mem_of_mem_filter ht)]
  have htrail := hb.trail a ha
  simp only [hown, hcompleted]
  exact ⟨htrail, htrail.finish_eq⟩

end Store

end Bookkeeping

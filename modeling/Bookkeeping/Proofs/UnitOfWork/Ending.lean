import Bookkeeping.Proofs.UnitOfWork.Calls

/-! Units of work: how they can end, and which books they leave. -/

namespace Bookkeeping

inductive Event (α : Type)
  | begin (r : Except StorageFailure Unit)
  | work (r : Except Fault α)
  | commit (r : Except StorageFailure Unit)
  | rollback (r : Except StorageFailure Unit)
  | discard

namespace TransactionControl

variable {σ α : Type}

def logged (α : Type) (c : TransactionControl σ) : TransactionControl (σ × List (Event α)) where
  begin s := ((c.begin s.1).1, (c.begin s.1).2, s.2 ++ [.begin (c.begin s.1).1])
  commit s := ((c.commit s.1).1, (c.commit s.1).2, s.2 ++ [.commit (c.commit s.1).1])
  rollback s := ((c.rollback s.1).1, (c.rollback s.1).2, s.2 ++ [.rollback (c.rollback s.1).1])
  discard s := (c.discard s.1, s.2 ++ [.discard])

def loggedWork (w : ExceptT Fault (StateM σ) α) : ExceptT Fault (StateM (σ × List (Event α))) α :=
  fun s => ((w s.1).1, (w s.1).2, s.2 ++ [.work (w s.1).1])

/-- The ways a unit of work can go, with what happens in it, its answer and the state it leaves. -/
inductive Runs (c : TransactionControl σ) (w : ExceptT Fault (StateM σ) α) (s : σ) :
    List (Event α) → Except Fault α → σ → Prop
  | notBegun {f s₁} (hb : c.begin s = (.error f, s₁)) :
    Runs c w s [.begin (.error f)] (.error (.error (.infra (.begin f)))) s₁
  | kept {s₁ v s₂ s₃} (hb : c.begin s = (.ok (), s₁)) (hw : w s₁ = (.ok v, s₂))
      (hc : c.commit s₂ = (.ok (), s₃)) :
    Runs c w s [.begin (.ok ()), .work (.ok v), .commit (.ok ())] (.ok v) s₃
  | notCommitted {s₁ v s₂ f s₃} (hb : c.begin s = (.ok (), s₁)) (hw : w s₁ = (.ok v, s₂))
      (hc : c.commit s₂ = (.error f, s₃)) :
    Runs c w s [.begin (.ok ()), .work (.ok v), .commit (.error f)]
      (.error (.error (.infra (.commit f)))) s₃
  | rolledBack {s₁ e s₂ s₃} (hb : c.begin s = (.ok (), s₁)) (hw : w s₁ = (.error (.error e), s₂))
      (hr : c.rollback s₂ = (.ok (), s₃)) :
    Runs c w s [.begin (.ok ()), .work (.error (.error e)), .rollback (.ok ())]
      (.error (.error e)) s₃
  | rollbackFailed {s₁ e s₂ f s₃} (hb : c.begin s = (.ok (), s₁))
      (hw : w s₁ = (.error (.error e), s₂)) (hr : c.rollback s₂ = (.error f, s₃)) :
    Runs c w s [.begin (.ok ()), .work (.error (.error e)), .rollback (.error f)]
      (.error (.error (.rollbackFailed e (.rollback f)))) s₃
  | abandoned {s₁ o s₂} (hb : c.begin s = (.ok (), s₁))
      (hw : w s₁ = (.error (.overflow o), s₂)) :
    Runs c w s [.begin (.ok ()), .work (.error (.overflow o)), .discard] (.error (.overflow o))
      (c.discard s₂)

theorem runs (c : TransactionControl σ) (w : ExceptT Fault (StateM σ) α) (s : σ) :
    ∃ log r s', (c.logged α).run (loggedWork w) (s, []) = (r, s', log) ∧ c.run w s = (r, s') ∧
      Runs c w s log r s' := by
  simp only [run, logged, loggedWork]
  rcases hb : c.begin s with ⟨f | _, s₁⟩
  · exact ⟨_, _, _, rfl, rfl, .notBegun hb⟩
  rcases hw : w s₁ with ⟨(e | o) | v, s₂⟩
  · rcases hr : c.rollback s₂ with ⟨f | _, s₃⟩
    · exact ⟨_, _, _, by simp only [hw, hr]; rfl, by simp only [hw, hr], .rollbackFailed hb hw hr⟩
    · exact ⟨_, _, _, by simp only [hw, hr]; rfl, by simp only [hw, hr], .rolledBack hb hw hr⟩
  · exact ⟨_, _, _, by simp only [hw]; rfl, by simp only [hw], .abandoned hb hw⟩
  · rcases hc : c.commit s₂ with ⟨f | _, s₃⟩
    · exact ⟨_, _, _, by simp only [hw, hc]; rfl, by simp only [hw, hc], .notCommitted hb hw hc⟩
    · exact ⟨_, _, _, by simp only [hw, hc]; rfl, by simp only [hw, hc], .kept hb hw hc⟩

end TransactionControl

namespace Store

variable {s s' : Store} {b : Books} {r : Refusals} {f : StorageFailure}

def begun (s : Store) : Store := { s with transaction := some ⟨s.books, false⟩ }

theorem begin_cases (s : Store) (r : Refusals) :
    (∃ f, (control r).begin s = (.error f, s)) ∨ (control r).begin s = (.ok (), s.begun) := by
  simp only [control]
  cases r.begin with
  | some f => exact .inl ⟨f, rfl⟩
  | none =>
    simp only [Store.begin]
    split
    · exact .inl ⟨_, rfl⟩
    · split
      · exact .inl ⟨_, rfl⟩
      · exact .inr rfl

theorem begin_failed (h : (control r).begin s = (.error f, s')) : s' = s := by
  rcases begin_cases s r with ⟨_, hb⟩ | hb <;> rw [hb] at h <;> cases h
  rfl

theorem begin_ok (h : (control r).begin s = (.ok (), s')) : s' = s.begun := by
  rcases begin_cases s r with ⟨_, hb⟩ | hb <;> rw [hb] at h <;> cases h
  rfl

theorem discard_books (h : s.undo = some b) : s.discard.books = b := by
  obtain ⟨t, ht, rfl⟩ := Option.map_eq_some_iff.1 h
  rw [discard, ht]

theorem commit_cases (h : s.undo = some b) (r : Refusals) :
    (∃ s', (control r).commit s = (.ok (), s') ∧ s'.books = s.books) ∨
      ∃ f, (control r).commit s = (.error f, s.discard) := by
  simp only [control]
  cases r.commit with
  | some f => exact .inr ⟨f, rfl⟩
  | none =>
    obtain ⟨t, ht, -⟩ := Option.map_eq_some_iff.1 h
    simp only [Store.commit, ht]
    split
    · exact .inl ⟨_, rfl, rfl⟩
    · exact .inr ⟨_, rfl⟩

theorem commit_ok (h : s.undo = some b) (hc : (control r).commit s = (.ok (), s')) :
    s'.books = s.books := by
  rcases commit_cases h r with ⟨_, hc', hbooks⟩ | ⟨_, hc'⟩ <;> rw [hc'] at hc <;> cases hc
  exact hbooks

theorem commit_failed (h : s.undo = some b) (hc : (control r).commit s = (.error f, s')) :
    s'.books = b := by
  rcases commit_cases h r with ⟨_, hc', -⟩ | ⟨_, hc'⟩ <;> rw [hc'] at hc <;> cases hc
  exact discard_books h

theorem rollback_books {x : Except StorageFailure Unit} (h : s.undo = some b)
    (hr : (control r).rollback s = (x, s')) : s'.books = b := by
  simp only [control] at hr
  cases hf : r.rollback with
  | some f =>
    rw [hf] at hr
    cases hr
    exact discard_books h
  | none =>
    obtain ⟨t, ht, -⟩ := Option.map_eq_some_iff.1 h
    simp only [hf, Store.rollback, ht] at hr
    cases hr
    exact discard_books h

end Store

inductive Ending (s : Store) (w : Work α) : List (Event α) → Except Fault α → Books → Prop
  | notBegun (f : StorageFailure) :
    Ending s w [.begin (.error f)] (.error (.error (.infra (.begin f)))) s.books
  | kept {v : α} (hw : (w s.begun).1 = .ok v) :
    Ending s w [.begin (.ok ()), .work (.ok v), .commit (.ok ())] (.ok v) (w s.begun).2.books
  | notCommitted {v : α} (f : StorageFailure) (hw : (w s.begun).1 = .ok v) :
    Ending s w [.begin (.ok ()), .work (.ok v), .commit (.error f)]
      (.error (.error (.infra (.commit f)))) s.books
  | rolledBack {e : LedgerError} (hw : (w s.begun).1 = .error (.error e)) :
    Ending s w [.begin (.ok ()), .work (.error (.error e)), .rollback (.ok ())]
      (.error (.error e)) s.books
  | rollbackFailed {e : LedgerError} (f : StorageFailure)
      (hw : (w s.begun).1 = .error (.error e))
      (hd : (LedgerError.rollbackFailed e (.rollback f)).domain? = e.domain?) :
    Ending s w [.begin (.ok ()), .work (.error (.error e)), .rollback (.error f)]
      (.error (.error (.rollbackFailed e (.rollback f)))) s.books
  | abandoned {o : Overflow} (hw : (w s.begun).1 = .error (.overflow o)) :
    Ending s w [.begin (.ok ()), .work (.error (.overflow o)), .discard] (.error (.overflow o))
      s.books

theorem Ending.books_of_error {s : Store} {w : Work α} {log : List (Event α)} {e : Fault}
    {b : Books} (h : Ending s w log (.error e) b) : b = s.books := by
  cases h <;> rfl

theorem Store.ending {s s' : Store} {w : Work α} {log : List (Event α)} {r : Except Fault α}
    (hkeeps : w.Keeps undo) (h : (control s.refusals).Runs w s log r s') :
    Ending s w log r s'.books := by
  have hundo {x : Except Fault α} {s₂ : Store} (hw : w s.begun = (x, s₂)) :
      s₂.undo = some s.books := by
    have h := hkeeps s.begun
    rwa [hw] at h
  cases h with
  | @notBegun f _ hb =>
    cases begin_failed hb
    exact .notBegun f
  | @kept _ v s₂ _ hb hw hc =>
    cases begin_ok hb
    have hbooks : s'.books = (w s.begun).2.books := by
      rw [commit_ok (hundo hw) hc, hw]
    rw [hbooks]
    exact .kept (congrArg Prod.fst hw)
  | @notCommitted _ v s₂ f _ hb hw hc =>
    cases begin_ok hb
    rw [commit_failed (hundo hw) hc]
    exact .notCommitted f (congrArg Prod.fst hw)
  | @rolledBack _ e s₂ _ hb hw hr =>
    cases begin_ok hb
    rw [rollback_books (hundo hw) hr]
    exact .rolledBack (congrArg Prod.fst hw)
  | @rollbackFailed _ e s₂ f _ hb hw hr =>
    cases begin_ok hb
    rw [rollback_books (hundo hw) hr]
    exact .rollbackFailed f (congrArg Prod.fst hw) rfl
  | @abandoned _ o s₂ hb hw =>
    cases begin_ok hb
    rw [show ((control s.refusals).discard s₂).books = s.books from discard_books (hundo hw)]
    exact .abandoned (congrArg Prod.fst hw)

end Bookkeeping

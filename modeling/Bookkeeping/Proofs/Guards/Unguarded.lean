import Bookkeeping.Proofs.Guards.Native
import Bookkeeping.Proofs.Ledger.Command
import Bookkeeping.Proofs.UnitOfWork.Ending

namespace Bookkeeping

open Ledger (Query Step)

namespace Store

/-- The store without its guards. The keys themselves stay. -/
def unguarded (s : Store) : Store := { s with guards := [] }

theorem begin_unguarded (r : Refusals) (s : Store) : (control r).begin s.unguarded =
    (((control r).begin s).1, ((control r).begin s).2.unguarded) := by
  simp only [control]
  cases r.begin with
  | some f => rfl
  | none =>
    obtain ⟨books, guards, isOpen, transaction, refusals⟩ := s
    cases isOpen with
    | false => rfl
    | true => cases transaction <;> rfl

theorem discard_unguarded (s : Store) : s.unguarded.discard = s.discard.unguarded := by
  obtain ⟨books, guards, isOpen, transaction, refusals⟩ := s
  cases transaction <;> rfl

theorem commit_unguarded (r : Refusals) (s : Store) : (control r).commit s.unguarded =
    (((control r).commit s).1, ((control r).commit s).2.unguarded) := by
  simp only [control, discard_unguarded]
  cases r.commit with
  | some f => rfl
  | none =>
    simp only [Store.commit, discard_unguarded]
    cases ht : s.transaction with
    | none => simp only [unguarded, ht]
    | some t => by_cases hi : s.books.Intact <;> simp [unguarded, ht, hi]

theorem rollback_unguarded (r : Refusals) (s : Store) : (control r).rollback s.unguarded =
    (((control r).rollback s).1, ((control r).rollback s).2.unguarded) := by
  simp only [control, discard_unguarded]
  cases r.rollback with
  | some f => rfl
  | none =>
    simp only [Store.rollback, discard_unguarded]
    cases ht : s.transaction <;> simp only [unguarded, ht]

structure Shows (s : Store) (L : Ledger) : Prop where
  ready : s.Ready
  sound : L.Sound
  books : s.books = L.books

theorem Holds.shows {s : Store} {L : Ledger} (h : s.Holds L) : s.Shows L :=
  ⟨h.ready, h.sound, h.books⟩

theorem Holds.begun {s : Store} {L : Ledger} (h : s.Holds L) : s.begun.Shows L where
  ready := ⟨h.ready.isOpen, h.ready.refusals, by
    simpa [enforcement, Store.begun, h.transaction] using h.ready.enforcement⟩
  sound := h.sound
  books := h.books

end Store

namespace Work

def Alike (w : Work α) (s : Store) : Prop := w s.unguarded = ((w s).1, (w s).2.unguarded)

namespace Alike

variable {s : Store} {L : Ledger}

theorem pure (a : α) : Alike (Pure.pure a) s := rfl

theorem failDomain (e : DomainError) : Alike (Work.failDomain e : Work α) s := rfl

theorem failDomain_bind (e : DomainError) (f : α → Work β) :
    Alike (Work.failDomain e >>= f) s := rfl

theorem ofDomain (x : Except DomainError α) : Alike (Work.ofDomain x) s := by
  cases x <;> rfl

theorem ofOverflow (x : Except Overflow α) : Alike (Work.ofOverflow x) s := by
  cases x <;> rfl

theorem ofDecoded (x : Except InfraError α) : Alike (Work.ofDecoded x) s := by
  cases x <;> rfl

theorem bind {w : Work α} {f : α → Work β} (hw : Alike w s)
    (hf : ∀ a s', w s = (.ok a, s') → Alike (f a) s') : Alike (w >>= f) s := by
  rw [Alike] at hw ⊢
  rw [bind_apply, bind_apply, hw]
  rcases h : w s with ⟨e | a, s'⟩
  · rfl
  · exact hf a s' h

theorem map {w : Work α} (hw : Alike w s) (f : α → β) : Alike (f <$> w) s := by
  rw [map_eq_pure_bind]
  exact hw.bind fun a _ _ => pure (f a)

theorem ite {p : Prop} [Decidable p] {w w' : Work α} (h : p → Alike w s) (h' : ¬p → Alike w' s) :
    Alike (if p then w else w') s := by
  by_cases hp : p
  · rw [if_pos hp]
    exact h hp
  · rw [if_neg hp]
    exact h' hp

theorem mapError {w : Work α} (hw : Alike w s) (f : LedgerError → LedgerError) :
    Alike (w.mapError f) s := by
  rw [Alike] at hw ⊢
  rw [mapError_apply, mapError_apply, hw]
  rcases w s with ⟨(_ | _) | _, _⟩ <;> rfl

theorem notFoundAs {w : Work α} (hw : Alike w s) (e : DomainError) : Alike (w.notFoundAs e) s :=
  hw.mapError _

theorem foldlM {f : β → α → Work β} (hf : ∀ b a s, Alike (f b a) s) (as : List α) (b : β)
    (s : Store) : Alike (as.foldlM f b) s := by
  induction as generalizing b s with
  | nil => exact pure b
  | cons a as ih =>
    rw [List.foldlM_cons]
    exact (hf b a s).bind fun b s _ => ih b s

theorem connected (s : Store) : Alike Work.connected s := by
  rw [Alike, Work.connected, bind_ok (show (get : Work Store) s = (.ok s, s) from rfl),
    bind_ok (show (get : Work Store) s.unguarded = (.ok s.unguarded, s.unguarded) from rfl)]
  obtain ⟨books, guards, isOpen, transaction, refusals⟩ := s
  obtain ⟨begin, commit, rollback, statements⟩ := refusals
  cases isOpen with
  | false => rfl
  | true =>
    cases statements with
    | nil => rfl
    | cons refusal rest => cases refusal <;> rfl

theorem read (query : Books → α) (s : Store) : Alike (Work.read query) s :=
  (connected s).bind fun _ _ _ => rfl

theorem look (query : Books → Option ρ) (decode : ρ → Except InfraError α) (s : Store) :
    Alike (Register.look query decode) s := by
  refine (read query s).bind fun row _ _ => ?_
  cases row with
  | none => exact failDomain _
  | some row => exact ofDecoded _

theorem list (query : Books → List ρ) (decode : ρ → Except InfraError α) (s : Store) :
    Alike (Register.list query decode) s := (read query s).bind fun _ _ _ => ofDecoded _

theorem atomically {w : Work α} (hw : Alike w s.begun) : Alike (Bookkeeping.atomically w) s := by
  have hrefusals : s.unguarded.refusals = s.refusals := rfl
  rw [Alike, Bookkeeping.atomically, Bookkeeping.atomically, hrefusals, TransactionControl.run,
    TransactionControl.run, Store.begin_unguarded]
  rcases hb : (Store.control s.refusals).begin s with ⟨f | u, s₁⟩
  · rfl
  cases Store.begin_ok hb
  simp only [Alike] at hw
  simp only [hw]
  rcases w s.begun with ⟨(e | o) | a, s₂⟩
  · simp only [Store.rollback_unguarded]
    rcases (Store.control s.refusals).rollback s₂ with ⟨f | u, s₃⟩ <;> rfl
  · exact congrArg (Prod.mk _) (Store.discard_unguarded s₂)
  · simp only [Store.commit_unguarded]
    rcases (Store.control s.refusals).commit s₂ with ⟨f | u, s₃⟩ <;> rfl

theorem ask {w : Work α} {q : Query α} {f : α → Work β} (h : s.Shows L) (hq : Answers w q)
    (hw : Alike w s) (hf : ∀ a, q L = .ok a → Alike (f a) s) : Alike (w >>= f) s := by
  refine hw.bind fun a s' heq => ?_
  rw [hq s L h.ready h.sound h.books] at heq
  obtain ⟨hq, rfl⟩ := Prod.ext_iff.1 heq
  exact hf a hq

theorem step {w : Work α} {m : Step α} {f : α → Work β} (h : s.Shows L) (hm : Simulates w m)
    (hw : Alike w s) (hf : ∀ a L' s', m L = .ok (a, L') → s'.Shows L' → Alike (f a) s') :
    Alike (w >>= f) s := by
  refine hw.bind fun a s' heq => ?_
  have hfollows := hm s L h.ready h.sound h.books
  rw [Follows] at hfollows
  cases hmL : m L with
  | ok r =>
    rw [hmL] at hfollows
    obtain ⟨hs', hw'⟩ := hfollows
    cases heq.symm.trans hw'
    exact hf _ _ _ hmL ⟨h.ready.withBooks _, hs', rfl⟩
  | error e =>
    rw [hmL] at hfollows
    obtain ⟨b, hw'⟩ := hfollows
    cases heq.symm.trans hw'

end Alike

section Writes

variable {s : Store} {t : Table} {statement : Enforcement → Books → Except StorageFailure Books}

theorem connected_unguarded (h : s.Ready) : connected s.unguarded = (.ok (), s.unguarded) := by
  have halike := Alike.connected s
  rwa [Alike, connected_apply h] at halike

theorem write_unguarded (h : s.Ready)
    (statement : Enforcement → Books → Except StorageFailure Books) :
    write statement s.unguarded = match statement .native s.books with
      | .ok b => (.ok (), { s.unguarded with books := b })
      | .error f => (.error (.error (Diagnosis.diagnose f)), s.unguarded) := by
  have hguarded := h.enforcement
  have hnative : s.unguarded.enforcement = .native :=
    congrArg (Enforcement.mk []) (congrArg Enforcement.deferred hguarded)
  rw [write, bind_ok (connected_unguarded h),
    bind_ok (show (get : Work Store) s.unguarded = (.ok s.unguarded, s.unguarded) from rfl),
    hnative]
  show (ofStorage (statement .native s.books) >>= _) s.unguarded = _
  cases statement .native s.books <;> rfl

namespace Alike

theorem read_bind (h : s.Ready) {query : Books → α} {f : α → Work β}
    (hf : Alike (f (query s.books)) s) : Alike (Work.read query >>= f) s := by
  refine (read query s).bind fun a s' hread => ?_
  rw [read_apply h] at hread
  cases hread
  exact hf

theorem write (h : s.Ready) (hst : statement .native s.books = statement .guarded s.books) :
    Alike (Work.write statement) s := by
  rw [Alike, write_unguarded h, write_apply h, hst]
  cases statement .guarded s.books <;> rfl

theorem enter (h : s.Ready) {row : t.Row}
    (hg : Enforcement.guarded.childGuard? s.books t t.columns (t.record row) = none) :
    Alike (Register.enter t row) s :=
  write h (Enforcement.insert_native (List.forall_mem_singleton.2 hg))

theorem replace (h : s.Ready) {columns : List String} {chosen : t.Row → Bool} {row : t.Row}
    (hg : ∀ old ∈ s.books.rows t, chosen old = true → Enforcement.guarded.childGuard? s.books t
      columns (Register.merged t columns row old) = none) :
    Alike (Register.replace t columns chosen row) s :=
  .read_bind h <| .ite (fun _ => write h (Enforcement.update_native hg)) fun _ => failDomain _

theorem strike (h : s.Ready) {chosen : t.Row → Bool} (hg : (s.books.rows t).any chosen = true →
    ∃ b, Enforcement.guarded.delete t chosen s.books = .ok b) :
    Alike (Register.strike t chosen) s := by
  refine .read_bind h (.ite (fun hany => ?_) fun _ => failDomain _)
  obtain ⟨b, hb⟩ := hg hany
  exact write h ((Enforcement.delete_native_ok hb).trans hb.symm)

end Alike

end Writes

end Work

end Bookkeeping

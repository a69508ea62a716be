import Bookkeeping.Proofs.Store.Work
import Bookkeeping.UseCase.Command

namespace Bookkeeping

/-- The books that a rollback brings back. -/
def Store.undo (s : Store) : Option Books := s.transaction.map (·.before)

namespace Work

def Keeps (p : Store → γ) (w : Work α) : Prop := ∀ s, p (w s).2 = p s

namespace Keeps

variable {p : Store → γ}

theorem pure (a : α) : Keeps p (Pure.pure a) := fun _ => rfl

theorem bind {w : Work α} {f : α → Work β} (hw : Keeps p w) (hf : ∀ a, Keeps p (f a)) :
    Keeps p (w >>= f) := by
  intro s
  have h := hw s
  rw [bind_apply]
  generalize w s = r at h ⊢
  obtain ⟨e | a, s'⟩ := r
  · exact h
  · exact (hf a s').trans h

theorem map {w : Work α} (hw : Keeps p w) (f : α → β) : Keeps p (f <$> w) := by
  rw [map_eq_pure_bind]
  exact hw.bind fun a => pure (f a)

theorem ite {q : Prop} [Decidable q] {w w' : Work α} (h : Keeps p w) (h' : Keeps p w') :
    Keeps p (if q then w else w') := by
  by_cases hq : q
  · rwa [if_pos hq]
  · rwa [if_neg hq]

theorem foldlM {f : β → α → Work β} (hf : ∀ b a, Keeps p (f b a)) (as : List α) (b : β) :
    Keeps p (as.foldlM f b) := by
  induction as generalizing b with
  | nil => exact pure b
  | cons a as ih =>
    rw [List.foldlM_cons]
    exact (hf b a).bind ih

theorem mapError {w : Work α} (hw : Keeps p w) (f : LedgerError → LedgerError) :
    Keeps p (w.mapError f) := by
  intro s
  have h := hw s
  rw [mapError_apply]
  generalize w s = r at h ⊢
  obtain ⟨(e | o) | a, s'⟩ := r <;> exact h

theorem notFoundAs {w : Work α} (hw : Keeps p w) (e : DomainError) : Keeps p (w.notFoundAs e) :=
  hw.mapError _

theorem failDomain (e : DomainError) : Keeps p (Work.failDomain e : Work α) := fun _ => rfl

theorem ofDomain (x : Except DomainError α) : Keeps p (Work.ofDomain x) := by
  intro s
  cases x <;> rfl

theorem ofOverflow (x : Except Overflow α) : Keeps p (Work.ofOverflow x) := by
  intro s
  cases x <;> rfl

theorem ofDecoded (x : Except InfraError α) : Keeps p (Work.ofDecoded x) := by
  intro s
  cases x <;> rfl

section Reads

variable (hp : ∀ (s : Store) r, p { s with refusals := r } = p s)

include hp

theorem connected : Keeps p Work.connected := by
  intro s
  rw [Work.connected, bind_ok (show (get : Work Store) s = (.ok s, s) from rfl)]
  split
  · rfl
  · cases s.refusals.statements with
    | nil => rfl
    | cons refusal rest => cases refusal <;> exact hp s _

theorem read (query : Books → α) : Keeps p (Work.read query) :=
  (connected hp).bind fun _ _ => rfl

theorem look (query : Books → Option ρ) (decode : ρ → Except InfraError α) :
    Keeps p (Register.look query decode) :=
  (read hp query).bind fun
    | none => failDomain _
    | some row => ofDecoded (decode row)

theorem list (query : Books → List ρ) (decode : ρ → Except InfraError α) :
    Keeps p (Register.list query decode) :=
  (read hp query).bind fun _ => ofDecoded _

end Reads

theorem write (statement : Enforcement → Books → Except StorageFailure Books) :
    Keeps Store.undo (Work.write statement) := by
  refine (connected fun _ _ => rfl).bind fun _ s => ?_
  rw [bind_ok (show (get : Work Store) s = (.ok s, s) from rfl)]
  cases statement s.enforcement s.books <;> rfl

theorem enter (t : Table) (row : t.Row) : Keeps Store.undo (Register.enter t row) := write _

theorem replace (t : Table) (columns : List String) (chosen : t.Row → Bool) (row : t.Row) :
    Keeps Store.undo (Register.replace t columns chosen row) :=
  (read (fun _ _ => rfl) _).bind fun _ => ite (write _) (failDomain _)

theorem strike (t : Table) (chosen : t.Row → Bool) : Keeps Store.undo (Register.strike t chosen) :=
  (read (fun _ _ => rfl) _).bind fun _ => ite (write _) (failDomain _)

end Keeps

end Work

end Bookkeeping

import Bookkeeping.Proofs.Store.Statement
import Bookkeeping.Store.Work

namespace Bookkeeping

structure Store.Ready (s : Store) : Prop where
  isOpen : s.isOpen = true
  refusals : s.refusals = .none
  enforcement : s.enforcement = .guarded

theorem Store.ready_fresh : Store.fresh.Ready := ⟨rfl, rfl, rfl⟩

theorem Store.Ready.withBooks {s : Store} (h : s.Ready) (b : Books) :
    ({ s with books := b } : Store).Ready := ⟨h.isOpen, h.refusals, h.enforcement⟩

namespace Work

variable {s : Store}

theorem pure_apply (a : α) (s : Store) : (pure a : Work α) s = (.ok a, s) := rfl

theorem bind_apply (w : Work α) (f : α → Work β) (s : Store) :
    (w >>= f) s = match w s with
      | (.ok a, s) => f a s
      | (.error e, s) => (.error e, s) := by
  show (match w s with | (r, s) => ExceptT.bindCont f r s) = _
  rcases w s with ⟨_ | _, _⟩ <;> rfl

theorem bind_ok {w : Work α} {a : α} {s' : Store} (h : w s = (.ok a, s')) (f : α → Work β) :
    (w >>= f) s = f a s' := by
  rw [bind_apply, h]

theorem bind_error {w : Work α} {e : Fault} {s' : Store} (h : w s = (.error e, s'))
    (f : α → Work β) : (w >>= f) s = (.error e, s') := by
  rw [bind_apply, h]

theorem map_apply (f : α → β) (w : Work α) (s : Store) :
    (f <$> w) s = match w s with
      | (.ok a, s) => (.ok (f a), s)
      | (.error e, s) => (.error e, s) := by
  rw [map_eq_pure_bind, bind_apply]
  rfl

theorem mapError_apply (f : LedgerError → LedgerError) (w : Work α) (s : Store) :
    w.mapError f s = match w s with
      | (.error (.error e), s) => (.error (.error (f e)), s)
      | r => r := by
  simp only [mapError, tryCatch, tryCatchThe, MonadExceptOf.tryCatch, ExceptT.tryCatch, ExceptT.mk,
    bind, StateT.bind]
  rcases w s with ⟨(_ | _) | _, _⟩ <;> rfl

theorem connected_apply (h : s.Ready) : connected s = (.ok (), s) := by
  simp only [connected]
  rw [bind_ok (show (get : Work Store) s = (.ok s, s) from rfl)]
  simp [h.isOpen, h.refusals, Refusals.none, pure_apply]

theorem read_apply (h : s.Ready) (query : Books → α) : read query s = (.ok (query s.books), s) := by
  rw [read, bind_ok (connected_apply h)]
  rfl

theorem write_apply (h : s.Ready) (statement : Enforcement → Books → Except StorageFailure Books) :
    write statement s = match statement .guarded s.books with
      | .ok b => (.ok (), { s with books := b })
      | .error f => (.error (.error (Diagnosis.diagnose f)), s) := by
  rw [write, bind_ok (connected_apply h), bind_ok (show (get : Work Store) s = (.ok s, s) from rfl),
    h.enforcement]
  cases statement .guarded s.books <;> rfl

end Work

end Bookkeeping

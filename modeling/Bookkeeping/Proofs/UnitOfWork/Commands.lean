import Bookkeeping.Proofs.UnitOfWork.Ending
import Bookkeeping.Proofs.Ledger.Movements

namespace Bookkeeping

def Work.AllOrNothing (w : Work α) : Prop :=
  ∀ s e s', w s = (.error e, s') → s'.books = s.books

namespace Work.AllOrNothing

theorem reads {w : Work α} (h : Keeps Store.books w) : AllOrNothing w := by
  intro s e s' hw
  have hs := h s
  rwa [hw] at hs

theorem atomically {w : Work α} (h : Keeps Store.undo w) :
    AllOrNothing (Bookkeeping.atomically w) := by
  intro s e s' hw
  obtain ⟨log, r, s₁, -, hrun, hruns⟩ := TransactionControl.runs (Store.control s.refusals) w s
  cases hrun.symm.trans hw
  exact (Store.ending h hruns).books_of_error

theorem after {v : Work β} {f : β → Work α} (hv : Keeps Store.books v)
    (hf : ∀ b, AllOrNothing (f b)) : AllOrNothing (v >>= f) := by
  intro s e s' h
  have hs := hv s
  rw [bind_apply] at h
  rcases hw : v s with ⟨e' | b, s₁⟩
  · rw [hw] at h hs
    cases h
    exact hs
  · rw [hw] at h hs
    exact (hf b s₁ e s' h).trans hs

theorem map {w : Work α} (h : AllOrNothing w) (f : α → β) : AllOrNothing (f <$> w) := by
  intro s e s' hw
  rw [map_apply] at hw
  rcases hr : w s with ⟨e' | a, s₁⟩
  · rw [hr] at hw
    cases hw
    exact h s _ _ hr
  · rw [hr] at hw
    cases hw

end Work.AllOrNothing

namespace UseCase

open Work (Keeps AllOrNothing)

section Reads

variable {p : Store → γ} (hp : ∀ (s : Store) r, p { s with refusals := r } = p s)

include hp

theorem keeps_findMember (id : Uuid) : Keeps p (findMember id) := (Keeps.look hp _ _).notFoundAs _

theorem keeps_findAccount (id : Uuid) : Keeps p (findAccount id) :=
  (Keeps.look hp _ _).notFoundAs _

theorem keeps_findCategory (id : Uuid) : Keeps p (findCategory id) :=
  (Keeps.look hp _ _).notFoundAs _

theorem keeps_findTag (id : Uuid) : Keeps p (findTag id) := (Keeps.look hp _ _).notFoundAs _

theorem keeps_findTransaction (id : Uuid) : Keeps p (findTransaction id) :=
  (Keeps.look hp _ _).notFoundAs _

theorem keeps_findExpenditure (id : Uuid) : Keeps p (findExpenditure id) :=
  ((Keeps.look hp _ _).notFoundAs _).bind fun _ => (keeps_findTransaction hp _).bind fun _ =>
    (keeps_findCategory hp _).bind fun _ => (Call.keeps_linkedTags hp _ _).bind fun _ => .pure _

theorem keeps_findIngress (id : Uuid) : Keeps p (findIngress id) :=
  ((Keeps.look hp _ _).notFoundAs _).bind fun _ => (keeps_findTransaction hp _).bind fun _ =>
    (keeps_findCategory hp _).bind fun _ => (Call.keeps_linkedTags hp _ _).bind fun _ => .pure _

theorem keeps_listTransactions (account : Uuid) : Keeps p (listTransactions account) :=
  ((keeps_findAccount hp account).map _).bind fun _ => .list hp _ _

theorem keeps_checkOwner (owner : Option Uuid) : Keeps p (checkOwner owner) := by
  cases owner with
  | none => exact .pure ()
  | some id => exact (keeps_findMember hp id).bind fun _ => .ite (.failDomain _) (.pure ())

theorem keeps_activeAccount (id : Uuid) : Keeps p (activeAccount id) :=
  (keeps_findAccount hp id).bind fun a => .ite (.pure a) (.failDomain _)

theorem keeps_activeCategory (id : Uuid) : Keeps p (activeCategory id) :=
  (keeps_findCategory hp id).bind fun c => .ite (.pure c) (.failDomain _)

theorem keeps_resolveTags (kind : TagKind) (ids : List Uuid) : Keeps p (resolveTags kind ids) :=
  .foldlM (fun _ _ => .ite (.pure _) ((keeps_findTag hp _).bind fun tag =>
    (Keeps.ofDomain (tag.ensureKind kind)).bind fun _ => .pure _)) ids []

end Reads

section Writes

end Writes

end UseCase

end Bookkeeping

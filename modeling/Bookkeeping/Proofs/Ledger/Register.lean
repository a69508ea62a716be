import Bookkeeping.Proofs.Ledger.Step
import Bookkeeping.Proofs.Ledger.Update

namespace Bookkeeping

open Ledger (Query Step Enforced)

variable {t : Table} {f : α → t.Row} {id : α → Uuid} {xs : Ledger → List α}
  {rowId : t.Row → String} {x : Ledger.Edit}

theorem simulates_enter {row : t.Row}
    (h : ∀ L : Ledger, L.Sound →
      Enforced (Enforcement.guarded.insertRow t L.books (t.record row)) (x L)) :
    Simulates (Register.enter t row) (Step.edit x) := by
  refine (Settles.write ?_).simulates
  intro L hs
  have := Enforced.insert (f := fun _ : Unit => row) (x := fun _ => x) [()] (fun _ => h _) hs
  simpa using this

theorem any_rowId (hrow : ∀ a, rowId (f a) = (id a).text) (as : List α) (u : Uuid) :
    (as.map f).any (rowId · == u.text) = decide (u ∈ as.map id) := by
  rw [Bool.eq_iff_iff]
  simp [hrow]

theorem simulates_replace (xs : Ledger → List α)
    (hrows : ∀ L : Ledger, L.books.rows t = (xs L).map f)
    (hrow : ∀ a, rowId (f a) = (id a).text) {u : Uuid} {columns : List String} {row : t.Row}
    (h : ∀ L, L.Sound → u ∈ (xs L).map id → Enforced (Enforcement.guarded.update t columns
      (rowId · == u.text) (Register.merged t columns row) L.books) (x L))
    (h' : ∀ L, u ∉ (xs L).map id → x L = .error .recordNotFound) :
    Simulates (Register.replace t columns (rowId · == u.text) row) (Step.edit x) := by
  have hany (L : Ledger) : (L.books.rows t).any (rowId · == u.text) = decide (u ∈ (xs L).map id) :=
    (hrows L).symm ▸ any_rowId hrow (xs L) u
  refine (Settles.write_if ?_ ?_).simulates
  · intro L hs hp
    exact h L hs (by simpa [hany] using hp)
  · intro L hp
    exact h' L (by simpa [hany] using hp)

theorem simulates_strike (xs : Ledger → List α)
    (hrows : ∀ L : Ledger, L.books.rows t = (xs L).map f)
    (hrow : ∀ a, rowId (f a) = (id a).text) {u : Uuid}
    (h : ∀ L, L.Sound → u ∈ (xs L).map id →
      Enforced (Enforcement.guarded.delete t (rowId · == u.text) L.books) (x L))
    (h' : ∀ L, u ∉ (xs L).map id → x L = .error .recordNotFound) :
    Simulates (Register.strike t (rowId · == u.text)) (Step.edit x) := by
  have hany (L : Ledger) : (L.books.rows t).any (rowId · == u.text) = decide (u ∈ (xs L).map id) :=
    (hrows L).symm ▸ any_rowId hrow (xs L) u
  refine (Settles.write_if ?_ ?_).simulates
  · intro L hs hp
    exact h L hs (by simpa [hany] using hp)
  · intro L hp
    exact h' L (by simpa [hany] using hp)

theorem sorted_rows {key : α → String} {rowKey : β → String} {row : α → β}
    (h : ∀ a, rowKey (row a) = key a) (xs : List α) :
    (xs.map row).mergeSort (Register.byText rowKey) =
      (xs.mergeSort (Register.byText key)).map row := by
  rw [List.map_mergeSort]
  intro a _ b _
  rw [Register.byText, Register.byText, h, h]

end Bookkeeping

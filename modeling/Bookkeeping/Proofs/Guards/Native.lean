import Bookkeeping.Proofs.Guards.Statement
import Mathlib.Data.List.Find

namespace Bookkeeping

open Enforcement

namespace Enforcement

def native : Enforcement := ⟨[], false⟩

variable {b : Books} {t : Table} {columns : List String} {r : Record}

theorem childGuard?_withRows (b : Books) (t : Table) (rows : List t.Row) (columns : List String)
    (r : Record) : guarded.childGuard? (b.withRows t rows) t columns r =
      guarded.childGuard? b t columns r := by
  rw [childGuard?_guarded, childGuard?_guarded]
  apply List.find?_congr
  intro k hk
  obtain ⟨hk, hc⟩ := Books.mem_childKeys.1 hk
  have hp : k.parentTable ≠ t.name := fun hp => ForeignKey.child_ne_parent k hk (hc.trans hp.symm)
  rw [Books.parentMissing, Books.parentMissing, Books.referable, Books.referable,
    Books.column_withRows_of_ne b hp]

theorem accept_native (h : guarded.childGuard? b t columns r = none) (others : List t.Row) :
    native.accept b t columns others r = guarded.accept b t columns others r := by
  rw [accept, accept, guardChild, guardChild, h]
  rfl

section Insert

variable {records : List Record}

theorem insertRows_native (h : ∀ r ∈ records, guarded.childGuard? b t t.columns r = none) :
    records.foldlM (native.insertRow t) b = records.foldlM (guarded.insertRow t) b := by
  induction records generalizing b with
  | nil => rfl
  | cons r records ih =>
    obtain ⟨hr, h⟩ := List.forall_mem_cons.1 h
    rw [List.foldlM_cons, List.foldlM_cons, insertRow, insertRow, accept_native hr]
    cases guarded.accept b t t.columns (b.rows t) r with
    | error f => rfl
    | ok row => exact ih fun r hmem => (childGuard?_withRows b t _ _ r).trans (h r hmem)

theorem insert_native (h : ∀ r ∈ records, guarded.childGuard? b t t.columns r = none) :
    native.insert t records b = guarded.insert t records b := by
  rw [insert, insert, insertRows_native h]
  rfl

/-- A row that only a guard kept out is noticed once it is written, unless it clashes with another
row before that. -/
theorem insert_native_orphan {row : t.Row} {k : ForeignKey} (h : b.Orphans t row k) :
    native.insert t [t.record row] b = match t.clash? row (b.rows t) with
      | some f => .error f
      | none => .error (.database (some 787) nativeMessage) := by
  rw [insert, List.foldlM_cons, insertRow, accept_record]
  show (Except.bind (match t.clash? row (b.rows t) with
    | some f => .error f
    | none => .ok row) _ >>= _) >>= _ = _
  cases t.clash? row (b.rows t) with
  | some f => rfl
  | none =>
    have hbroken : ¬(b.withRows t (b.rows t ++ [row])).Intact := fun hi => by
      have hwritten : row ∈ (b.withRows t (b.rows t ++ [row])).rows t := by simp
      have hfree := hi.resolved h.mem h.child hwritten
      have horphan := (Books.orphans_withRows (b.rows t ++ [row])).2 h
      exact Bool.eq_false_iff.1 hfree (Books.parentMissing_iff.2 horphan.missing)
    exact if_neg (not_or.2 ⟨Bool.false_ne_true, hbroken⟩)

end Insert

section Update

variable {chosen : t.Row → Bool} {change : t.Row → Record}

theorem updateRows_native {rows : List t.Row}
    (h : ∀ row ∈ rows, chosen row = true → guarded.childGuard? b t columns (change row) = none)
    (seen : List t.Row) : native.updateRows b t columns chosen change seen rows =
      guarded.updateRows b t columns chosen change seen rows := by
  induction rows generalizing seen with
  | nil => rfl
  | cons row rows ih =>
    obtain ⟨hrow, h⟩ := List.forall_mem_cons.1 h
    rw [updateRows, updateRows, ih h]
    by_cases hc : chosen row = true
    · rw [if_pos hc, if_pos hc, accept_native (hrow hc)]
      simp only [ih h]
    · rw [if_neg hc, if_neg hc]

theorem update_native
    (h : ∀ row ∈ b.rows t, chosen row = true →
      guarded.childGuard? b t columns (change row) = none) :
    native.update t columns chosen change b = guarded.update t columns chosen change b := by
  rw [update, update, updateRows_native h]
  rfl

end Update

section Delete

variable {chosen : t.Row → Bool}

theorem guardParent_native (b : Books) (t : Table) (r : Record) :
    native.guardParent b t r = (guarded.guardParent b t r).mapError fun _ =>
      .database (some 1811) nativeMessage := by
  have hguards : restricting? guarded.guards.reverse b t r = none ↔
      restricting? ForeignKey.all b t r = none := by
    simp [restricting?, guarded]
  rw [guardParent_guarded, ← restricting?_reverse, guardParent]
  cases hg : restricting? guarded.guards.reverse b t r with
  | none =>
    show (if native.deferred || (restricting? ForeignKey.all b t r).isNone then _ else _) = _
    rw [hguards.1 hg]
    rfl
  | some k =>
    have hall : (restricting? ForeignKey.all b t r).isNone = false := by
      cases ha : restricting? ForeignKey.all b t r with
      | none => rw [hguards.2 ha] at hg; cases hg
      | some l => rfl
    show (if native.deferred || (restricting? ForeignKey.all b t r).isNone then _ else _) = _
    rw [hall]
    rfl

theorem deleteRows_native {b' : Books} {rows : List t.Row}
    (h : rows.foldlM (guarded.deleteRow t) b = .ok b') :
    rows.foldlM (native.deleteRow t) b = .ok b' := by
  induction rows generalizing b with
  | nil => exact h
  | cons row rows ih =>
    rw [List.foldlM_cons, deleteRow] at h ⊢
    rw [guardParent_native]
    cases hg : guarded.guardParent b t (t.record row) with
    | error f =>
      rw [hg] at h
      cases h
    | ok u =>
      rw [hg] at h
      change (release t (t.record row) b >>= _) = _ at h
      show (release t (t.record row) b >>= _) = _
      cases hr : release t (t.record row) b with
      | error f =>
        rw [hr] at h
        cases h
      | ok b₁ =>
        rw [hr] at h
        exact ih h

theorem delete_native_ok {b' : Books} (h : guarded.delete t chosen b = .ok b') :
    native.delete t chosen b = .ok b' := by
  rw [delete] at h ⊢
  cases hd : ((b.rows t).filter chosen).foldlM (guarded.deleteRow t) b with
  | error f =>
    rw [hd] at h
    cases h
  | ok b₁ =>
    rw [hd] at h
    rw [deleteRows_native hd]
    exact h

theorem delete_native_error
    (hrestrict : ∀ k ∈ ForeignKey.all, k.parentTable = t.name → k.onDelete = .restrict)
    {row : t.Row} (hrow : (b.rows t).filter chosen = [row]) {e : DomainError}
    (h : FailsWith (guarded.delete t chosen b) e) :
    native.delete t chosen b = .error (.database (some 1811) nativeMessage) := by
  obtain ⟨f, hf, he⟩ := h
  rw [delete_record _ hrow] at hf ⊢
  rw [guardParent_native]
  cases hg : guarded.guardParent b t (t.record row) with
  | error f => rfl
  | ok u =>
    rw [hg, release_of_restrict hrestrict] at hf
    -- the rest could only fail for a broken key, and no broken rule is read out of that
    simp only [settle] at hf
    split_ifs at hf
    cases hf
    cases he

end Delete

end Enforcement

end Bookkeeping

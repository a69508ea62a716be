import Bookkeeping.Proofs.Store.Statement
import Mathlib.Tactic.SplitIfs

namespace Bookkeeping

theorem Table.name_of_ofName? {s : String} {t : Table} (h : ofName? s = some t) : t.name = s := by
  simpa using List.find?_some h

namespace Enforcement

variable {e : Enforcement} {b b' : Books}

theorem bind_ok {x : Except ε α} {f : α → Except ε β} {r : β} :
    (x >>= f) = .ok r ↔ ∃ a, x = .ok a ∧ f a = .ok r := by
  cases x <;> simp [bind, Except.bind]

theorem settle_ok : e.settle b = .ok b' ↔ (e.deferred = true ∨ b.Intact) ∧ b = b' := by
  rw [settle]
  split_ifs with h <;> simp [h]

theorem intact_of_settle (he : e.deferred = false) (h : e.settle b = .ok b') :
    b = b' ∧ b'.Intact := by
  obtain ⟨hb, rfl⟩ := settle_ok.1 h
  exact ⟨rfl, hb.resolve_left (by simp [he])⟩

end Enforcement

namespace Books

variable {b : Books}

theorem column_name (b : Books) (t : Table) (c : String) :
    b.column t.name c = (b.rows t).filterMap (t.text? · c) := by
  rw [column, Table.ofName?_name]

theorem Intact.parent (h : b.Intact) {k : ForeignKey} (hk : k ∈ ForeignKey.all) {t u : Table}
    (hchild : k.childTable = t.name) (hparent : k.parentTable = u.name) {row : t.Row}
    (hrow : row ∈ b.rows t) {value : String} (hv : t.text? row k.childColumn = some value) :
    ∃ p ∈ b.rows u, u.text? p k.parentColumn = some value := by
  have hmem : value ∈ b.refersTo k := by
    rw [refersTo, hchild, column_name]
    exact List.mem_filterMap.2 ⟨row, hrow, hv⟩
  have hres := h k hk value hmem
  rw [referable, hparent, column_name] at hres
  exact List.mem_filterMap.1 hres

theorem column_withRows (b : Books) (t : Table) (rows : List t.Row) (c : String) :
    (b.withRows t rows).column t.name c = rows.filterMap (t.text? · c) := by
  rw [column_name, rows_withRows]

theorem column_withRows_of_ne (b : Books) {t : Table} {table : String} (h : table ≠ t.name)
    (rows : List t.Row) (c : String) : (b.withRows t rows).column table c = b.column table c := by
  rw [column, column]
  cases hu : Table.ofName? table with
  | none => rfl
  | some u =>
    have hne : u ≠ t := fun hut => h (hut ▸ (Table.name_of_ofName? hu).symm)
    simp only [rows_withRows_of_ne b rows hne]

theorem parentMissing_eq_false_iff {k : ForeignKey} {r : Record} :
    b.parentMissing k r = false ↔ ∀ value, r.text? k.childColumn = some value →
      value ∈ b.referable k := by
  rw [parentMissing]
  cases r.text? k.childColumn <;> simp

theorem stillReferenced_eq_false_iff {k : ForeignKey} {r : Record} :
    b.stillReferenced k r = false ↔ ∀ value, r.text? k.parentColumn = some value →
      value ∉ b.refersTo k := by
  rw [stillReferenced]
  cases r.text? k.parentColumn <;> simp

theorem Intact.resolved (h : b.Intact) {k : ForeignKey} (hk : k ∈ ForeignKey.all) {t : Table}
    (hchild : k.childTable = t.name) {row : t.Row} (hrow : row ∈ b.rows t) :
    b.parentMissing k (t.record row) = false := by
  rw [parentMissing_eq_false_iff]
  intro value hv
  refine h k hk value ?_
  rw [refersTo, hchild, column_name]
  exact List.mem_filterMap.2 ⟨row, hrow, hv⟩

end Books

theorem ForeignKey.child_ne_parent : ∀ k ∈ ForeignKey.all, k.childTable ≠ k.parentTable := by
  decide

namespace Books

variable {b : Books} {t : Table}

theorem Intact.withRows (h : b.Intact) {rows : List t.Row}
    (hchild : ∀ row ∈ rows, ∀ k ∈ ForeignKey.all, k.childTable = t.name →
      b.parentMissing k (t.record row) = false)
    (hparent : ∀ k ∈ ForeignKey.all, k.parentTable = t.name → ∀ value ∈ b.refersTo k,
      value ∈ rows.filterMap (t.text? · k.parentColumn)) : (b.withRows t rows).Intact := by
  intro k hk value hv
  have hne := ForeignKey.child_ne_parent k hk
  rw [refersTo] at hv
  rw [referable]
  by_cases hc : k.childTable = t.name
  · rw [column_withRows_of_ne b (hc ▸ hne.symm)]
    rw [hc, column_withRows] at hv
    obtain ⟨row, hrow, hv⟩ := List.mem_filterMap.1 hv
    exact parentMissing_eq_false_iff.1 (hchild row hrow k hk hc) value hv
  · rw [column_withRows_of_ne b hc] at hv
    by_cases hp : k.parentTable = t.name
    · rw [hp, column_withRows]
      exact hparent k hk hp value hv
    · rw [column_withRows_of_ne b hp]
      exact h k hk value hv

theorem Intact.mem_parents (h : b.Intact) {k : ForeignKey} (hk : k ∈ ForeignKey.all)
    (hp : k.parentTable = t.name) {value : String} (hv : value ∈ b.refersTo k) :
    ∃ row ∈ b.rows t, t.text? row k.parentColumn = some value := by
  have hres := h k hk value hv
  rw [referable, hp, column_name] at hres
  exact List.mem_filterMap.1 hres

theorem Intact.append (h : b.Intact) {new : List t.Row}
    (hnew : ∀ row ∈ new, ∀ k ∈ ForeignKey.all, k.childTable = t.name →
      b.parentMissing k (t.record row) = false) : (b.withRows t (b.rows t ++ new)).Intact := by
  refine h.withRows (fun row hrow k hk hc => ?_) fun k hk hp value hv => ?_
  · rcases List.mem_append.1 hrow with hrow | hrow
    · exact h.resolved hk hc hrow
    · exact hnew row hrow k hk hc
  · obtain ⟨row, hrow, hv⟩ := h.mem_parents hk hp hv
    exact List.mem_filterMap.2 ⟨row, List.mem_append_left _ hrow, hv⟩

theorem Intact.map (h : b.Intact) {f : t.Row → t.Row}
    (hchild : ∀ row ∈ b.rows t, f row = row ∨ ∀ k ∈ ForeignKey.all, k.childTable = t.name →
      b.parentMissing k (t.record (f row)) = false)
    (hparent : ∀ k ∈ ForeignKey.all, k.parentTable = t.name →
      ∀ row, t.text? (f row) k.parentColumn = t.text? row k.parentColumn) :
    (b.withRows t ((b.rows t).map f)).Intact := by
  refine h.withRows (List.forall_mem_map.2 fun row hrow k hk hc => ?_) fun k hk hp value hv => ?_
  · rcases hchild row hrow with heq | hfree
    · rw [heq]
      exact h.resolved hk hc hrow
    · exact hfree k hk hc
  · obtain ⟨row, hrow, hv⟩ := h.mem_parents hk hp hv
    exact List.mem_filterMap.2
      ⟨f row, List.mem_map_of_mem hrow, (hparent k hk hp row).trans hv⟩

theorem Intact.filter (h : b.Intact) {p : t.Row → Bool}
    (hgone : ∀ row ∈ b.rows t, p row = false → ∀ k ∈ ForeignKey.all, k.parentTable = t.name →
      b.stillReferenced k (t.record row) = false) :
    (b.withRows t ((b.rows t).filter p)).Intact := by
  refine h.withRows (fun row hrow k hk hc => ?_) fun k hk hp value hv => ?_
  · exact h.resolved hk hc (List.mem_filter.1 hrow).1
  · obtain ⟨row, hrow, hrv⟩ := h.mem_parents hk hp hv
    refine List.mem_filterMap.2 ⟨row, List.mem_filter.2 ⟨hrow, ?_⟩, hrv⟩
    cases hpass : p row with
    | true => rfl
    | false =>
      have hfree := hgone row hrow hpass k hk hp
      exact absurd hv (stillReferenced_eq_false_iff.1 hfree value hrv)

end Books

end Bookkeeping

import Bookkeeping.Proofs.Ledger.Delete
import Bookkeeping.Proofs.Store.Intact

/-! What guarded statements on intact books come to, by the keys that their rows break. -/

namespace Bookkeeping

open Enforcement

abbrev Table.Entry := (t : Table) × t.Row

namespace Books

theorem withRows_rows (b : Books) (t : Table) : b.withRows t (b.rows t) = b := by
  cases t <;> rfl

theorem withRows_withRows (b : Books) (t : Table) (rows rows' : List t.Row) :
    (b.withRows t rows).withRows t rows' = b.withRows t rows' := by
  cases t <;> rfl

structure Orphans (b : Books) (t : Table) (row : t.Row) (k : ForeignKey) : Prop where
  mem : k ∈ ForeignKey.all
  child : k.childTable = t.name
  missing : ∃ value, t.text? row k.childColumn = some value ∧ value ∉ b.referable k

structure Restrains (b : Books) (t : Table) (row : t.Row) (k : ForeignKey) : Prop where
  mem : k ∈ ForeignKey.all
  parent : k.parentTable = t.name
  onDelete : k.onDelete = .restrict
  referenced : ∃ value, t.text? row k.parentColumn = some value ∧ value ∈ b.refersTo k

/-- The keys that rows break, and on which side: those to be written as children without a parent,
those to be deleted as parents with children. -/
inductive Broken (b : Books) (written deleted : List Table.Entry) :
    ForeignKey → ViolationSide → Prop
  | orphaned {e : Table.Entry} {k : ForeignKey} (he : e ∈ written) (h : b.Orphans e.1 e.2 k) :
    Broken b written deleted k .parentMissing
  | restrained {e : Table.Entry} {k : ForeignKey} (he : e ∈ deleted) (h : b.Restrains e.1 e.2 k) :
    Broken b written deleted k .stillReferenced

variable {b : Books} {t : Table} {row : t.Row} {k : ForeignKey} {side : ViolationSide}

theorem parentMissing_iff : b.parentMissing k (t.record row) = true ↔
    ∃ value, t.text? row k.childColumn = some value ∧ value ∉ b.referable k := by
  rw [parentMissing, ← Table.text?]
  cases t.text? row k.childColumn <;> simp

theorem stillReferenced_iff : b.stillReferenced k (t.record row) = true ↔
    ∃ value, t.text? row k.parentColumn = some value ∧ value ∈ b.refersTo k := by
  rw [stillReferenced, ← Table.text?]
  cases t.text? row k.parentColumn <;> simp

theorem orphans_withRows (rows : List t.Row) :
    (b.withRows t rows).Orphans t row k ↔ b.Orphans t row k := by
  have hsame (hk : k ∈ ForeignKey.all) (hc : k.childTable = t.name) :
      (b.withRows t rows).referable k = b.referable k := by
    have hp : k.parentTable ≠ t.name := fun hp => ForeignKey.child_ne_parent k hk (hc.trans hp.symm)
    rw [referable, referable, column_withRows_of_ne b hp]
  constructor
  · exact fun h => ⟨h.mem, h.child, hsame h.mem h.child ▸ h.missing⟩
  · exact fun h => ⟨h.mem, h.child, (hsame h.mem h.child).symm ▸ h.missing⟩

theorem resolved_of_not_orphans (h : ∀ k, ¬b.Orphans t row k) (hk : k ∈ ForeignKey.all)
    (hc : k.childTable = t.name) : b.parentMissing k (t.record row) = false :=
  Bool.eq_false_iff.2 fun hm => h k ⟨hk, hc, parentMissing_iff.1 hm⟩

theorem mem_childKeys : k ∈ t.childKeys ↔ k ∈ ForeignKey.all ∧ k.childTable = t.name := by
  simp [Table.childKeys]

theorem mem_parentKeys : k ∈ t.parentKeys ↔
    k ∈ ForeignKey.all ∧ k.parentTable = t.name ∧ k.onDelete = .restrict := by
  simp [Table.parentKeys]

theorem not_broken_nil (b : Books) (k : ForeignKey) (side : ViolationSide) :
    ¬b.Broken [] [] k side := by
  rintro (⟨he, -⟩ | ⟨he, -⟩) <;> exact List.not_mem_nil he

theorem not_broken_written {rows : List t.Row} :
    (∀ k side, ¬b.Broken (rows.map (⟨t, ·⟩)) [] k side) ↔
      ∀ row ∈ rows, ∀ k, ¬b.Orphans t row k := by
  constructor
  · exact fun h row hrow k ho => h k _ (.orphaned (List.mem_map_of_mem hrow) ho)
  · rintro h k _ (⟨he, ho⟩ | ⟨he, -⟩)
    · obtain ⟨row, hrow, rfl⟩ := List.mem_map.1 he
      exact h row hrow k ho
    · exact List.not_mem_nil he

theorem not_broken_of_childKeys_eq_nil {written : List Table.Entry}
    (h : ∀ e ∈ written, e.1.childKeys = []) (k : ForeignKey) (side : ViolationSide) :
    ¬b.Broken written [] k side := by
  rintro (⟨he, ho⟩ | ⟨he, -⟩)
  · have hk := mem_childKeys.2 ⟨ho.mem, ho.child⟩
    rw [h _ he] at hk
    exact List.not_mem_nil hk
  · exact List.not_mem_nil he

theorem not_broken_deleted {rows : List t.Row} :
    (∀ k side, ¬b.Broken [] (rows.map (⟨t, ·⟩)) k side) ↔
      ∀ row ∈ rows, ∀ k, ¬b.Restrains t row k := by
  constructor
  · exact fun h row hrow k hr => h k _ (.restrained (List.mem_map_of_mem hrow) hr)
  · rintro h k _ (⟨he, -⟩ | ⟨he, hr⟩)
    · exact List.not_mem_nil he
    · obtain ⟨row, hrow, rfl⟩ := List.mem_map.1 he
      exact h row hrow k hr

end Books

def ForeignKey.guardFailure (k : ForeignKey) : ViolationSide → StorageFailure
  | .parentMissing => .database (some 1811) k.childMessage
  | .stillReferenced => .database (some 1811) k.parentMessage

namespace Enforcement

/-- How a statement ends, by the keys that its rows break. Nothing else goes wrong but that a row
repeats a unique key, and that comes before a broken key only if some row `repeats` one. -/
inductive Judged (b : Books) (written deleted : List Table.Entry) (repeats : Prop) :
    Except StorageFailure Books → Prop
  | broken {k : ForeignKey} {side : ViolationSide} (h : b.Broken written deleted k side) :
    Judged b written deleted repeats (.error (k.guardFailure side))
  | clash {f : StorageFailure} (h : repeats ∨ ∀ k side, ¬b.Broken written deleted k side)
    (hf : Diagnosis.diagnose f = .domain .duplicateKey) :
    Judged b written deleted repeats (.error f)
  | done {b' : Books} (h : ∀ k side, ¬b.Broken written deleted k side) :
    Judged b written deleted repeats (.ok b')

variable {b : Books} {t : Table} {columns : List String} {row : t.Row}

theorem accept_cases (hcolumns : ∀ k ∈ t.childKeys, columns.contains k.childColumn = true)
    (row : t.Row) (others : List t.Row) :
    (∃ k, b.Orphans t row k ∧ guarded.accept b t columns others (t.record row) =
      .error (k.guardFailure .parentMissing)) ∨
    (∀ k, ¬b.Orphans t row k) ∧
      ((∃ f, t.clash? row others = some f ∧
        guarded.accept b t columns others (t.record row) = .error f) ∨
      t.clash? row others = none ∧
        guarded.accept b t columns others (t.record row) = .ok row) := by
  rw [accept_record, childGuard?_guarded]
  cases hfind : t.childKeys.find? fun k =>
      columns.contains k.childColumn && b.parentMissing k (t.record row) with
  | some k =>
    obtain ⟨hk, hc⟩ := Books.mem_childKeys.1 (List.mem_of_find?_eq_some hfind)
    have hp := List.find?_some hfind
    exact .inl ⟨k, ⟨hk, hc, Books.parentMissing_iff.1 (Bool.and_eq_true_iff.1 hp).2⟩, rfl⟩
  | none =>
    refine .inr ⟨fun k ho => ?_, ?_⟩
    · have hk := Books.mem_childKeys.2 ⟨ho.mem, ho.child⟩
      have hnone := List.find?_eq_none.1 hfind k hk
      exact hnone (Bool.and_eq_true_iff.2 ⟨hcolumns k hk, Books.parentMissing_iff.2 ho.missing⟩)
    · cases hc : t.clash? row others with
      | some f => exact .inl ⟨f, rfl, rfl⟩
      | none => exact .inr ⟨rfl, rfl⟩

section Insert

inductive Inserted (b : Books) (t : Table) (rows : List t.Row) :
    Except StorageFailure Books → Prop
  | orphan {row : t.Row} {k : ForeignKey} (hrow : row ∈ rows) (h : b.Orphans t row k) :
    Inserted b t rows (.error (k.guardFailure .parentMissing))
  | clash {before after : List t.Row} {row : t.Row} {f : StorageFailure}
    (hrows : rows = before ++ row :: after) (hfree : ∀ k, ¬b.Orphans t row k)
    (hc : t.clash? row (b.rows t ++ before) = some f) : Inserted b t rows (.error f)
  | done (hfree : ∀ row ∈ rows, ∀ k, ¬b.Orphans t row k) :
    Inserted b t rows (.ok (b.withRows t (b.rows t ++ rows)))

theorem Inserted.cons {rows : List t.Row} {r : Except StorageFailure Books}
    (hfree : ∀ k, ¬b.Orphans t row k)
    (h : Inserted (b.withRows t (b.rows t ++ [row])) t rows r) : Inserted b t (row :: rows) r := by
  cases h with
  | orphan hrow h => exact .orphan (List.mem_cons_of_mem _ hrow) ((Books.orphans_withRows _).1 h)
  | @clash before after x f hrows hx hc =>
    have hrows : row :: rows = (row :: before) ++ x :: after := congrArg (row :: ·) hrows
    refine .clash hrows (fun k h => hx k ((Books.orphans_withRows _).2 h)) ?_
    simpa using hc
  | done hrest =>
    rw [Books.withRows_withRows, Books.rows_withRows, List.append_assoc]
    refine .done (List.forall_mem_cons.2 ⟨hfree, fun r hr k h => ?_⟩)
    exact hrest r hr k ((Books.orphans_withRows _).2 h)

theorem contains_childColumn (t : Table) :
    ∀ k ∈ t.childKeys, t.columns.contains k.childColumn = true := by
  cases t <;> decide

theorem inserted_rows (b : Books) (t : Table) (rows : List t.Row) :
    Inserted b t rows ((rows.map t.record).foldlM (guarded.insertRow t) b) := by
  induction rows generalizing b with
  | nil =>
    have h : Inserted b t [] (.ok (b.withRows t (b.rows t ++ []))) :=
      .done (List.forall_mem_nil _)
    rwa [List.append_nil, Books.withRows_rows] at h
  | cons row rows ih =>
    rw [List.map_cons, List.foldlM_cons, insertRow]
    rcases accept_cases (contains_childColumn t) row (b.rows t) with
      ⟨k, ho, haccept⟩ | ⟨hfree, ⟨f, hc, haccept⟩ | ⟨-, haccept⟩⟩ <;> rw [haccept]
    · exact .orphan List.mem_cons_self ho
    · have hrows : row :: rows = [] ++ row :: rows := rfl
      exact .clash hrows hfree (by rwa [List.append_nil])
    · exact .cons hfree (ih _)

theorem inserted (hi : b.Intact) (t : Table) (rows : List t.Row) :
    Inserted b t rows (guarded.insert t (rows.map t.record) b) := by
  have h := inserted_rows b t rows
  rw [insert]
  generalize (rows.map t.record).foldlM (guarded.insertRow t) b = r at h
  cases h with
  | orphan hrow h => exact .orphan hrow h
  | clash hrows hfree hc => exact .clash hrows hfree hc
  | done hfree =>
    have hsettle := settle_of_intact guarded (hi.append fun row hrow k hk hc =>
      Books.resolved_of_not_orphans (hfree row hrow) hk hc)
    show Inserted b t rows (guarded.settle _)
    rw [hsettle]
    exact .done hfree

theorem Inserted.judged {rows : List t.Row} {r : Except StorageFailure Books} {repeats : Prop}
    (h : Inserted b t rows r)
    (hclash : ∀ {before after row f}, rows = before ++ row :: after → (∀ k, ¬b.Orphans t row k) →
      t.clash? row (b.rows t ++ before) = some f →
      repeats ∨ ∀ row ∈ rows, ∀ k, ¬b.Orphans t row k) :
    Judged b (rows.map (⟨t, ·⟩)) [] repeats r := by
  cases h with
  | orphan hrow h => exact .broken (.orphaned (List.mem_map_of_mem hrow) h)
  | clash hrows hfree hc =>
    exact .clash ((hclash hrows hfree hc).imp_right Books.not_broken_written.2)
      (Table.diagnose_clash? hc)
  | done hfree => exact .done (Books.not_broken_written.2 hfree)

theorem judged_insert (hi : b.Intact) (row : t.Row) (repeats : Prop) :
    Judged b [⟨t, row⟩] [] repeats (guarded.insert t [t.record row] b) := by
  refine (inserted hi t [row]).judged fun hrows hfree _ => .inr ?_
  obtain ⟨rfl, hrow⟩ | ⟨_, -, hnil⟩ := List.cons_eq_append_iff.1 hrows
  · obtain rfl := (List.cons.inj hrow).1
    exact List.forall_mem_singleton.2 hfree
  · exact absurd hnil (by simp)

end Insert

section Update

variable {chosen : t.Row → Bool} {change : t.Row → Record} {new : t.Row → t.Row}
  {rows : List t.Row}

def updated (chosen : t.Row → Bool) (new : t.Row → t.Row) (row : t.Row) : t.Row :=
  if chosen row then new row else row

inductive Updated (b : Books) (t : Table) (chosen : t.Row → Bool) (new : t.Row → t.Row)
    (seen rows : List t.Row) : Except StorageFailure (List t.Row) → Prop
  | orphan {row : t.Row} {k : ForeignKey} (hrow : row ∈ rows) (hc : chosen row = true)
    (h : b.Orphans t (new row) k) :
    Updated b t chosen new seen rows (.error (k.guardFailure .parentMissing))
  | clash {f : StorageFailure} (hfree : ∀ row k, ¬b.Orphans t (new row) k)
    (hf : Diagnosis.diagnose f = .domain .duplicateKey) :
    Updated b t chosen new seen rows (.error f)
  | done (hfree : ∀ row ∈ rows, chosen row = true → ∀ k, ¬b.Orphans t (new row) k) :
    Updated b t chosen new seen rows (.ok (seen ++ rows.map (updated chosen new)))

theorem Updated.cons {seen : List t.Row} {r : Except StorageFailure (List t.Row)}
    (hrow : chosen row = true → ∀ k, ¬b.Orphans t (new row) k)
    (h : Updated b t chosen new (seen ++ [updated chosen new row]) rows r) :
    Updated b t chosen new seen (row :: rows) r := by
  cases h with
  | orphan hmem hc h => exact .orphan (List.mem_cons_of_mem _ hmem) hc h
  | clash hfree hf => exact .clash hfree hf
  | done hfree =>
    rw [List.append_assoc]
    exact .done (List.forall_mem_cons.2 ⟨hrow, hfree⟩)

theorem updated_rows (hcolumns : ∀ k ∈ t.childKeys, columns.contains k.childColumn = true)
    (hnew : ∀ old, chosen old = true → change old = t.record (new old))
    (hsame : ∀ old old' k, b.Orphans t (new old) k → b.Orphans t (new old') k)
    (seen rows : List t.Row) :
    Updated b t chosen new seen rows
      (guarded.updateRows b t columns chosen change seen rows) := by
  induction rows generalizing seen with
  | nil =>
    have h : Updated b t chosen new seen [] (.ok (seen ++ [])) := .done (List.forall_mem_nil _)
    rwa [List.append_nil] at h
  | cons row rows ih =>
    rw [updateRows]
    by_cases hc : chosen row = true
    · rw [if_pos hc, hnew row hc]
      rcases accept_cases hcolumns (new row) (seen ++ rows) with
        ⟨k, ho, haccept⟩ | ⟨hfree, ⟨f, hclash, haccept⟩ | ⟨-, haccept⟩⟩ <;> rw [haccept]
      · exact .orphan List.mem_cons_self hc ho
      · exact .clash (fun old k h => hfree k (hsame _ _ k h)) (Table.diagnose_clash? hclash)
      · refine .cons (fun _ => hfree) ?_
        rw [updated, if_pos hc]
        exact ih _
    · rw [if_neg hc]
      refine .cons (fun h => absurd h hc) ?_
      rw [updated, if_neg hc]
      exact ih _

theorem intact_updated (hi : b.Intact)
    (hfree : ∀ row ∈ b.rows t, chosen row = true → ∀ k, ¬b.Orphans t (new row) k)
    (hparent : ∀ k ∈ ForeignKey.all, k.parentTable = t.name → ∀ row, chosen row = true →
      t.text? (new row) k.parentColumn = t.text? row k.parentColumn) :
    (b.withRows t ((b.rows t).map (updated chosen new))).Intact := by
  refine hi.map (fun row hrow => ?_) fun k hk hp row => ?_
  · by_cases hc : chosen row = true
    · rw [updated, if_pos hc]
      exact .inr fun k hk hchild => Books.resolved_of_not_orphans (hfree row hrow hc) hk hchild
    · exact .inl (if_neg hc)
  · by_cases hc : chosen row = true
    · rw [updated, if_pos hc]
      exact hparent k hk hp row hc
    · rw [updated, if_neg hc]

theorem judged_update (hi : b.Intact)
    (hcolumns : ∀ k ∈ t.childKeys, columns.contains k.childColumn = true)
    (hnew : ∀ old, chosen old = true → change old = t.record (new old))
    (hsame : ∀ old old' k, b.Orphans t (new old) k → b.Orphans t (new old') k)
    (hparent : ∀ k ∈ ForeignKey.all, k.parentTable = t.name → ∀ row, chosen row = true →
      t.text? (new row) k.parentColumn = t.text? row k.parentColumn) (repeats : Prop) :
    Judged b (((b.rows t).filter chosen).map fun old => ⟨t, new old⟩) [] repeats
      (guarded.update t columns chosen change b) := by
  have hrows : (((b.rows t).filter chosen).map fun old => (⟨t, new old⟩ : Table.Entry)) =
      (((b.rows t).filter chosen).map new).map (⟨t, ·⟩) := List.map_map.symm
  have h := updated_rows hcolumns hnew hsame [] (b.rows t)
  rw [hrows, update]
  generalize guarded.updateRows b t columns chosen change [] (b.rows t) = r at h
  cases h with
  | orphan hrow hc h =>
    have hmem := List.mem_map_of_mem (f := new) (List.mem_filter.2 ⟨hrow, hc⟩)
    exact .broken (.orphaned (List.mem_map_of_mem hmem) h)
  | clash hfree hf =>
    refine .clash (.inr (Books.not_broken_written.2 ?_)) hf
    exact List.forall_mem_map.2 fun row _ => hfree row
  | done hfree =>
    have hsettle := settle_of_intact guarded (intact_updated hi hfree hparent)
    show Judged b _ [] repeats (guarded.settle _)
    rw [List.nil_append, hsettle]
    refine .done (Books.not_broken_written.2 (List.forall_mem_map.2 fun row hrow => ?_))
    obtain ⟨hrow, hc⟩ := List.mem_filter.1 hrow
    exact hfree row hrow hc

end Update

end Enforcement

end Bookkeeping

import Bookkeeping.Diagnosis.Reading
import Bookkeeping.Store.Statement

namespace Bookkeeping

namespace Table

def childKeys (t : Table) : List ForeignKey :=
  ForeignKey.all.reverse.filter (·.childTable == t.name)

def parentKeys (t : Table) : List ForeignKey :=
  ForeignKey.all.reverse.filter fun k => k.parentTable == t.name && k.onDelete == .restrict

theorem diagnose_clash? {t : Table} {row : t.Row} {others : List t.Row} {f : StorageFailure}
    (h : t.clash? row others = some f) : Diagnosis.diagnose f = .domain .duplicateKey := by
  obtain ⟨k, -, rfl⟩ := Option.map_eq_some_iff.1 h
  cases hp : k.primary <;>
    simp [UniqueKey.failure, hp, StorageFailure.database, Diagnosis.diagnose, Diagnosis.byCode,
      Diagnosis.codeMeaning?]

end Table

namespace Enforcement

def guarded : Enforcement := ⟨ForeignKey.all, false⟩

theorem childGuard?_guarded (b : Books) (t : Table) (columns : List String) (r : Record) :
    guarded.childGuard? b t columns r =
      t.childKeys.find? fun k => columns.contains k.childColumn && b.parentMissing k r := by
  simp only [childGuard?, guarded, Table.childKeys, List.find?_filter, Bool.and_assoc,
    Bool.decide_and, Bool.decide_eq_true]

theorem restricting?_reverse (b : Books) (t : Table) (r : Record) :
    restricting? guarded.guards.reverse b t r = t.parentKeys.find? (b.stillReferenced · r) := by
  simp only [restricting?, guarded, Table.parentKeys, List.find?_filter, Bool.and_assoc,
    Bool.decide_and, Bool.decide_eq_true]

theorem settle_of_intact (e : Enforcement) {b : Books} (h : b.Intact) : e.settle b = .ok b :=
  if_pos (.inr h)

theorem accept_record (e : Enforcement) (b : Books) (t : Table) (columns : List String)
    (others : List t.Row) (row : t.Row) :
    e.accept b t columns others (t.record row) =
      match e.childGuard? b t columns (t.record row) with
      | some k => .error (.database (some 1811) k.childMessage)
      | none => match t.clash? row others with
        | some f => .error f
        | none => .ok row := by
  rw [accept, guardChild]
  cases e.childGuard? b t columns (t.record row) with
  | some k => rfl
  | none => cases hc : t.clash? row others <;> simp [Table.ofRecord_record, bind, Except.bind, hc]

theorem updateRows_of_not_chosen (e : Enforcement) (b : Books) (t : Table) (columns : List String)
    (chosen : t.Row → Bool) (change : t.Row → Record) (seen : List t.Row) {rows : List t.Row}
    (h : ∀ r ∈ rows, chosen r = false) (rest : List t.Row) :
    e.updateRows b t columns chosen change seen (rows ++ rest) =
      e.updateRows b t columns chosen change (seen ++ rows) rest := by
  induction rows generalizing seen with
  | nil => simp
  | cons r rows ih =>
    rw [List.cons_append, updateRows, h r List.mem_cons_self, if_neg Bool.false_ne_true,
      ih _ fun x hx => h x (List.mem_cons_of_mem r hx)]
    simp

theorem update_record (e : Enforcement) {t : Table} (columns : List String)
    {chosen : t.Row → Bool} {change : t.Row → Record} {b : Books} {before after : List t.Row}
    {old new : t.Row} (hb : b.rows t = before ++ old :: after)
    (hbefore : ∀ r ∈ before, chosen r = false) (hold : chosen old = true)
    (hafter : ∀ r ∈ after, chosen r = false) (hnew : change old = t.record new) :
    e.update t columns chosen change b =
      match e.accept b t columns (before ++ after) (t.record new) with
      | .error f => .error f
      | .ok row => e.settle (b.withRows t (before ++ row :: after)) := by
  rw [update, hb, updateRows_of_not_chosen e b t columns chosen change [] hbefore, updateRows,
    if_pos hold, hnew, List.nil_append]
  cases e.accept b t columns (before ++ after) (t.record new) with
  | error f => rfl
  | ok row =>
    have := updateRows_of_not_chosen e b t columns chosen change (before ++ [row]) hafter []
    simp only [bind, Except.bind]
    rw [← List.append_nil after, this]
    simp [updateRows]

theorem delete_record (e : Enforcement) {t : Table} {chosen : t.Row → Bool} {b : Books}
    {row : t.Row} (h : (b.rows t).filter chosen = [row]) :
    e.delete t chosen b =
      match e.guardParent b t (t.record row) with
      | .error f => .error f
      | .ok () => match release t (t.record row) b with
        | .error f => .error f
        | .ok b => e.settle (b.withRows t ((b.rows t).filter fun row => !chosen row)) := by
  simp only [delete, h, List.foldlM_cons, List.foldlM_nil, deleteRow, bind, Except.bind, pure,
    Except.pure]
  cases e.guardParent b t (t.record row) with
  | error f => rfl
  | ok u => cases release t (t.record row) b <;> rfl

end Enforcement

end Bookkeeping

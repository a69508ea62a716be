import Bookkeeping.Proofs.Guards.Statement
import Bookkeeping.Proofs.Ledger.Keys

namespace Bookkeeping

open Enforcement

section Insert

variable {t : Table} {b b' : Books} {rows : List t.Row}

structure Books.Addable (b : Books) (t : Table) (rows : List t.Row) : Prop where
  resolved : ∀ row ∈ rows, ∀ k, ¬b.Orphans t row k
  new : ∀ row ∈ rows, row ∉ b.rows t
  nodup : rows.Nodup

namespace Books.Addable

theorem nil (b : Books) (t : Table) : b.Addable t [] :=
  ⟨List.forall_mem_nil _, List.forall_mem_nil _, .nil⟩

theorem cons_iff {row : t.Row} : b.Addable t (row :: rows) ↔
    (∀ k, ¬b.Orphans t row k) ∧ row ∉ b.rows t ∧
      (b.withRows t (b.rows t ++ [row])).Addable t rows := by
  constructor
  · rintro ⟨hresolved, hnew, hnodup⟩
    obtain ⟨hrow, hrows⟩ := List.forall_mem_cons.1 hresolved
    obtain ⟨hnewRow, hnewRows⟩ := List.forall_mem_cons.1 hnew
    obtain ⟨hmem, hnodup⟩ := List.nodup_cons.1 hnodup
    refine ⟨hrow, hnewRow, fun r hr k h => hrows r hr k ((orphans_withRows _).1 h),
      fun r hr h => ?_, hnodup⟩
    rw [rows_withRows, List.mem_append, List.mem_singleton] at h
    rcases h with h | rfl
    · exact hnewRows r hr h
    · exact hmem hr
  · rintro ⟨hrow, hnewRow, h⟩
    have hout : ∀ r ∈ rows, r ∉ b.rows t ++ [row] := fun r hr hmem =>
      h.new r hr (by rwa [rows_withRows])
    refine ⟨List.forall_mem_cons.2 ⟨hrow, fun r hr k ho => ?_⟩, List.forall_mem_cons.2
      ⟨hnewRow, fun r hr hmem => hout r hr (List.mem_append_left _ hmem)⟩, List.nodup_cons.2
      ⟨fun hmem => hout row hmem (List.mem_append_right _ List.mem_cons_self), h.nodup⟩⟩
    exact h.resolved r hr k ((orphans_withRows _).2 ho)

end Books.Addable

namespace Enforcement

variable (hclash : ∀ (row : t.Row) others, t.clash? row others = none ↔ row ∉ others)

include hclash

theorem insertRows_ok : (rows.map t.record).foldlM (guarded.insertRow t) b = .ok b' ↔
    b.Addable t rows ∧ b.withRows t (b.rows t ++ rows) = b' := by
  induction rows generalizing b with
  | nil =>
    rw [List.append_nil, Books.withRows_rows]
    exact ⟨fun h => ⟨.nil b t, Except.ok.inj h⟩, fun h => congrArg _ h.2⟩
  | cons row rows ih =>
    have hlater : (b.withRows t (b.rows t ++ [row])).withRows t
        ((b.withRows t (b.rows t ++ [row])).rows t ++ rows) =
          b.withRows t (b.rows t ++ row :: rows) := by
      rw [Books.withRows_withRows, Books.rows_withRows, List.append_assoc, List.singleton_append]
    rw [List.map_cons, List.foldlM_cons, insertRow, Books.Addable.cons_iff, ← hclash]
    rcases accept_cases (contains_childColumn t) row (b.rows t) with
      ⟨k, ho, haccept⟩ | ⟨hfree, ⟨f, hc, haccept⟩ | ⟨hnone, haccept⟩⟩ <;> rw [haccept]
    · constructor <;> intro h
      · cases h
      · exact absurd ho (h.1.1 k)
    · constructor <;> intro h
      · cases h
      · cases hc.symm.trans h.1.2.1
    · have hrest := ih (b := b.withRows t (b.rows t ++ [row]))
      rw [hlater] at hrest
      exact hrest.trans ⟨fun h => ⟨⟨hfree, hnone, h.1⟩, h.2⟩, fun h => ⟨h.1.2.2, h.2⟩⟩

theorem insert_ok {e : Enforcement} (he : e.guards = ForeignKey.all)
    (hb : e.deferred = true ∨ b.Intact) : e.insert t (rows.map t.record) b = .ok b' ↔
      b.Addable t rows ∧ b.withRows t (b.rows t ++ rows) = b' := by
  obtain ⟨guards, deferred⟩ := e
  obtain rfl : guards = ForeignKey.all := he
  rw [← insertRows_ok hclash]
  have hsame : (rows.map t.record).foldlM (insertRow ⟨ForeignKey.all, deferred⟩ t) b =
      (rows.map t.record).foldlM (guarded.insertRow t) b := rfl
  rw [insert, hsame]
  cases hrows : (rows.map t.record).foldlM (guarded.insertRow t) b with
  | error f => constructor <;> intro h <;> cases h
  | ok b₁ =>
    obtain ⟨h, rfl⟩ := (insertRows_ok hclash).1 hrows
    have hsettled : deferred = true ∨ (b.withRows t (b.rows t ++ rows)).Intact := by
      refine hb.imp id fun hi => hi.append fun row hrow k hk hc => ?_
      exact Books.resolved_of_not_orphans (h.resolved row hrow) hk hc
    show settle ⟨ForeignKey.all, deferred⟩ _ = .ok b' ↔ _
    rw [settle_ok.2 ⟨hsettled, rfl⟩]

omit hclash in
theorem insert_intact {e : Enforcement} {records : List Record}
    (h : e.insert t records b = .ok b') : e.deferred = true ∨ b'.Intact := by
  obtain ⟨b₁, -, hsettle⟩ := bind_ok.1 h
  obtain ⟨hsettled, rfl⟩ := settle_ok.1 hsettle
  exact hsettled

end Enforcement

end Insert

theorem Books.not_orphans_iff {b : Books} {t : Table} {row : t.Row} : (∀ k, ¬b.Orphans t row k) ↔
    ∀ k ∈ t.childKeys, ∀ value, t.text? row k.childColumn = some value → value ∈ b.referable k := by
  constructor
  · intro h k hk value hv
    obtain ⟨hall, hc⟩ := mem_childKeys.1 hk
    by_contra hmissing
    exact h k ⟨hall, hc, value, hv, hmissing⟩
  · rintro h k ⟨hall, hc, value, hv, hmissing⟩
    exact hmissing (h k (mem_childKeys.2 ⟨hall, hc⟩) value hv)

/-- A table of links. A row has two ends, refers to what is there by them, and is told from other
rows by them alone. -/
structure LinkTable (t : Table) where
  column : String
  target : t.Row → String
  tag : t.Row → String
  targetKey : ForeignKey
  tagKey : ForeignKey
  targets : Books → List String
  uniqueKeys : t.uniqueKeys = [⟨[column, "tag_id"], true⟩]
  childKeys : t.childKeys = [tagKey, targetKey]
  text_target : ∀ r, t.text? r column = some (target r)
  text_tag : ∀ r, t.text? r "tag_id" = some (tag r)
  ends : ∀ r o, target r = target o → tag r = tag o → r = o
  column_targetKey : targetKey.childColumn = column
  column_tagKey : tagKey.childColumn = "tag_id"
  referable_targetKey : ∀ b : Books, b.referable targetKey = targets b
  referable_tagKey : ∀ b : Books, b.referable tagKey = b.tags.map (·.id)

namespace LinkTable

def expenditureTags : LinkTable .expenditureTags where
  column := "expenditure_id"
  target := LinkRow.target
  tag := LinkRow.tag
  targetKey := .expenditureTagsExpenditure
  tagKey := .expenditureTagsTag
  targets b := b.expenditures.map (·.id)
  uniqueKeys := rfl
  childKeys := by decide
  text_target _ := rfl
  text_tag _ := rfl
  ends _ _ ht htag := congrArg₂ LinkRow.mk ht htag
  column_targetKey := rfl
  column_tagKey := rfl
  referable_targetKey b :=
    (b.column_name .expenditures "id").trans (congrFun List.filterMap_eq_map' _)
  referable_tagKey b := (b.column_name .tags "id").trans (congrFun List.filterMap_eq_map' _)

def ingressTags : LinkTable .ingressTags where
  column := "ingress_id"
  target := LinkRow.target
  tag := LinkRow.tag
  targetKey := .ingressTagsIngress
  tagKey := .ingressTagsTag
  targets b := b.ingresses.map (·.id)
  uniqueKeys := rfl
  childKeys := by decide
  text_target _ := rfl
  text_tag _ := rfl
  ends _ _ ht htag := congrArg₂ LinkRow.mk ht htag
  column_targetKey := rfl
  column_tagKey := rfl
  referable_targetKey b := (b.column_name .ingresses "id").trans (congrFun List.filterMap_eq_map' _)
  referable_tagKey b := (b.column_name .tags "id").trans (congrFun List.filterMap_eq_map' _)

variable {t : Table} (lt : LinkTable t) {b b' : Books} {rows : List t.Row}

include lt in
theorem clash?_eq_none_iff (row : t.Row) (others : List t.Row) :
    t.clash? row others = none ↔ row ∉ others := by
  have hshared (o : t.Row) :
      (⟨[lt.column, "tag_id"], true⟩ : UniqueKey).shared t row o = true ↔ row = o := by
    rw [UniqueKey.shared_pair (lt.text_target row) (lt.text_tag row) (lt.text_target o)
      (lt.text_tag o), Bool.and_eq_true, beq_iff_eq, beq_iff_eq]
    exact ⟨fun h => lt.ends row o h.1.symm h.2.symm, fun h => h ▸ ⟨rfl, rfl⟩⟩
  rw [Table.clash?_eq_none_iff, lt.uniqueKeys, List.forall_mem_singleton]
  constructor
  · exact fun h hmem => Bool.eq_false_iff.1 (h row hmem) ((hshared row).2 rfl)
  · exact fun h o ho => Bool.eq_false_iff.2 fun hs => h ((hshared o).1 hs ▸ ho)

theorem not_orphans_iff (row : t.Row) : (∀ k, ¬b.Orphans t row k) ↔
    lt.target row ∈ lt.targets b ∧ lt.tag row ∈ b.tags.map (·.id) := by
  rw [Books.not_orphans_iff, lt.childKeys, List.forall_mem_cons, List.forall_mem_singleton,
    lt.column_tagKey, lt.column_targetKey, lt.text_tag, lt.text_target, lt.referable_tagKey,
    lt.referable_targetKey]
  constructor
  · exact fun h => ⟨h.2 _ rfl, h.1 _ rfl⟩
  · rintro ⟨htarget, htag⟩
    constructor
    · rintro value ⟨⟩
      exact htag
    · rintro value ⟨⟩
      exact htarget

theorem insert_ok {e : Enforcement} (he : e.guards = ForeignKey.all)
    (hb : e.deferred = true ∨ b.Intact) (hrows : rows.Nodup) :
    e.insert t (rows.map t.record) b = .ok b' ↔
      (∀ row ∈ rows, (lt.target row ∈ lt.targets b ∧ lt.tag row ∈ b.tags.map (·.id)) ∧
        row ∉ b.rows t) ∧ b.withRows t (b.rows t ++ rows) = b' := by
  rw [Enforcement.insert_ok lt.clash?_eq_none_iff he hb]
  refine and_congr_left'
    ⟨fun h row hrow => ?_, fun h => ⟨fun row hrow => ?_, fun row hrow => ?_, hrows⟩⟩
  · exact ⟨(lt.not_orphans_iff row).1 (h.resolved row hrow), h.new row hrow⟩
  · exact (lt.not_orphans_iff row).2 (h row hrow).1
  · exact (h row hrow).2

end LinkTable

end Bookkeeping

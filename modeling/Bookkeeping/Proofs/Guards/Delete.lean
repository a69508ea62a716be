import Bookkeeping.Proofs.Guards.Statement

namespace Bookkeeping

namespace Enforcement

variable {b : Books} {t : Table} {chosen : t.Row → Bool} {rows : List t.Row}

section Restrict

inductive Deleted (b : Books) (t : Table) (rows : List t.Row) :
    Except StorageFailure Books → Prop
  | restrained {row : t.Row} {k : ForeignKey} (hrow : row ∈ rows) (h : b.Restrains t row k) :
    Deleted b t rows (.error (k.guardFailure .stillReferenced))
  | done (hfree : ∀ row ∈ rows, ∀ k, ¬b.Restrains t row k) : Deleted b t rows (.ok b)

theorem guardParent_cases (b : Books) (t : Table) (row : t.Row) :
    (∃ k, b.Restrains t row k ∧ guarded.guardParent b t (t.record row) =
      .error (k.guardFailure .stillReferenced)) ∨
    (∀ k, ¬b.Restrains t row k) ∧ guarded.guardParent b t (t.record row) = .ok () := by
  rw [guardParent_guarded]
  cases hfind : t.parentKeys.find? (b.stillReferenced · (t.record row)) with
  | some k =>
    obtain ⟨hk, hp, hr⟩ := Books.mem_parentKeys.1 (List.mem_of_find?_eq_some hfind)
    have href := List.find?_some hfind
    exact .inl ⟨k, ⟨hk, hp, hr, Books.stillReferenced_iff.1 href⟩, rfl⟩
  | none =>
    refine .inr ⟨fun k h => ?_, rfl⟩
    have hk := Books.mem_parentKeys.2 ⟨h.mem, h.parent, h.onDelete⟩
    exact List.find?_eq_none.1 hfind k hk (Books.stillReferenced_iff.2 h.referenced)

theorem deleted_rows
    (hrestrict : ∀ k ∈ ForeignKey.all, k.parentTable = t.name → k.onDelete = .restrict)
    (rows : List t.Row) : Deleted b t rows (rows.foldlM (guarded.deleteRow t) b) := by
  induction rows with
  | nil => exact .done (List.forall_mem_nil _)
  | cons row rows ih =>
    rw [List.foldlM_cons, deleteRow]
    rcases guardParent_cases b t row with ⟨k, h, hguard⟩ | ⟨hfree, hguard⟩ <;> rw [hguard]
    · exact .restrained List.mem_cons_self h
    · show Deleted b t _ (release t (t.record row) b >>= _)
      rw [release_of_restrict hrestrict]
      show Deleted b t _ (rows.foldlM (guarded.deleteRow t) b)
      generalize rows.foldlM (guarded.deleteRow t) b = r at ih
      cases ih with
      | restrained hmem h => exact .restrained (List.mem_cons_of_mem _ hmem) h
      | done hrest => exact .done (List.forall_mem_cons.2 ⟨hfree, hrest⟩)

theorem judged_delete (hi : b.Intact)
    (hrestrict : ∀ k ∈ ForeignKey.all, k.parentTable = t.name → k.onDelete = .restrict)
    (chosen : t.Row → Bool) (repeats : Prop) :
    Judged b [] (((b.rows t).filter chosen).map (⟨t, ·⟩)) repeats
      (guarded.delete t chosen b) := by
  have h := deleted_rows (b := b) hrestrict ((b.rows t).filter chosen)
  rw [delete]
  generalize ((b.rows t).filter chosen).foldlM (guarded.deleteRow t) b = r at h
  cases h with
  | restrained hrow h => exact .broken (.restrained (List.mem_map_of_mem hrow) h)
  | done hfree =>
    have hsettle := settle_of_intact guarded (hi.filter (p := fun row => !chosen row)
      fun row hrow hp k hk hparent => Bool.eq_false_iff.2 fun href =>
        hfree row (List.mem_filter.2 ⟨hrow, by simpa using hp⟩) k
          ⟨hk, hparent, hrestrict k hk hparent, Books.stillReferenced_iff.1 href⟩)
    show Judged b [] _ repeats (guarded.settle _)
    rw [hsettle]
    exact .done (Books.not_broken_deleted.2 hfree)

end Restrict

section Clear

theorem owner_disowned (id : String) (row : AccountRow) :
    (disowned id row).owner = if row.owner = some id then none else row.owner := by
  rw [disowned]
  split <;> rfl

theorem mem_refersTo_owner {id : String} :
    id ∈ b.refersTo .accountsOwner ↔ ∃ row ∈ b.accounts, row.owner = some id := by
  have hcolumn : b.refersTo .accountsOwner =
      b.accounts.filterMap (Table.text? .accounts · "owner_id") := b.column_name .accounts _
  simp only [hcolumn, List.mem_filterMap, Ledger.text?_owner_id]

theorem intact_disowned (hi : b.Intact) (id : String) :
    (b.withRows .accounts (b.accounts.map (disowned id))).Intact := by
  have hkeys : ∀ k ∈ ForeignKey.all, k.childTable = Table.name .accounts →
      k = .accountsOwner ∨ k = .accountsCurrency := by decide
  refine hi.map (t := .accounts) (fun row hrow => ?_) fun k hk hp row => ?_
  · by_cases ho : row.owner = some id
    · refine .inr fun k hk hc => ?_
      rw [disowned, if_pos ho]
      rcases hkeys k hk hc with rfl | rfl
      · rfl
      · have hcurrency := hi.resolved hk hc hrow
        exact hcurrency
    · exact .inl (if_neg ho)
  · have hid : k.parentColumn = "id" := by
      revert k
      decide
    rw [hid, disowned]
    split <;> rfl

/-- What is left when members are released: everything in its place, but accounts that nobody of
them owns. -/
structure Released (b : Books) (rows : List MemberRow) (b' : Books) : Prop where
  intact : b'.Intact
  members : b'.members = b.members
  owners : ∀ id ∈ b'.refersTo .accountsOwner,
    id ∈ b.refersTo .accountsOwner ∧ id ∉ rows.map (·.id)

theorem released_rows (hi : b.Intact) (rows : List MemberRow) :
    ∃ b', rows.foldlM (guarded.deleteRow .members) b = .ok b' ∧ Released b rows b' := by
  -- each member clears accounts before the next one goes, so the books vary
  induction rows generalizing b with
  | nil => exact ⟨b, rfl, hi, rfl, fun _ h => ⟨h, List.not_mem_nil⟩⟩
  | cons m rows ih =>
    have hone : guarded.deleteRow .members b m =
        .ok (b.withRows .accounts (b.accounts.map (disowned m.id))) := by
      have hkeys : Table.parentKeys .members = [] := by decide
      rw [deleteRow, guardParent_guarded, hkeys, List.find?_nil]
      exact release_members b m
    obtain ⟨b', hrest, h⟩ := ih (intact_disowned hi m.id)
    refine ⟨b', by rw [List.foldlM_cons, hone]; exact hrest, h.intact, h.members, fun id hid => ?_⟩
    obtain ⟨hid, hnot⟩ := h.owners id hid
    obtain ⟨row, hrow, ho⟩ := mem_refersTo_owner.1 hid
    obtain ⟨old, hold, rfl⟩ := List.mem_map.1 hrow
    rw [owner_disowned] at ho
    split at ho
    · cases ho
    · rename_i hne
      refine ⟨mem_refersTo_owner.2 ⟨old, hold, ho⟩, ?_⟩
      rw [List.map_cons, List.mem_cons]
      exact not_or.2 ⟨fun heq => hne (heq ▸ ho), hnot⟩

theorem judged_delete_members (hi : b.Intact) (chosen : MemberRow → Bool) (repeats : Prop) :
    Judged b [] ((b.members.filter chosen).map (⟨.members, ·⟩)) repeats
      (guarded.delete .members chosen b) := by
  obtain ⟨b', hfold, h⟩ := released_rows hi (b.members.filter chosen)
  have hkeys : ∀ k ∈ ForeignKey.all, k.parentTable = Table.name .members → k = .accountsOwner := by
    decide
  have hintact : (b'.withRows .members (b'.members.filter fun row => !chosen row)).Intact := by
    refine h.intact.filter (t := .members) fun row hrow hp k hk hparent => ?_
    obtain rfl := hkeys k hk hparent
    rw [Books.stillReferenced_eq_false_iff]
    intro value hv href
    obtain rfl : row.id = value := Option.some.inj hv
    have hmem : row ∈ b.members.filter chosen :=
      List.mem_filter.2 ⟨h.members ▸ hrow, by simpa using hp⟩
    exact (h.owners _ href).2 (List.mem_map_of_mem hmem)
  have hdelete : guarded.delete .members chosen b =
      guarded.settle (b'.withRows .members (b'.members.filter fun row => !chosen row)) := by
    rw [delete]
    exact congrArg (· >>= _) hfold
  rw [hdelete, settle_of_intact _ hintact]
  refine .done (Books.not_broken_deleted.2 fun row _ k hr => ?_)
  have hk := Books.mem_parentKeys.2 ⟨hr.mem, hr.parent, hr.onDelete⟩
  have hnone : Table.parentKeys .members = [] := by decide
  rw [hnone] at hk
  exact List.not_mem_nil hk

end Clear

end Enforcement

end Bookkeeping

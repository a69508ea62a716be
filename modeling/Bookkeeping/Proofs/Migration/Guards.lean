import Bookkeeping.Proofs.Migration.Trigger

namespace Bookkeeping

theorem ForeignKey.isIdentifier_name : ∀ k ∈ all, isIdentifier k.name = true := by decide +kernel

namespace Schema

def guards (s : Schema) : List ForeignKey :=
  ForeignKey.all.filter fun k =>
    k.triggerNames.all fun name => s.triggers.any (sameName name ·.name)

section Up

theorem any_attach {name : String} (new : Attachment) {present : List Attachment}
    (h : present.any (sameName name ·.name) = true) :
    (attach new present).any (sameName name ·.name) = true := by
  rw [attach]
  split
  · exact h
  · rw [List.any_append, h, Bool.true_or]

theorem any_attach_self (new : Attachment) (present : List Attachment) :
    (attach new present).any (sameName new.name ·.name) = true := by
  rw [attach]
  split
  · assumption
  · simp [sameName]

theorem any_createTrigger {name : String} (statement : String) {s : Schema}
    (h : s.triggers.any (sameName name ·.name) = true) :
    (s.createTrigger statement).triggers.any (sameName name ·.name) = true := by
  rw [createTrigger]
  split
  · exact any_attach _ h
  · exact h

theorem any_createTriggers {name : String} (statements : List String) {s : Schema}
    (h : s.triggers.any (sameName name ·.name) = true) :
    (statements.foldl createTrigger s).triggers.any (sameName name ·.name) = true := by
  induction statements generalizing s with
  | nil => exact h
  | cons statement statements ih => exact ih (any_createTrigger statement h)

theorem any_createTriggers_of_mem {statements : List String} {statement : String}
    {trigger : Attachment} (hmem : statement ∈ statements)
    (htrigger : triggerOf? statement = some trigger) (s : Schema) :
    (statements.foldl createTrigger s).triggers.any (sameName trigger.name ·.name) = true := by
  induction statements generalizing s with
  | nil => exact absurd hmem List.not_mem_nil
  | cons head statements ih =>
    obtain rfl | hmem := List.mem_cons.1 hmem
    · refine any_createTriggers statements ?_
      rw [createTrigger, htrigger]
      exact any_attach_self trigger s.triggers
    · exact ih hmem _

theorem guards_createGuards (s : Schema) :
    (createGuards ForeignKey.all s).guards = ForeignKey.all := by
  rw [guards, List.filter_eq_self]
  intro k hk
  refine List.all_eq_true.2 fun name hname => ?_
  rw [k.triggerNames_eq] at hname
  obtain ⟨e, he, rfl⟩ := List.mem_map.1 hname
  obtain ⟨table, htrigger⟩ :=
    ForeignKey.triggerOf?_createTrigger e (ForeignKey.isIdentifier_name k hk)
  refine any_createTriggers_of_mem (List.mem_flatMap.2 ⟨k, hk, ?_⟩) htrigger s
  rw [k.createTriggers_eq]
  exact List.mem_map_of_mem he

end Up

section Down

theorem foldl_dropTrigger {names : List String} (h : ∀ name ∈ names, isIdentifier name = true)
    (s : Schema) : (names.map dropStatement).foldl dropTrigger s =
      { s with triggers := s.triggers.filter fun a => !names.any (sameName · a.name) } := by
  induction names generalizing s with
  | nil =>
    have hkept : s.triggers.filter (fun a => !([] : List String).any (sameName · a.name)) =
        s.triggers := List.filter_eq_self.2 fun _ _ => rfl
    rw [List.map_nil, List.foldl_nil, hkept]
  | cons name names ih =>
    obtain ⟨hname, h⟩ := List.forall_mem_cons.1 h
    have hdrop : s.dropTrigger (dropStatement name) =
        { s with triggers := detach name s.triggers } := by
      rw [dropTrigger, droppedBy?_dropStatement hname]
    rw [List.map_cons, List.foldl_cons, hdrop, ih h]
    simp [detach, Bool.and_comm]

theorem isIdentifier_of_mem {keys : List ForeignKey} (h : ∀ k ∈ keys, isIdentifier k.name = true) :
    ∀ name ∈ keys.flatMap (·.triggerNames), isIdentifier name = true := by
  intro name hname
  obtain ⟨k, hk, hname⟩ := List.mem_flatMap.1 hname
  rw [k.triggerNames_eq] at hname
  obtain ⟨e, -, rfl⟩ := List.mem_map.1 hname
  exact ForeignKey.isIdentifier_triggerName e (h k hk)

theorem guards_dropGuards (s : Schema) : (dropGuards ForeignKey.all s).guards = [] := by
  rw [guards, List.filter_eq_nil_iff]
  intro k hk hall
  have hname : k.triggerName .insert ∈ k.triggerNames := by
    rw [k.triggerNames_eq]
    exact List.mem_map_of_mem (ForeignKey.mem_guardEvents.2 nofun)
  obtain ⟨a, ha, hsame⟩ := List.any_eq_true.1 (List.all_eq_true.1 hall _ hname)
  rw [dropGuards, foldl_dropTrigger (isIdentifier_of_mem ForeignKey.isIdentifier_name),
    List.mem_filter] at ha
  have hdropped : (ForeignKey.all.flatMap (·.triggerNames)).any (sameName · a.name) = true :=
    List.any_eq_true.2 ⟨_, List.mem_flatMap.2 ⟨k, hk, hname⟩, hsame⟩
  simp [hdropped] at ha

end Down

section Applied

variable (s : Schema)

@[simp] theorem createTable_applied (name : String) : (s.createTable name).applied = s.applied := by
  rw [createTable]
  split <;> rfl

@[simp] theorem createTrigger_applied (statement : String) :
    (s.createTrigger statement).applied = s.applied := by
  rw [createTrigger]
  split <;> rfl

theorem foldl_applied {f : Schema → α → Schema} (hf : ∀ s a, (f s a).applied = s.applied)
    (as : List α) : (as.foldl f s).applied = s.applied := by
  induction as generalizing s with
  | nil => rfl
  | cons a as ih => rw [List.foldl_cons, ih, hf]

@[simp] theorem init_up_applied : (Migration.init.up s).applied = s.applied := by
  have hindex (s : Schema) (index : Attachment) : (s.createIndex index).applied = s.applied := rfl
  rw [Migration.init]
  dsimp only
  rw [foldl_applied _ hindex, foldl_applied _ createTable_applied]

@[simp] theorem guards_up_applied : (Migration.guards.up s).applied = s.applied := by
  rw [Migration.guards]
  dsimp only
  rw [createGuards, foldl_applied _ createTrigger_applied]

end Applied

theorem rebuild_eq : rebuild =
    ((empty.createTable Migration.journal).applyOne Migration.init).applyOne Migration.guards := by
  have hpending : (empty.createTable Migration.journal).pending = Migration.all := by
    rw [pending, createTable_applied]
    rfl
  rw [rebuild, up, upTo, hpending, Migration.all, List.foldl_cons, List.foldl_cons, List.foldl_nil]

theorem rebuild_applied : rebuild.applied = Migration.all.map (·.name) := by
  simp [rebuild_eq, Migration.all, applyOne, empty]

theorem guards_noted (s : Schema) (applied : List String) :
    ({ s with applied := applied } : Schema).guards = s.guards := rfl

theorem guards_rebuild : rebuild.guards = ForeignKey.all := by
  have hup : Migration.guards.up = createGuards ForeignKey.all := by rw [Migration.guards]
  rw [rebuild_eq, applyOne, hup, guards_noted]
  exact guards_createGuards _

theorem guards_undone : (rebuild.down (some 1)).guards = [] := by
  have heffect : (rebuild.createTable Migration.journal).inEffect = Migration.all := by
    rw [inEffect, createTable_applied, rebuild_applied, List.filter_eq_self]
    exact fun m hm => List.contains_iff_mem.2 (List.mem_map_of_mem hm)
  have hlast : upTo (some 1) Migration.all.reverse = [Migration.guards] := rfl
  have hdown : Migration.guards.down = dropGuards ForeignKey.all := by rw [Migration.guards]
  rw [down, heffect, hlast, List.foldl_cons, List.foldl_nil, undoOne, hdown, guards_noted,
    guards_dropGuards]

end Schema

end Bookkeeping

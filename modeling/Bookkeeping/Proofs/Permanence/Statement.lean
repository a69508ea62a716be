import Bookkeeping.Proofs.Store.Intact
import Bookkeeping.Register.Basic

namespace Bookkeeping

namespace Table

def permanent : List Table :=
  [.transactions, .expenditures, .ingresses, .expenditureTags, .ingressTags]

def Spares (t : Table) : Prop :=
  ∀ k ∈ ForeignKey.all, k.parentTable = t.name → k.onDelete = .restrict ∨
    k.childTable ∉ permanent.map name

instance (t : Table) : Decidable t.Spares := by unfold Spares; infer_instance

end Table

def Books.Extends (b b' : Books) : Prop := ∀ t ∈ Table.permanent, b.rows t <+: b'.rows t

namespace Books.Extends

variable {b b' b'' : Books}

theorem refl (b : Books) : Extends b b := fun _ _ => List.prefix_rfl

theorem trans (h : Extends b b') (h' : Extends b' b'') : Extends b b'' :=
  fun t ht => (h t ht).trans (h' t ht)

theorem append (b : Books) (t : Table) (new : List t.Row) :
    Extends b (b.withRows t (b.rows t ++ new)) := by
  intro u hu
  by_cases h : u = t
  · subst h
    rw [rows_withRows]
    exact List.prefix_append _ _
  · exact (rows_withRows_of_ne b _ h) ▸ List.prefix_rfl

theorem withRows (b : Books) {t : Table} (ht : t ∉ Table.permanent) (rows : List t.Row) :
    Extends b (b.withRows t rows) := by
  intro u hu
  have hne : u ≠ t := fun h => ht (h ▸ hu)
  exact (rows_withRows_of_ne b rows hne) ▸ List.prefix_rfl

end Books.Extends

namespace Enforcement

open Books (Extends)

variable {e : Enforcement} {t : Table} {b b' : Books}

theorem foldlM_extends {f : Books → α → Except StorageFailure Books} {as : List α}
    (hf : ∀ a ∈ as, ∀ {b b'}, f b a = .ok b' → Extends b b') (h : as.foldlM f b = .ok b') :
    Extends b b' := by
  induction as generalizing b with
  | nil =>
    cases h
    exact .refl _
  | cons a as ih =>
    rw [List.foldlM_cons, bind_ok] at h
    obtain ⟨b₁, h₁, h⟩ := h
    exact (hf a List.mem_cons_self h₁).trans (ih (fun a ha => hf a (List.mem_cons_of_mem _ ha)) h)

theorem insert_extends (he : e.deferred = false) {records : List Record}
    (h : e.insert t records b = .ok b') : b'.Intact ∧ Extends b b' := by
  obtain ⟨b₁, hfold, hsettle⟩ := bind_ok.1 h
  obtain ⟨rfl, hintact⟩ := intact_of_settle he hsettle
  refine ⟨hintact, foldlM_extends (fun _ _ _ _ hrow => ?_) hfold⟩
  obtain ⟨row, -, hrow⟩ := bind_ok.1 hrow
  cases hrow
  exact .append _ _ _

theorem update_extends (he : e.deferred = false) (ht : t ∉ Table.permanent)
    {columns : List String} {chosen : t.Row → Bool} {change : t.Row → Record}
    (h : e.update t columns chosen change b = .ok b') : b'.Intact ∧ Extends b b' := by
  obtain ⟨rows, -, hsettle⟩ := bind_ok.1 h
  obtain ⟨rfl, hintact⟩ := intact_of_settle he hsettle
  exact ⟨hintact, .withRows b ht rows⟩

theorem releaseBy_extends {k : ForeignKey}
    (hk : k.onDelete = .restrict ∨ k.childTable ∉ Table.permanent.map Table.name) {value : String}
    (h : releaseBy k value b = .ok b') : Extends b b' := by
  rw [releaseBy] at h
  split at h
  · cases h
    exact .refl b
  · cases h
    exact .refl b
  all_goals
    rename_i c hc hd
    have hpermanent : c ∉ Table.permanent := fun hmem =>
      hk.elim (by simp [hd]) fun hk => hk (Table.name_of_ofName? hc ▸ List.mem_map_of_mem hmem)
  · cases h
    exact .withRows b hpermanent _
  · obtain ⟨rows, -, h⟩ := bind_ok.1 h
    cases h
    exact .withRows b hpermanent rows

theorem release_extends (hs : t.Spares) {r : Record} (h : release t r b = .ok b') :
    Extends b b' := by
  refine foldlM_extends (fun k hk _ _ hrelease => ?_) h
  obtain ⟨hall, hparent⟩ := List.mem_filter.1 hk
  split at hrelease
  · cases hrelease
    exact .refl _
  · exact releaseBy_extends (hs k hall (by simpa using hparent)) hrelease

theorem delete_extends (he : e.deferred = false) (ht : t ∉ Table.permanent) (hs : t.Spares)
    {chosen : t.Row → Bool} (h : e.delete t chosen b = .ok b') : b'.Intact ∧ Extends b b' := by
  obtain ⟨b₁, hfold, hsettle⟩ := bind_ok.1 h
  obtain ⟨rfl, hintact⟩ := intact_of_settle he hsettle
  refine ⟨hintact, (foldlM_extends (fun _ _ _ _ hrow => ?_) hfold).trans (.withRows b₁ ht _)⟩
  obtain ⟨_, -, hrow⟩ := bind_ok.1 hrow
  exact release_extends hs hrow

end Enforcement

end Bookkeeping

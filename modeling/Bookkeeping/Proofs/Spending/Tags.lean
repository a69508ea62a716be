import Bookkeeping.Proofs.Register.Distinct
import Bookkeeping.Proofs.Spending.Checks

namespace Bookkeeping

open Ledger (Query Step Edit)
open Ledger.Step (Checks)

namespace Ledger

variable {L : Ledger}

structure Resolved (L : Ledger) (kind : TagKind) (ids : List Uuid) (tags : List Tag) : Prop where
  mem : ∀ t ∈ tags, t ∈ L.tags ∧ t.kind = kind
  nodup : (tags.map (·.id)).Nodup
  ids : ∀ id, id ∈ tags.map (·.id) ↔ id ∈ ids

def resolveTag (kind : TagKind) (tags : List Tag) (id : Uuid) : Query (List Tag) := do
  if tags.any (·.id == id) then return tags
  let tag ← findTag id
  Query.ofDomain (tag.ensureKind kind)
  return tags ++ [tag]

theorem checks_resolveTag (hn : L.tagIds.Nodup) {kind : TagKind} {done : List Uuid}
    {tags : List Tag} (h : Resolved L kind done tags) (id : Uuid) :
    Checks (Step.ask (resolveTag kind tags id)) (Spending.tagConditions L.books kind id) L
      fun tags' L' => L' = L ∧ Resolved L kind (done ++ [id]) tags' := by
  have hkind {t : Tag} (ht : t ∈ L.tags) : L.books.tags.any (fun r =>
      r.id == t.id.text && r.kind == kind.code) = decide (t.kind = kind) := by
    refine (any_row_of_mem Tag.row (fun _ => rfl) hn ht (·.kind == kind.code)).trans ?_
    exact (TagKind.code_beq t.kind kind).trans (beq_eq_decide _ _)
  rw [resolveTag]
  by_cases hin : id ∈ tags.map (·.id)
  · obtain ⟨t, ht, rfl⟩ := List.mem_map.1 hin
    obtain ⟨hmem, hk⟩ := h.mem t ht
    rw [if_pos (List.any_eq_true.2 ⟨t, ht, beq_self_eq_true t.id⟩)]
    refine .kept ?_ (.kept ((hkind hmem).trans (decide_eq_true hk)) (.done rfl ⟨rfl, ?_⟩))
    · exact List.any_eq_true.2 ⟨t.row, List.mem_map_of_mem hmem, beq_self_eq_true _⟩
    · refine ⟨h.mem, h.nodup, fun i => ?_⟩
      rw [h.ids i, List.mem_append, List.mem_singleton]
      exact ⟨.inl, fun hi => hi.elim id fun hi => hi ▸ (h.ids t.id).1 hin⟩
  · rw [if_neg (by simpa using hin), Step.ask_bind_eq]
    refine (Checks.find (f := Tag.row) (fun _ => rfl) hn id _).bind ?_
    rintro t _ ⟨rfl, ht, rfl⟩
    by_cases hk : t.kind = kind
    · refine .kept ((hkind ht).trans (decide_eq_true hk)) (.done (a := tags ++ [t]) ?_ ⟨rfl, ?_⟩)
      · rw [Tag.ensureKind, if_pos hk]
        rfl
      · refine ⟨?_, Keyed.nodup_map_append h.nodup hin, fun i => ?_⟩
        · exact List.forall_mem_append.2 ⟨h.mem, List.forall_mem_singleton.2 ⟨ht, hk⟩⟩
        · simp only [List.map_append, List.mem_append, h.ids i, List.map_cons, List.map_nil,
            List.mem_singleton]
    · refine .broken ((hkind ht).trans (decide_eq_false hk)) ?_
      rw [Tag.ensureKind, if_neg hk]
      rfl

theorem checks_resolveTags (hn : L.tagIds.Nodup) (kind : TagKind) (ids : List Uuid) :
    Checks (Step.ask (resolveTags kind ids)) (ids.flatMap (Spending.tagConditions L.books kind)) L
      fun tags L' => L' = L ∧ Resolved L kind ids tags := by
  suffices hgo : ∀ ids done tags, Resolved L kind done tags →
      Checks (Step.ask (ids.foldlM (resolveTag kind) tags))
        (ids.flatMap (Spending.tagConditions L.books kind)) L
        fun tags L' => L' = L ∧ Resolved L kind (done ++ ids) tags from
    hgo ids [] [] ⟨by simp, .nil, by simp⟩
  intro ids
  induction ids with
  | nil =>
    intro done tags h
    rw [List.append_nil]
    exact .done rfl ⟨rfl, h⟩
  | cons id ids ih =>
    intro done tags h
    rw [List.foldlM_cons, Step.ask_bind_eq, List.flatMap_cons, List.append_cons]
    refine (checks_resolveTag hn h id).bind ?_
    rintro tags' _ ⟨rfl, h'⟩
    exact ih (done ++ [id]) tags' h'

theorem Resolved.mem_links {kind : TagKind} {ids : List Uuid} {tags : List Tag}
    (h : Resolved L kind ids tags) {target : Uuid} {l : LinkRow} :
    l ∈ ((Tags.distinct (tags.map (·.id))).map (Link.mk target)).map Link.row ↔
      ∃ tag ∈ ids, l = ⟨target.text, tag.text⟩ := by
  have hmem (id : Uuid) : id ∈ Tags.distinct (tags.map (·.id)) ↔ id ∈ ids :=
    Tags.mem_distinct.trans (h.ids id)
  simp only [List.map_map, List.mem_map, hmem, Function.comp_apply, Link.row]
  exact exists_congr fun id => and_congr_right fun _ => eq_comm

theorem nodup_links (target : Uuid) (tags : List Tag) :
    (((Tags.distinct (tags.map (·.id))).map (Link.mk target)).map Link.row).Nodup := by
  rw [List.map_map]
  refine (Tags.nodup_distinct _).map fun i j hij => ?_
  exact Uuid.text_inj.1 (LinkRow.mk.inj hij).2

theorem resolveTags_ok (hn : L.tagIds.Nodup) {kind : TagKind} {ids : List Uuid} {tags : List Tag}
    (h : resolveTags kind ids L = .ok tags) : Resolved L kind ids tags :=
  ((checks_resolveTags hn kind ids).of_ok (Step.ask_ok.2 ⟨h, rfl⟩)).2

theorem mem_tagIds_of_resolve (hn : L.tagIds.Nodup) {kind : TagKind} {ids : List Uuid}
    {tags : List Tag} (h : resolveTags kind ids L = .ok tags) :
    ∀ id ∈ tags.map (·.id), id ∈ L.tagIds := by
  intro id hid
  obtain ⟨t, ht, rfl⟩ := List.mem_map.1 hid
  exact List.mem_map_of_mem ((resolveTags_ok hn h).mem t ht).1

theorem resolveTags_congr {L' : Ledger} (h : L'.tags = L.tags) (kind : TagKind) (ids : List Uuid) :
    resolveTags kind ids L' = resolveTags kind ids L := by
  have hfind (id : Uuid) : findTag id L' = findTag id L := by
    rw [findTag, Query.notFoundAs, Query.mapError, Query.find, h]
    rfl
  have hstep (tags : List Tag) (id : Uuid) :
      resolveTag kind tags id L' = resolveTag kind tags id L := by
    rw [resolveTag]
    split
    · rfl
    · show (findTag id L').bind _ = (findTag id L).bind _
      rw [hfind]
      rfl
  suffices hgo : ∀ tags, ids.foldlM (resolveTag kind) tags L' = ids.foldlM (resolveTag kind) tags L
    from hgo []
  induction ids with
  | nil => exact fun _ => rfl
  | cons id ids ih =>
    intro tags
    show (resolveTag kind tags id L').bind (fun tags => ids.foldlM (resolveTag kind) tags L') = _
    rw [hstep, funext ih]
    rfl

theorem linkTags_of {enter : Link → Edit} {a : List Link → Ledger → Ledger}
    (hnil : ∀ L, a [] L = L) (hcons : ∀ l ls L, a ls (a [l] L) = a (l :: ls) L)
    {P : Link → Ledger → Prop}
    (henter : ∀ {l : Link} {L : Ledger}, P l L → enter l L = .ok (a [l] L))
    (hkeep : ∀ {l l' : Link} {L : Ledger}, P l L → l ≠ l' → P l (a [l'] L)) {target : Uuid}
    {tags : List Uuid} (h : ∀ tag ∈ tags, P ⟨target, tag⟩ L) :
    linkTags enter target tags L = .ok ((), a ((Tags.distinct tags).map (⟨target, ·⟩)) L) := by
  rw [linkTags, Step.edit_ok]
  have hn := Tags.nodup_distinct tags
  replace h : ∀ tag ∈ Tags.distinct tags, P ⟨target, tag⟩ L :=
    fun tag ht => h tag (Tags.mem_distinct.1 ht)
  generalize Tags.distinct tags = tags at hn h
  induction tags generalizing L with
  | nil => exact congrArg Except.ok (hnil L).symm
  | cons tag tags ih =>
    obtain ⟨hne, hn⟩ := List.nodup_cons.1 hn
    obtain ⟨hl, h⟩ := List.forall_mem_cons.1 h
    rw [List.foldlM_cons, henter hl, List.map_cons]
    refine (ih hn fun i hi => hkeep (h i hi) fun heq => hne ?_).trans
      (congrArg Except.ok (hcons _ _ _))
    rwa [← (Link.mk.inj heq).2]

theorem linkExpenditure_of {target : Uuid} {tags : List Uuid} (htarget : target ∈ L.expenditureIds)
    (htags : ∀ tag ∈ tags, tag ∈ L.tagIds) (hnew : ∀ l ∈ L.expenditureTags, l.target ≠ target) :
    linkTags enterExpenditureTag target tags L = .ok ((), { L with
      expenditureTags := L.expenditureTags ++ (Tags.distinct tags).map (⟨target, ·⟩) }) := by
  refine linkTags_of (a := fun ls L => { L with expenditureTags := L.expenditureTags ++ ls })
    (P := fun l L => l.tag ∈ L.tagIds ∧ l.target ∈ L.expenditureIds ∧ l ∉ L.expenditureTags)
    (fun L => by simp) (fun l ls L => by simp) (fun ⟨ht, he, hl⟩ => ?_)
    (fun ⟨ht, he, hl⟩ hne => ⟨ht, he, by simp [hl, hne]⟩)
    fun tag ht => ⟨htags tag ht, htarget, fun hl => hnew _ hl rfl⟩
  rw [enterExpenditureTag, if_neg (not_not_intro ht), if_neg (not_not_intro he), if_neg hl]

theorem linkIngress_of {target : Uuid} {tags : List Uuid} (htarget : target ∈ L.ingressIds)
    (htags : ∀ tag ∈ tags, tag ∈ L.tagIds) (hnew : ∀ l ∈ L.ingressTags, l.target ≠ target) :
    linkTags enterIngressTag target tags L = .ok ((), { L with
      ingressTags := L.ingressTags ++ (Tags.distinct tags).map (⟨target, ·⟩) }) := by
  refine linkTags_of (a := fun ls L => { L with ingressTags := L.ingressTags ++ ls })
    (P := fun l L => l.tag ∈ L.tagIds ∧ l.target ∈ L.ingressIds ∧ l ∉ L.ingressTags)
    (fun L => by simp) (fun l ls L => by simp) (fun ⟨ht, hi, hl⟩ => ?_)
    (fun ⟨ht, hi, hl⟩ hne => ⟨ht, hi, by simp [hl, hne]⟩)
    fun tag ht => ⟨htags tag ht, htarget, fun hl => hnew _ hl rfl⟩
  rw [enterIngressTag, if_neg (not_not_intro ht), if_neg (not_not_intro hi), if_neg hl]

end Ledger

end Bookkeeping

import Bookkeeping.Proofs.Guards.Links
import Bookkeeping.Proofs.Ledger.Readback

namespace Bookkeeping

open Enforcement

namespace Tags

def carried : TagKind → Bool
  | .expenditure | .ingress => true
  | _ => false

def linksOf (kind : TagKind) (b : Books) : List LinkRow :=
  match kind with
  | .expenditure => b.expenditureTags
  | .ingress => b.ingressTags
  | _ => []

def withLinks (kind : TagKind) (links : List LinkRow) (b : Books) : Books :=
  match kind with
  | .expenditure => { b with expenditureTags := links }
  | .ingress => { b with ingressTags := links }
  | _ => b

def targetsOf (kind : TagKind) (b : Books) : List String :=
  match kind with
  | .expenditure => b.expenditures.map (·.id)
  | .ingress => b.ingresses.map (·.id)
  | _ => []

def asked (target : Uuid) (ids : List Uuid) : List LinkRow :=
  (distinct ids).map fun id => ⟨target.text, id.text⟩

def enterLinks (kind : TagKind) (links : List LinkRow) (e : Enforcement) (b : Books) :
    Except StorageFailure Books :=
  match kind with
  | .expenditure => e.insert .expenditureTags (links.map (Table.record .expenditureTags)) b
  | .ingress => e.insert .ingressTags (links.map (Table.record .ingressTags)) b
  | _ => .ok b

structure Linkable (kind : TagKind) (target : Uuid) (ids : List Uuid) (b : Books) : Prop where
  record : target.text ∈ targetsOf kind b
  tags : ∀ id ∈ ids, id.text ∈ b.tags.map (·.id)
  new : ∀ id ∈ ids, ⟨target.text, id.text⟩ ∉ linksOf kind b

variable {kind : TagKind} {target : Uuid} {ids : List Uuid} {b b' : Books}

theorem mem_asked {l : LinkRow} :
    l ∈ asked target ids ↔ ∃ id ∈ ids, ⟨target.text, id.text⟩ = l := by
  simp only [asked, List.mem_map, mem_distinct]

theorem nodup_asked (target : Uuid) (ids : List Uuid) : (asked target ids).Nodup :=
  (nodup_distinct ids).map fun _ _ h => Uuid.text_injective (LinkRow.mk.inj h).2

theorem forall_mem_asked {p : LinkRow → Prop} :
    (∀ l ∈ asked target ids, p l) ↔ ∀ id ∈ ids, p ⟨target.text, id.text⟩ := by
  simp only [asked, List.forall_mem_map, mem_distinct]

theorem withLinks_linksOf (kind : TagKind) (b : Books) : withLinks kind (linksOf kind b) b = b := by
  cases kind <;> rfl

theorem linksOf_withLinks (hk : carried kind = true) (links : List LinkRow) (b : Books) :
    linksOf kind (withLinks kind links b) = links := by
  cases kind <;> first | rfl | cases hk

theorem linksOf_withLinks_of_ne {kind' : TagKind} (hne : kind' ≠ kind) (links : List LinkRow)
    (b : Books) : linksOf kind' (withLinks kind links b) = linksOf kind' b := by
  cases kind <;> cases kind' <;> first | rfl | exact absurd rfl hne

theorem tags_withLinks (kind : TagKind) (links : List LinkRow) (b : Books) :
    (withLinks kind links b).tags = b.tags := by
  cases kind <;> rfl

theorem linkable_iff (hids : ids ≠ []) : Linkable kind target ids b ↔ ∀ id ∈ ids,
    (target.text ∈ targetsOf kind b ∧ id.text ∈ b.tags.map (·.id)) ∧
      ⟨target.text, id.text⟩ ∉ linksOf kind b := by
  constructor
  · exact fun h id hid => ⟨⟨h.record, h.tags id hid⟩, h.new id hid⟩
  · intro h
    obtain ⟨id, hid⟩ := List.exists_mem_of_ne_nil ids hids
    exact ⟨(h id hid).1.1, fun id hid => (h id hid).1.2, fun id hid => (h id hid).2⟩

theorem enterLinks_ok (hk : carried kind = true) {e : Enforcement} (he : e.guards = ForeignKey.all)
    (hb : e.deferred = true ∨ b.Intact) :
    enterLinks kind (asked target ids) e b = .ok b' ↔
      (∀ id ∈ ids, (target.text ∈ targetsOf kind b ∧ id.text ∈ b.tags.map (·.id)) ∧
        ⟨target.text, id.text⟩ ∉ linksOf kind b) ∧
      withLinks kind (linksOf kind b ++ asked target ids) b = b' := by
  have hnodup := nodup_asked target ids
  cases kind with
  | expenditure =>
    exact (LinkTable.expenditureTags.insert_ok he hb hnodup).trans
      (and_congr_left' forall_mem_asked)
  | ingress =>
    exact (LinkTable.ingressTags.insert_ok he hb hnodup).trans
      (and_congr_left' forall_mem_asked)
  | _ => cases hk

theorem enterLinks_intact (hk : carried kind = true) {links : List LinkRow} {e : Enforcement}
    (h : enterLinks kind links e b = .ok b') : e.deferred = true ∨ b'.Intact := by
  cases kind with
  | expenditure => exact insert_intact h
  | ingress => exact insert_intact h
  | _ => cases hk

theorem link_eq (hk : carried kind = true) (target : Uuid) (ids : List Uuid) :
    link kind target ids =
      if ids = [] then pure () else Work.write (enterLinks kind (asked target ids)) := by
  rw [link.eq_def]
  dsimp only
  by_cases hids : ids = []
  · rw [if_pos hids, hids, distinct_eq_nil_iff.2 rfl, if_pos List.isEmpty_nil]
  · have hsome : ¬(distinct ids).isEmpty = true := by
      rwa [List.isEmpty_iff, distinct_eq_nil_iff]
    have hasked (r : LinkRow → Record) : (asked target ids).map r =
        (distinct ids).map fun id => r ⟨target.text, id.text⟩ := List.map_map
    rw [if_neg hids, if_neg hsome]
    cases kind with
    | expenditure =>
      show Work.write _ = Work.write fun e b =>
        e.insert .expenditureTags ((asked target ids).map (Table.record .expenditureTags)) b
      rw [hasked]
    | ingress =>
      show Work.write _ = Work.write fun e b =>
        e.insert .ingressTags ((asked target ids).map (Table.record .ingressTags)) b
      rw [hasked]
    | _ => cases hk

end Tags

/-- A store that takes statements, with all guards in place, and that keeps its keys as far as links
go. The tags in it are `ts`. -/
structure Store.Carries (s : Store) (ts : List Tag) : Prop where
  isOpen : s.isOpen = true
  willing : s.refusals.statements = []
  guards : s.guards = ForeignKey.all
  intact : s.enforcement.deferred = true ∨ s.books.Intact
  tags : s.books.tags = ts.map Tag.row
  nodup : (ts.map (·.id)).Nodup

theorem Store.Holds.carries {s : Store} {L : Ledger} (h : s.Holds L) : s.Carries L.tags where
  isOpen := h.ready.isOpen
  willing := by rw [h.ready.refusals, Refusals.none]
  guards := congrArg Enforcement.guards h.ready.enforcement
  intact := .inr (h.books ▸ h.sound.intact)
  tags := by rw [h.books, Ledger.books]
  nodup := h.sound.nodup_tags

namespace Store.Carries

variable {s s' : Store} {ts : List Tag} (h : s.Carries ts)

include h

theorem connected_apply : Work.connected s = (.ok (), s) := by
  rw [Work.connected, Work.bind_ok (show (get : Work Store) s = (.ok s, s) from rfl)]
  simp [h.isOpen, h.willing, Work.pure_apply]

theorem read_apply (query : Books → α) : Work.read query s = (.ok (query s.books), s) := by
  rw [Work.read, Work.bind_ok h.connected_apply]
  rfl

theorem write_apply (statement : Enforcement → Books → Except StorageFailure Books) :
    Work.write statement s = match statement s.enforcement s.books with
      | .ok b => (.ok (), { s with books := b })
      | .error f => (.error (.error (Diagnosis.diagnose f)), s) := by
  rw [Work.write, Work.bind_ok h.connected_apply,
    Work.bind_ok (show (get : Work Store) s = (.ok s, s) from rfl)]
  cases statement s.enforcement s.books <;> rfl

end Store.Carries

namespace Tags

variable {s s' : Store} {ts : List Tag} {kind : TagKind} {target : Uuid} {ids : List Uuid}

def linkedIn (kind : TagKind) (target : Uuid) (ts : List Tag) (b : Books) : List Tag :=
  ordered (ts.filter fun t => (linksOf kind b).contains ⟨target.text, t.id.text⟩)

theorem linkedTo_apply (h : s.Carries ts) (kind : TagKind) (target : Uuid) :
    linkedTo kind target s = (.ok (linkedIn kind target ts s.books), s) := by
  have hlist (links : Books → List LinkRow) :
      Register.list (fun b => attached (links b) target b) Tag.ofRow s =
        (.ok (ordered (ts.filter fun t => (links s.books).contains ⟨target.text, t.id.text⟩)),
          s) := by
    have hattached : attached (links s.books) target s.books = (ordered (ts.filter fun t =>
        (links s.books).contains ⟨target.text, t.id.text⟩)).map Tag.row := by
      rw [attached, h.tags, filter_rows fun t => rfl]
      exact sorted_rows (fun _ => rfl) _
    rw [Register.list, Work.bind_ok (h.read_apply _), hattached, mapM_rows Tag.ofRow_row]
    rfl
  have hnone : ordered (ts.filter fun t => ([] : List LinkRow).contains ⟨target.text, t.id.text⟩) =
      [] := by
    simp [ordered]
  cases kind with
  | expenditure => exact hlist Books.expenditureTags
  | ingress => exact hlist Books.ingressTags
  | _ => exact congrArg (fun tags => (Except.ok tags, s)) hnone.symm

theorem link_ok (h : s.Carries ts) (hk : carried kind = true) :
    link kind target ids s = (.ok (), s') ↔ (ids = [] ∨ Linkable kind target ids s.books) ∧
      { s with books := withLinks kind (linksOf kind s.books ++ asked target ids) s.books } =
        s' := by
  rw [link_eq hk]
  by_cases hids : ids = []
  · have hsame : withLinks kind (linksOf kind s.books ++ asked target ids) s.books = s.books := by
      rw [hids, asked, distinct_eq_nil_iff.2 rfl, List.map_nil, List.append_nil, withLinks_linksOf]
    rw [if_pos hids, hsame, Work.pure_apply]
    exact ⟨fun hl => ⟨.inl hids, (Prod.mk.inj hl).2⟩, fun hl => congrArg _ hl.2⟩
  · have henter (b : Books) :
        enterLinks kind (asked target ids) s.enforcement s.books = .ok b ↔ _ :=
      enterLinks_ok hk h.guards h.intact
    rw [if_neg hids, h.write_apply, or_iff_right hids, linkable_iff hids]
    cases hr : enterLinks kind (asked target ids) s.enforcement s.books with
    | ok b =>
      obtain ⟨hlinkable, rfl⟩ := (henter b).1 hr
      exact ⟨fun hl => ⟨hlinkable, (Prod.mk.inj hl).2⟩, fun hl => congrArg _ hl.2⟩
    | error f =>
      refine ⟨nofun, fun hl => ?_⟩
      rw [(henter _).2 ⟨hl.1, rfl⟩] at hr
      cases hr

theorem link_error (h : s.Carries ts) (hk : carried kind = true) {e : Fault}
    (hl : link kind target ids s = (.error e, s')) : s' = s := by
  rw [link_eq hk] at hl
  split at hl
  · cases hl
  · rw [h.write_apply] at hl
    cases hr : enterLinks kind (asked target ids) s.enforcement s.books <;> rw [hr] at hl <;>
      cases hl
    rfl

theorem link_carries (h : s.Carries ts) (hk : carried kind = true)
    (hl : link kind target ids s = (.ok (), s')) : s'.Carries ts := by
  rw [link_eq hk] at hl
  split at hl
  · cases hl
    exact h
  · rw [h.write_apply] at hl
    cases hr : enterLinks kind (asked target ids) s.enforcement s.books with
    | error f =>
      rw [hr] at hl
      cases hl
    | ok b =>
      obtain ⟨-, rfl⟩ := (enterLinks_ok hk h.guards h.intact).1 hr
      rw [hr] at hl
      cases hl
      exact { h with
        intact := enterLinks_intact hk hr
        tags := (tags_withLinks kind _ s.books).trans h.tags }

theorem mem_linkedIn {t : Tag} {b : Books} : t ∈ linkedIn kind target ts b ↔
    t ∈ ts ∧ ⟨target.text, t.id.text⟩ ∈ linksOf kind b := by
  rw [linkedIn, ordered, (List.mergeSort_perm _ _).mem_iff, List.mem_filter, List.contains_iff_mem]

theorem nodup_linkedIn (h : s.Carries ts) (kind : TagKind) (target : Uuid) (b : Books) :
    (linkedIn kind target ts b).Nodup := by
  rw [linkedIn, ordered, (List.mergeSort_perm _ _).nodup_iff]
  exact (List.Nodup.of_map _ h.nodup).filter _

/-- Linking made of one store the other: what was asked for is in the set of the record, each tag
once and in the order of the keys, and all else is as it was. -/
structure Linked (kind : TagKind) (target : Uuid) (ids : List Uuid) (ts : List Tag) (s s' : Store) :
    Prop where
  rest : s' = { s with books := withLinks kind (linksOf kind s'.books) s.books }
  links : ∀ l, l ∈ linksOf kind s'.books ↔
    l ∈ linksOf kind s.books ∨ ∃ id ∈ ids, ⟨target.text, id.text⟩ = l
  once : (linksOf kind s.books).Nodup → (linksOf kind s'.books).Nodup
  elsewhere : (linksOf kind s'.books).filter (·.target != target.text) =
    (linksOf kind s.books).filter (·.target != target.text)
  tags : ∃ before after, linkedTo kind target s = (.ok before, s) ∧
    linkedTo kind target s' = (.ok after, s') ∧ after.Nodup ∧
    after.Pairwise (·.name.key ≤ ·.name.key) ∧
      ∀ t, t ∈ after ↔ t ∈ before ∨ t ∈ ts ∧ t.id ∈ ids
  others : ∀ kind' target', kind' ≠ kind ∨ target' ≠ target →
    (linkedTo kind' target' s').1 = (linkedTo kind' target' s).1
  carries : s'.Carries ts

theorem linked (h : s.Carries ts) (hk : carried kind = true)
    (hl : link kind target ids s = (.ok (), s')) : Linked kind target ids ts s s' := by
  have hcarries := link_carries h hk hl
  obtain ⟨hlinkable, hs⟩ := (link_ok h hk).1 hl
  have hlinks : linksOf kind s'.books = linksOf kind s.books ++ asked target ids := by
    rw [← hs]
    exact linksOf_withLinks hk _ _
  have hmem (l : LinkRow) : l ∈ linksOf kind s'.books ↔
      l ∈ linksOf kind s.books ∨ ∃ id ∈ ids, ⟨target.text, id.text⟩ = l := by
    rw [hlinks, List.mem_append, mem_asked]
  refine ⟨?_, hmem, fun hnodup => ?_, ?_, ⟨_, _, linkedTo_apply h kind target,
    linkedTo_apply hcarries kind target, nodup_linkedIn h kind target _,
    Ledger.pairwise_ordered _, fun t => ?_⟩, fun kind' target' hother => ?_, hcarries⟩
  · rw [hlinks, hs]
  · rw [hlinks, List.nodup_append']
    refine ⟨hnodup, nodup_asked target ids, fun l hold hnew => ?_⟩
    obtain ⟨id, hid, rfl⟩ := mem_asked.1 hnew
    rcases hlinkable with rfl | hlinkable
    · exact List.not_mem_nil hid
    · exact hlinkable.new id hid hold
  · have hnone : (asked target ids).filter (·.target != target.text) = [] :=
      List.filter_eq_nil_iff.2 (forall_mem_asked.2 fun id _ => by simp)
    rw [hlinks, List.filter_append, hnone, List.append_nil]
  · have hid : (∃ id ∈ ids, (⟨target.text, id.text⟩ : LinkRow) = ⟨target.text, t.id.text⟩) ↔
        t.id ∈ ids := by
      simp [Uuid.text_inj]
    rw [mem_linkedIn, mem_linkedIn, hmem, hid, and_or_left]
  · have hsame (t : Tag) : (⟨target'.text, t.id.text⟩ : LinkRow) ∈ linksOf kind' s'.books ↔
        ⟨target'.text, t.id.text⟩ ∈ linksOf kind' s.books := by
      by_cases hkind : kind' = kind
      · subst hkind
        have htarget : target' ≠ target := hother.resolve_left fun hne => hne rfl
        rw [hmem, or_iff_left]
        rintro ⟨id, -, hlink⟩
        exact htarget (Uuid.text_injective (LinkRow.mk.inj hlink).1.symm)
      · rw [← hs]
        exact Iff.of_eq (congrArg (_ ∈ ·) (linksOf_withLinks_of_ne hkind _ _))
    rw [linkedTo_apply hcarries, linkedTo_apply h, linkedIn, linkedIn]
    simp only [Bool.eq_iff_iff.2 ((List.contains_iff_mem.trans (hsame _)).trans
      List.contains_iff_mem.symm)]

theorem link_of_not_carried (hk : carried kind = false) (hids : ids ≠ []) (target : Uuid)
    (s : Store) : link kind target ids s = (.error (.domain .tagTypeMismatch), s) := by
  have hsome : ¬(distinct ids).isEmpty = true := by
    rwa [List.isEmpty_iff, distinct_eq_nil_iff]
  rw [link.eq_def]
  dsimp only
  rw [if_neg hsome]
  cases kind with
  | expenditure => cases hk
  | ingress => cases hk
  | _ => rfl

theorem linkedTo_of_not_carried (hk : carried kind = false) (target : Uuid) (s : Store) :
    linkedTo kind target s = (.ok [], s) := by
  cases kind with
  | expenditure => cases hk
  | ingress => cases hk
  | _ => rfl

theorem link_congr {ids' : List Uuid} (h : ∀ id, id ∈ ids ↔ id ∈ ids') (kind : TagKind)
    (target : Uuid) : link kind target ids = link kind target ids' := by
  rw [link.eq_def, link.eq_def, distinct_congr h]

/-- Linking tags to an expenditure or an ingress puts them in a set. It succeeds if there is nothing
to add, or if the record and all the tags are there and none of them is linked already; otherwise
it adds nothing. Order and repetitions do not matter. Records of other kinds carry no tags. -/
theorem linking_is_set_insertion :
    (∀ (s : Store) (ts : List Tag), s.Carries ts → ∀ kind, carried kind = true → ∀ target ids,
      ((link kind target ids s).1 = .ok () ↔ ids = [] ∨ Linkable kind target ids s.books) ∧
      (∀ s', link kind target ids s = (.ok (), s') → Linked kind target ids ts s s') ∧
      ∀ e s', link kind target ids s = (.error e, s') → s' = s) ∧
    (∀ kind target ids ids', (∀ id, id ∈ ids ↔ id ∈ ids') →
      link kind target ids = link kind target ids') ∧
    (∀ kind, carried kind = false → ∀ target s,
      (∀ ids, ids ≠ [] → link kind target ids s = (.error (.domain .tagTypeMismatch), s)) ∧
      linkedTo kind target s = (.ok [], s)) ∧
    ∀ steps, ∃ ts, (Store.fresh.after steps).Carries ts := by
  refine ⟨fun s ts h kind hk target ids => ⟨?_, fun s' => linked h hk, fun e s' => link_error h hk⟩,
    fun kind target ids ids' h => link_congr h kind target, fun kind hk target s =>
    ⟨fun ids hids => link_of_not_carried hk hids target s, linkedTo_of_not_carried hk target s⟩,
    fun steps => ⟨_, (Store.holds_fresh.after steps).carries⟩⟩
  constructor
  · intro hok
    exact ((link_ok h hk).1 (Prod.ext hok rfl)).1
  · intro hlinkable
    rw [(link_ok h hk).2 ⟨hlinkable, rfl⟩]

theorem bread_and_milk_link_once :
    let noon : Instant := .ofSeconds 0
    let none : Look := ⟨none, none, none⟩
    let wallet : Account := ⟨.ofNat 1, "Wallet", .cash, .euro, ⟨0, by decide⟩, ⟨0, by decide⟩, true,
      .none, 0, noon, noon⟩
    let food : Category := ⟨.ofNat 2, "Food", none, .expenditure, true, noon, noon⟩
    let bread : Tag := ⟨.ofNat 3, ⟨"Bread", "bread"⟩, none, .expenditure, noon, noon⟩
    let milk : Tag := ⟨.ofNat 4, ⟨"Milk", "milk"⟩, none, .expenditure, noon, noon⟩
    let paid : Transaction := ⟨.ofNat 5, wallet.id, ⟨-3, by decide⟩, .euro, noon, .none,
      .expenditure, ⟨-3, by decide⟩, .completed, noon, noon⟩
    let lunch : Expenditure := ⟨.ofNat 6, food.id, paid.id, true, false, noon, noon⟩
    let books : Books := { Books.fresh with
      accounts := [wallet.row], categories := [food.row], tags := [bread.row, milk.row],
      transactions := [paid.row], expenditures := [lunch.row] }
    let s : Store := { Store.fresh with books }
    s.Carries [bread, milk] ∧ ∃ s' after,
      link .expenditure lunch.id [milk.id, bread.id, milk.id] s = (.ok (), s') ∧
      linkedTo .expenditure lunch.id s' = (.ok after, s') ∧ after.Nodup ∧
      (∀ t, t ∈ after ↔ t = bread ∨ t = milk) ∧
      (link .expenditure lunch.id [bread.id] s').1 ≠ .ok () := by
  intro noon none wallet food bread milk paid lunch books s
  have hcarries : s.Carries [bread, milk] :=
    ⟨rfl, rfl, rfl, .inr (by decide +kernel), rfl, by decide⟩
  obtain ⟨hsets, -⟩ := linking_is_set_insertion
  obtain ⟨hok, hlinked, -⟩ := hsets s _ hcarries .expenditure rfl lunch.id
    [milk.id, bread.id, milk.id]
  have hlinkable : Linkable .expenditure lunch.id [milk.id, bread.id, milk.id] s.books :=
    ⟨by decide +kernel, by decide +kernel, fun _ _ => List.not_mem_nil⟩
  obtain ⟨s', hl⟩ : ∃ s', link .expenditure lunch.id [milk.id, bread.id, milk.id] s =
      (.ok (), s') := ⟨_, Prod.ext (hok.2 (.inr hlinkable)) rfl⟩
  have h := hlinked s' hl
  obtain ⟨before, after, hbefore, hafter, hnodup, -, hmem⟩ := h.tags
  have hnone (t : Tag) : t ∉ before := by
    rw [linkedTo_apply hcarries] at hbefore
    cases hbefore
    exact fun ht => List.not_mem_nil (mem_linkedIn.1 ht).2
  refine ⟨hcarries, s', after, hl, hafter, hnodup, fun t => ?_, fun hagain => ?_⟩
  · rw [hmem]
    constructor
    · rintro (ht | ⟨ht, -⟩)
      · exact absurd ht (hnone t)
      · simpa using ht
    · rintro (rfl | rfl)
      · exact .inr ⟨List.mem_cons_self, by decide⟩
      · exact .inr ⟨List.mem_cons_of_mem _ List.mem_cons_self, by decide⟩
  · -- the first time the link was entered that is asked for again
    obtain ⟨hagain_ok, -⟩ := hsets s' _ h.carries .expenditure rfl lunch.id [bread.id]
    rcases hagain_ok.1 hagain with hids | hagain
    · cases hids
    · exact hagain.new bread.id List.mem_cons_self
        ((h.links _).2 (.inr ⟨bread.id, List.mem_cons_of_mem _ List.mem_cons_self, rfl⟩))

end Tags

end Bookkeeping

import Bookkeeping.Proofs.Ledger.Deed
import Bookkeeping.Proofs.Ledger.Effect
import Bookkeeping.Proofs.Ledger.Run
import Bookkeeping.Proofs.Row.Entities
import Bookkeeping.Proofs.Text.Words

namespace Bookkeeping

open Ledger (Query Step)

namespace TagName

structure IsProper (n : TagName) : Prop where
  display : Text.tidy? n.display = some n.display
  key : n.key = Text.comparisonKey n.display

theorem parse_ok {raw : String} {n : TagName} : parse raw = .ok n ↔
    ∃ display, Text.tidy? raw = some display ∧ ⟨display, Text.comparisonKey display⟩ = n := by
  rw [parse]
  cases Text.tidy? raw <;> simp

theorem isProper_of_parse {raw : String} {n : TagName} (h : parse raw = .ok n) : n.IsProper := by
  obtain ⟨display, hdisplay, hn⟩ := parse_ok.1 h
  have hidem := Text.tidy?_idem hdisplay
  constructor
  · rwa [← hn]
  · rw [← hn]

end TagName

theorem Tag.new_ok {cmd : NewTag} {id : Uuid} {now : Instant} {t : Tag}
    (h : new cmd id now = .ok t) :
    t.id = id ∧ TagName.parse cmd.name = .ok t.name ∧ TagKind.parse cmd.kind = .ok t.kind := by
  rw [Tag.new] at h
  cases hname : TagName.parse cmd.name with
  | error e =>
    rw [hname] at h
    cases h
  | ok name =>
    cases hkind : TagKind.parse cmd.kind with
    | error e =>
      rw [hname, hkind] at h
      cases h
    | ok kind =>
      rw [hname, hkind] at h
      cases h
      exact ⟨rfl, rfl, rfl⟩

namespace Ledger

variable {L L' : Ledger} {c : Command} {o : Occasion} {r : Reply}

theorem Effect.tag_cases (h : Effect L o c r L') {t : Tag} (ht : t ∈ L'.tags) :
    t ∈ L.tags ∨ (t.id ∉ L.tagIds ∧ t.name.IsProper) ∨
      ∃ old ∈ L.tags, old.id = t.id ∧ old.kind = t.kind ∧
        (old.name.IsProper → t.name.IsProper) := by
  cases h with
  | tagCreated hnew hid _ =>
    rcases List.mem_append.1 ht with ht | ht
    · exact .inl ht
    · cases List.mem_singleton.1 ht
      exact .inr (.inl ⟨hid, TagName.isProper_of_parse (Tag.new_ok hnew).2.1⟩)
  | @tagChanged changes old new hold hnew =>
    rcases Keyed.mem_replace ht with rfl | ⟨ht, -⟩
    · obtain ⟨hid, hkind, hname⟩ := Tag.apply_ok hnew
      refine .inr (.inr ⟨old, hold, hid.symm, hkind.symm, fun hold => ?_⟩)
      rcases hname with hname | ⟨text, hparse⟩
      · exact hname ▸ hold
      · exact TagName.isProper_of_parse hparse
    · exact .inl ht
  | tagDeleted => exact .inl (List.mem_of_mem_filter ht)
  | paid => exact .inl (book_tags _ _ ▸ ht)
  | _ => exact .inl ht

theorem Effect.proper (h : Effect L o c r L') (hL : ∀ t ∈ L.tags, t.name.IsProper) :
    ∀ t ∈ L'.tags, t.name.IsProper := by
  intro t ht
  rcases h.tag_cases ht with ht | ⟨-, hproper⟩ | ⟨old, hold, -, -, hproper⟩
  · exact hL t ht
  · exact hproper
  · exact hproper (hL old hold)

theorem Effect.kind (hn : L.tagIds.Nodup) (h : Effect L o c r L') {old new : Tag}
    (hold : old ∈ L.tags) (hnew : new ∈ L'.tags) (hid : new.id = old.id) : new.kind = old.kind := by
  rcases h.tag_cases hnew with hmem | ⟨hfresh, -⟩ | ⟨old', hold', hid', hkind, -⟩
  · rw [List.inj_on_of_nodup_map hn hmem hold hid]
  · exact absurd (hid ▸ List.mem_map_of_mem hold) hfresh
  · rw [← hkind, List.inj_on_of_nodup_map hn hold' hold (hid'.trans hid)]

theorem duplicateAsExisting_edit (x : Edit) (L : Ledger) :
    duplicateAsExisting (Step.edit x) L = match x L with
      | .ok L => .ok ((), L)
      | .error e => .error (.domain (if e = .duplicateKey then .tagAlreadyExists else e)) := by
  rw [duplicateAsExisting, Step.mapError, Step.edit]
  cases x L <;> rfl

theorem perform_createTag {cmd : NewTag} {t : Tag} (h : Tag.new cmd o.id o.now = .ok t) :
    perform (.createTag cmd) o L =
      if t.id ∈ L.tagIds ∨ (t.name.key, t.kind) ∈ L.tagKeys then
        .error (.domain .tagAlreadyExists)
      else .ok (.tag t, { L with tags := L.tags ++ [t] }) := by
  show (Reply.tag <$> createTag cmd o) L = _
  simp only [map_eq_pure_bind, Step.bind_apply, createTag, Step.ask, Query.ofDomain, h, Except.map,
    duplicateAsExisting_edit, enterTag]
  split_ifs <;> rfl

theorem perform_updateTag (hn : L.tagIds.Nodup) {changes : Changes} {old new : Tag}
    (hold : old ∈ L.tags) (h : old.apply changes o.now = .ok new) :
    perform (.updateTag old.id changes) o L =
      if ∃ t ∈ L.tags, t.id ≠ new.id ∧ t.name.key = new.name.key ∧ t.kind = new.kind then
        .error (.domain .tagAlreadyExists)
      else .ok (.tag new, { L with tags := Keyed.replace (·.id) new L.tags }) := by
  have hfind : findTag old.id L = .ok old := Query.notFoundAs_ok.2 (Query.find_of_mem hn hold)
  have hid : ¬new.id ∉ L.tagIds := by
    rw [(Tag.apply_ok h).1]
    exact not_not_intro (List.mem_map_of_mem hold)
  show (Reply.tag <$> updateTag old.id changes o) L = _
  simp only [map_eq_pure_bind, Step.bind_apply, updateTag, Step.ask, hfind, Query.ofDomain, h,
    Except.map, duplicateAsExisting_edit, replaceTag, if_neg hid]
  split_ifs <;> rfl

end Ledger

namespace Store

/-- A command that gives a tag a name: it fails if another tag of the kind already has the key of
the name and leaves the store as it was, or else it succeeds and stores the tag. -/
structure NamesTag (s : Store) (c : Command) (o : Occasion) (id : Uuid) (kind : TagKind)
    (name : String) (store : TagRow → List TagRow) : Prop where
  taken : (∃ t ∈ s.books.tags, t.id ≠ id.text ∧ t.kind = kind.code ∧
      t.key = Text.comparisonKey name) →
    c.run o s = (.error (.domain .tagAlreadyExists), s)
  free : (¬∃ t ∈ s.books.tags, t.id ≠ id.text ∧ t.kind = kind.code ∧
      t.key = Text.comparisonKey name) →
    ∃ t : Tag, t.id = id ∧ t.kind = kind ∧ t.name = ⟨name, Text.comparisonKey name⟩ ∧
      c.run o s = (.ok (.tag t), { s with books := { s.books with tags := store t.row } })

namespace Holds

variable {s : Store} {L : Ledger}

theorem taken_iff (h : s.Holds L) {id : Uuid} {kind : TagKind} {key : String} :
    (∃ t ∈ s.books.tags, t.id ≠ id.text ∧ t.kind = kind.code ∧ t.key = key) ↔
      ∃ t ∈ L.tags, t.id ≠ id ∧ t.name.key = key ∧ t.kind = kind := by
  rw [h.books]
  constructor
  · rintro ⟨_, ht, hid, hkind, hkey⟩
    obtain ⟨t, hmem, rfl⟩ := List.mem_map.1 ht
    exact ⟨t, hmem, fun h => hid (congrArg Uuid.text h), hkey, TagKind.code_inj.1 hkind⟩
  · rintro ⟨t, ht, hid, hkey, hkind⟩
    exact ⟨t.row, List.mem_map_of_mem ht, fun h => hid (Uuid.text_inj.1 h),
      congrArg TagKind.code hkind, hkey⟩

theorem namesTag_create (h : s.Holds L) {cmd : NewTag} {o : Occasion} {name : String}
    {kind : TagKind} (hname : Text.tidy? cmd.name = some name)
    (hkind : TagKind.parse cmd.kind = .ok kind) (hid : o.id.text ∉ s.books.tags.map (·.id)) :
    s.NamesTag (.createTag cmd) o o.id kind name (s.books.tags ++ [·]) := by
  let t : Tag := ⟨o.id, ⟨name, Text.comparisonKey name⟩, cmd.look.tidy, kind, o.now, o.now⟩
  have hnew : Tag.new cmd o.id o.now = .ok t := by
    simp only [Tag.new, TagName.parse, hname, hkind]
    rfl
  have hid : o.id ∉ L.tagIds := by
    rw [h.books] at hid
    simpa [Ledger.books, Ledger.tagIds, Tag.row] using hid
  have hperform := Ledger.perform_createTag (L := L) hnew
  have htaken : (t.id ∈ L.tagIds ∨ (t.name.key, t.kind) ∈ L.tagKeys) ↔ ∃ u ∈ s.books.tags,
      u.id ≠ o.id.text ∧ u.kind = kind.code ∧ u.key = Text.comparisonKey name := by
    rw [h.taken_iff, or_iff_right hid, Ledger.tagKeys, List.mem_map]
    refine exists_congr fun u => and_congr_right fun hu => ?_
    have hne : u.id ≠ o.id := fun heq => hid (heq ▸ List.mem_map_of_mem hu)
    simp only [Prod.mk.injEq, hne, ne_eq, not_false_eq_true, true_and, t]
  constructor
  · intro hclash
    rw [if_pos (htaken.2 hclash)] at hperform
    exact h.run_of_error hperform
  · intro hfree
    rw [if_neg (htaken.not.2 hfree)] at hperform
    refine ⟨t, rfl, rfl, rfl, ?_⟩
    rw [(h.run_of_ok hperform).2, h.books, Ledger.books, List.map_append]
    rfl

theorem namesTag_update (h : s.Holds L) {id : Uuid} {changes : Changes} {o : Occasion}
    {text name : String} {kind : TagKind} (htext : changes.name = some text)
    (hname : Text.tidy? text = some name)
    (hold : ∃ t ∈ s.books.tags, t.id = id.text ∧ t.kind = kind.code) :
    s.NamesTag (.updateTag id changes) o id kind name
      fun t => Keyed.replace (·.id) t s.books.tags := by
  obtain ⟨r, hr, hid, hkind⟩ := hold
  rw [h.books] at hr
  obtain ⟨old, hold, rfl⟩ := List.mem_map.1 hr
  obtain rfl := Uuid.text_inj.1 hid
  obtain rfl := TagKind.code_inj.1 hkind
  let t : Tag := { old with
    name := ⟨name, Text.comparisonKey name⟩
    look := old.look.edit changes.look
    updatedAt := o.now }
  have happly : old.apply changes o.now = .ok t := by
    simp only [Tag.apply, htext, TagName.parse, hname]
    rfl
  have hperform := Ledger.perform_updateTag h.sound.nodup_tags hold happly
  have htaken : (∃ u ∈ L.tags, u.id ≠ t.id ∧ u.name.key = t.name.key ∧ u.kind = t.kind) ↔
      ∃ u ∈ s.books.tags, u.id ≠ old.id.text ∧ u.kind = old.kind.code ∧
        u.key = Text.comparisonKey name := by
    rw [h.taken_iff]
  constructor
  · intro hclash
    rw [if_pos (htaken.2 hclash)] at hperform
    exact h.run_of_error hperform
  · intro hfree
    rw [if_neg (htaken.not.2 hfree)] at hperform
    refine ⟨t, rfl, rfl, rfl, ?_⟩
    have hrows : (Keyed.replace (·.id) t L.tags).map Tag.row =
        Keyed.replace (·.id) t.row (L.tags.map Tag.row) :=
      Keyed.map_replace (fun x y => (Uuid.text_inj : x.row.id = y.row.id ↔ x.id = y.id)) t _
    rw [(h.run_of_ok hperform).2, h.books, Ledger.books, hrows]
    rfl

theorem tag_unique (h : s.Holds L) {t t' : TagRow} (ht : t ∈ s.books.tags)
    (ht' : t' ∈ s.books.tags) (hid : t.id = t'.id) : t = t' := by
  rw [h.books] at ht ht'
  obtain ⟨u, hu, rfl⟩ := List.mem_map.1 ht
  obtain ⟨u', hu', rfl⟩ := List.mem_map.1 ht'
  rw [List.inj_on_of_nodup_map h.sound.nodup_tags hu hu' (Uuid.text_inj.1 hid)]

theorem proper_after (h : s.Holds L) (hL : ∀ t ∈ L.tags, t.name.IsProper)
    (steps : List (Command × Occasion)) : ∀ t ∈ (L.after steps).tags, t.name.IsProper := by
  induction steps generalizing s L with
  | nil => exact hL
  | cons step steps ih =>
    obtain ⟨c, o⟩ := step
    refine ih (h.run c o) ?_
    rw [Ledger.run]
    cases hp : Ledger.perform c o L with
    | ok r => exact (Ledger.perform_effect h.sound hp).proper hL
    | error e => exact hL

theorem tagKind_run (h : s.Holds L) (c : Command) (o : Occasion) {old new : TagRow}
    (hold : old ∈ s.books.tags) (hnew : new ∈ (c.run o s).2.books.tags) (hid : new.id = old.id) :
    new.kind = old.kind := by
  cases hp : Ledger.perform c o L with
  | ok r =>
    rw [(h.run_of_ok hp).2] at hnew
    rw [h.books] at hold
    obtain ⟨t, ht, rfl⟩ := List.mem_map.1 hold
    obtain ⟨t', ht', rfl⟩ := List.mem_map.1 hnew
    have heffect := Ledger.perform_effect h.sound hp
    exact congrArg TagKind.code (heffect.kind h.sound.nodup_tags ht ht' (Uuid.text_inj.1 hid))
  | error e =>
    rw [h.run_of_error hp] at hnew
    rw [h.tag_unique hnew hold hid]

theorem tagKind_after (h : s.Holds L) (steps : List (Command × Occasion)) {old new : TagRow}
    (hold : old ∈ s.books.tags) (hstays : ∀ mid, mid <+: steps →
      old.id ∈ (s.after mid).books.tags.map (·.id))
    (hnew : new ∈ (s.after steps).books.tags) (hid : new.id = old.id) : new.kind = old.kind := by
  induction steps generalizing s L old with
  | nil => rw [h.tag_unique hnew hold hid]
  | cons step steps ih =>
    obtain ⟨c, o⟩ := step
    obtain ⟨next, hnext, hnext_id⟩ := List.mem_map.1 (hstays [(c, o)] (List.prefix_append _ _))
    have hkind := ih (h.run c o) hnext (fun mid hmid => ?_) hnew (hid.trans hnext_id.symm)
    · exact hkind.trans (h.tagKind_run c o hold hnext hnext_id)
    · rw [hnext_id]
      exact hstays ((c, o) :: mid) (List.cons_prefix_cons.2 ⟨rfl, hmid⟩)

end Holds

theorem createTag_refused {cmd : NewTag} {o : Occasion} {e : DomainError}
    (h : Tag.new cmd o.id o.now = .error e) (s : Store) :
    (Command.createTag cmd).run o s = (.error (.domain e), s) := by
  show (Reply.tag <$> UseCase.createTag cmd o) s = _
  rw [UseCase.createTag, h]
  rfl

/-- Every tag has a display form for its name and the key of that form, keeps its kind, and shares
its key with no other tag of the kind. A tag that is made or renamed is refused for that alone, if
its name and its kind are good; of these the name is checked first. -/
theorem tag_names_unique (steps : List (Command × Occasion)) :
    let s := fresh.after steps
    (∀ t ∈ s.books.tags,
      Text.tidy? t.name = some t.name ∧ t.key = Text.comparisonKey t.name) ∧
    (s.books.tags.map fun t => (t.key, t.kind)).Nodup ∧
    (∀ later, ∀ old ∈ s.books.tags,
      (∀ mid, mid <+: later → old.id ∈ (s.after mid).books.tags.map (·.id)) →
        ∀ new ∈ (s.after later).books.tags, new.id = old.id → new.kind = old.kind) ∧
    (∀ (cmd : NewTag) (o : Occasion) (name : String) (kind : TagKind),
      Text.tidy? cmd.name = some name → TagKind.parse cmd.kind = .ok kind →
        o.id.text ∉ s.books.tags.map (·.id) →
          s.NamesTag (.createTag cmd) o o.id kind name (s.books.tags ++ [·])) ∧
    (∀ (id : Uuid) (changes : Changes) (o : Occasion) (text name : String) (kind : TagKind),
      changes.name = some text → Text.tidy? text = some name →
        (∃ t ∈ s.books.tags, t.id = id.text ∧ t.kind = kind.code) →
          s.NamesTag (.updateTag id changes) o id kind name
            fun t => Keyed.replace (·.id) t s.books.tags) ∧
    ∀ (s : Store) (cmd : NewTag) (o : Occasion),
      (Text.tidy? cmd.name = none →
        (Command.createTag cmd).run o s = (.error (.domain .tagNameEmpty), s)) ∧
      ∀ name e, Text.tidy? cmd.name = some name → TagKind.parse cmd.kind = .error e →
        (Command.createTag cmd).run o s = (.error (.domain .unknownTagType), s) := by
  intro s
  have h : s.Holds (Ledger.fresh.after steps) := holds_fresh.after steps
  refine ⟨?_, ?_, ?_, ?_, ?_, ?_⟩
  · have hproper := holds_fresh.proper_after (fun _ h => nomatch h) steps
    rw [h.books]
    exact List.forall_mem_map.2 fun t ht => ⟨(hproper t ht).display, (hproper t ht).key⟩
  · have hcodes : s.books.tags.map (fun t => (t.key, t.kind)) =
        (Ledger.fresh.after steps).tagKeys.map fun k => (k.1, k.2.code) := by
      rw [h.books]
      simp [Ledger.books, Ledger.tagKeys, Tag.row, Function.comp_def]
    rw [hcodes]
    refine h.sound.nodup_tagKeys.map fun k l hkl => ?_
    obtain ⟨hkey, hcode⟩ := Prod.ext_iff.1 hkl
    exact Prod.ext hkey (TagKind.code_inj.1 hcode)
  · exact fun later old hold hstays new hnew hid => h.tagKind_after later hold hstays hnew hid
  · exact fun cmd o name kind hname hkind hid => h.namesTag_create hname hkind hid
  · exact fun id changes o text name kind htext hname hold => h.namesTag_update htext hname hold
  · intro s cmd o
    refine ⟨fun hname => createTag_refused ?_ s, fun name e hname hkind => createTag_refused ?_ s⟩
    · simp only [Tag.new, TagName.parse, hname]
      rfl
    · cases (TagKind.knows.error hkind).1
      simp only [Tag.new, TagName.parse, hname, hkind]
      rfl

/-- `Café` and `CAFE` are one name among the tags of a kind, though not across kinds. A tag may be
renamed to a variant of its own name. -/
theorem cafe_is_taken :
    let o (id : Nat) : Occasion := ⟨.ofNat id, .ofNat (id + 1), .ofSeconds 0, .ofSeconds 0⟩
    let new (name kind : String) : NewTag := ⟨name, kind, ⟨none, none, none⟩⟩
    let rename : Changes := ⟨some "CAFE", ⟨none, none, none⟩⟩
    let s := fresh.after [
      (.createTag (new " Café " "expenditure"), o 1), (.createTag (new "Lunch" "expenditure"), o 3)]
    ((Command.createTag (new "CAFE" "expenditure")).run (o 5) s =
        (.error (.domain .tagAlreadyExists), s)) ∧
      ((Command.updateTag (.ofNat 3) rename).run (o 5) s =
        (.error (.domain .tagAlreadyExists), s)) ∧
      (∃ t, ((Command.createTag (new "CAFE" "ingress")).run (o 5) s).1 = .ok (.tag t)) ∧
      ∃ t, ((Command.updateTag (.ofNat 1) rename).run (o 5) s).1 = .ok (.tag t) := by
  intro o new rename s
  obtain ⟨-, -, -, hcreate, hupdate, -⟩ := tag_names_unique [
    (.createTag (new " Café " "expenditure"), o 1), (.createTag (new "Lunch" "expenditure"), o 3)]
  have hname : Text.tidy? "CAFE" = some "CAFE" := by decide +kernel
  have hnew : (o 5).id.text ∉ s.books.tags.map (·.id) := by decide +kernel
  have hcafe : ∃ t ∈ s.books.tags, t.id = (Uuid.ofNat 1).text ∧
      t.kind = TagKind.expenditure.code ∧ t.key = Text.comparisonKey "CAFE" := by decide +kernel
  have hlunch : ∃ t ∈ s.books.tags, t.id = (Uuid.ofNat 3).text ∧
      t.kind = TagKind.expenditure.code := by decide +kernel
  have hother : ∀ t ∈ s.books.tags, t.key = Text.comparisonKey "CAFE" →
      t.id = (Uuid.ofNat 1).text ∧ t.kind = TagKind.expenditure.code := by decide +kernel
  obtain ⟨cafe, hmem, hid, hkind, hkey⟩ := hcafe
  have hexpenditure := hcreate (new "CAFE" "expenditure") (o 5) "CAFE" .expenditure hname
    (TagKind.parse_code .expenditure) hnew
  have hingress := hcreate (new "CAFE" "ingress") (o 5) "CAFE" .ingress hname
    (TagKind.parse_code .ingress) hnew
  have hrename₁ := hupdate (.ofNat 1) rename (o 5) "CAFE" "CAFE" .expenditure rfl hname
    ⟨cafe, hmem, hid, hkind⟩
  have hrename₃ := hupdate (.ofNat 3) rename (o 5) "CAFE" "CAFE" .expenditure rfl hname hlunch
  refine ⟨hexpenditure.taken ⟨cafe, hmem, ?_, hkind, hkey⟩,
    hrename₃.taken ⟨cafe, hmem, ?_, hkind, hkey⟩, ?_, ?_⟩
  · rw [hid]
    decide +kernel
  · rw [hid]
    decide +kernel
  · obtain ⟨t, -, -, -, hrun⟩ := hingress.free fun ⟨t, ht, _, hkind, hkey⟩ =>
      absurd ((hother t ht hkey).2.symm.trans hkind) (by decide)
    exact ⟨t, congrArg Prod.fst hrun⟩
  · obtain ⟨t, -, -, -, hrun⟩ := hrename₁.free fun ⟨t, ht, hid, _, hkey⟩ =>
      hid (hother t ht hkey).1
    exact ⟨t, congrArg Prod.fst hrun⟩

end Store

end Bookkeeping

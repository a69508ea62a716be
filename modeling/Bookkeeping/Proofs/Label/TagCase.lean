import Bookkeeping.Proofs.Label.TagNames
import Bookkeeping.Proofs.Text.Case

namespace Bookkeeping

open Text (comparisonKey lowercase Strays)

namespace TagName

variable {raw : String} {n : TagName}

theorem key_of_parse (h : parse raw = .ok n) :
    n.key = (Text.key? raw).getD (lowercase n.display) := by
  obtain ⟨display, hdisplay, rfl⟩ := parse_ok.1 h
  rw [← Text.key?_of_tidy? hdisplay, ← comparisonKey]

theorem parse_lowercase (h : parse raw = .ok n) : ∃ n', parse (lowercase raw) = .ok n' ∧
    (n'.key = n.key ↔ ¬Strays raw.toList) := by
  obtain ⟨display, hdisplay, -⟩ := parse_ok.1 h
  cases hsmall : Text.tidy? (lowercase raw) with
  | none =>
    rw [Text.tidy?_lowercase_eq_none_iff, hdisplay] at hsmall
    cases hsmall
  | some small =>
    have hparse : parse (lowercase raw) = .ok ⟨small, comparisonKey small⟩ :=
      parse_ok.2 ⟨small, hsmall, rfl⟩
    refine ⟨_, hparse, ?_⟩
    rw [key_of_parse h, key_of_parse hparse]
    -- Without a key the small spelling is the spelling given.
    refine Text.getD_key?_lowercase_iff fun hnone => ?_
    rw [Text.lowercase_of_key?_eq_none hnone, h] at hparse
    cases hparse
    rfl

end TagName

namespace Store

section Named

variable {s : Store} {L : Ledger} (h : s.Holds L) (hL : ∀ t ∈ L.tags, t.name.IsProper)
  {t t' : TagRow} (ht : t ∈ s.books.tags)

include h hL ht

theorem Holds.parse_name : TagName.parse t.name = .ok ⟨t.name, t.key⟩ := by
  rw [h.books] at ht
  obtain ⟨u, hu, rfl⟩ := List.mem_map.1 ht
  obtain ⟨hdisplay, hkey⟩ := hL u hu
  exact TagName.parse_ok.2 ⟨u.name.display, hdisplay, by rw [← hkey]; rfl⟩

theorem Holds.tag_of_lowercase (ht' : t' ∈ s.books.tags) (hkind : t.kind = t'.kind)
    (hname : lowercase t.name = lowercase t'.name) (hstrays : ¬Strays t.name.toList)
    (hstrays' : ¬Strays t'.name.toList) : t = t' := by
  rw [h.books] at ht ht'
  obtain ⟨u, hu, rfl⟩ := List.mem_map.1 ht
  obtain ⟨u', hu', rfl⟩ := List.mem_map.1 ht'
  have hkey : u.name.key = u'.name.key :=
    calc u.name.key
      _ = comparisonKey u.name.display := (hL u hu).key
      _ = comparisonKey (lowercase u.name.display) :=
        (Text.comparisonKey_lowercase_iff.2 hstrays).symm
      _ = comparisonKey (lowercase u'.name.display) := congrArg comparisonKey hname
      _ = comparisonKey u'.name.display := Text.comparisonKey_lowercase_iff.2 hstrays'
      _ = u'.name.key := (hL u' hu').key.symm
  have hpair : (u.name.key, u.kind) = (u'.name.key, u'.kind) :=
    Prod.ext hkey (TagKind.code_inj.1 hkind)
  rw [List.inj_on_of_nodup_map h.sound.nodup_tagKeys hu hu' hpair]

theorem Holds.lowercase_taken (hstrays : ¬Strays t.name.toList) {cmd : NewTag} {o : Occasion}
    {kind : TagKind} (hname : cmd.name = lowercase t.name)
    (hkind : TagKind.parse cmd.kind = .ok kind) (htag : t.kind = kind.code)
    (hid : o.id.text ∉ s.books.tags.map (·.id)) :
    (Command.createTag cmd).run o s = (.error (.domain .tagAlreadyExists), s) := by
  obtain ⟨n, hparse, hkey⟩ := TagName.parse_lowercase (h.parse_name hL ht)
  obtain ⟨small, hsmall, rfl⟩ := TagName.parse_ok.1 hparse
  have hkey := hkey.2 hstrays
  dsimp only at hkey
  have hnew : t.id ≠ o.id.text := fun heq => hid (List.mem_map.2 ⟨t, ht, heq⟩)
  rw [← hname] at hsmall
  exact (h.namesTag_create hsmall hkind hid).taken ⟨t, ht, hnew, htag, hkey.symm⟩

end Named

/-- The key of a name is the key of its small spelling exactly where no sigma strays. Where none
does, the small spelling of the name of a tag is the name of that tag, as far as the tags of its
kind go. -/
theorem tag_keys_ignore_case (steps : List (Command × Occasion)) (name : String) :
    let s := fresh.after steps
    (comparisonKey (lowercase name) = comparisonKey name ↔ ¬Strays name.toList) ∧
    (∀ n, TagName.parse name = .ok n → ∃ n', TagName.parse (lowercase name) = .ok n' ∧
      (n'.key = n.key ↔ ¬Strays name.toList)) ∧
    ∀ t ∈ s.books.tags, t.name = name → ¬Strays name.toList →
      (∀ t' ∈ s.books.tags, t.kind = t'.kind → lowercase name = lowercase t'.name →
        ¬Strays t'.name.toList → t = t') ∧
      ∀ (cmd : NewTag) (o : Occasion) (kind : TagKind), cmd.name = lowercase name →
        TagKind.parse cmd.kind = .ok kind → t.kind = kind.code →
          o.id.text ∉ s.books.tags.map (·.id) →
            (Command.createTag cmd).run o s = (.error (.domain .tagAlreadyExists), s) := by
  intro s
  have h : s.Holds (Ledger.fresh.after steps) := holds_fresh.after steps
  have hproper := holds_fresh.proper_after (fun _ h => nomatch h) steps
  refine ⟨Text.comparisonKey_lowercase_iff, fun _ => TagName.parse_lowercase, ?_⟩
  rintro t ht rfl hstrays
  refine ⟨fun t' ht' hkind hname hstrays' => ?_, fun cmd o kind hname hkind htag hid => ?_⟩
  · exact h.tag_of_lowercase hproper ht ht' hkind hname hstrays hstrays'
  · exact h.lowercase_taken hproper ht hstrays hname hkind htag hid

theorem sophia_is_taken :
    let o (id : Nat) : Occasion := ⟨.ofNat id, .ofNat (id + 1), .ofSeconds 0, .ofSeconds 0⟩
    let new (name : String) : NewTag := ⟨name, "expenditure", ⟨none, none, none⟩⟩
    let s := fresh.after [(.createTag (new "ΣΟΦΊΑ"), o 1)]
    (Command.createTag (new "σοφία")).run (o 3) s = (.error (.domain .tagAlreadyExists), s) := by
  intro o new s
  have htag : ∃ t ∈ s.books.tags, t.name = "ΣΟΦΊΑ" ∧ t.kind = TagKind.expenditure.code := by
    decide +kernel
  have hid : (o 3).id.text ∉ s.books.tags.map (·.id) := by decide +kernel
  have hstrays : ¬Strays "ΣΟΦΊΑ".toList := by decide +kernel
  have hsmall : "σοφία" = lowercase "ΣΟΦΊΑ" := by decide +kernel
  obtain ⟨t, ht, hname, hkind⟩ := htag
  obtain ⟨-, -, hstored⟩ := tag_keys_ignore_case [(.createTag (new "ΣΟΦΊΑ"), o 1)] "ΣΟΦΊΑ"
  exact (hstored t ht hname hstrays).2 (new "σοφία") (o 3) .expenditure hsmall
    (TagKind.parse_code .expenditure) hkind hid

/-- At the end of a word the small sigma is another letter: `ΟΔΟΣ` and `οδος` are two tags. -/
theorem odos_is_stored_twice :
    let o (id : Nat) : Occasion := ⟨.ofNat id, .ofNat (id + 1), .ofSeconds 0, .ofSeconds 0⟩
    let new (name : String) : NewTag := ⟨name, "expenditure", ⟨none, none, none⟩⟩
    let s := fresh.after [
      (.createTag (new "ΟΔΟΣ"), o 1), (.createTag (new (lowercase "ΟΔΟΣ")), o 3)]
    comparisonKey (lowercase "ΟΔΟΣ") ≠ comparisonKey "ΟΔΟΣ" ∧
      s.books.tags.map (fun t => (t.name, t.kind)) =
        [("ΟΔΟΣ", TagKind.expenditure.code), ("οδος", TagKind.expenditure.code)] := by
  decide +kernel

end Store

end Bookkeeping

import Bookkeeping.Proofs.Label.TagCase
import Bookkeeping.Proofs.Text.Ascii
import Bookkeeping.Proofs.Text.DisplayForm

namespace Bookkeeping

open Text (Spaced SameLetter isSymbol isBlank words fold key?)

structure IsAsciiName (raw : String) : Prop where
  ascii : ∀ c ∈ raw.toList, c.isAscii = true
  solid : ∃ c ∈ raw.toList, isBlank c = false

instance (raw : String) : Decidable (IsAsciiName raw) :=
  decidable_of_iff (raw.toList.all Char.isAscii = true ∧ raw.toList.any (!isBlank ·) = true)
    ⟨fun h => ⟨by simpa using h.1, by simpa using h.2⟩,
      fun h => ⟨by simpa using h.ascii, by simpa using h.solid⟩⟩

section Name

variable {raw : String} {n : TagName} (hraw : IsAsciiName raw)

include hraw

theorem IsAsciiName.words_ne_nil : words raw.toList ≠ [] := by
  obtain ⟨c, hc, hsolid⟩ := hraw.solid
  exact fun hnil => absurd ((Text.words_eq_nil_iff _).1 hnil c hc) (Bool.eq_false_iff.1 hsolid)

theorem IsAsciiName.exists_parse : ∃ n, TagName.parse raw = .ok n := by
  have hdisplay := Text.tidy?_eq_some_iff.2 ⟨hraw.words_ne_nil, rfl⟩
  exact ⟨_, TagName.parse_ok.2 ⟨_, hdisplay, rfl⟩⟩

theorem IsAsciiName.key?_eq (hn : TagName.parse raw = .ok n) : key? raw = some n.key := by
  cases hkey : key? raw with
  | none =>
    have hblank := (Text.words_eq_nil_iff _).2 (Text.key?_eq_none_iff.1 hkey)
    rw [Text.words_fold_of_isAscii hraw.ascii] at hblank
    exact absurd (List.map_eq_nil_iff.1 hblank) hraw.words_ne_nil
  | some k => rw [TagName.key_of_parse hn, hkey, Option.getD_some]

theorem IsAsciiName.toList_key (hn : TagName.parse raw = .ok n) :
    n.key.toList = Text.joinWords ((words raw.toList).map (List.map Char.toLower)) := by
  obtain ⟨-, hkey⟩ := Text.tidy?_eq_some_iff.1 (hraw.key?_eq hn)
  rw [← hkey, String.toList_ofList, String.toList_ofList, Text.words_fold_of_isAscii hraw.ascii]

theorem IsAsciiName.filter_isSymbol_key (hn : TagName.parse raw = .ok n) :
    n.key.toList.filter isSymbol = raw.toList.filter isSymbol := by
  have hwords : words n.key.toList = words (raw.toList.map Char.toLower) := by
    rw [Text.words_of_tidy? (hraw.key?_eq hn), String.toList_ofList,
      Text.fold_of_isAscii hraw.ascii]
  rw [Text.filter_of_words (fun _ => Text.isBlank_of_isSymbol) hwords,
    Text.filter_isSymbol_map_toLower]

end Name

namespace TagName

theorem key_eq_key_iff {a b : String} {n m : TagName} (ha : IsAsciiName a) (hb : IsAsciiName b)
    (hn : parse a = .ok n) (hm : parse b = .ok m) : n.key = m.key ↔
      (words a.toList).map (List.map Char.toLower) =
        (words b.toList).map (List.map Char.toLower) := by
  rw [← Text.words_fold_of_isAscii ha.ascii, ← Text.words_fold_of_isAscii hb.ascii,
    ← Text.key?_eq_key?_iff, ha.key?_eq hn, hb.key?_eq hm, Option.some_inj]

/-- ASCII names have one key exactly if their words are the same up to letter case. The key is made
of the words in small letters, one space apart, and has all the symbols of the name in their
order. -/
theorem ascii_keys_forget_case_and_spacing {a b : String} (ha : IsAsciiName a)
    (hb : IsAsciiName b) : ∃ n m, parse a = .ok n ∧ parse b = .ok m ∧
      (n.key = m.key ↔ ∃ ws vs, Spaced a.toList ws ∧ Spaced b.toList vs ∧
        List.Forall₂ (List.Forall₂ SameLetter) ws vs) ∧
      (∃ ws, Spaced a.toList ws ∧
        n.key.toList = [' '].intercalate (ws.map (List.map Char.toLower))) ∧
      n.key.toList.filter isSymbol = a.toList.filter isSymbol := by
  obtain ⟨n, hn⟩ := ha.exists_parse
  obtain ⟨m, hm⟩ := hb.exists_parse
  refine ⟨n, m, hn, hm, ?_, ⟨words a.toList, Text.spaced_words _, ?_⟩, ha.filter_isSymbol_key hn⟩
  · rw [key_eq_key_iff ha hb hn hm, Text.words_toLower_eq_iff]
    simp only [Text.spaced_iff, exists_and_left, exists_eq_left']
  · rw [ha.toList_key hn, Text.joinWords_eq_intercalate]

theorem plus_and_sharp_stay_apart :
    IsAsciiName " C++\tPub" ∧ IsAsciiName "c++ PUB\n" ∧ IsAsciiName "C#  pub" ∧
      ∃ n m k, parse " C++\tPub" = .ok n ∧ parse "c++ PUB\n" = .ok m ∧ parse "C#  pub" = .ok k ∧
        n.key = m.key ∧ n.key ≠ k.key := by
  have ha : IsAsciiName " C++\tPub" := by decide
  have hb : IsAsciiName "c++ PUB\n" := by decide
  have hc : IsAsciiName "C#  pub" := by decide
  obtain ⟨n, m, hn, hm, hplus, -⟩ := ascii_keys_forget_case_and_spacing ha hb
  obtain ⟨n', k, hn', hk, hsharp, -⟩ := ascii_keys_forget_case_and_spacing ha hc
  obtain rfl : n = n' := Except.ok.inj (hn.symm.trans hn')
  refine ⟨ha, hb, hc, n, m, k, hn, hm, hk, hplus.2 ?_, hsharp.not.2 ?_⟩
  · exact ⟨_, _, Text.spaced_words _, Text.spaced_words _, Text.words_toLower_eq_iff.1 (by decide)⟩
  · rintro ⟨ws, vs, hws, hvs, hsame⟩
    rw [← hws.words_eq, ← hvs.words_eq, ← Text.words_toLower_eq_iff] at hsame
    exact absurd hsame (by decide)

end TagName

end Bookkeeping

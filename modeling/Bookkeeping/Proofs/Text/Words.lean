import Bookkeeping.Text.Blank
import Mathlib.Tactic.SplitIfs

namespace Bookkeeping.Text

structure IsWord (w : List Char) : Prop where
  ne_nil : w ≠ []
  solid : ∀ c ∈ w, isBlank c = false

instance (w : List Char) : Decidable (IsWord w) :=
  decidable_of_iff (w ≠ [] ∧ w.all (!isBlank ·) = true)
    ⟨fun h => ⟨h.1, by simpa using h.2⟩, fun h => ⟨h.ne_nil, by simpa using h.solid⟩⟩

theorem IsWord.singleton {c : Char} (hc : isBlank c = false) : IsWord [c] where
  ne_nil := List.cons_ne_nil c []
  solid := List.forall_mem_singleton.2 hc

theorem IsWord.cons {c : Char} {w : List Char} (hc : isBlank c = false) (hw : IsWord w) :
    IsWord (c :: w) where
  ne_nil := List.cons_ne_nil c w
  solid := List.forall_mem_cons.2 ⟨hc, hw.solid⟩

theorem isWord_of_mem_words (cs : List Char) : ∀ w ∈ words cs, IsWord w := by
  induction cs with
  | nil => exact fun _ h => nomatch h
  | cons c cs ih =>
    rw [words]
    split
    · exact ih
    · rename_i hc
      have hc : isBlank c = false := by simpa using hc
      split
      · exact List.forall_mem_cons.2 ⟨.singleton hc, ih⟩
      · cases hws : words cs with
        | nil => exact List.forall_mem_singleton.2 (.singleton hc)
        | cons w ws =>
          rw [hws] at ih
          obtain ⟨hw, ih⟩ := List.forall_mem_cons.1 ih
          exact List.forall_mem_cons.2 ⟨hw.cons hc, ih⟩

theorem words_append {w rest : List Char} (hw : IsWord w) (hrest : startsBlank rest = true) :
    words (w ++ rest) = w :: words rest := by
  induction w with
  | nil => exact absurd rfl hw.ne_nil
  | cons c w ih =>
    obtain ⟨hc, hsolid⟩ := List.forall_mem_cons.1 hw.solid
    cases w with
    | nil => simp [words, hc, hrest]
    | cons d w =>
      have hd : isBlank d = false := hsolid d List.mem_cons_self
      have ih : words (d :: w ++ rest) = (d :: w) :: words rest :=
        ih ⟨List.cons_ne_nil d w, hsolid⟩
      show words (c :: (d :: w ++ rest)) = _
      rw [words, ih]
      simp [hc, hd, startsBlank]

theorem words_cons_blank {b : Char} (hb : isBlank b = true) (cs : List Char) :
    words (b :: cs) = words cs := by
  rw [words, if_pos hb]

theorem words_ne_nil {cs : List Char} (h : startsBlank cs = false) : words cs ≠ [] := by
  cases cs with
  | nil => cases h
  | cons c cs =>
    exact fun hnil => absurd ((words_eq_nil_iff _).1 hnil c List.mem_cons_self)
      (Bool.eq_false_iff.1 h)

theorem words_append_blank {b : Char} (hb : isBlank b = true) (as bs : List Char) :
    words (as ++ b :: bs) = words as ++ words bs := by
  induction as with
  | nil => simp [words, hb]
  | cons a as ih =>
    have hstart : startsBlank (as ++ b :: bs) = startsBlank as := by
      cases as with
      | nil => exact hb
      | cons d as => rfl
    rw [List.cons_append, words, words, ih, hstart]
    split_ifs with ha hnext
    · rfl
    · rfl
    · cases hws : words as with
      | nil => exact absurd hws (words_ne_nil (Bool.eq_false_iff.2 hnext))
      | cons w ws => rfl

theorem flatten_words (cs : List Char) : (words cs).flatten = cs.filter (!isBlank ·) := by
  induction cs with
  | nil => rfl
  | cons c cs ih =>
    rw [words]
    split_ifs with hc hnext
    · rw [ih, List.filter_cons_of_neg (by simpa using hc)]
    · rw [List.filter_cons_of_pos (by simpa using hc), ← ih]
      rfl
    · rw [List.filter_cons_of_pos (by simpa using hc), ← ih]
      split
      · rename_i hws
        rw [hws]
        rfl
      · rename_i hws
        rw [hws]
        rfl

theorem filter_of_words {p : Char → Bool} (hp : ∀ c, p c = true → isBlank c = false)
    {as bs : List Char} (h : words as = words bs) : as.filter p = bs.filter p := by
  have hsolid (cs : List Char) : (words cs).flatten.filter p = cs.filter p := by
    rw [flatten_words, List.filter_filter]
    refine List.filter_congr fun c _ => ?_
    cases hc : p c with
    | false => rfl
    | true =>
      rw [hp c hc]
      rfl
  rw [← hsolid as, h, hsolid bs]

theorem count_of_words {c : Char} (hc : isBlank c = false) {as bs : List Char}
    (h : words as = words bs) : as.count c = bs.count c := by
  have hsolid (d : Char) (hd : (d == c) = true) : isBlank d = false := by
    rwa [eq_of_beq hd]
  rw [List.count_eq_length_filter, filter_of_words hsolid h, ← List.count_eq_length_filter]

theorem words_map {f : Char → Char} (hf : ∀ c, isBlank (f c) = isBlank c) (cs : List Char) :
    words (cs.map f) = (words cs).map (List.map f) := by
  induction cs with
  | nil => rfl
  | cons c cs ih =>
    have hstart : startsBlank (cs.map f) = startsBlank cs := by
      cases cs with
      | nil => rfl
      | cons d cs => exact hf d
    rw [List.map_cons, words, words, hf, hstart, ih]
    split_ifs
    · rfl
    · rfl
    · cases words cs <;> rfl

theorem trimStart_append {before cs : List Char} (h : ∀ c ∈ before, isBlank c = true) :
    trimStart (before ++ cs) = trimStart cs :=
  List.dropWhile_append_of_pos h

theorem joinWords_cons_cons (c : Char) (w : List Char) (ws : List (List Char)) :
    joinWords ((c :: w) :: ws) = c :: joinWords (w :: ws) := by
  cases ws <;> rfl

theorem words_joinWords {ws : List (List Char)} (h : ∀ w ∈ ws, IsWord w) :
    words (joinWords ws) = ws := by
  induction ws with
  | nil => rfl
  | cons w ws ih =>
    obtain ⟨hw, h⟩ := List.forall_mem_cons.1 h
    cases ws with
    | nil =>
      have happend : words (w ++ []) = w :: words [] := words_append hw rfl
      rwa [List.append_nil] at happend
    | cons v ws =>
      show words (w ++ ' ' :: joinWords (v :: ws)) = _
      rw [words_append hw rfl]
      exact congrArg (w :: ·) (ih h)

theorem tidy?_eq_some_iff {s t : String} : tidy? s = some t ↔
    words s.toList ≠ [] ∧ String.ofList (joinWords (words s.toList)) = t := by
  rw [tidy?]
  cases words s.toList with
  | nil => simp
  | cons w ws => simp

theorem words_of_tidy? {s t : String} (h : tidy? s = some t) : words t.toList = words s.toList := by
  obtain ⟨-, rfl⟩ := tidy?_eq_some_iff.1 h
  rw [String.toList_ofList, words_joinWords (isWord_of_mem_words _)]

theorem tidy?_idem {s t : String} (h : tidy? s = some t) : tidy? t = some t := by
  rw [tidy?_eq_some_iff, words_of_tidy? h]
  exact tidy?_eq_some_iff.1 h

theorem tidy?_eq_tidy?_iff {s t : String} :
    tidy? s = tidy? t ↔ words s.toList = words t.toList := by
  refine ⟨fun h => ?_, fun h => by rw [tidy?, tidy?, h]⟩
  cases hs : tidy? s with
  | none =>
    have hwords {u : String} (hu : tidy? u = none) : words u.toList = [] :=
      (words_eq_nil_iff _).2 ((tidy?_eq_none_iff u).1 hu)
    rw [hwords hs, hwords (h.symm.trans hs)]
  | some u => rw [← words_of_tidy? hs, ← words_of_tidy? (h.symm.trans hs)]

end Bookkeeping.Text

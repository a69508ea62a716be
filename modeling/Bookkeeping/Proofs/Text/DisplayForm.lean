import Bookkeeping.Proofs.Text.Case
import Mathlib.Data.List.Chain

namespace Bookkeeping.Text

/-- A text made of words, in order: white space may stand around each of them, and it or the end of
the text comes where one ends. -/
inductive Spaced : List Char → List (List Char) → Prop
  | nil : Spaced [] []
  | blank {c : Char} {cs : List Char} {ws : List (List Char)} :
      isBlank c = true → Spaced cs ws → Spaced (c :: cs) ws
  | word {w cs : List Char} {ws : List (List Char)} :
      IsWord w → startsBlank cs = true → Spaced cs ws → Spaced (w ++ cs) (w :: ws)

section Spaced

variable {c : Char} {cs w : List Char} {ws : List (List Char)}

theorem Spaced.words_eq (h : Spaced cs ws) : words cs = ws := by
  induction h with
  | nil => rfl
  | blank hc _ ih => rw [words_cons_blank hc, ih]
  | word hw hend _ ih => rw [words_append hw hend, ih]

theorem Spaced.cons (hc : isBlank c = false) (hcs : startsBlank cs = false)
    (h : Spaced cs (w :: ws)) : Spaced (c :: cs) ((c :: w) :: ws) := by
  cases h with
  | blank hb _ => cases hb.symm.trans hcs
  | word hw hend h => exact .word (hw.cons hc) hend h

theorem spaced_words (cs : List Char) : Spaced cs (words cs) := by
  induction cs with
  | nil => exact .nil
  | cons c cs ih =>
    rw [words]
    split_ifs with hc hnext
    · exact .blank hc ih
    · exact .word (.singleton (Bool.eq_false_iff.2 hc)) hnext ih
    · have hnext : startsBlank cs = false := Bool.eq_false_iff.2 hnext
      cases hws : words cs with
      | nil => exact absurd hws (words_ne_nil hnext)
      | cons w ws => exact .cons (Bool.eq_false_iff.2 hc) hnext (hws ▸ ih)

theorem spaced_iff : Spaced cs ws ↔ words cs = ws :=
  ⟨Spaced.words_eq, fun h => h ▸ spaced_words cs⟩

theorem existsUnique_spaced (cs : List Char) : ∃! ws, Spaced cs ws :=
  ⟨words cs, spaced_words cs, fun _ h => h.words_eq.symm⟩

theorem exists_spaced_iff {as bs : List Char} :
    (∃ ws, Spaced as ws ∧ Spaced bs ws) ↔ words as = words bs := by
  simp only [spaced_iff, exists_eq_left']
  exact eq_comm

theorem joinWords_eq_intercalate (ws : List (List Char)) :
    joinWords ws = [' '].intercalate ws := by
  induction ws with
  | nil => rfl
  | cons w ws ih =>
    cases ws with
    | nil => exact List.intercalate_singleton.symm
    | cons v ws =>
      rw [List.intercalate_cons_cons, ← ih, List.append_assoc]
      rfl

end Spaced

section Tidy

variable {c d : Char} {cs ds w : List Char} {s t : String}

/-- No white space at either end, and inside none but single spaces. -/
structure IsTidy (cs : List Char) : Prop where
  ne_nil : cs ≠ []
  head : ∀ c ∈ cs.head?, isBlank c = false
  last : ∀ c ∈ cs.getLast?, isBlank c = false
  space : ∀ c ∈ cs, isBlank c = true → c = ' '
  single : cs.IsChain fun c d => isBlank c = true → isBlank d = false

theorem IsWord.isTidy (hw : IsWord w) : IsTidy w where
  ne_nil := hw.ne_nil
  head c hc := hw.solid c (List.mem_of_mem_head? hc)
  last c hc := hw.solid c (List.mem_of_mem_getLast? hc)
  space c hc hblank := absurd hblank (Bool.eq_false_iff.1 (hw.solid c hc))
  single := List.Pairwise.isChain (List.pairwise_of_forall_mem_list fun _ _ d hd _ => hw.solid d hd)

theorem IsTidy.append (hcs : IsTidy cs) (hds : IsTidy ds) : IsTidy (cs ++ ' ' :: ds) where
  ne_nil := List.append_ne_nil_of_left_ne_nil hcs.ne_nil _
  head := by
    rw [List.head?_append_of_ne_nil cs hcs.ne_nil]
    exact hcs.head
  last := by
    rw [List.append_cons, List.getLast?_append_of_ne_nil _ hds.ne_nil]
    exact hds.last
  space c hc := by
    rcases List.mem_append.1 hc with hc | hc
    · exact hcs.space c hc
    · rcases List.mem_cons.1 hc with rfl | hc
      · exact fun _ => rfl
      · exact hds.space c hc
  single := by
    have hspace : (' ' :: ds).IsChain fun c d => isBlank c = true → isBlank d = false :=
      List.isChain_cons.2 ⟨fun d hd _ => hds.head d hd, hds.single⟩
    exact hcs.single.append hspace fun c hc _ _ hblank =>
      absurd hblank (Bool.eq_false_iff.1 (hcs.last c hc))

theorem isTidy_joinWords {ws : List (List Char)} (hne : ws ≠ []) (hws : ∀ w ∈ ws, IsWord w) :
    IsTidy (joinWords ws) := by
  induction ws with
  | nil => exact absurd rfl hne
  | cons w ws ih =>
    obtain ⟨hw, hws⟩ := List.forall_mem_cons.1 hws
    cases ws with
    | nil => exact hw.isTidy
    | cons v ws => exact hw.isTidy.append (ih (List.cons_ne_nil v ws) hws)

theorem IsTidy.tail (h : IsTidy (c :: d :: cs)) (hd : isBlank d = false) : IsTidy (d :: cs) where
  ne_nil := List.cons_ne_nil d cs
  head := by simpa using hd
  last := by
    rw [← List.getLast?_cons_cons (a := c)]
    exact h.last
  space := (List.forall_mem_cons.1 h.space).2
  single := h.single.tail

theorem IsTidy.after_blank (h : IsTidy (c :: d :: cs)) (hd : isBlank d = true) :
    d = ' ' ∧ IsTidy cs := by
  obtain ⟨-, hrest⟩ := List.isChain_cons_cons.1 h.single
  obtain ⟨hnext, hsingle⟩ := List.isChain_cons.1 hrest
  obtain ⟨hspace, hspaces⟩ := List.forall_mem_cons.1 (List.forall_mem_cons.1 h.space).2
  refine ⟨hspace hd, ?_⟩
  cases cs with
  | nil => exact absurd (hd.symm.trans (h.last d rfl)) nofun
  | cons e cs =>
    constructor
    · exact List.cons_ne_nil e cs
    · exact fun c hc => hnext c hc hd
    · rw [← List.getLast?_cons_cons (a := d), ← List.getLast?_cons_cons (a := c)]
      exact h.last
    · exact hspaces
    · exact hsingle

theorem IsTidy.joinWords_words : ∀ {cs : List Char}, IsTidy cs → joinWords (words cs) = cs
  | [], h => absurd rfl h.ne_nil
  | [c], h => by
    have hc : isBlank c = false := h.head c rfl
    simp [words, hc, startsBlank, joinWords]
  | c :: d :: cs, h => by
    have hc : isBlank c = false := h.head c rfl
    cases hd : isBlank d with
    | false =>
      have ih : joinWords (words (d :: cs)) = d :: cs := (h.tail hd).joinWords_words
      have hnext : startsBlank (d :: cs) = false := hd
      rw [words, if_neg (Bool.eq_false_iff.1 hc), if_neg (Bool.eq_false_iff.1 hnext)]
      cases hws : words (d :: cs) with
      | nil => exact absurd hws (words_ne_nil hnext)
      | cons w ws => rw [joinWords_cons_cons, ← hws, ih]
    | true =>
      obtain ⟨rfl, hcs⟩ := h.after_blank hd
      have ih : joinWords (words cs) = cs := hcs.joinWords_words
      have hwords : words ([c] ++ ' ' :: cs) = [c] :: words (' ' :: cs) :=
        words_append (.singleton hc) rfl
      show joinWords (words ([c] ++ ' ' :: cs)) = _
      rw [hwords, words_cons_blank hd]
      cases hws : words cs with
      | nil =>
        rw [hws] at ih
        exact absurd ih.symm hcs.ne_nil
      | cons w ws =>
        rw [hws] at ih
        exact congrArg (c :: ' ' :: ·) ih

theorem IsTidy.words_ne_nil (h : IsTidy cs) : words cs ≠ [] := by
  intro hwords
  have hcs := h.joinWords_words
  rw [hwords] at hcs
  exact h.ne_nil hcs.symm

theorem tidy?_eq_some_iff_isTidy : tidy? s = some t ↔
    IsTidy t.toList ∧ words s.toList = words t.toList := by
  rw [tidy?_eq_some_iff]
  constructor
  · rintro ⟨hne, rfl⟩
    rw [String.toList_ofList, words_joinWords (isWord_of_mem_words _)]
    exact ⟨isTidy_joinWords hne (isWord_of_mem_words _), rfl⟩
  · rintro ⟨htidy, hwords⟩
    rw [hwords, htidy.joinWords_words, String.ofList_toList]
    exact ⟨htidy.words_ne_nil, rfl⟩

end Tidy

section Canonical

theorem isBlank_iff {c : Char} : isBlank c = true ↔ c.toNat ∈ blankCodes := by
  refine ⟨mem_blankCodes, fun h => ?_⟩
  have hall : ∀ n ∈ blankCodes, isBlank (Char.ofNat n) = true := by decide
  rw [← Char.ofNat_toNat c]
  exact hall c.toNat h

/-- A text has no display form exactly if it is white space throughout. Its words are determined;
its display form is the tidy text with these words, written one space apart, and is its own display
form. Texts have one display form exactly if they have the same words. -/
theorem display_form_is_canonical (s : String) :
    (tidy? s = none ↔ ∀ c ∈ s.toList, c.toNat ∈ blankCodes) ∧
    (∃! ws, Spaced s.toList ws) ∧
    (∀ t, tidy? s = some t ↔ IsTidy t.toList ∧ ∃ ws, Spaced s.toList ws ∧ Spaced t.toList ws) ∧
    (∀ t, tidy? s = some t →
      tidy? t = some t ∧ ∃ ws, Spaced s.toList ws ∧ t.toList = [' '].intercalate ws) ∧
    ∀ s', tidy? s = tidy? s' ↔ ∃ ws, Spaced s.toList ws ∧ Spaced s'.toList ws := by
  refine ⟨?_, existsUnique_spaced s.toList, fun t => ?_, fun t h => ⟨tidy?_idem h, ?_⟩,
    fun s' => ?_⟩
  · simp only [tidy?_eq_none_iff, isBlank_iff]
  · rw [tidy?_eq_some_iff_isTidy, exists_spaced_iff]
  · obtain ⟨-, rfl⟩ := tidy?_eq_some_iff.1 h
    refine ⟨words s.toList, spaced_words s.toList, ?_⟩
    rw [String.toList_ofList, joinWords_eq_intercalate]
  · rw [tidy?_eq_tidy?_iff, exists_spaced_iff]

theorem food_and_drinks_is_canonical :
    let s := "\u3000 Food\u00a0&\r\n\tdrinks\u2028"
    tidy? s = some "Food & drinks" ∧ IsTidy "Food & drinks".toList ∧
      tidy? "Food & drinks" = some "Food & drinks" ∧
      ∃ ws, Spaced s.toList ws ∧ "Food & drinks".toList = [' '].intercalate ws := by
  intro s
  obtain ⟨-, -, hforms, hcanonical, -⟩ := display_form_is_canonical s
  have hform : tidy? s = some "Food & drinks" := by decide +kernel
  obtain ⟨htidy, -⟩ := (hforms "Food & drinks").1 hform
  exact ⟨hform, htidy, hcanonical "Food & drinks" hform⟩

end Canonical

end Bookkeeping.Text

import Bookkeeping.Proofs.Text.Capitals
import Bookkeeping.Proofs.Text.Words

/-! Letter case and keys. A name and its small spelling have one key, unless a sigma strays: as a
capital it folds as any sigma does, and its small form is a final sigma, which folds to itself. -/

namespace Bookkeeping.Text

section Sigma

def smallSigma : Char := Char.ofNat 0x3C3

def finalSigma : Char := Char.ofNat 0x3C2

/-- A capital sigma at the end of a word, or a lunate one anywhere. What is before it is given from
its end. -/
def isStray (before : List Char) (c : Char) (after : List Char) : Bool :=
  c.toNat == 0x3F9 || (c.toNat == 0x3A3 && meetsCased before && !meetsCased after)

def straysAfter (before : List Char) : List Char → Bool
  | [] => false
  | c :: cs => isStray before c cs || straysAfter (c :: before) cs

def Strays (cs : List Char) : Prop :=
  ∃ before c after, cs = before ++ c :: after ∧ isStray before.reverse c after = true

theorem straysAfter_iff {seen cs : List Char} : straysAfter seen cs = true ↔
    ∃ before c after, cs = before ++ c :: after ∧
      isStray (before.reverse ++ seen) c after = true := by
  induction cs generalizing seen with
  | nil => simp [straysAfter]
  | cons d cs ih =>
    rw [straysAfter, Bool.or_eq_true, ih]
    constructor
    · rintro (h | ⟨before, c, after, rfl, h⟩)
      · exact ⟨[], d, cs, rfl, h⟩
      · exact ⟨d :: before, c, after, rfl, by simpa using h⟩
    · rintro ⟨_ | ⟨e, before⟩, c, after, hcs, h⟩
      · cases hcs
        exact .inl h
      · cases hcs
        exact .inr ⟨before, c, after, rfl, by simpa using h⟩

theorem strays_iff {cs : List Char} : Strays cs ↔ straysAfter [] cs = true := by
  simp [Strays, straysAfter_iff]

instance (cs : List Char) : Decidable (Strays cs) := decidable_of_iff _ strays_iff.symm

end Sigma

section Fold

variable {c : Char} {seen cs rest : List Char}

theorem fold_append (as bs : List Char) : fold (as ++ bs) = fold as ++ fold bs := by
  simp [fold]

theorem fold_cons (c : Char) (cs : List Char) : fold (c :: cs) = fold [c] ++ fold cs :=
  fold_append [c] cs

def smallForm (before : List Char) (c : Char) (after : List Char) : List Char :=
  if c.toNat = 0x3A3 then
    if meetsCased before && !meetsCased after then [finalSigma] else [smallSigma]
  else lower c

theorem lowercaseAfter_cons (before : List Char) (c : Char) (cs : List Char) :
    lowercaseAfter before (c :: cs) = smallForm before c cs ++ lowercaseAfter (c :: before) cs :=
  rfl

theorem fold_smallForm (h : isStray seen c rest = false) :
    fold (smallForm seen c rest) = fold [c] := by
  simp only [isStray, Bool.or_eq_false_iff, beq_eq_false_iff_ne] at h
  obtain ⟨hlunate, hfinal⟩ := h
  rw [smallForm]
  split
  · rename_i hsigma
    obtain rfl : c = Char.ofNat 0x3A3 := Char.toNat_inj.1 hsigma
    have hmiddle : (meetsCased seen && !meetsCased rest) = false := hfinal
    rw [hmiddle]
    decide +kernel
  · exact fold_lower hlunate

theorem fold_stray (h : isStray seen c rest = true) :
    fold [c] = [smallSigma] ∧ fold (smallForm seen c rest) = [finalSigma] := by
  simp only [isStray, Bool.or_eq_true, Bool.and_eq_true, beq_iff_eq, and_assoc] at h
  obtain hlunate | ⟨hsigma, hfinal⟩ := h
  · obtain rfl : c = Char.ofNat 0x3F9 := Char.toNat_inj.1 hlunate
    have hsmall : smallForm seen (Char.ofNat 0x3F9) rest = lower (Char.ofNat 0x3F9) := rfl
    rw [hsmall]
    decide +kernel
  · obtain rfl : c = Char.ofNat 0x3A3 := Char.toNat_inj.1 hsigma
    have hsmall : smallForm seen (Char.ofNat 0x3A3) rest = [finalSigma] := by
      rw [smallForm, if_pos hsigma, if_pos (Bool.and_eq_true_iff.2 hfinal)]
    rw [hsmall]
    decide +kernel

theorem fold_lowercaseAfter (h : straysAfter seen cs = false) :
    fold (lowercaseAfter seen cs) = fold cs := by
  induction cs generalizing seen with
  | nil => rfl
  | cons c cs ih =>
    obtain ⟨hc, hcs⟩ := Bool.or_eq_false_iff.1 h
    rw [lowercaseAfter_cons, fold_append, fold_smallForm hc, ih hcs, ← fold_cons]

theorem count_smallForm_le (seen : List Char) (c : Char) (rest : List Char) :
    (fold [c]).count finalSigma ≤ (fold (smallForm seen c rest)).count finalSigma := by
  cases h : isStray seen c rest with
  | false => exact Nat.le_of_eq (congrArg (List.count finalSigma) (fold_smallForm h).symm)
  | true =>
    rw [(fold_stray h).1]
    exact Nat.zero_le _

theorem count_lowercaseAfter_le (seen cs : List Char) :
    (fold cs).count finalSigma ≤ (fold (lowercaseAfter seen cs)).count finalSigma := by
  induction cs generalizing seen with
  | nil => exact Nat.le_refl _
  | cons c cs ih =>
    rw [lowercaseAfter_cons, fold_append, fold_cons, List.count_append, List.count_append]
    exact Nat.add_le_add (count_smallForm_le seen c cs) (ih _)

theorem count_lowercaseAfter_lt (h : straysAfter seen cs = true) :
    (fold cs).count finalSigma < (fold (lowercaseAfter seen cs)).count finalSigma := by
  induction cs generalizing seen with
  | nil => cases h
  | cons c cs ih =>
    rw [lowercaseAfter_cons, fold_append, fold_cons, List.count_append, List.count_append]
    -- a stray sigma at this place brings one final sigma more, or else one further on does
    obtain hc | hcs := Bool.or_eq_true_iff.1 h
    · obtain ⟨hcapital, hsmall⟩ := fold_stray hc
      have hone : [smallSigma].count finalSigma < [finalSigma].count finalSigma := by decide
      rw [hcapital, hsmall]
      exact Nat.add_lt_add_of_lt_of_le hone (count_lowercaseAfter_le _ _)
    · exact Nat.add_lt_add_of_le_of_lt (count_smallForm_le seen c cs) (ih hcs)

theorem lower_of_blank (h : ∀ d ∈ fold [c], isBlank d = true) : lower c = [c] := by
  refine Decidable.byContradiction fun hne => ?_
  obtain ⟨d, hd, hsolid⟩ := solid_of_lower_ne hne
  exact absurd (h d hd) (Bool.eq_false_iff.1 hsolid)

theorem lowercaseAfter_of_blank (h : ∀ d ∈ fold cs, isBlank d = true) :
    lowercaseAfter seen cs = cs := by
  induction cs generalizing seen with
  | nil => rfl
  | cons c cs ih =>
    rw [fold_cons, List.forall_mem_append] at h
    have hlower := lower_of_blank h.1
    have hsigma : c.toNat ≠ 0x3A3 := by
      intro hsigma
      obtain rfl : c = Char.ofNat 0x3A3 := Char.toNat_inj.1 hsigma
      exact absurd hlower (by decide +kernel)
    rw [lowercaseAfter_cons, smallForm, if_neg hsigma, hlower, ih h.2]
    rfl

end Fold

section Keys

variable {s : String} {c : Char}

theorem key?_eq_key?_iff {t : String} :
    key? s = key? t ↔ words (fold s.toList) = words (fold t.toList) := by
  rw [key?, key?, tidy?_eq_tidy?_iff, String.toList_ofList, String.toList_ofList]

theorem key?_eq_none_iff : key? s = none ↔ ∀ c ∈ fold s.toList, isBlank c = true := by
  rw [key?, tidy?_eq_none_iff, String.toList_ofList]

theorem toList_lowercase (s : String) : (lowercase s).toList = lowercaseAfter [] s.toList :=
  String.toList_ofList

theorem key?_lowercase_iff : key? (lowercase s) = key? s ↔ ¬Strays s.toList := by
  rw [key?_eq_key?_iff, toList_lowercase, strays_iff]
  constructor
  · intro h hstrays
    have hcount := count_of_words (show isBlank finalSigma = false by decide) h
    exact absurd hcount (Nat.ne_of_gt (count_lowercaseAfter_lt hstrays))
  · intro h
    rw [fold_lowercaseAfter (Bool.eq_false_iff.2 h)]

theorem lowercase_of_key?_eq_none (h : key? s = none) : lowercase s = s := by
  rw [lowercase, lowercaseAfter_of_blank (key?_eq_none_iff.1 h), String.ofList_toList]

theorem key?_lowercase_eq_none_iff : key? (lowercase s) = none ↔ key? s = none := by
  constructor
  · intro h
    have hkept : ¬Strays s.toList := by
      rw [strays_iff]
      intro hstrays
      rw [key?_eq_none_iff, toList_lowercase] at h
      have hmem := List.count_pos_iff.1 (Nat.zero_lt_of_lt (count_lowercaseAfter_lt hstrays))
      exact absurd (h _ hmem) (by decide)
    rw [← key?_lowercase_iff.2 hkept, h]
  · intro h
    rw [lowercase_of_key?_eq_none h, h]

theorem getD_key?_lowercase_iff {p p' : String} (hp : key? s = none → p' = p) :
    (key? (lowercase s)).getD p' = (key? s).getD p ↔ ¬Strays s.toList := by
  rw [← key?_lowercase_iff]
  cases hs : key? s with
  | none => simp [key?_lowercase_eq_none_iff.2 hs, hp hs]
  | some k =>
    cases hsmall : key? (lowercase s) with
    | none => exact absurd (key?_lowercase_eq_none_iff.1 hsmall) (by simp [hs])
    | some k' => simp

theorem comparisonKey_lowercase_iff :
    comparisonKey (lowercase s) = comparisonKey s ↔ ¬Strays s.toList :=
  getD_key?_lowercase_iff fun h => congrArg lowercase (lowercase_of_key?_eq_none h)

def blankCodes : List Nat := [
  9, 10, 11, 12, 13, 0x20, 0x85, 0xA0, 0x1680, 0x2000, 0x2001, 0x2002, 0x2003, 0x2004, 0x2005,
  0x2006, 0x2007, 0x2008, 0x2009, 0x200A, 0x2028, 0x2029, 0x202F, 0x205F, 0x3000]

theorem mem_blankCodes (h : isBlank c = true) : c.toNat ∈ blankCodes := by
  simp only [isBlank, Bool.or_eq_true, Bool.and_eq_true, decide_eq_true_eq, beq_iff_eq] at h
  simp only [blankCodes, List.mem_cons, List.not_mem_nil, or_false]
  omega

theorem fold_of_isBlank (h : isBlank c = true) : ∃ b, isBlank b = true ∧ fold [c] = [b] := by
  have hfolds : ∀ n ∈ blankCodes, fold [Char.ofNat n] = [(fold [Char.ofNat n]).headD ' '] ∧
      isBlank ((fold [Char.ofNat n]).headD ' ') = true := by
    decide +kernel
  obtain ⟨hone, hblank⟩ := hfolds c.toNat (mem_blankCodes h)
  rw [Char.ofNat_toNat] at hone hblank
  exact ⟨_, hblank, hone⟩

theorem words_append_fold {cs : List Char} (h : startsBlank cs = true) (as : List Char) :
    words (as ++ fold cs) = words as ++ words (fold cs) := by
  cases cs with
  | nil => simp [fold, words]
  | cons c cs =>
    obtain ⟨b, hb, hfold⟩ := fold_of_isBlank h
    rw [fold_cons, hfold, List.singleton_append, words_append_blank hb, words_cons_blank hb]

theorem words_fold_joinWords (cs : List Char) :
    words (fold (joinWords (words cs))) = words (fold cs) ∧
      (startsBlank cs = false → ∀ before,
        words (before ++ fold (joinWords (words cs))) = words (before ++ fold cs)) := by
  -- by itself the first part does not carry over: a word that goes on has its beginning before it
  induction cs with
  | nil => exact ⟨rfl, nofun⟩
  | cons c cs ih =>
    obtain ⟨ih, ihStart⟩ := ih
    cases hc : isBlank c with
    | true =>
      obtain ⟨b, hb, hfold⟩ := fold_of_isBlank hc
      refine ⟨?_, fun hstart => absurd (hc.symm.trans hstart) nofun⟩
      rw [words_cons_blank hc, ih, fold_cons, hfold, List.singleton_append, words_cons_blank hb]
    | false =>
      have hword : ∀ before, words (before ++ fold (joinWords (words (c :: cs)))) =
          words (before ++ fold (c :: cs)) := by
        intro before
        have hsplit : before ++ fold (c :: cs) = (before ++ fold [c]) ++ fold cs := by
          rw [fold_cons, List.append_assoc]
        rw [hsplit, words, if_neg (Bool.eq_false_iff.1 hc)]
        split_ifs with hnext
        · rw [words_append_fold hnext, ← ih]
          cases words cs with
          | nil => simp [joinWords, fold, words]
          | cons w ws =>
            have hspace : fold (' ' :: joinWords (w :: ws)) =
                ' ' :: fold (joinWords (w :: ws)) := by
              rw [fold_cons]
              rfl
            show words (before ++ fold (c :: ' ' :: joinWords (w :: ws))) = _
            rw [fold_cons, hspace, ← List.append_assoc, words_append_blank rfl]
        · rw [Bool.not_eq_true] at hnext
          rw [← ihStart hnext]
          cases hws : words cs with
          | nil => exact absurd hws (words_ne_nil hnext)
          | cons w ws =>
            show words (before ++ fold (joinWords ((c :: w) :: ws))) = _
            rw [joinWords_cons_cons, fold_cons, List.append_assoc]
      exact ⟨hword [], fun _ => hword⟩

theorem key?_of_tidy? {name : String} (h : tidy? s = some name) : key? name = key? s := by
  obtain ⟨-, rfl⟩ := tidy?_eq_some_iff.1 h
  rw [key?_eq_key?_iff, String.toList_ofList]
  exact (words_fold_joinWords s.toList).1

theorem key?_of_tidy?_eq_none (h : tidy? s = none) : key? s = none := by
  have hblank := (tidy?_eq_none_iff s).1 h
  rw [key?_eq_none_iff]
  generalize s.toList = cs at hblank
  induction cs with
  | nil => exact fun _ h => nomatch h
  | cons c cs ih =>
    obtain ⟨hc, hcs⟩ := List.forall_mem_cons.1 hblank
    obtain ⟨b, hb, hfold⟩ := fold_of_isBlank hc
    rw [fold_cons, hfold]
    exact List.forall_mem_cons.2 ⟨hb, ih hcs⟩

theorem tidy?_lowercase_eq_none_iff : tidy? (lowercase s) = none ↔ tidy? s = none := by
  constructor
  · intro h
    have hnone := key?_lowercase_eq_none_iff.1 (key?_of_tidy?_eq_none h)
    rw [lowercase_of_key?_eq_none hnone] at h
    exact h
  · intro h
    rw [lowercase_of_key?_eq_none (key?_of_tidy?_eq_none h), h]

end Keys

end Bookkeeping.Text

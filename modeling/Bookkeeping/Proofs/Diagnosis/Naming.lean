import Bookkeeping.Diagnosis.Reading
import Bookkeeping.Proofs.Text.Words
import Mathlib.Data.List.TakeWhile
import Mathlib.Tactic.SplitIfs

namespace Bookkeeping.Diagnosis

open Text

section Names

inductive Announces : List Char → List Char → Prop
  | mk {blanks name rest : List Char} {opening closing : Char}
      (hblanks : blanks ≠ [] ∧ ∀ c ∈ blanks, isBlank c = true)
      (hname : name ≠ [] ∧ ∀ c ∈ name, isQuote c = false)
      (hopening : isQuote opening = true) (hclosing : isQuote closing = true) :
    Announces (keyword ++ (blanks ++ opening :: (name ++ closing :: rest))) name

inductive Names : List Char → List Char → Prop
  | here {cs name : List Char} (h : Announces cs name) : Names cs name
  | later {c : Char} {cs name : List Char} (hc : ∀ other, ¬Announces (c :: cs) other)
      (h : Names cs name) : Names (c :: cs) name

variable {cs name : List Char}

theorem quotedName?_eq_some_iff : quotedName? cs = some name ↔ ∃ opening closing rest,
    cs = opening :: (name ++ closing :: rest) ∧ isQuote opening = true ∧ isQuote closing = true ∧
      name ≠ [] ∧ ∀ c ∈ name, isQuote c = false := by
  constructor
  · intro h
    cases cs with
    | nil => cases h
    | cons opening cs =>
      rw [quotedName?] at h
      split_ifs at h with hquoted
      obtain ⟨hopening, hname, hrest⟩ := hquoted
      obtain rfl := Option.some.inj h
      obtain ⟨closing, rest, hsplit⟩ := List.exists_cons_of_ne_nil hrest
      have hclosing := List.head_dropWhile_not (!isQuote ·) hrest
      refine ⟨opening, closing, rest, ?_, hopening, ?_, hname, ?_⟩
      · rw [← hsplit, List.takeWhile_append_dropWhile]
      · simpa [hsplit] using hclosing
      · intro c hc
        simpa using List.mem_takeWhile_imp hc
  · rintro ⟨opening, closing, rest, rfl, hopening, hclosing, hname, hplain⟩
    have htake : (name ++ closing :: rest).takeWhile (!isQuote ·) = name := by
      rw [List.takeWhile_append_of_pos (by simpa using hplain)]
      simp [hclosing]
    have hdrop : (name ++ closing :: rest).dropWhile (!isQuote ·) = closing :: rest := by
      rw [List.dropWhile_append_of_pos (by simpa using hplain)]
      simp [hclosing]
    rw [quotedName?, htake, hdrop]
    simp [hopening, hname]

theorem isBlank_of_isQuote {c : Char} (h : isQuote c = true) : isBlank c = false := by
  simp only [isQuote, Bool.or_eq_true, beq_iff_eq] at h
  rcases h with (rfl | rfl) | rfl <;> decide

theorem announcedName?_eq_some_iff : announcedName? cs = some name ↔ Announces cs name := by
  constructor
  · intro h
    unfold announcedName? at h
    split at h
    · cases h
    · rename_i c rest hdrop
      split_ifs at h with hstart
      obtain ⟨hstarts, hc⟩ := (Bool.and_eq_true _ _).mp hstart
      obtain ⟨tail, rfl⟩ := List.isPrefixOf_iff_prefix.1 hstarts
      rw [List.drop_left] at hdrop
      obtain ⟨opening, closing, after, hquoted, hopening, hclosing, hname⟩ :=
        quotedName?_eq_some_iff.1 h
      have hblanks : ∀ b ∈ c :: rest.takeWhile isBlank, isBlank b = true :=
        List.forall_mem_cons.2 ⟨hc, fun b => List.mem_takeWhile_imp⟩
      have hrest :
          tail = (c :: rest.takeWhile isBlank) ++ opening :: (name ++ closing :: after) := by
        rw [hdrop, ← hquoted, List.cons_append, trimStart, List.takeWhile_append_dropWhile]
      rw [hrest]
      exact .mk ⟨List.cons_ne_nil _ _, hblanks⟩ hname hopening hclosing
  · rintro ⟨hblanks, hname, hopening, hclosing⟩
    rename_i blanks rest opening closing
    obtain ⟨b, bs, rfl⟩ := List.exists_cons_of_ne_nil hblanks.1
    obtain ⟨hb, hbs⟩ := List.forall_mem_cons.1 hblanks.2
    have htrim : trimStart (bs ++ opening :: (name ++ closing :: rest)) =
        opening :: (name ++ closing :: rest) := by
      rw [trimStart_append hbs, trimStart, List.dropWhile_cons_of_neg]
      simp [isBlank_of_isQuote hopening]
    have hquoted : quotedName? (opening :: (name ++ closing :: rest)) = some name :=
      quotedName?_eq_some_iff.2 ⟨opening, closing, rest, rfl, hopening, hclosing, hname⟩
    have hstarts : keyword.isPrefixOf
        (keyword ++ (b :: bs ++ opening :: (name ++ closing :: rest))) = true :=
      List.isPrefixOf_iff_prefix.2 (List.prefix_append _ _)
    unfold announcedName?
    rw [List.drop_left, hstarts, List.cons_append]
    simp [hb, htrim, hquoted]

theorem findName?_eq_some_iff : findName? cs = some name ↔ Names cs name := by
  induction cs with
  | nil =>
    constructor
    · intro h
      cases h
    · rintro ⟨h⟩
      rw [← announcedName?_eq_some_iff] at h
      cases h
  | cons c cs ih =>
    rw [findName?]
    cases hc : announcedName? (c :: cs) with
    | some other =>
      have hother := announcedName?_eq_some_iff.1 hc
      constructor
      · intro h
        cases h
        exact .here hother
      · intro h
        cases h with
        | here h => rw [← announcedName?_eq_some_iff.2 h, hc]
        | later hnone _ => exact absurd hother (hnone other)
    | none =>
      have hnone (other : List Char) : ¬Announces (c :: cs) other := by
        rw [← announcedName?_eq_some_iff, hc]
        exact nofun
      show findName? cs = some name ↔ _
      rw [ih]
      constructor
      · exact .later hnone
      · intro h
        cases h with
        | here h => exact absurd h (hnone name)
        | later _ h => exact h

theorem constraintName?_eq_some_iff {message name : String} :
    constraintName? message = some name ↔ Names message.toList name.toList := by
  rw [constraintName?, Option.map_eq_some_iff, ← findName?_eq_some_iff]
  constructor
  · rintro ⟨cs, hcs, rfl⟩
    rw [hcs, String.toList_ofList]
  · intro h
    exact ⟨name.toList, h, String.ofList_toList⟩

end Names

section Opening

variable {cs words : List Char}

def Opens (cs words : List Char) : Prop :=
  ∃ blanks rest, (∀ c ∈ blanks, isBlank c = true) ∧ cs = blanks ++ (words ++ rest)

theorem opens_iff {c : Char} (hc : isBlank c = false) :
    Opens cs (c :: words) ↔ c :: words <+: trimStart cs := by
  constructor
  · rintro ⟨blanks, rest, hblanks, rfl⟩
    rw [trimStart_append hblanks, trimStart, List.cons_append,
      List.dropWhile_cons_of_neg (by simp [hc])]
    exact ⟨rest, rfl⟩
  · rintro ⟨rest, hrest⟩
    refine ⟨cs.takeWhile isBlank, rest, fun b => List.mem_takeWhile_imp, ?_⟩
    rw [hrest, trimStart, List.takeWhile_append_dropWhile]

theorem childRowOpening_eq : childRowOpening.toList
    = 'C' :: 'a' :: "nnot add or update a child row".toList := by
  decide +kernel

theorem parentRowOpening_eq : parentRowOpening.toList
    = 'C' :: 'a' :: "nnot delete or update a parent row".toList := by
  decide +kernel

def sideWords : ViolationSide → List Char
  | .parentMissing => childRowOpening.toList
  | .stillReferenced => parentRowOpening.toList

theorem opens_sideWords {side : ViolationSide} :
    Opens cs (sideWords side) ↔ sideWords side <+: trimStart cs := by
  cases side with
  | parentMissing =>
    rw [sideWords, childRowOpening_eq]
    exact opens_iff (by decide)
  | stillReferenced =>
    rw [sideWords, parentRowOpening_eq]
    exact opens_iff (by decide)

theorem not_parent_of_child (h : childRowOpening.toList <+: cs) :
    ¬parentRowOpening.toList <+: cs := by
  intro h'
  have hle : childRowOpening.toList.length ≤ parentRowOpening.toList.length := by decide +kernel
  have hboth := List.prefix_of_prefix_length_le h h' hle
  revert hboth
  decide +kernel

theorem side?_eq_some_iff {message : String} {side : ViolationSide} :
    side? message = some side ↔ Opens message.toList (sideWords side) := by
  rw [opens_sideWords, side?]
  simp only [List.isPrefixOf_iff_prefix]
  generalize trimStart message.toList = cs
  split_ifs with hchild hparent
  · have hnot := not_parent_of_child hchild
    cases side <;> simp [sideWords, hchild, hnot]
  · cases side <;> simp [sideWords, hchild, hparent]
  · cases side <;> simp [sideWords, hchild, hparent]

end Opening

end Bookkeeping.Diagnosis

import Bookkeeping.Currency
import Bookkeeping.Kind
import Bookkeeping.Proofs.Text.Words
import Mathlib.Data.List.TakeWhile
import Mathlib.Tactic.SplitIfs

namespace Bookkeeping

namespace Text

def Pads (s : String) (core : List Char) : Prop :=
  ∃ before after, s.toList = before ++ core ++ after ∧
    (∀ c ∈ before, isBlank c = true) ∧ ∀ c ∈ after, isBlank c = true

theorem trimEnd_append {cs after : List Char} (h : ∀ c ∈ after, isBlank c = true) :
    trimEnd (cs ++ after) = trimEnd cs := by
  rw [trimEnd, List.reverse_append, List.dropWhile_append_of_pos (by simpa using h), trimEnd]

theorem trimStart_of_isWord {w : List Char} (hw : IsWord w) (rest : List Char) :
    trimStart (w ++ rest) = w ++ rest := by
  cases w with
  | nil => exact absurd rfl hw.ne_nil
  | cons c w =>
    have hc : isBlank c = false := hw.solid c List.mem_cons_self
    exact List.dropWhile_cons_of_neg (by simp [hc])

theorem IsWord.reverse {w : List Char} (hw : IsWord w) : IsWord w.reverse where
  ne_nil := by simpa using hw.ne_nil
  solid := by simpa using hw.solid

theorem trimEnd_of_isWord {w : List Char} (hw : IsWord w) : trimEnd w = w := by
  have h := trimStart_of_isWord hw.reverse []
  rw [List.append_nil, trimStart] at h
  rw [trimEnd, h, List.reverse_reverse]

theorem exists_trimStart (cs : List Char) :
    ∃ before, cs = before ++ trimStart cs ∧ ∀ c ∈ before, isBlank c = true :=
  ⟨cs.takeWhile isBlank, List.takeWhile_append_dropWhile.symm, fun _ h => List.mem_takeWhile_imp h⟩

theorem exists_trimEnd (cs : List Char) :
    ∃ after, cs = trimEnd cs ++ after ∧ ∀ c ∈ after, isBlank c = true := by
  obtain ⟨before, hcs, hbefore⟩ := exists_trimStart cs.reverse
  refine ⟨before.reverse, ?_, by simpa using hbefore⟩
  rw [trimEnd, ← List.reverse_append, ← trimStart, ← hcs, List.reverse_reverse]

theorem pads_self (s : String) : Pads s s.toList :=
  ⟨[], [], by simp, List.forall_mem_nil _, List.forall_mem_nil _⟩

theorem pads_trim (s : String) : Pads s (trim s.toList) := by
  obtain ⟨before, hstart, hbefore⟩ := exists_trimStart s.toList
  obtain ⟨after, hend, hafter⟩ := exists_trimEnd (trimStart s.toList)
  refine ⟨before, after, ?_, hbefore, hafter⟩
  rw [List.append_assoc, trim, ← hend, ← hstart]

theorem trim_of_pads {s : String} {w : List Char} (hw : IsWord w) (h : Pads s w) :
    trim s.toList = w := by
  obtain ⟨before, after, hs, hbefore, hafter⟩ := h
  rw [hs, List.append_assoc, trim, trimStart_append hbefore, trimStart_of_isWord hw,
    trimEnd_append hafter, trimEnd_of_isWord hw]

theorem toNat_toLower (c : Char) :
    c.toLower.toNat = if 65 ≤ c.toNat ∧ c.toNat ≤ 90 then c.toNat + 32 else c.toNat := by
  have hupper : c.val ≥ 'A'.val ∧ c.val ≤ 'Z'.val ↔ 65 ≤ c.toNat ∧ c.toNat ≤ 90 := by
    simp only [ge_iff_le, UInt32.le_iff_toNat_le]
    rfl
  split_ifs with h
  · have hlower : c.toLower = _ := dif_pos (hupper.2 h)
    have hshift : ('a'.val - 'A'.val).toNat = 32 := by decide
    have hrange : c.val.toNat ≤ 90 := h.2
    rw [hlower]
    show (c.val + ('a'.val - 'A'.val)).toNat = c.val.toNat + 32
    rw [UInt32.toNat_add, hshift]
    omega
  · exact congrArg Char.toNat (dif_neg (hupper.not.2 h))

theorem toNat_toUpper (c : Char) :
    c.toUpper.toNat = if 97 ≤ c.toNat ∧ c.toNat ≤ 122 then c.toNat - 32 else c.toNat := by
  have hlower : 'a'.val ≤ c.val ∧ c.val ≤ 'z'.val ↔ 97 ≤ c.toNat ∧ c.toNat ≤ 122 := by
    simp only [UInt32.le_iff_toNat_le]
    rfl
  split_ifs with h
  · have hupper : c.toUpper = _ := dif_pos (hlower.2 h)
    -- The difference wraps around.
    have hshift : ('A'.val - 'a'.val).toNat = 2 ^ 32 - 32 := by decide
    have hrange : 97 ≤ c.val.toNat ∧ c.val.toNat ≤ 122 := h
    rw [hupper]
    show (c.val + ('A'.val - 'a'.val)).toNat = c.val.toNat - 32
    rw [UInt32.toNat_add, hshift]
    omega
  · exact congrArg Char.toNat (dif_neg (hlower.not.2 h))

theorem isBlank_toLower (c : Char) : isBlank c.toLower = isBlank c := by
  have h := toNat_toLower c
  split_ifs at h
  · simp only [isBlank]
    grind
  · simp only [isBlank, h]

theorem isAlpha_iff {c : Char} :
    c.isAlpha = true ↔ (65 ≤ c.toNat ∧ c.toNat ≤ 90) ∨ (97 ≤ c.toNat ∧ c.toNat ≤ 122) := by
  show (decide (c.val ≥ 'A'.val ∧ c.val ≤ 'Z'.val) ||
    (decide (c.val ≥ 'a'.val) && decide (c.val ≤ 'z'.val))) = true ↔ _
  simp only [Bool.or_eq_true, Bool.and_eq_true, decide_eq_true_eq, ge_iff_le,
    UInt32.le_iff_toNat_le]
  rfl

theorem isBlank_of_isAlpha {c : Char} (h : c.isAlpha = true) : isBlank c = false := by
  have hrange : 32 < c.toNat ∧ c.toNat < 128 := by
    have h := isAlpha_iff.1 h
    omega
  simp only [isBlank, Bool.or_eq_false_iff, Bool.and_eq_false_iff, decide_eq_false_iff_not,
    beq_eq_false_iff_ne]
  omega

def Spells (s name : String) : Prop :=
  ∃ core, Pads s core ∧ core.map Char.toLower = name.toList

end Text

open Text

theorem looseName_eq_iff {s name : String} (hname : IsWord name.toList) :
    looseName s = name ↔ Spells s name := by
  have hlist : looseName s = name ↔ (trim s.toList).map Char.toLower = name.toList := by
    rw [looseName, ← String.toList_inj, String.toList_ofList]
  rw [hlist]
  constructor
  · exact fun h => ⟨trim s.toList, pads_trim s, h⟩
  · rintro ⟨core, hpads, hcore⟩
    have hword : IsWord core := by
      rw [← hcore] at hname
      constructor
      · simpa using hname.ne_nil
      · simpa [isBlank_toLower] using hname.solid
    rw [trim_of_pads hword hpads, hcore]

namespace Currency

theorem isCapital_iff {c : Char} : isCapital c = true ↔ 65 ≤ c.toNat ∧ c.toNat ≤ 90 := by
  simp only [isCapital, Bool.and_eq_true, decide_eq_true_eq, Char.le_def, UInt32.le_iff_toNat_le]
  rfl

theorem isCapital_toUpper (c : Char) : isCapital c.toUpper = c.isAlpha := by
  have h := toNat_toUpper c
  rw [Bool.eq_iff_iff, isAlpha_iff, isCapital_iff]
  split_ifs at h <;> omega

theorem three_capitals_iff (letters : List Char) :
    ((String.ofList (letters.map Char.toUpper)).toList.length = 3 ∧
      (String.ofList (letters.map Char.toUpper)).toList.all isCapital = true) ↔
    letters.length = 3 ∧ ∀ x ∈ letters, x.isAlpha = true := by
  simp [isCapital_toUpper]

theorem exists_code_eq {letters : List Char} (hlength : letters.length = 3)
    (halpha : ∀ x ∈ letters, x.isAlpha = true) :
    ∃ c : Currency, c.code = String.ofList (letters.map Char.toUpper) :=
  ⟨⟨_, (three_capitals_iff letters).2 ⟨hlength, halpha⟩⟩, rfl⟩

theorem parse?_eq_some_iff {s : String} {c : Currency} : parse? s = some c ↔
    ∃ letters, Pads s letters ∧ letters.length = 3 ∧ (∀ x ∈ letters, x.isAlpha = true) ∧
      c.code = String.ofList (letters.map Char.toUpper) := by
  rw [parse?, ofCode?]
  constructor
  · intro h
    split_ifs at h with hcode
    cases h
    obtain ⟨hlength, halpha⟩ := (three_capitals_iff _).1 hcode
    exact ⟨trim s.toList, pads_trim s, hlength, halpha, rfl⟩
  · rintro ⟨letters, hpads, hlength, halpha, hcode⟩
    have hword : IsWord letters :=
      ⟨List.ne_nil_of_length_eq_add_one hlength, fun x hx => isBlank_of_isAlpha (halpha x hx)⟩
    rw [trim_of_pads hword hpads, dif_pos ((three_capitals_iff letters).2 ⟨hlength, halpha⟩)]
    cases c
    cases hcode
    rfl

theorem parse?_code (c : Currency) : parse? c.code = some c := by
  obtain ⟨hlength, hcapital⟩ := c.three_capitals
  rw [List.all_eq_true] at hcapital
  have hrange (x : Char) (hx : x ∈ c.code.toList) : 65 ≤ x.toNat ∧ x.toNat ≤ 90 :=
    isCapital_iff.1 (hcapital x hx)
  have hupper : c.code.toList.map Char.toUpper = c.code.toList := by
    refine (List.map_congr_left fun x hx => ?_).trans (List.map_id _)
    have h := toNat_toUpper x
    rw [if_neg (by have := hrange x hx; omega)] at h
    exact Char.toNat_inj.1 h
  refine parse?_eq_some_iff.2 ⟨c.code.toList, pads_self _, hlength, fun x hx => ?_, ?_⟩
  · exact isAlpha_iff.2 (.inl (hrange x hx))
  · rw [hupper, String.ofList_toList]

end Currency

end Bookkeeping

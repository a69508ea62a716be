import Bookkeeping.Text.Key
import Mathlib.Tactic.SplitIfs

namespace Bookkeeping.Text

section Lookup

variable {lo n : Nat}

def runsFrom (lo : Nat) (runs : List (Nat × List α)) : List (Nat × List α) :=
  runs.dropWhile fun r => Nat.ble (r.1 + r.2.length) lo

theorem findRun_runsFrom (h : lo ≤ n) (runs : List (Nat × List α)) :
    findRun (runsFrom lo runs) n = findRun runs n := by
  induction runs with
  | nil => rfl
  | cons r runs ih =>
    obtain ⟨first, targets⟩ := r
    rw [runsFrom, List.dropWhile_cons]
    split
    · rename_i hend
      have hend : first + targets.length ≤ lo := Nat.le_of_ble_eq_true hend
      have hfirst : ¬n < first := by omega
      have hbeyond : targets[n - first]? = none := List.getElem?_eq_none (by omega)
      rw [findRun, if_neg hfirst, hbeyond]
      exact ih
    · rfl

def spansFrom (lo : Nat) (spans : List (Nat × Nat)) : List (Nat × Nat) :=
  spans.dropWhile fun s => Nat.blt s.2 lo && Nat.ble s.1 lo

theorem inSpans_spansFrom (h : lo ≤ n) (spans : List (Nat × Nat)) :
    inSpans (spansFrom lo spans) n = inSpans spans n := by
  induction spans with
  | nil => rfl
  | cons s spans ih =>
    obtain ⟨first, last⟩ := s
    rw [spansFrom, List.dropWhile_cons]
    split
    · rename_i hend
      obtain ⟨hlast, hfirst⟩ := Bool.and_eq_true_iff.1 hend
      have hlast : last < lo := Nat.le_of_ble_eq_true hlast
      have hfirst : first ≤ lo := Nat.le_of_ble_eq_true hfirst
      rw [inSpans, if_neg (show ¬n < first by omega), if_neg (show ¬n ≤ last by omega)]
      exact ih
    · rfl

def capitalsFrom (lo : Nat) (runs : List CapitalRun) : List CapitalRun :=
  runs.dropWhile fun r => Nat.blt r.last lo && Nat.ble r.first lo

theorem smallLetter_capitalsFrom (h : lo ≤ n) (runs : List CapitalRun) :
    smallLetter (capitalsFrom lo runs) n = smallLetter runs n := by
  induction runs with
  | nil => rfl
  | cons r runs ih =>
    rw [capitalsFrom, List.dropWhile_cons]
    split
    · rename_i hend
      obtain ⟨hlast, hfirst⟩ := Bool.and_eq_true_iff.1 hend
      have hlast : r.last < lo := Nat.le_of_ble_eq_true hlast
      have hfirst : r.first ≤ lo := Nat.le_of_ble_eq_true hfirst
      rw [smallLetter, if_neg (show ¬n < r.first by omega),
        if_neg (show ¬(n ≤ r.last ∧ (n - r.first) % r.step = 0) by omega)]
      exact ih
    · rfl

def bareCodesFrom (lo n : Nat) : List Nat :=
  if n < firstDecomposed then [n]
  else if isHangulSyllable n then jamo n
  else match findRun (runsFrom lo letterRuns) n with
    | some t => [t]
    | none => (findRun (runsFrom lo phraseRuns) n).getD [n]

theorem bareCodesFrom_eq (h : lo ≤ n) : bareCodesFrom lo n = bareCodes n := by
  rw [bareCodesFrom, findRun_runsFrom h, findRun_runsFrom h]
  rfl

def lowerFrom (lo : Nat) (c : Char) : List Char :=
  if c.toNat = 0x130 then ['i', Char.ofNat 0x307]
  else if lo ≤ c.toNat then [Char.ofNat (smallLetter (capitalsFrom lo capitalRuns) c.toNat)]
  else [Char.ofNat (smallLetter capitalRuns c.toNat)]

theorem lowerFrom_eq (lo : Nat) : lowerFrom lo = lower := by
  funext c
  rw [lowerFrom, lower]
  split_ifs with hdot hlo
  · rfl
  · rw [smallLetter_capitalsFrom hlo]
  · rfl

def foldFrom (lo n : Nat) : List Char :=
  if inSpans (spansFrom lo markSpans) n then []
  else ((bareCodesFrom lo n).map Char.ofNat).flatMap (lowerFrom lo)

theorem foldFrom_eq {c : Char} (h : lo ≤ c.toNat) : foldFrom lo c.toNat = fold [c] := by
  rw [foldFrom, inSpans_spansFrom h, bareCodesFrom_eq h, lowerFrom_eq, fold, List.flatMap_singleton,
    bare, isMark]
  split_ifs <;> rfl

end Lookup

section Capitals

variable {c : Char}

def CapitalRun.codes (r : CapitalRun) : List Nat :=
  (List.range ((r.last - r.first) / r.step + 1)).map fun i => r.first + i * r.step

theorem CapitalRun.mem_codes {r : CapitalRun} {n : Nat} (hfirst : r.first ≤ n) (hlast : n ≤ r.last)
    (hstep : (n - r.first) % r.step = 0) : n ∈ r.codes := by
  refine List.mem_map.2 ⟨(n - r.first) / r.step, List.mem_range.2 ?_, ?_⟩
  · exact Nat.lt_succ_of_le (Nat.div_le_div_right (by omega))
  · rw [Nat.div_mul_cancel (Nat.dvd_of_mod_eq_zero hstep)]
    omega

theorem smallLetter_cases (runs : List CapitalRun) (n : Nat) : smallLetter runs n = n ∨
    ∃ r ∈ runs, n ∈ r.codes ∧ r.first ≤ n ∧ n ≤ r.last ∧
      smallLetter runs n = (n + r.shift).toNat := by
  induction runs with
  | nil => exact .inl rfl
  | cons r runs ih =>
    rw [smallLetter]
    split_ifs with hfirst hrun
    · exact .inl rfl
    · have hfirst := Nat.le_of_not_lt hfirst
      exact .inr ⟨r, List.mem_cons_self, r.mem_codes hfirst hrun.1 hrun.2, hfirst, hrun.1, rfl⟩
    · exact ih.imp_right fun ⟨r, hr, h⟩ => ⟨r, List.mem_cons_of_mem _ hr, h⟩

theorem small_letters_valid : ∀ r ∈ capitalRuns,
    (0 ≤ r.first + r.shift ∧ r.last + r.shift < 0xD800) ∨
      (0xE000 ≤ r.first + r.shift ∧ r.last + r.shift < 0x110000) := by
  decide +kernel

/-- All capitals fold as their small letters do, and to something, except that the lunate sigma has
a small form that decomposes to a final sigma. -/
theorem capital_checked {r : CapitalRun} {n : Nat} (hr : r ∈ capitalRuns) (hn : n ∈ r.codes) :
    (n ≠ 0x3F9 →
      foldFrom (r.first + r.shift).toNat (n + r.shift).toNat = foldFrom r.first n) ∧
    ∃ d ∈ foldFrom r.first n, isBlank d = false := by
  have hall : (capitalRuns.all fun r => r.codes.all fun n => (n == 0x3F9 ||
      foldFrom (r.first + r.shift).toNat (n + r.shift).toNat == foldFrom r.first n) &&
        (foldFrom r.first n).any (!isBlank ·)) = true := by
    decide +kernel
  have hchecked := List.all_eq_true.1 (List.all_eq_true.1 hall r hr) n hn
  obtain ⟨hfold, hsolid⟩ := Bool.and_eq_true_iff.1 hchecked
  refine ⟨fun hne => ?_, by simpa using hsolid⟩
  rwa [beq_eq_false_iff_ne.2 hne, Bool.false_or, beq_iff_eq] at hfold

theorem lower_cases (c : Char) : lower c = [c] ∨ c.toNat = 0x130 ∨
    ∃ r ∈ capitalRuns, c.toNat ∈ r.codes ∧ ∃ d : Char, lower c = [d] ∧
      d.toNat = (c.toNat + r.shift).toNat ∧ (r.first + r.shift).toNat ≤ d.toNat ∧
      r.first ≤ c.toNat := by
  rw [lower]
  split_ifs with hdot
  · exact .inr (.inl hdot)
  · obtain hsame | ⟨r, hr, hcode, hfirst, hlast, hsmall⟩ := smallLetter_cases capitalRuns c.toNat
    · left
      rw [hsame, Char.ofNat_toNat]
    · have hvalid : (c.toNat + r.shift).toNat.isValidChar := by
        rcases small_letters_valid r hr with h | h
        · exact .inl (by omega)
        · exact .inr (by omega)
      refine .inr (.inr ⟨r, hr, hcode, Char.ofNat (c.toNat + r.shift).toNat, by rw [hsmall], ?_⟩)
      have hcode : (Char.ofNat (c.toNat + r.shift).toNat).toNat = (c.toNat + r.shift).toNat := by
        rw [Char.ofNat, dif_pos hvalid]
        rfl
      rw [hcode]
      omega

theorem fold_lower (h : c.toNat ≠ 0x3F9) : fold (lower c) = fold [c] := by
  obtain hsmall | hdot | ⟨r, hr, hcode, d, hd, hshift, hlo, hfirst⟩ := lower_cases c
  · rw [hsmall]
  · obtain rfl : c = Char.ofNat 0x130 := Char.toNat_inj.1 hdot
    decide +kernel
  · rw [hd, ← foldFrom_eq hlo, ← foldFrom_eq hfirst, hshift, (capital_checked hr hcode).1 h]

theorem solid_of_lower_ne (h : lower c ≠ [c]) : ∃ d ∈ fold [c], isBlank d = false := by
  obtain hsmall | hdot | ⟨r, hr, hcode, d, hd, hshift, hlo, hfirst⟩ := lower_cases c
  · exact absurd hsmall h
  · obtain rfl : c = Char.ofNat 0x130 := Char.toNat_inj.1 hdot
    have hfold : fold [Char.ofNat 0x130] = ['i'] := by decide +kernel
    exact ⟨'i', hfold ▸ List.mem_singleton_self 'i', by decide⟩
  · rw [← foldFrom_eq hfirst]
    exact (capital_checked hr hcode).2

end Capitals

end Bookkeeping.Text

import Bookkeeping.Proofs.Instant.Calendar
import Mathlib.Algebra.Group.Nat.Defs
import Mathlib.Order.Defs.LinearOrder

namespace Bookkeeping

namespace Decimal

variable {w m n : Nat} {x y : List Char}

theorem digit_lt_digit_iff : digit m < digit n ↔ m % 10 < n % 10 := by
  have hm : m % 10 < 10 := Nat.mod_lt _ (by decide)
  have hn : n % 10 < 10 := Nat.mod_lt _ (by decide)
  unfold digit
  generalize m % 10 = a at hm
  generalize n % 10 = b at hn
  decide +revert

theorem digit_inj : digit m = digit n ↔ m % 10 = n % 10 := by
  constructor
  · intro h
    rw [← digitValue_digit, h, digitValue_digit]
  · intro h
    rw [digit, h]
    rfl

theorem digit_mod (n : Nat) : digit (n % 10) = digit n := digit_inj.2 (Nat.mod_mod n 10)

theorem padded_succ (hw : 0 < w) (n : Nat) : padded (w + 1) n = padded w (n / 10) ++ [digit n] := by
  obtain ⟨w, rfl⟩ : ∃ v, w = v + 1 := ⟨w - 1, by omega⟩
  rw [padded, padded, digits]
  by_cases hn : n < 10
  · rw [if_pos hn, Nat.div_eq_of_lt hn]
    simp [digits, digit, List.replicate_succ']
  · rw [if_neg hn]
    simp [List.append_assoc]

theorem padded_add {v : Nat} (hv : 0 < v) (hw : 0 < w) (n : Nat) :
    padded (v + w) n = padded v (n / 10 ^ w) ++ padded w (n % 10 ^ w) := by
  induction w, hw using Nat.le_induction generalizing n with
  | base =>
    have hone : padded 1 (n % 10) = [digit n] := by
      rw [padded, digits, if_pos (Nat.mod_lt n (by decide)), digit_mod]
      rfl
    rw [padded_succ hv, Nat.pow_one, hone]
  | succ w hw ih =>
    have hlast : digit (n % 10 ^ (w + 1)) = digit n :=
      digit_inj.2 (Nat.mod_mod_of_dvd n (Nat.dvd_mul_left 10 (10 ^ w)))
    have hfirst : n % 10 ^ (w + 1) / 10 = n / 10 % 10 ^ w := by
      rw [Nat.pow_succ', Nat.mod_mul_right_div_self]
    rw [← Nat.add_assoc, padded_succ (by omega), ih, padded_succ hw, hlast, hfirst, Nat.pow_succ',
      Nat.div_div_eq_div_mul, List.append_assoc]

theorem padded_append_lt_iff (hw : 0 < w) (hm : m < 10 ^ w) (hn : n < 10 ^ w) :
    padded w m ++ x < padded w n ++ y ↔ m < n ∨ m = n ∧ x < y := by
  induction w, hw using Nat.le_induction generalizing m n x y with
  | base =>
    have hm : m < 10 := hm
    have hn : n < 10 := hn
    have hone {k : Nat} (hk : k < 10) : padded 1 k = [digit k] := by
      rw [padded, digits, if_pos hk]
      rfl
    rw [hone hm, hone hn, List.singleton_append, List.singleton_append, List.cons_lt_cons_iff,
      digit_lt_digit_iff, digit_inj, Nat.mod_eq_of_lt hm, Nat.mod_eq_of_lt hn]
  | succ w hw ih =>
    have hdiv {k : Nat} (hk : k < 10 ^ (w + 1)) : k / 10 < 10 ^ w := by
      rw [Nat.pow_succ] at hk
      omega
    rw [padded_succ hw, padded_succ hw, List.append_assoc, List.append_assoc,
      ih (hdiv hm) (hdiv hn), List.singleton_append, List.singleton_append,
      List.cons_lt_cons_iff, digit_lt_digit_iff,
      digit_inj]
    by_cases h : x < y <;> simp only [h, and_true, and_false, or_false] <;> omega

theorem padded_append_cons_lt_iff (hw : 0 < w) (hm : m < 10 ^ w) (hn : n < 10 ^ w) {c : Char} :
    padded w m ++ c :: x < padded w n ++ c :: y ↔ m < n ∨ m = n ∧ x < y := by
  rw [padded_append_lt_iff hw hm hn, List.cons_lt_cons_iff]
  simp

theorem isDigit_of_mem_padded {c : Char} (h : c ∈ padded w n) : c.isDigit = true := by
  rcases List.mem_append.1 h with h | h
  · rw [List.eq_of_mem_replicate h]
    rfl
  · exact List.all_eq_true.1 (all_isDigit_digits n) c h

theorem padded_ne_nil (w n : Nat) : padded w n ≠ [] := fun h =>
  digits_ne_nil n (List.append_eq_nil_iff.1 h).2

theorem cons_lt_padded_append {c : Char} (hc : c < '0') : c :: x < padded w n ++ y := by
  cases hp : padded w n with
  | nil => exact absurd hp (padded_ne_nil w n)
  | cons d ds =>
    have hd : d.isDigit = true := isDigit_of_mem_padded (hp ▸ List.mem_cons_self : d ∈ padded w n)
    have hzero : '0' ≤ d := by
      simp only [Char.isDigit, Bool.and_eq_true, decide_eq_true_eq] at hd
      exact hd.1
    rw [List.cons_append, List.cons_lt_cons_iff]
    exact .inl (Nat.lt_of_lt_of_le hc hzero)

end Decimal

namespace Instant

open Decimal (padded padded_add padded_append_lt_iff padded_append_cons_lt_iff
  cons_lt_padded_append)

def zone : List Char := "+00:00".toList

section Fraction

/-- A number of so many groups of three digits, without the last groups that are zero. -/
def groups : Nat → Nat → List Char
  | 0, _ => zone
  | k + 1, n => if n = 0 then zone else padded 3 (n / 1000 ^ k) ++ groups k (n % 1000 ^ k)

variable {m n : Nat}

theorem lt_iff_div_mod (d : Nat) :
    m < n ↔ m / d < n / d ∨ m / d = n / d ∧ m % d < n % d := by
  have hm := Nat.div_add_mod m d
  have hn := Nat.div_add_mod n d
  rcases Nat.lt_trichotomy (m / d) (n / d) with h | h | h
  · exact iff_of_true (Nat.lt_of_div_lt_div h) (.inl h)
  · rw [h] at hm ⊢
    omega
  · exact iff_of_false (Nat.lt_asymm (Nat.lt_of_div_lt_div h)) (by omega)

theorem groups_lt_iff {k : Nat} (hm : m < 1000 ^ k) (hn : n < 1000 ^ k) :
    groups k m < groups k n ↔ m < n := by
  induction k generalizing m n with
  | zero =>
    simp only [groups, Nat.pow_zero, Nat.lt_one_iff] at hm hn ⊢
    simp [hm, hn]
  | succ k ih =>
    have hpos : 0 < 1000 ^ k := Nat.pow_pos (by decide)
    have hdiv {j : Nat} (hj : j < 1000 ^ (k + 1)) : j / 1000 ^ k < 10 ^ 3 :=
      Nat.div_lt_of_lt_mul hj
    have hzone (j : Nat) (x : List Char) : zone < padded 3 j ++ x :=
      cons_lt_padded_append (by decide)
    rw [groups, groups]
    split_ifs with h0 h1 h1
    · simp [h0, h1]
    · exact iff_of_true (hzone _ _) (by omega)
    · exact iff_of_false (List.lt_asymm (hzone _ _)) (by omega)
    · rw [padded_append_lt_iff (by decide) (hdiv hm) (hdiv hn),
        ih (Nat.mod_lt _ hpos) (Nat.mod_lt _ hpos), ← lt_iff_div_mod]

theorem groups_of_ne_zero {k : Nat} (h : n ≠ 0) :
    groups (k + 1) n = padded 3 (n / 1000 ^ k) ++ groups k (n % 1000 ^ k) := by
  rw [groups, if_neg h]

theorem writtenFraction_append_zone (n : Nat) :
    writtenFraction n ++ zone = if n = 0 then zone else '.' :: groups 3 n := by
  have hzero (k : Nat) : groups k 0 = zone := by cases k <;> rfl
  by_cases h0 : n = 0
  · simp [writtenFraction, h0]
  rw [if_neg h0, groups_of_ne_zero h0, writtenFraction, if_neg h0]
  by_cases hmillis : n % 1000000 = 0
  · rw [if_pos hmillis, show n % 1000 ^ 2 = 0 from hmillis, hzero]
    rfl
  have hmicros : n % 1000 ^ 2 ≠ 0 := hmillis
  rw [if_neg hmillis, groups_of_ne_zero hmicros]
  by_cases hnanos : n % 1000 = 0
  · have hlast : n % 1000 ^ 2 % 1000 ^ 1 = 0 := by omega
    have hdiv : n / 1000 % 10 ^ 3 = n % 1000 ^ 2 / 1000 ^ 1 := by omega
    rw [if_pos hnanos, padded_add (v := 3) (w := 3) (by decide) (by decide), hlast, hzero,
      Nat.div_div_eq_div_mul, hdiv]
    simp
  · have hlast : n % 1000 ^ 2 % 1000 ^ 1 ≠ 0 := by omega
    have hdiv : n / 10 ^ 3 % 10 ^ 3 = n % 1000 ^ 2 / 1000 ^ 1 := by omega
    rw [if_neg hnanos, groups_of_ne_zero hlast,
      padded_add (v := 6) (w := 3) (by decide) (by decide),
      padded_add (v := 3) (w := 3) (by decide) (by decide), Nat.div_div_eq_div_mul, hdiv]
    simp [groups]

theorem writtenFraction_lt_iff (hm : m < 1000000000) (hn : n < 1000000000) :
    writtenFraction m ++ zone < writtenFraction n ++ zone ↔ m < n := by
  rw [writtenFraction_append_zone, writtenFraction_append_zone]
  split_ifs with h0 h1 h1
  · simp [h0, h1]
  · have hpoint : zone < '.' :: groups 3 n := List.cons_lt_cons_iff.2 (.inl (by decide))
    exact iff_of_true hpoint (by omega)
  · have hpoint : zone < '.' :: groups 3 m := List.cons_lt_cons_iff.2 (.inl (by decide))
    exact iff_of_false (List.lt_asymm hpoint) (by omega)
  · rw [List.cons_lt_cons_iff, groups_lt_iff hm hn]
    simp

end Fraction

section Order

instance : LE Instant := ⟨fun a b => a.le b = true⟩

instance : LT Instant := ⟨fun a b => a ≤ b ∧ ¬b ≤ a⟩

variable {a b : Instant}

theorem le_iff : a ≤ b ↔ a.seconds < b.seconds ∨ a.seconds = b.seconds ∧ a.nanos ≤ b.nanos := by
  change a.le b = true ↔ _
  simp [Instant.le]

theorem eq_of_le_of_le (hab : a ≤ b) (hba : b ≤ a) : a = b := by
  rw [le_iff] at hab hba
  obtain ⟨s, n, h⟩ := a
  obtain ⟨s', n', h'⟩ := b
  obtain ⟨rfl, rfl⟩ : s = s' ∧ n = n' := by
    simp only at hab hba
    omega
  rfl

instance : LinearOrder Instant where
  le_refl a := le_iff.2 (.inr ⟨rfl, le_rfl⟩)
  le_trans a b c hab hbc := by
    rw [le_iff] at hab hbc ⊢
    omega
  le_antisymm a b := eq_of_le_of_le
  le_total a b := by
    rw [le_iff, le_iff]
    omega
  toDecidableLE a b := inferInstanceAs (Decidable (a.le b = true))

theorem lt_iff : a < b ↔ a.seconds < b.seconds ∨ a.seconds = b.seconds ∧ a.nanos < b.nanos := by
  rw [lt_iff_le_not_ge, le_iff, le_iff]
  omega

end Order

section FourDigits

def HasFourDigitYear (t : Instant) : Prop := 0 ≤ t.day.year ∧ t.day.year ≤ 9999

instance (t : Instant) : Decidable t.HasFourDigitYear :=
  inferInstanceAs (Decidable (_ ∧ _))

variable {a b t : Instant}

theorem HasFourDigitYear.writtenYear (h : t.HasFourDigitYear) :
    writtenYear t.day.year = padded 4 t.day.year.toNat := if_pos h

theorem writtenYear_of_not (h : ¬t.HasFourDigitYear) :
    ∃ c < '0', writtenYear t.day.year = c :: padded 4 t.day.year.natAbs := by
  rw [Instant.writtenYear]
  split_ifs with hyear hneg
  · exact absurd hyear h
  · exact ⟨'-', by decide, rfl⟩
  · exact ⟨'+', by decide, rfl⟩

def secondOfMinute (t : Instant) : Nat := t.secondOfDay % 60 + t.nanos / 1000000000

def clock (t : Instant) : List Char :=
  padded 2 (t.secondOfDay / 3600) ++ ':' :: (padded 2 (t.secondOfDay / 60 % 60) ++
    ':' :: (padded 2 t.secondOfMinute ++ (writtenFraction (t.nanos % 1000000000) ++ zone)))

theorem toList_stamp (t : Instant) : t.stamp.toList = writtenYear t.day.year ++
    '-' :: (padded 2 t.day.month ++ '-' :: (padded 2 t.day.day ++ 'T' :: t.clock)) := by
  simp [stamp, written, clock, secondOfMinute, zone]

theorem secondOfDay_lt (t : Instant) : t.secondOfDay < 86400 := by
  unfold secondOfDay
  omega

theorem secondOfMinute_lt (t : Instant) : t.secondOfMinute < 10 ^ 2 := by
  have h := t.nanos_lt
  unfold secondOfMinute
  omega

theorem clock_lt_clock (hday : a.seconds / 86400 = b.seconds / 86400) (h : a < b) :
    a.clock < b.clock := by
  have hsa := a.secondOfDay_lt
  have hsb := b.secondOfDay_lt
  have hna := a.nanos_lt
  have hnb := b.nanos_lt
  rw [clock, clock, padded_append_cons_lt_iff (by decide) (by omega) (by omega),
    padded_append_cons_lt_iff (by decide) (by omega) (by omega),
    padded_append_lt_iff (by decide) a.secondOfMinute_lt b.secondOfMinute_lt,
    writtenFraction_lt_iff (Nat.mod_lt _ (by decide)) (Nat.mod_lt _ (by decide))]
  rw [lt_iff] at h
  unfold secondOfMinute secondOfDay at *
  omega

theorem stamp_lt_of_day_or_clock (ha : a.HasFourDigitYear) (hb : b.HasFourDigitYear)
    (h : a.day.Before b.day ∨ a.day = b.day ∧ a.clock < b.clock) : a.stamp < b.stamp := by
  have hmonth (t : Instant) : 1 ≤ t.day.month ∧ t.day.month ≤ 12 := Day.month_ofNumber _
  have hday (t : Instant) : t.day.day ≤ 31 := Day.day_ofNumber_le _
  have hma := hmonth a
  have hmb := hmonth b
  have hda := hday a
  have hdb := hday b
  rw [String.lt_iff, toList_stamp, toList_stamp, ha.writtenYear, hb.writtenYear]
  obtain ⟨ha0, ha9⟩ := ha
  obtain ⟨hb0, hb9⟩ := hb
  rw [padded_append_cons_lt_iff (by decide) (by omega) (by omega),
    padded_append_cons_lt_iff (by decide) (by omega) (by omega),
    padded_append_cons_lt_iff (by decide) (by omega) (by omega)]
  rcases h with h | ⟨hsame, hclock⟩
  · simp only [Day.Before, Day.months] at h
    omega
  · rw [hsame]
    exact .inr ⟨rfl, .inr ⟨rfl, .inr ⟨rfl, hclock⟩⟩⟩

theorem stamp_lt_of_lt (ha : a.HasFourDigitYear) (hb : b.HasFourDigitYear) (h : a < b) :
    a.stamp < b.stamp := by
  refine stamp_lt_of_day_or_clock ha hb ?_
  have hle : a.seconds / 86400 ≤ b.seconds / 86400 := by
    rw [lt_iff] at h
    omega
  rcases Int.lt_or_eq_of_le hle with hday | hday
  · exact .inl (Day.ofNumber_before hday)
  · exact .inr ⟨congrArg Day.ofNumber hday, clock_lt_clock hday h⟩

theorem stamp_lt_stamp (ha : a.HasFourDigitYear) (hb : b.HasFourDigitYear) :
    a.stamp < b.stamp ↔ a < b := by
  refine ⟨fun h => ?_, stamp_lt_of_lt ha hb⟩
  rcases lt_trichotomy a b with hlt | rfl | hlt
  · exact hlt
  · exact absurd h (String.lt_irrefl _)
  · exact absurd (stamp_lt_of_lt hb ha hlt) (String.lt_asymm h)

theorem stamp_le_stamp (ha : a.HasFourDigitYear) (hb : b.HasFourDigitYear) :
    a.stamp ≤ b.stamp ↔ a ≤ b := by
  rw [← String.not_lt, stamp_lt_stamp hb ha, not_lt]

theorem stamp_inj (ha : a.HasFourDigitYear) (hb : b.HasFourDigitYear) :
    a.stamp = b.stamp ↔ a = b := by
  have hle {s t : String} (h : s = t) : s ≤ t := by
    subst h
    exact String.le_refl s
  refine ⟨fun h => le_antisymm ?_ ?_, congrArg stamp⟩
  · exact (stamp_le_stamp ha hb).1 (hle h)
  · exact (stamp_le_stamp hb ha).1 (hle h.symm)

theorem stamp_lt_of_sign (ha : ¬a.HasFourDigitYear) (hb : b.HasFourDigitYear) :
    a.stamp < b.stamp := by
  -- either sign comes before every digit
  obtain ⟨c, hc, hsign⟩ := writtenYear_of_not ha
  rw [String.lt_iff, toList_stamp, toList_stamp, hsign, hb.writtenYear]
  exact cons_lt_padded_append hc

end FourDigits

end Instant

end Bookkeeping

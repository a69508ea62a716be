import Bookkeeping.Instant.Basic
import Mathlib.Order.Monotone.Basic
import Mathlib.Tactic.ByContra

/-! The calendar runs with time: of two days the later one has the later month, or the same month
and the later day in it. -/

namespace Bookkeeping.Day

section Period

def daysBefore (year : Nat) : Nat := 365 * year + year / 4 - year / 100 + year / 400

def yearsBefore (day : Nat) : Nat := (day - day / 1460 + day / 36524 - day / 146096) / 365

/-- A day of a period of 400 years by its century, the four years in the century, the year in these
and the day in the year. Only the last year of four can have one more day, and only the last century
can as well. -/
structure Parts (n c q r d : Nat) : Prop where
  sum : n = 36524 * c + 1461 * q + 365 * r + d
  century : c < 4
  cycle : q < 25
  year : r < 4
  day : d < 365 ∨ r = 3 ∧ d = 365
  last : n < 36524 * (c + 1) ∨ n = 146096

variable {m n c q r d : Nat}

theorem exists_parts (h : n < 146097) : ∃ c q r d, Parts n c q r d := by
  obtain ⟨c, x, hx, hc, hle, hlast⟩ : ∃ c x, n = 36524 * c + x ∧ c < 4 ∧ x ≤ 36524 ∧
      (x < 36524 ∨ n = 146096) := by
    by_cases h4 : n = 146096
    · exact ⟨3, 36524, h4, by decide, le_rfl, .inr h4⟩
    · exact ⟨n / 36524, n % 36524, by omega, by omega, by omega, by omega⟩
  obtain ⟨r, d, hd, hr, hday⟩ : ∃ r d, x % 1461 = 365 * r + d ∧ r < 4 ∧
      (d < 365 ∨ r = 3 ∧ d = 365) := by
    by_cases h4 : x % 1461 = 1460
    · exact ⟨3, 365, h4, by decide, .inr ⟨rfl, rfl⟩⟩
    · exact ⟨x % 1461 / 365, x % 1461 % 365, by omega, by omega, by omega⟩
  exact ⟨c, x / 1461, r, d, by omega, hc, by omega, hr, hday, by omega⟩

theorem Parts.yearsBefore (h : Parts n c q r d) : yearsBefore n = 100 * c + 4 * q + r := by
  obtain ⟨hsum, hc, hq, hr, hd, hlast⟩ := h
  have hcenturies : n / 36524 = c + n / 146096 := by omega
  have hleaps : n / 1460 = 25 * c + q ∧ d < 365 ∨ n / 1460 = 25 * c + q + 1 ∧ 0 < d := by omega
  unfold Day.yearsBefore
  omega

theorem Parts.daysBefore (h : Parts n c q r d) :
    daysBefore (100 * c + 4 * q + r) = 36524 * c + 1461 * q + 365 * r := by
  obtain ⟨-, hc, hq, hr, -, -⟩ := h
  have hfour : (100 * c + 4 * q + r) / 4 = 25 * c + q := by omega
  have hcentury : (100 * c + 4 * q + r) / 100 = c := by omega
  unfold Day.daysBefore
  omega

theorem Parts.lt_daysBefore (h : Parts n c q r d) :
    n < Day.daysBefore (100 * c + 4 * q + r + 1) := by
  obtain ⟨hsum, hc, hq, hr, hd, hlast⟩ := h
  unfold Day.daysBefore
  rcases Nat.lt_or_eq_of_le (Nat.le_of_lt_succ hr) with hr | rfl
  · have hfour : (100 * c + 4 * q + r + 1) / 4 = 25 * c + q := by omega
    have hcentury : (100 * c + 4 * q + r + 1) / 100 = c := by omega
    omega
  rcases Nat.lt_or_eq_of_le (Nat.le_of_lt_succ hq) with hq | rfl
  · have hfour : (100 * c + 4 * q + 3 + 1) / 4 = 25 * c + q + 1 := by omega
    have hcentury : (100 * c + 4 * q + 3 + 1) / 100 = c := by omega
    omega
  · have hfour : (100 * c + 4 * 24 + 3 + 1) / 4 = 25 * (c + 1) := by omega
    have hcentury : (100 * c + 4 * 24 + 3 + 1) / 100 = c + 1 := by omega
    omega

theorem daysBefore_le_succ (n : Nat) : daysBefore n ≤ daysBefore (n + 1) := by
  unfold daysBefore
  omega

theorem daysBefore_succ_le (n : Nat) : daysBefore (n + 1) ≤ daysBefore n + 366 := by
  unfold daysBefore
  omega

theorem daysBefore_yearsBefore (h : n < 146097) : yearsBefore n < 400 ∧
    daysBefore (yearsBefore n) ≤ n ∧ n < daysBefore (yearsBefore n + 1) := by
  obtain ⟨c, q, r, d, hp⟩ := exists_parts h
  rw [hp.yearsBefore]
  have hstart := hp.daysBefore
  have hend := hp.lt_daysBefore
  obtain ⟨hsum, hc, hq, hr, -, -⟩ := hp
  omega

theorem yearsBefore_mono (hn : n < 146097) (h : m ≤ n) : yearsBefore m ≤ yearsBefore n := by
  by_contra hlt
  have hstart := (daysBefore_yearsBefore (h.trans_lt hn)).2.1
  have hend := (daysBefore_yearsBefore hn).2.2
  have hmono := monotone_nat_of_le_succ daysBefore_le_succ (Nat.succ_le_of_lt (not_le.1 hlt))
  simp only [Nat.succ_eq_add_one] at hmono
  omega

end Period

def months (d : Day) : Int := 12 * d.year + d.month

def Before (a b : Day) : Prop := a.months < b.months ∨ a.months = b.months ∧ a.day < b.day

section Number

def dayOfPeriod (n : Int) : Nat := ((n + 719468) % 146097).toNat

def marchYear (n : Int) : Int := (n + 719468) / 146097 * 400 + yearsBefore (dayOfPeriod n)

def dayOfYear (n : Int) : Nat := dayOfPeriod n - daysBefore (yearsBefore (dayOfPeriod n))

theorem dayOfPeriod_lt (n : Int) : dayOfPeriod n < 146097 := by
  unfold dayOfPeriod
  omega

theorem dayOfYear_lt (n : Int) : dayOfYear n < 366 := by
  have hspec := daysBefore_yearsBefore (dayOfPeriod_lt n)
  have hle := daysBefore_succ_le (yearsBefore (dayOfPeriod n))
  unfold dayOfYear
  omega

def marchMonth (n : Int) : Nat := (5 * dayOfYear n + 2) / 153

theorem marchMonth_lt (n : Int) : marchMonth n < 12 := by
  have h := dayOfYear_lt n
  unfold marchMonth
  omega

theorem ofNumber_eq (n : Int) : ofNumber n =
    let month := if marchMonth n < 10 then marchMonth n + 3 else marchMonth n - 9
    { year := if month ≤ 2 then marchYear n + 1 else marchYear n
      month := month
      day := dayOfYear n - (153 * marchMonth n + 2) / 5 + 1 } := by
  have hyear : daysBefore (yearsBefore (dayOfPeriod n)) =
      365 * yearsBefore (dayOfPeriod n) + yearsBefore (dayOfPeriod n) / 4 -
        yearsBefore (dayOfPeriod n) / 100 := by
    have h := (daysBefore_yearsBefore (dayOfPeriod_lt n)).1
    rw [daysBefore, Nat.div_eq_of_lt h]
    rfl
  simp only [marchMonth, dayOfYear, hyear]
  rfl

theorem months_ofNumber (n : Int) :
    (ofNumber n).months = 12 * marchYear n + marchMonth n + 3 := by
  have h := marchMonth_lt n
  rw [ofNumber_eq]
  simp only [months]
  split_ifs <;> omega

theorem month_ofNumber (n : Int) : 1 ≤ (ofNumber n).month ∧ (ofNumber n).month ≤ 12 := by
  have h := marchMonth_lt n
  rw [ofNumber_eq]
  simp only
  split_ifs <;> omega

theorem day_ofNumber_le (n : Int) : (ofNumber n).day ≤ 31 := by
  have h := dayOfYear_lt n
  rw [ofNumber_eq]
  simp only [marchMonth]
  omega

theorem marchYear_lt_or {m n : Int} (h : m < n) :
    marchYear m < marchYear n ∨ marchYear m = marchYear n ∧ dayOfYear m < dayOfYear n := by
  have hm := daysBefore_yearsBefore (dayOfPeriod_lt m)
  have hn := daysBefore_yearsBefore (dayOfPeriod_lt n)
  simp only [marchYear, dayOfYear]
  by_cases hperiod : (m + 719468) / 146097 = (n + 719468) / 146097
  · have hday : dayOfPeriod m < dayOfPeriod n := by
      unfold dayOfPeriod
      omega
    have hyear := yearsBefore_mono (dayOfPeriod_lt n) hday.le
    rcases Nat.lt_or_eq_of_le hyear with hyear | hyear
    · exact .inl (by omega)
    · rw [hyear] at hm ⊢
      exact .inr (by omega)
  · exact .inl (by omega)

theorem ofNumber_before {m n : Int} (h : m < n) : (ofNumber m).Before (ofNumber n) := by
  have hm := marchMonth_lt m
  rw [Before, months_ofNumber, months_ofNumber, ofNumber_eq, ofNumber_eq]
  rcases marchYear_lt_or h with hyear | ⟨hyear, hday⟩
  · exact .inl (by omega)
  · have hmonth : marchMonth m ≤ marchMonth n := by
      unfold marchMonth
      omega
    rcases Nat.lt_or_eq_of_le hmonth with hmonth | hmonth
    · exact .inl (by omega)
    · refine .inr ⟨by rw [hyear, hmonth], ?_⟩
      simp only [hmonth]
      unfold marchMonth at hmonth ⊢
      omega

end Number

end Bookkeeping.Day

import Bookkeeping.Money
import Bookkeeping.Proofs.Text.Spelling
import Mathlib.Data.List.DropRight

namespace Bookkeeping

open Text (isBlank IsWord)

namespace Decimal

theorem value?_eq_some_iff {cs : List Char} {n : Nat} :
    value? cs = some n ↔ cs ≠ [] ∧ (∀ c ∈ cs, c.isDigit = true) ∧ value cs = n := by
  rw [value?, ← List.all_eq_true]
  by_cases h : cs ≠ [] ∧ cs.all Char.isDigit = true
  · rw [if_pos h, Option.some.injEq]
    exact ⟨fun hn => ⟨h.1, h.2, hn⟩, fun hn => hn.2.2⟩
  · rw [if_neg h]
    exact ⟨fun hn => absurd hn.symm (Option.some_ne_none n), fun hn => absurd ⟨hn.1, hn.2.1⟩ h⟩

theorem isDigit_iff {c : Char} : c.isDigit = true ↔ 48 ≤ c.toNat ∧ c.toNat ≤ 57 := by
  simp only [Char.isDigit, Bool.and_eq_true, decide_eq_true_eq, ge_iff_le, UInt32.le_iff_toNat_le]
  rfl

theorem digitValue_le {c : Char} (h : c.isDigit = true) : digitValue c ≤ 9 := by
  have hrange := isDigit_iff.1 h
  rw [digitValue]
  omega

theorem isBlank_of_isDigit {c : Char} (h : c.isDigit = true) : isBlank c = false := by
  have hrange := isDigit_iff.1 h
  simp only [isBlank, Bool.or_eq_false_iff, Bool.and_eq_false_iff, decide_eq_false_iff_not,
    beq_eq_false_iff_ne]
  omega

theorem padded_two {n : Nat} (h : n < 100) : padded 2 n = [digit (n / 10), digit n] := by
  rw [padded, digits]
  by_cases hn : n < 10
  · rw [if_pos hn, Nat.div_eq_of_lt hn]
    rfl
  · have hten : n / 10 < 10 := by omega
    rw [if_neg hn, digits, if_pos hten]
    rfl

end Decimal

namespace Money

open Decimal (value digitValue)

/-- A sign that may be left out, and whether it takes the amount below zero. -/
inductive Sign : List Char → Bool → Prop
  | none : Sign [] false
  | plus : Sign ['+'] false
  | minus : Sign ['-'] true

inductive Fraction : List Char → Nat → Prop
  | none : Fraction [] 0
  | point {p : Char} (hp : isPoint p = true) : Fraction [p] 0
  | tenths {p d : Char} (hp : isPoint p = true) (hd : d.isDigit = true) :
    Fraction [p, d] (10 * digitValue d)
  | hundredths {p d e : Char} (hp : isPoint p = true) (hd : d.isDigit = true)
      (he : e.isDigit = true) :
    Fraction [p, d, e] (10 * digitValue d + digitValue e)

inductive Figure : List Char → Nat → Prop
  | mk {units fraction : List Char} {cents : Nat} (hne : units ≠ [])
      (hunits : ∀ c ∈ units, c.isDigit = true) (hfraction : Fraction fraction cents) :
    Figure (units ++ fraction) (value units * 100 + cents)

/-- The text of an amount: a sign, white space and a figure. -/
inductive Spells : List Char → Bool → Nat → Prop
  | mk {sign gap figure : List Char} {negative : Bool} {n : Nat} (hsign : Sign sign negative)
      (hgap : ∀ c ∈ gap, isBlank c = true) (hfigure : Figure figure n) :
    Spells (sign ++ gap ++ figure) negative n

theorem isPoint_iff {c : Char} : isPoint c = true ↔ c = '.' ∨ c = ',' := by
  simp [isPoint]

theorem isPoint_of_isDigit {c : Char} (h : c.isDigit = true) : isPoint c = false := by
  rw [Bool.eq_false_iff]
  intro hp
  rcases isPoint_iff.1 hp with rfl | rfl <;> exact absurd h (by decide)

theorem isBlank_of_isPoint {c : Char} (h : isPoint c = true) : isBlank c = false := by
  rcases isPoint_iff.1 h with rfl | rfl <;> decide

namespace Fraction

variable {fs : List Char} {cents : Nat}

theorem head (h : Fraction fs cents) : ∀ p ∈ fs.head?, isPoint p = true := by
  cases h <;> simp_all

theorem solid (h : Fraction fs cents) : ∀ c ∈ fs, isBlank c = false := by
  cases h <;> simp_all [isBlank_of_isPoint, Decimal.isBlank_of_isDigit]

end Fraction

theorem hundredths?_eq_some_iff {fs : List Char} {cents : Nat}
    (h : ∀ p ∈ fs.head?, isPoint p = true) :
    hundredths? (fs.drop 1) = some cents ↔ Fraction fs cents := by
  match fs with
  | [] =>
    constructor
    · rintro ⟨⟩
      exact .none
    · rintro ⟨⟩
      rfl
  | [p] =>
    constructor
    · rintro ⟨⟩
      exact .point (h p rfl)
    · rintro ⟨⟩
      rfl
  | [p, d] =>
    show (Decimal.value? [d]).map (10 * ·) = some cents ↔ _
    simp only [Option.map_eq_some_iff, Decimal.value?_eq_some_iff, List.forall_mem_singleton]
    constructor
    · rintro ⟨_, ⟨-, hd, rfl⟩, rfl⟩
      simpa [value] using Fraction.tenths (h p rfl) hd
    · intro hf
      cases hf with
      | tenths _ hd => exact ⟨digitValue d, ⟨List.cons_ne_nil d [], hd, by simp [value]⟩, rfl⟩
  | [p, d, e] =>
    show Decimal.value? [d, e] = some cents ↔ _
    simp only [Decimal.value?_eq_some_iff, List.forall_mem_cons]
    constructor
    · rintro ⟨-, ⟨hd, he, -⟩, rfl⟩
      simpa [value] using Fraction.hundredths (h p rfl) hd he
    · intro hf
      cases hf with
      | hundredths _ hd he =>
        exact ⟨List.cons_ne_nil d [e], ⟨hd, he, List.forall_mem_nil _⟩, by simp [value]⟩
  | p :: d :: e :: f :: rest =>
    constructor
    · intro hn
      cases hn
    · intro hf
      cases hf

theorem hundredths?_lt {cs : List Char} {cents : Nat} (h : hundredths? cs = some cents) :
    cents < 100 := by
  have hpoint : ∀ p ∈ ('.' :: cs).head?, isPoint p = true := by simp [isPoint]
  cases (hundredths?_eq_some_iff hpoint).1 h with
  | point => omega
  | tenths _ hd =>
    have hd := Decimal.digitValue_le hd
    omega
  | hundredths _ hd he =>
    have hd := Decimal.digitValue_le hd
    have he := Decimal.digitValue_le he
    omega

theorem head_dropWhile (p : Char → Bool) (cs : List Char) :
    ∀ c ∈ (cs.dropWhile (!p ·)).head?, p c = true := by
  rw [← List.find?_eq_head?_dropWhile_not]
  exact fun c hc => List.find?_some hc

theorem split_units {units fraction : List Char} (hunits : ∀ c ∈ units, c.isDigit = true)
    (hfraction : ∀ p ∈ fraction.head?, isPoint p = true) :
    (units ++ fraction).takeWhile (!isPoint ·) = units ∧
      (units ++ fraction).dropWhile (!isPoint ·) = fraction := by
  have hpoint : ∀ c ∈ units, (!isPoint c) = true := fun c hc => by
    rw [isPoint_of_isDigit (hunits c hc), Bool.not_false]
  rw [List.takeWhile_append_of_pos hpoint, List.dropWhile_append_of_pos hpoint]
  cases fraction with
  | nil => exact ⟨List.append_nil units, rfl⟩
  | cons p fs => simp [hfraction p rfl]

theorem magnitude?_of_figure {cs : List Char} {n : Nat} (h : Figure cs n) :
    magnitude? cs = if (n : Int) ≤ greatestWord then some n else none := by
  cases h with
  | @mk units fraction cents hne hunits hfraction =>
    obtain ⟨htake, hdrop⟩ := split_units hunits hfraction.head
    have hvalue : Decimal.value? units = some (value units) :=
      Decimal.value?_eq_some_iff.2 ⟨hne, hunits, rfl⟩
    have hcents := (hundredths?_eq_some_iff hfraction.head).2 hfraction
    rw [magnitude?, htake, hdrop, hvalue, hcents]
    rfl

theorem figure_of_magnitude? {cs : List Char} {n : Nat} (h : magnitude? cs = some n) :
    Figure cs n ∧ (n : Int) ≤ greatestWord := by
  simp only [magnitude?, Option.bind_eq_bind, Option.bind_eq_some_iff,
    Decimal.value?_eq_some_iff] at h
  obtain ⟨_, ⟨hne, hunits, rfl⟩, cents, hcents, hn⟩ := h
  split_ifs at hn with hle
  cases hn
  have hfraction := (hundredths?_eq_some_iff (head_dropWhile isPoint cs)).1 hcents
  have hfigure := Figure.mk hne hunits hfraction
  rw [List.takeWhile_append_dropWhile] at hfigure
  exact ⟨hfigure, hle⟩

theorem Figure.isWord {cs : List Char} {n : Nat} (h : Figure cs n) : IsWord cs := by
  cases h with
  | mk hne hunits hfraction =>
    refine ⟨by simp [hne], List.forall_mem_append.2 ⟨fun c hc => ?_, hfraction.solid⟩⟩
    exact Decimal.isBlank_of_isDigit (hunits c hc)

theorem Figure.head {cs : List Char} {n : Nat} (h : Figure cs n) :
    ∃ d ds, cs = d :: ds ∧ d.isDigit = true := by
  cases h with
  | @mk units _ _ hne hunits _ =>
    obtain ⟨d, ds, rfl⟩ := List.exists_cons_of_ne_nil hne
    exact ⟨d, _, List.cons_append, hunits d List.mem_cons_self⟩

theorem exists_sign (cs : List Char) :
    ∃ sign, Sign sign (splitSign cs).1 ∧ cs = sign ++ (splitSign cs).2 := by
  rw [splitSign.eq_def]
  split
  · exact ⟨['-'], .minus, rfl⟩
  · exact ⟨['+'], .plus, rfl⟩
  · exact ⟨[], .none, rfl⟩

theorem splitSign_cons {c : Char} (hminus : c ≠ '-') (hplus : c ≠ '+') (cs : List Char) :
    splitSign (c :: cs) = (false, c :: cs) := by
  rw [splitSign.eq_def]
  split
  · rename_i h
    exact absurd (List.cons.inj h).1 hminus
  · rename_i h
    exact absurd (List.cons.inj h).1 hplus
  · rfl

theorem splitSign_append {sign gap figure : List Char} {negative : Bool} {n : Nat}
    (hsign : Sign sign negative) (hgap : ∀ c ∈ gap, isBlank c = true) (hfigure : Figure figure n) :
    splitSign (sign ++ gap ++ figure) = (negative, gap ++ figure) := by
  cases hsign with
  | minus => rfl
  | plus => rfl
  | none =>
    -- neither white space nor a digit is a sign
    rw [List.nil_append]
    cases gap with
    | nil =>
      obtain ⟨d, ds, rfl, hd⟩ := hfigure.head
      exact splitSign_cons (by rintro rfl; cases hd) (by rintro rfl; cases hd) ds
    | cons c gap =>
      have hc := hgap c List.mem_cons_self
      exact splitSign_cons (by rintro rfl; cases hc) (by rintro rfl; cases hc) (gap ++ figure)

theorem trim_append {gap w : List Char} (hgap : ∀ c ∈ gap, isBlank c = true) (hw : IsWord w) :
    Text.trim (gap ++ w) = w := by
  have hstart := Text.trimStart_of_isWord hw []
  rw [List.append_nil] at hstart
  rw [Text.trim, Text.trimStart_append hgap, hstart, Text.trimEnd_of_isWord hw]

theorem trimEnd_trimEnd (cs : List Char) : Text.trimEnd (Text.trimEnd cs) = Text.trimEnd cs := by
  rw [Text.trimEnd, Text.trimEnd, List.reverse_reverse, List.dropWhile_idempotent]

theorem exists_gap {cs sign rest : List Char} (h : Text.trim cs = sign ++ rest) :
    ∃ gap, rest = gap ++ Text.trim rest ∧ ∀ c ∈ gap, isBlank c = true := by
  obtain ⟨gap, hgap, hblank⟩ := Text.exists_trimStart rest
  obtain ⟨after, hafter, hblank'⟩ := Text.exists_trimEnd (Text.trimStart rest)
  have hsplit : Text.trim cs = sign ++ gap ++ Text.trim rest ++ after := by
    rw [h, Text.trim, List.append_assoc, List.append_assoc, ← hafter, ← hgap]
  obtain ⟨cut, hcut, -⟩ := Text.exists_trimEnd (sign ++ gap ++ Text.trim rest)
  -- what is cut off a text that ends with `after` is at least `after`, and here it is nothing
  have hend : Text.trim cs = Text.trimEnd (sign ++ gap ++ Text.trim rest) := by
    rw [← Text.trimEnd_append hblank', ← hsplit, Text.trim, trimEnd_trimEnd]
  have hnil : after = [] := by
    have hlength := congrArg List.length (hsplit.trans (congrArg (· ++ after) hcut))
    rw [hend] at hlength
    simp only [List.length_append] at hlength
    exact List.eq_nil_of_length_eq_zero (by omega)
  rw [hnil, List.append_nil] at hafter
  exact ⟨gap, by rw [Text.trim, ← hafter, ← hgap], hblank⟩

theorem parse?_of_spells {s : String} {negative : Bool} {n : Nat}
    (h : Spells (Text.trim s.toList) negative n) :
    parse? s = if (n : Int) ≤ greatestWord then ofInt? (if negative then -n else n) else none := by
  rw [parse?]
  generalize Text.trim s.toList = cs at h
  obtain ⟨hsign, hgap, hfigure⟩ := h
  simp only [splitSign_append hsign hgap hfigure, trim_append hgap hfigure.isWord,
    magnitude?_of_figure hfigure]
  by_cases hle : (n : Int) ≤ greatestWord <;> simp [hle]

theorem parse?_eq_some_iff {s : String} {m : Money} : parse? s = some m ↔
    ∃ negative n, Spells (Text.trim s.toList) negative n ∧ (n : Int) ≤ greatestWord ∧
      m.minor = if negative then -(n : Int) else n := by
  constructor
  · intro h
    obtain ⟨sign, hsign, ht⟩ := exists_sign (Text.trim s.toList)
    obtain ⟨gap, hrest, hgap⟩ := exists_gap ht
    rw [parse?] at h
    generalize splitSign (Text.trim s.toList) = split at h hsign ht hrest
    obtain ⟨negative, rest⟩ := split
    cases hn : magnitude? (Text.trim rest) with
    | none => simp [hn] at h
    | some n =>
      simp only [hn] at h
      obtain ⟨hfigure, hle⟩ := figure_of_magnitude? hn
      refine ⟨negative, n, ?_, hle, ofInt?_eq_some_iff.1 h⟩
      rw [ht, hrest, ← List.append_assoc]
      exact .mk hsign hgap hfigure
  · rintro ⟨negative, n, hspells, hle, hm⟩
    rw [parse?_of_spells hspells, if_pos hle]
    exact ofInt?_eq_some_iff.2 hm

theorem parse_eq_ok_iff {s : String} {m : Money} : parse s = .ok m ↔ parse? s = some m := by
  rw [parse]
  cases parse? s <;> simp

theorem parse_eq_error_iff {s : String} {e : DomainError} :
    parse s = .error e ↔ parse? s = none ∧ e = .invalidAmount := by
  rw [parse]
  cases parse? s with
  | none => simp [eq_comm]
  | some m => simp

/-- An amount is read from what spells it, if its minor units stay in range on the positive side,
and nothing else reads as an amount. The numbers that are made without a check, the hundredths and
the negated sum, cannot leave the range. -/
theorem parse_accepts_exactly (s : String) :
    (∀ m, parse s = .ok m ↔ ∃ negative n, Spells (Text.trim s.toList) negative n ∧
        (n : Int) ≤ greatestWord ∧ m.minor = if negative then -(n : Int) else n) ∧
      (parse s = .error .invalidAmount ↔
        ¬∃ negative n, Spells (Text.trim s.toList) negative n ∧ (n : Int) ≤ greatestWord) ∧
      ∀ (cs : List Char) (n : Nat), (hundredths? cs = some n → FitsWord n) ∧
        (magnitude? cs = some n → FitsWord n ∧ FitsWord (-n)) := by
  refine ⟨fun m => parse_eq_ok_iff.trans parse?_eq_some_iff, ?_,
    fun cs n => ⟨fun h => ?_, fun h => ?_⟩⟩
  · rw [parse_eq_error_iff, and_iff_left rfl]
    constructor
    · rintro hnone ⟨negative, n, hspells, hle⟩
      have hfits : FitsWord (if negative then -(n : Int) else n) := by
        simp only [FitsWord, leastWord, greatestWord] at hle ⊢
        split <;> omega
      rw [parse?_of_spells hspells, if_pos hle, ofInt?, dif_pos hfits] at hnone
      cases hnone
    · intro hnot
      by_contra hsome
      obtain ⟨m, hm⟩ := Option.ne_none_iff_exists'.1 hsome
      obtain ⟨negative, n, hspells, hle, -⟩ := parse?_eq_some_iff.1 hm
      exact hnot ⟨negative, n, hspells, hle⟩
  · have hlt := hundredths?_lt h
    simp only [FitsWord, leastWord, greatestWord]
    omega
  · have hle := (figure_of_magnitude? h).2
    simp only [FitsWord, leastWord, greatestWord] at hle ⊢
    omega

example : parse " - 12,5 " = .ok ⟨-1250, by decide⟩ := by decide +kernel

theorem fraction_padded {n : Nat} (h : n < 100) : Fraction ('.' :: Decimal.padded 2 n) n := by
  have hfraction := Fraction.hundredths (p := '.') rfl (Decimal.isDigit_digit (n / 10))
    (Decimal.isDigit_digit n)
  have hn : 10 * digitValue (Decimal.digit (n / 10)) + digitValue (Decimal.digit n) = n := by
    rw [Decimal.digitValue_digit, Decimal.digitValue_digit]
    omega
  rw [hn] at hfraction
  rwa [Decimal.padded_two h]

theorem figure_written (n : Nat) :
    Figure (Decimal.digits (n / 100) ++ '.' :: Decimal.padded 2 (n % 100)) n := by
  have hfigure := Figure.mk (Decimal.digits_ne_nil (n / 100))
    (List.all_eq_true.1 (Decimal.all_isDigit_digits _)) (fraction_padded (Nat.mod_lt n (by decide)))
  rwa [Decimal.value_digits, Nat.div_add_mod'] at hfigure

theorem spells_written (m : Money) : Spells m.written (decide (m.minor < 0)) m.minor.natAbs := by
  have hsign : Sign (if m.minor < 0 then ['-'] else []) (decide (m.minor < 0)) := by
    by_cases h : m.minor < 0
    · rw [if_pos h, decide_eq_true h]
      exact .minus
    · rw [if_neg h, decide_eq_false h]
      exact .none
  have hspells := Spells.mk hsign (List.forall_mem_nil _) (figure_written m.minor.natAbs)
  rwa [List.append_nil, ← List.append_assoc] at hspells

theorem isWord_written (m : Money) : IsWord m.written := by
  have hfigure := (figure_written m.minor.natAbs).isWord
  rw [written, List.append_assoc]
  split
  · exact hfigure.cons (by decide)
  · exact hfigure

theorem parse?_display (m : Money) :
    parse? m.display = if m.minor = leastWord then none else some m := by
  have htrim : Text.trim m.display.toList = m.written := by
    rw [display, String.toList_ofList]
    exact trim_append (List.forall_mem_nil _) m.isWord_written
  have hspells := m.spells_written
  rw [← htrim] at hspells
  have hread := parse?_of_spells hspells
  obtain ⟨hleast, hgreatest⟩ := m.fits
  by_cases h : m.minor = leastWord
  · have hout : ¬(m.minor.natAbs : Int) ≤ greatestWord := by
      rw [h]
      decide
    rw [if_neg hout] at hread
    rw [hread, if_pos h]
  · have hin : (m.minor.natAbs : Int) ≤ greatestWord := by
      simp only [leastWord, greatestWord] at h hleast hgreatest ⊢
      omega
    have hm : m.minor =
        if decide (m.minor < 0) then -(m.minor.natAbs : Int) else m.minor.natAbs := by
      by_cases hneg : m.minor < 0
      · rw [decide_eq_true hneg, if_pos rfl]
        omega
      · rw [decide_eq_false hneg, if_neg Bool.false_ne_true]
        omega
    rw [if_pos hin] at hread
    rw [hread, if_neg h]
    exact ofInt?_eq_some_iff.2 hm

/-- An amount that is written down is read back, unless it is the least one: its units and
hundredths without the sign are out of range. -/
theorem parse_display (m : Money) :
    parse m.display = if m.minor = leastWord then .error .invalidAmount else .ok m := by
  rw [parse, parse?_display]
  split_ifs <;> rfl

/-- The least amount has a text that does not read as an amount. -/
theorem least_is_not_read_back :
    let m : Money := ⟨leastWord, by decide⟩
    m.display = "-92233720368547758.08" ∧ parse m.display = .error .invalidAmount :=
  ⟨by decide +kernel, parse_eq_error_iff.2 ⟨(parse?_display _).trans (if_pos rfl), rfl⟩⟩

end Money

end Bookkeeping

namespace Bookkeeping.Decimal

def digit (n : Nat) : Char := Char.ofNat (48 + n % 10)

def digits (n : Nat) : List Char :=
  if n < 10 then [digit n] else digits (n / 10) ++ [digit n]

def padded (width n : Nat) : List Char :=
  List.replicate (width - (digits n).length) '0' ++ digits n

def digitValue (c : Char) : Nat := c.toNat - 48

def value (cs : List Char) : Nat := cs.foldl (fun v c => 10 * v + digitValue c) 0

def value? (cs : List Char) : Option Nat :=
  if cs ≠ [] ∧ cs.all Char.isDigit = true then some (value cs) else none

def signed? : List Char → Option Int
  | '-' :: cs => (value? cs).map fun n => -(n : Int)
  | '+' :: cs => (value? cs).map Int.ofNat
  | cs => (value? cs).map Int.ofNat

theorem isDigit_digit (n : Nat) : (digit n).isDigit = true := by
  have h : n % 10 < 10 := Nat.mod_lt _ (by decide)
  unfold digit
  generalize n % 10 = d at h
  decide +revert

theorem digitValue_digit (n : Nat) : digitValue (digit n) = n % 10 := by
  have h : n % 10 < 10 := Nat.mod_lt _ (by decide)
  unfold digitValue digit
  generalize n % 10 = d at h
  decide +revert

theorem value_append_digit (cs : List Char) (n : Nat) :
    value (cs ++ [digit n]) = 10 * value cs + n % 10 := by
  simp [value, digitValue_digit]

theorem digits_ne_nil (n : Nat) : digits n ≠ [] := by
  rw [digits]
  split <;> simp

theorem all_isDigit_digits (n : Nat) : (digits n).all Char.isDigit = true := by
  induction n using digits.induct with
  | case1 n h => rw [digits]; simp [h, isDigit_digit]
  | case2 n h ih => rw [digits]; simp [h, ih, isDigit_digit]

theorem value_digits (n : Nat) : value (digits n) = n := by
  induction n using digits.induct with
  | case1 n h =>
    rw [digits]
    simp [h, value, digitValue_digit]
  | case2 n h ih =>
    rw [digits]
    simp only [h, if_false, value_append_digit, ih]
    omega

theorem value?_digits (n : Nat) : value? (digits n) = some n := by
  simp only [value?, ne_eq, digits_ne_nil, not_false_eq_true, all_isDigit_digits, and_self,
    if_true, value_digits]

end Bookkeeping.Decimal

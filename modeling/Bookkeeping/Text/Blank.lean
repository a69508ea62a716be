namespace Bookkeeping.Text

/-- The characters with the White_Space property. -/
def isBlank (c : Char) : Bool :=
  let n := c.toNat
  (9 ≤ n && n ≤ 13) || n == 0x20 || n == 0x85 || n == 0xA0 || n == 0x1680
    || (0x2000 ≤ n && n ≤ 0x200A) || n == 0x2028 || n == 0x2029 || n == 0x202F || n == 0x205F
    || n == 0x3000

def startsBlank : List Char → Bool
  | [] => true
  | c :: _ => isBlank c

def words : List Char → List (List Char)
  | [] => []
  | c :: cs =>
    if isBlank c then words cs
    else if startsBlank cs then [c] :: words cs
    else match words cs with
      | [] => [[c]]
      | w :: ws => (c :: w) :: ws

def joinWords : List (List Char) → List Char
  | [] => []
  | [w] => w
  | w :: ws => w ++ ' ' :: joinWords ws

def tidy? (s : String) : Option String :=
  match words s.toList with
  | [] => none
  | ws => some (String.ofList (joinWords ws))

def tidyOption (s : Option String) : Option String := s.bind tidy?

def trimStart (cs : List Char) : List Char := cs.dropWhile isBlank

def trimEnd (cs : List Char) : List Char := (cs.reverse.dropWhile isBlank).reverse

def trim (cs : List Char) : List Char := trimEnd (trimStart cs)

theorem words_eq_nil_iff (cs : List Char) : words cs = [] ↔ ∀ c ∈ cs, isBlank c = true := by
  induction cs with
  | nil => simp [words]
  | cons c cs ih =>
    rw [words]
    split
    · rename_i hc
      simp [ih, hc]
    · rename_i hc
      constructor
      · intro h
        split at h
        · simp at h
        · split at h <;> simp at h
      · intro h
        exact absurd (h c (by simp)) hc

theorem tidy?_eq_none_iff (s : String) : tidy? s = none ↔ ∀ c ∈ s.toList, isBlank c = true := by
  rw [← words_eq_nil_iff, tidy?]
  split <;> simp_all

end Bookkeeping.Text

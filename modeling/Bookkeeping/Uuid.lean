namespace Bookkeeping

structure Uuid where
  digits : List (Fin 16)
  length_digits : digits.length = 32
  deriving DecidableEq

namespace Uuid

def hexDigit (d : Fin 16) : Char :=
  if d.val < 10 then Char.ofNat (48 + d.val) else Char.ofNat (87 + d.val)

def hexValue? (c : Char) : Option (Fin 16) :=
  if '0' ≤ c ∧ c ≤ '9' then some (Fin.ofNat 16 (c.toNat - 48))
  else if 'a' ≤ c ∧ c ≤ 'f' then some (Fin.ofNat 16 (c.toNat - 87))
  else if 'A' ≤ c ∧ c ≤ 'F' then some (Fin.ofNat 16 (c.toNat - 55))
  else none

def hyphenate (cs : List Char) : List Char :=
  cs.take 8 ++ '-' :: ((cs.drop 8).take 4 ++ '-' :: ((cs.drop 12).take 4 ++ '-' ::
    ((cs.drop 16).take 4 ++ '-' :: cs.drop 20)))

def written (u : Uuid) : List Char := hyphenate (u.digits.map hexDigit)

def text (u : Uuid) : String := String.ofList u.written

instance : Repr Uuid := ⟨fun u _ => repr u.text⟩

def ofDigits? (ds : List (Fin 16)) : Option Uuid :=
  if h : ds.length = 32 then some ⟨ds, h⟩ else none

def simple? (cs : List Char) : Option Uuid := (cs.mapM hexValue?).bind ofDigits?

def hasHyphens (cs : List Char) : Bool :=
  cs[8]? == some '-' && cs[13]? == some '-' && cs[18]? == some '-' && cs[23]? == some '-'

def hyphenated? (cs : List Char) : Option Uuid :=
  if hasHyphens cs then
    simple? (cs.take 8 ++ (cs.drop 9).take 4 ++ (cs.drop 14).take 4 ++ (cs.drop 19).take 4
      ++ cs.drop 24)
  else none

/-- Reads the simple, hyphenated, braced and URN forms, in any letter case. -/
def parse? (s : String) : Option Uuid :=
  let cs := s.toList
  if cs.length = 32 then simple? cs
  else if cs.length = 36 then hyphenated? cs
  else if cs.length = 38 ∧ cs.head? = some '\x7b' ∧ cs.getLast? = some '\x7d' then
    hyphenated? (cs.drop 1).dropLast
  else if cs.length = 45 ∧ (cs.take 9).map Char.toLower = "urn:uuid:".toList then
    hyphenated? (cs.drop 9)
  else none

def ofNat (n : Nat) : Uuid :=
  ⟨(List.range 32).map fun i => Fin.ofNat 16 (n / Nat.pow 16 (31 - i)), by simp⟩

/-- The random identifier that takes its bits from a number. Two digits are not random: the version,
which is 4, and the one that starts with the variant. -/
def random (n : Nat) : Uuid :=
  let ds := (ofNat n).digits
  ⟨(ds.set 12 4).set 16 (Fin.ofNat 16 (8 + (ds.getD 16 0).val % 4)), by simp [ds, length_digits]⟩

instance : Inhabited Uuid := ⟨ofNat 0⟩

def number (u : Uuid) : Nat := u.digits.foldl (fun n d => 16 * n + d.val) 0

def le (a b : Uuid) : Bool := a.number ≤ b.number

theorem ext {a b : Uuid} (h : a.digits = b.digits) : a = b := by
  cases a
  cases b
  cases h
  rfl

theorem hexValue?_hexDigit (d : Fin 16) : hexValue? (hexDigit d) = some d := by
  decide +revert

end Uuid

end Bookkeeping

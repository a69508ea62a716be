import Bookkeeping.Proofs.Text.Spelling
import Bookkeeping.Uuid

namespace Bookkeeping.Uuid

open Text (toNat_toLower)

inductive Layout
  | simple
  | hyphenated
  | braced
  | urn

def scheme : List Char := "urn:uuid:".toList

def Layout.write (digits : List Char) : Layout → List Char
  | .simple => digits
  | .hyphenated => hyphenate digits
  | .braced => '\x7b' :: (hyphenate digits ++ ['\x7d'])
  | .urn => scheme ++ hyphenate digits

def Spells (s : String) (u : Uuid) : Prop :=
  ∃ l : Layout, s.toList.map Char.toLower = l.write (u.digits.map hexDigit)

theorem toNat_hexDigit (d : Fin 16) :
    (hexDigit d).toNat = if d.val < 10 then 48 + d.val else 87 + d.val := by
  decide +revert

theorem hexValue?_eq_some_iff {c : Char} {d : Fin 16} :
    hexValue? c = some d ↔ c.toLower = hexDigit d := by
  have hlower := toNat_toLower c
  have hdigit := toNat_hexDigit d
  have hd := d.isLt
  rw [← Char.toNat_inj, hexValue?]
  simp only [Char.le_def, UInt32.le_iff_toNat_le]
  change (if 48 ≤ c.toNat ∧ c.toNat ≤ 57 then _ else if 97 ≤ c.toNat ∧ c.toNat ≤ 102 then _ else
    if 65 ≤ c.toNat ∧ c.toNat ≤ 70 then _ else _) = _ ↔ _
  split_ifs at hlower hdigit ⊢ <;> simp [Fin.ext_iff] <;> omega

theorem mapM_hexValue?_eq_some_iff {cs : List Char} {ds : List (Fin 16)} :
    cs.mapM hexValue? = some ds ↔ cs.map Char.toLower = ds.map hexDigit := by
  induction cs generalizing ds with
  | nil => cases ds <;> simp
  | cons c cs ih =>
    cases ds with
    | nil => simp [List.mapM_cons, Option.bind_eq_some_iff]
    | cons d ds =>
      simp [List.mapM_cons, Option.bind_eq_some_iff, hexValue?_eq_some_iff, ih]

theorem simple?_eq_some_iff {cs : List Char} {u : Uuid} :
    simple? cs = some u ↔ cs.map Char.toLower = u.digits.map hexDigit := by
  rw [simple?, Option.bind_eq_some_iff]
  constructor
  · rintro ⟨ds, hds, hu⟩
    rw [ofDigits?] at hu
    split_ifs at hu
    cases hu
    exact mapM_hexValue?_eq_some_iff.1 hds
  · intro h
    exact ⟨u.digits, mapM_hexValue?_eq_some_iff.2 h, dif_pos u.length_digits⟩

def ungroup (cs : List Char) : List Char :=
  cs.take 8 ++ (cs.drop 9).take 4 ++ (cs.drop 14).take 4 ++ (cs.drop 19).take 4 ++ cs.drop 24

theorem ungroup_append {a b c d e : List Char} (ha : a.length = 8) (hb : b.length = 4)
    (hc : c.length = 4) (hd : d.length = 4) {cs : List Char}
    (h : cs = a ++ '-' :: (b ++ '-' :: (c ++ '-' :: (d ++ '-' :: e)))) :
    ungroup cs = a ++ b ++ c ++ d ++ e := by
  simp [ungroup, h, ha, hb, hc, hd, List.drop_append, List.drop_of_length_le]

theorem group_append_drop (cs : List Char) (n : Nat) :
    (cs.drop n).take 4 ++ cs.drop (n + 4) = cs.drop n := by
  rw [← List.drop_drop, List.take_append_drop]

theorem join_groups (cs : List Char) :
    cs.take 8 ++ (cs.drop 8).take 4 ++ (cs.drop 12).take 4 ++ (cs.drop 16).take 4 ++ cs.drop 20
      = cs := by
  simp only [List.append_assoc]
  rw [group_append_drop cs 16, group_append_drop cs 12, group_append_drop cs 8,
    List.take_append_drop]

theorem ungroup_hyphenate {cs : List Char} (h : cs.length = 32) : ungroup (hyphenate cs) = cs := by
  have hgroups : ungroup (hyphenate cs) = _ :=
    ungroup_append (by simp [h]) (by simp [h]) (by simp [h]) (by simp [h]) rfl
  rw [hgroups, join_groups]

theorem hasHyphens_hyphenate {cs : List Char} (h : cs.length = 32) :
    hasHyphens (hyphenate cs) = true := by
  simp [hasHyphens, hyphenate, h]

theorem drop_eq_cons {cs : List Char} {n : Nat} {c : Char} (h : cs[n]? = some c) :
    cs.drop n = c :: cs.drop (n + 1) := by
  obtain ⟨hn, rfl⟩ := List.getElem?_eq_some_iff.1 h
  exact List.drop_eq_getElem_cons hn

theorem hyphenate_append {a b c d e : List Char} (ha : a.length = 8) (hb : b.length = 4)
    (hc : c.length = 4) (hd : d.length = 4) :
    hyphenate (a ++ b ++ c ++ d ++ e) =
      a ++ '-' :: (b ++ '-' :: (c ++ '-' :: (d ++ '-' :: e))) := by
  simp [hyphenate, ha, hb, hc, hd, List.drop_append, List.drop_of_length_le]

theorem hyphenate_ungroup {cs : List Char} (h : hasHyphens cs = true) :
    hyphenate (ungroup cs) = cs := by
  simp only [hasHyphens, Bool.and_eq_true, beq_iff_eq] at h
  obtain ⟨⟨⟨h₈, h₁₃⟩, h₁₈⟩, h₂₃⟩ := h
  have hlength : 23 < cs.length := (List.getElem?_eq_some_iff.1 h₂₃).1
  rw [ungroup, hyphenate_append (by simp; omega) (by simp; omega) (by simp; omega) (by simp; omega),
    ← drop_eq_cons h₂₃, group_append_drop cs 19, ← drop_eq_cons h₁₈, group_append_drop cs 14,
    ← drop_eq_cons h₁₃, group_append_drop cs 9, ← drop_eq_cons h₈, List.take_append_drop]

theorem toLower_eq_iff {c d : Char} (hd : d.toNat < 97 ∨ 122 < d.toNat)
    (hd' : d.toNat < 65 ∨ 90 < d.toNat) : c.toLower = d ↔ c = d := by
  have h := toNat_toLower c
  rw [← Char.toNat_inj, ← Char.toNat_inj]
  split_ifs at h <;> omega

theorem hasHyphens_map_toLower (cs : List Char) :
    hasHyphens (cs.map Char.toLower) = hasHyphens cs := by
  have hlower (c : Char) : c.toLower = '-' ↔ c = '-' := toLower_eq_iff (by decide) (by decide)
  rw [Bool.eq_iff_iff]
  simp [hasHyphens, hlower]

theorem map_ungroup (f : Char → Char) (cs : List Char) :
    (ungroup cs).map f = ungroup (cs.map f) := by
  simp [ungroup, List.map_take, List.map_drop]

theorem hyphenated?_eq_some_iff {cs : List Char} {u : Uuid} :
    hyphenated? cs = some u ↔ cs.map Char.toLower = hyphenate (u.digits.map hexDigit) := by
  have hdigits : (u.digits.map hexDigit).length = 32 := by simp [u.length_digits]
  have hread : hyphenated? cs = if hasHyphens cs then simple? (ungroup cs) else none := rfl
  rw [hread]
  constructor
  · intro h
    split_ifs at h with hhyphens
    rw [simple?_eq_some_iff, map_ungroup] at h
    rw [← h, hyphenate_ungroup (by rwa [hasHyphens_map_toLower])]
  · intro h
    have hhyphens : hasHyphens cs = true := by
      rw [← hasHyphens_map_toLower, h, hasHyphens_hyphenate hdigits]
    rw [if_pos hhyphens, simple?_eq_some_iff, map_ungroup, h, ungroup_hyphenate hdigits]

theorem length_scheme : scheme.length = 9 := by decide

theorem length_write {digits : List Char} (h : digits.length = 32) (l : Layout) :
    (l.write digits).length = match l with
      | .simple => 32
      | .hyphenated => 36
      | .braced => 38
      | .urn => 45 := by
  cases l <;> simp [Layout.write, hyphenate, h, length_scheme]

theorem map_toLower_eq_braced_iff {cs : List Char} (ds : List Char) (h : 2 ≤ cs.length) :
    cs.map Char.toLower = '\x7b' :: (ds ++ ['\x7d']) ↔
      cs.head? = some '\x7b' ∧ cs.getLast? = some '\x7d' ∧
        (cs.drop 1).dropLast.map Char.toLower = ds := by
  have hopen (c : Char) : c.toLower = '\x7b' ↔ c = '\x7b' :=
    toLower_eq_iff (by decide) (by decide)
  have hclose (c : Char) : c.toLower = '\x7d' ↔ c = '\x7d' :=
    toLower_eq_iff (by decide) (by decide)
  cases cs with
  | nil => cases h
  | cons c cs =>
    rcases List.eq_nil_or_concat cs with rfl | ⟨mid, d, rfl⟩
    · simp at h
    · have hlast : (c :: (mid ++ [d])).getLast? = some d :=
        List.getLast?_concat (l := c :: mid)
      simp [hopen, hclose, hlast, and_comm]

theorem map_toLower_eq_append_iff (cs p ds : List Char) :
    cs.map Char.toLower = p ++ ds ↔ (cs.take p.length).map Char.toLower = p ∧
      (cs.drop p.length).map Char.toLower = ds := by
  constructor
  · intro h
    rw [List.map_take, List.map_drop, h]
    simp
  · rintro ⟨hp, hds⟩
    rw [← List.take_append_drop p.length cs, List.map_append, hp, hds]

theorem parse?_eq_some_iff {s : String} {u : Uuid} : parse? s = some u ↔ Spells s u := by
  have hdigits : (u.digits.map hexDigit).length = 32 := by simp [u.length_digits]
  have hread : parse? s =
      if s.toList.length = 32 then simple? s.toList
      else if s.toList.length = 36 then hyphenated? s.toList
      else if s.toList.length = 38 ∧ s.toList.head? = some '\x7b' ∧
          s.toList.getLast? = some '\x7d' then
        hyphenated? (s.toList.drop 1).dropLast
      else if s.toList.length = 45 ∧ (s.toList.take 9).map Char.toLower = scheme then
        hyphenated? (s.toList.drop 9)
      else none := rfl
  rw [hread, Spells]
  generalize s.toList = cs
  have hbraces (h : cs.length = 38) :=
    map_toLower_eq_braced_iff (hyphenate (u.digits.map hexDigit)) (by omega : 2 ≤ cs.length)
  have hscheme := map_toLower_eq_append_iff cs scheme (hyphenate (u.digits.map hexDigit))
  rw [length_scheme] at hscheme
  constructor
  · intro h
    split_ifs at h with hsimple hhyphenated hbraced hurn
    · exact ⟨.simple, simple?_eq_some_iff.1 h⟩
    · exact ⟨.hyphenated, hyphenated?_eq_some_iff.1 h⟩
    · exact ⟨.braced, (hbraces hbraced.1).2 ⟨hbraced.2.1, hbraced.2.2, hyphenated?_eq_some_iff.1 h⟩⟩
    · exact ⟨.urn, hscheme.2 ⟨hurn.2, hyphenated?_eq_some_iff.1 h⟩⟩
  · rintro ⟨l, hl⟩
    have hlen := length_write hdigits l
    rw [← hl, List.length_map] at hlen
    cases l with
    | simple => rw [if_pos hlen, simple?_eq_some_iff, hl, Layout.write]
    | hyphenated =>
      simp only at hlen
      rw [if_neg (by omega), if_pos hlen, hyphenated?_eq_some_iff, hl, Layout.write]
    | braced =>
      simp only at hlen
      obtain ⟨hhead, hlast, hmid⟩ := (hbraces hlen).1 hl
      rw [if_neg (by omega), if_neg (by omega), if_pos ⟨hlen, hhead, hlast⟩,
        hyphenated?_eq_some_iff, hmid]
    | urn =>
      simp only at hlen
      obtain ⟨hp, hrest⟩ := hscheme.1 hl
      rw [if_neg (by omega), if_neg (by omega), if_neg (by omega), if_pos ⟨hlen, hp⟩,
        hyphenated?_eq_some_iff, hrest]

theorem toLower_hexDigit (d : Fin 16) : (hexDigit d).toLower = hexDigit d :=
  hexValue?_eq_some_iff.1 (hexValue?_hexDigit d)

theorem spells_text (u : Uuid) : Spells u.text u := by
  refine ⟨.hyphenated, ?_⟩
  have hlower (ds : List (Fin 16)) : (ds.map hexDigit).map Char.toLower = ds.map hexDigit := by
    simp [toLower_hexDigit]
  have hhyphen : '-'.toLower = '-' := rfl
  simp only [text, String.toList_ofList, written, hyphenate, Layout.write, List.map_append,
    List.map_cons, List.map_take, List.map_drop, hlower, hhyphen]

@[simp] theorem parse?_text (u : Uuid) : parse? u.text = some u :=
  parse?_eq_some_iff.2 (spells_text u)

theorem text_injective {u v : Uuid} (h : u.text = v.text) : u = v := by
  have := congrArg parse? h
  simpa using this

@[simp] theorem text_inj {u v : Uuid} : u.text = v.text ↔ u = v := ⟨text_injective, congrArg text⟩

@[simp] theorem text_beq_text (u v : Uuid) : (u.text == v.text) = (u == v) := by
  rw [Bool.eq_iff_iff]
  simp

end Bookkeeping.Uuid

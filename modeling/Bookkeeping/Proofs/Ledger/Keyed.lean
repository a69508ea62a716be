import Mathlib.Data.List.Nodup

namespace Bookkeeping.Keyed

variable {α κ κ' : Type} {key : α → κ} {l : List α} {a b : α}

theorem split_of_mem (hn : (l.map key).Nodup) (ha : a ∈ l) : ∃ before after,
    l = before ++ a :: after ∧ (∀ x ∈ before, key x ≠ key a) ∧ ∀ x ∈ after, key x ≠ key a := by
  obtain ⟨before, after, rfl⟩ := List.append_of_mem ha
  rw [List.map_append, List.map_cons, List.nodup_append, List.nodup_cons] at hn
  refine ⟨before, after, rfl, ?_, ?_⟩
  · intro x hx
    exact hn.2.2 _ (List.mem_map_of_mem hx) _ List.mem_cons_self
  · intro x hx h
    exact hn.2.1.1 (h ▸ List.mem_map_of_mem hx)

theorem forall_mem_concat {p : α → Prop} (h : ∀ x ∈ l, p x) (ha : p a) : ∀ x ∈ l ++ [a], p x :=
  List.forall_mem_append.2 ⟨h, List.forall_mem_singleton.2 ha⟩

theorem nodup_append_singleton (hn : l.Nodup) (h : a ∉ l) : (l ++ [a]).Nodup := by
  rw [← List.concat_eq_append]
  exact (List.nodup_concat l a).2 ⟨h, hn⟩

theorem nodup_map_append (hn : (l.map key).Nodup) (h : key a ∉ l.map key) :
    ((l ++ [a]).map key).Nodup := by
  rw [List.map_append]
  exact nodup_append_singleton hn h

theorem mem_map_append {k : κ} (h : k ∈ l.map key) : k ∈ (l ++ [a]).map key := by
  rw [List.map_append]
  exact List.mem_append_left _ h

variable [DecidableEq κ]

theorem mem_map_filter_ne {k k' : κ} (h : k ∈ l.map key) (hk : k ≠ k') :
    k ∈ (l.filter (key · != k')).map key := by
  obtain ⟨a, ha, rfl⟩ := List.mem_map.1 h
  exact List.mem_map_of_mem (List.mem_filter.2 ⟨ha, by simpa using hk⟩)

def replace (key : α → κ) (a : α) (l : List α) : List α :=
  l.map fun x => if key x = key a then a else x

@[simp] theorem map_key_replace (key : α → κ) (a : α) (l : List α) :
    (replace key a l).map key = l.map key := by
  rw [replace, List.map_map]
  apply List.map_congr_left
  intro x _
  by_cases h : key x = key a <;> simp [h]

theorem nodup_map_key_replace (hn : (l.map key).Nodup) (a : α) :
    ((replace key a l).map key).Nodup := by
  rw [map_key_replace]
  exact hn

theorem mem_map_key_replace {k : κ} (h : k ∈ l.map key) (a : α) :
    k ∈ (replace key a l).map key := by
  rw [map_key_replace]
  exact h

theorem mem_replace (h : b ∈ replace key a l) : b = a ∨ b ∈ l ∧ key b ≠ key a := by
  obtain ⟨x, hx, rfl⟩ := List.mem_map.1 h
  by_cases hk : key x = key a
  · simp [hk]
  · simp [hk, hx]

theorem mem_replace_self (hb : b ∈ l) (h : key a = key b) : a ∈ replace key a l :=
  List.mem_map.2 ⟨b, hb, if_pos h.symm⟩

theorem replace_of_ne (h : ∀ x ∈ l, key x ≠ key a) : replace key a l = l := by
  rw [replace]
  exact (List.map_congr_left fun x hx => if_neg (h x hx)).trans (List.map_id _)

theorem replace_split {before after : List α} (hab : key b = key a)
    (hbefore : ∀ x ∈ before, key x ≠ key a) (hafter : ∀ x ∈ after, key x ≠ key a) :
    replace key b (before ++ a :: after) = before ++ b :: after := by
  have h₁ : replace key b before = before := replace_of_ne (hab ▸ hbefore)
  have h₂ : replace key b after = after := replace_of_ne (hab ▸ hafter)
  rw [replace, List.map_append, List.map_cons, ← replace, ← replace, h₁, h₂, if_pos hab.symm]

theorem nodup_map_replace {f : α → κ'} (hn : (l.map key).Nodup) (hf : (l.map f).Nodup)
    (h : ∀ x ∈ l, key x ≠ key a → f x ≠ f a) : ((replace key a l).map f).Nodup := by
  by_cases ha : ∃ x ∈ l, key x = key a
  · obtain ⟨x, hx, hxa⟩ := ha
    obtain ⟨before, after, rfl, hbefore, hafter⟩ := split_of_mem hn hx
    rw [replace_split hxa.symm hbefore hafter]
    have hother : ∀ y ∈ before ++ after, f y ≠ f a := by
      intro y hy
      apply h y
      · simp only [List.mem_append, List.mem_cons] at hy ⊢
        tauto
      · rcases List.mem_append.1 hy with hy | hy
        · exact hxa ▸ hbefore y hy
        · exact hxa ▸ hafter y hy
    simp only [List.map_append, List.map_cons, List.nodup_middle, List.nodup_cons] at hf ⊢
    refine ⟨?_, hf.2⟩
    rw [← List.map_append]
    intro hmem
    obtain ⟨y, hy, hya⟩ := List.mem_map.1 hmem
    exact hother y hy hya
  · rw [replace_of_ne fun x hx hxa => ha ⟨x, hx, hxa⟩]
    exact hf

theorem filter_split {before after : List α} (hbefore : ∀ x ∈ before, key x ≠ key a)
    (hafter : ∀ x ∈ after, key x ≠ key a) :
    (before ++ a :: after).filter (key · == key a) = [a] := by
  have h₁ : before.filter (key · == key a) = [] := by simpa using hbefore
  have h₂ : after.filter (key · == key a) = [] := by simpa using hafter
  simp [h₁, h₂]

theorem filter_of_mem (hn : (l.map key).Nodup) (ha : a ∈ l) : l.filter (key · == key a) = [a] := by
  obtain ⟨before, after, rfl, hbefore, hafter⟩ := split_of_mem hn ha
  exact filter_split hbefore hafter

theorem filter_ne_split {before after : List α} (hbefore : ∀ x ∈ before, key x ≠ key a)
    (hafter : ∀ x ∈ after, key x ≠ key a) :
    (before ++ a :: after).filter (key · != key a) = before ++ after := by
  have h₁ : before.filter (key · != key a) = before := by simpa using hbefore
  have h₂ : after.filter (key · != key a) = after := by simpa using hafter
  simp [h₁, h₂]

theorem find?_eq_some_iff (hn : (l.map key).Nodup) {k : κ} :
    l.find? (key · == k) = some a ↔ a ∈ l ∧ key a = k := by
  constructor
  · intro h
    exact ⟨List.mem_of_find?_eq_some h, by simpa using List.find?_some h⟩
  · rintro ⟨ha, rfl⟩
    cases h : l.find? (key · == key a) with
    | none => simpa using List.find?_eq_none.1 h a ha
    | some b =>
      have hb : key b = key a := by simpa using List.find?_some h
      rw [List.inj_on_of_nodup_map hn (List.mem_of_find?_eq_some h) ha hb]

theorem filter_replace (key : α → κ) (a : α) (l : List α) :
    (replace key a l).filter (key · != key a) = l.filter (key · != key a) := by
  induction l with
  | nil => rfl
  | cons x l ih =>
    have hcons : replace key a (x :: l) = (if key x = key a then a else x) :: replace key a l := rfl
    by_cases hx : key x = key a
    · rw [hcons, if_pos hx, List.filter_cons_of_neg (by simp),
        List.filter_cons_of_neg (by simp [hx]),
        ih]
    · rw [hcons, if_neg hx, List.filter_cons, List.filter_cons, ih]

theorem find?_replace_of_ne {k : κ} (h : key a ≠ k) (l : List α) :
    (replace key a l).find? (key · == k) = l.find? (key · == k) := by
  induction l with
  | nil => rfl
  | cons x l ih =>
    have hcons : replace key a (x :: l) = (if key x = key a then a else x) :: replace key a l := rfl
    by_cases hx : key x = key a
    · rw [hcons, if_pos hx, List.find?_cons_of_neg (by simpa using h),
        List.find?_cons_of_neg (by simpa [hx] using h), ih]
    · rw [hcons, if_neg hx, List.find?_cons, List.find?_cons, ih]

theorem replace_comm (h : key a ≠ key b) (l : List α) :
    replace key a (replace key b l) = replace key b (replace key a l) := by
  simp only [replace, List.map_map]
  refine List.map_congr_left fun x _ => ?_
  by_cases ha : key x = key a
  · simp [ha, h]
  · by_cases hb : key x = key b
    · simp [hb, h.symm]
    · simp [ha, hb]

end Bookkeeping.Keyed

import Bookkeeping.Register.Labels
import Mathlib.Data.List.Nodup

namespace Bookkeeping

namespace Uuid

theorem digits_of_number {ds es : List (Fin 16)} {m n : Nat} (hl : ds.length = es.length)
    (h : ds.foldl (fun n d => 16 * n + d.val) m = es.foldl (fun n d => 16 * n + d.val) n) :
    m = n ∧ ds = es := by
  induction ds generalizing es m n with
  | nil =>
    obtain rfl := List.length_eq_zero_iff.1 hl.symm
    exact ⟨h, rfl⟩
  | cons d ds ih =>
    obtain ⟨e, es, rfl⟩ := List.exists_cons_of_length_eq_add_one hl.symm
    obtain ⟨hfirst, rfl⟩ := ih (Nat.succ.inj hl) h
    have hstep : 16 * m + d.val = 16 * n + e.val := hfirst
    have hd : d.val = e.val := by omega
    exact ⟨by omega, by rw [Fin.ext hd]⟩

theorem number_injective {u v : Uuid} (h : u.number = v.number) : u = v :=
  ext (digits_of_number (u.length_digits.trans v.length_digits.symm) h).2

end Uuid

namespace Tags

structure Thinned (a : Uuid) (ids kept : List Uuid) : Prop where
  mem : ∀ id, id ∈ a :: kept ↔ id ∈ a :: ids
  nodup : (a :: kept).Nodup
  sublist : (a :: kept).Sublist (a :: ids)

theorem thinned_loop {a : Uuid} {ids : List Uuid}
    (hsorted : (a :: ids).Pairwise (·.number ≤ ·.number)) (acc : List Uuid) :
    ∃ kept, List.eraseRepsBy.loop (· == ·) a ids acc = acc.reverse ++ a :: kept ∧
      Thinned a ids kept := by
  induction ids generalizing a acc with
  | nil =>
    exact ⟨[], by simp [List.eraseRepsBy.loop], fun _ => .rfl, List.nodup_singleton a, .refl _⟩
  | cons b ids ih =>
    obtain ⟨ha, hrest⟩ := List.pairwise_cons.1 hsorted
    rw [List.eraseRepsBy.loop]
    by_cases hab : a = b
    · subst hab
      obtain ⟨kept, heq, h⟩ := ih hrest acc
      rw [beq_self_eq_true]
      exact ⟨kept, heq, fun id => by simp [h.mem], h.nodup, h.sublist.trans (.cons a (.refl _))⟩
    · obtain ⟨kept, heq, h⟩ := ih hrest (a :: acc)
      rw [beq_false_of_ne hab]
      have hlater : a ∉ b :: ids := fun hmem => by
        rcases List.mem_cons.1 hmem with hb | hmem
        · exact hab hb
        · have hle := List.rel_of_pairwise_cons hrest hmem
          exact hab (Uuid.number_injective (Nat.le_antisymm (ha b List.mem_cons_self) hle))
      refine ⟨b :: kept, by simp [heq], fun id => ?_, ?_, h.sublist.cons_cons a⟩
      · rw [List.mem_cons, h.mem, ← List.mem_cons]
      · exact List.nodup_cons.2 ⟨fun hm => hlater ((h.mem a).1 hm), h.nodup⟩

theorem thinned_distinct (ids : List Uuid) : (∀ id, id ∈ distinct ids ↔ id ∈ ids) ∧
    (distinct ids).Nodup ∧ (distinct ids).Pairwise (·.number ≤ ·.number) := by
  have htrans (a b c : Uuid) (hab : a.le b) (hbc : b.le c) : a.le c := by
    simp only [Uuid.le, decide_eq_true_eq] at *
    omega
  have htotal (a b : Uuid) : a.le b || b.le a := by
    simp only [Uuid.le, Bool.or_eq_true, decide_eq_true_eq]
    omega
  have hsorted : (ids.mergeSort Uuid.le).Pairwise (·.number ≤ ·.number) :=
    (List.pairwise_mergeSort htrans htotal ids).imp of_decide_eq_true
  have hperm := List.mergeSort_perm ids Uuid.le
  rw [distinct, List.eraseReps]
  generalize ids.mergeSort Uuid.le = sorted at hsorted hperm
  cases sorted with
  | nil => exact ⟨fun id => hperm.mem_iff, .nil, .nil⟩
  | cons a rest =>
    obtain ⟨kept, heq, h⟩ := thinned_loop hsorted []
    have hloop : List.eraseRepsBy (· == ·) (a :: rest) = a :: kept := heq
    rw [hloop]
    exact ⟨fun id => (h.mem id).trans hperm.mem_iff, h.nodup, hsorted.sublist h.sublist⟩

theorem mem_distinct {ids : List Uuid} {id : Uuid} : id ∈ distinct ids ↔ id ∈ ids :=
  (thinned_distinct ids).1 id

theorem nodup_distinct (ids : List Uuid) : (distinct ids).Nodup := (thinned_distinct ids).2.1

theorem sorted_distinct (ids : List Uuid) : (distinct ids).Pairwise (·.number ≤ ·.number) :=
  (thinned_distinct ids).2.2

theorem distinct_eq_nil_iff {ids : List Uuid} : distinct ids = [] ↔ ids = [] := by
  simp only [List.eq_nil_iff_forall_not_mem, mem_distinct]

theorem distinct_congr {ids ids' : List Uuid} (h : ∀ id, id ∈ ids ↔ id ∈ ids') :
    distinct ids = distinct ids' := by
  refine List.Perm.eq_of_pairwise (fun u v _ _ huv hvu => ?_) (sorted_distinct ids)
    (sorted_distinct ids') ?_
  · exact Uuid.number_injective (Nat.le_antisymm huv hvu)
  · refine (List.perm_ext_iff_of_nodup (nodup_distinct ids) (nodup_distinct ids')).2 fun id => ?_
    rw [mem_distinct, mem_distinct, h]

end Tags

end Bookkeeping

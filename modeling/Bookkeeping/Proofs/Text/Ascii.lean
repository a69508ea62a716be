import Bookkeeping.Proofs.Text.Case
import Bookkeeping.Proofs.Text.Spelling
import Mathlib.Data.List.Forall2

namespace Bookkeeping.Text

section Letters

variable {c d : Char} {as bs : List Char}

/-- One character, or the capital and the small letter of the alphabet. -/
def SameLetter (c d : Char) : Prop :=
  c = d ∨ c.isAlpha = true ∧ d.isAlpha = true ∧
    (c.toNat + 32 = d.toNat ∨ d.toNat + 32 = c.toNat)

def isSymbol (c : Char) : Bool := !isBlank c && !c.isAlpha

theorem sameLetter_iff : SameLetter c d ↔ c.toLower = d.toLower := by
  rw [SameLetter, isAlpha_iff, isAlpha_iff, ← Char.toNat_inj, ← Char.toNat_inj, toNat_toLower,
    toNat_toLower]
  split_ifs <;> omega

theorem map_eq_map_iff_forall₂ {α β : Type} {f : α → β} {as bs : List α} :
    as.map f = bs.map f ↔ List.Forall₂ (fun a b => f a = f b) as bs := by
  rw [← List.forall₂_eq_eq_eq, List.forall₂_map_left_iff, List.forall₂_map_right_iff]

theorem map_toLower_eq_iff :
    as.map Char.toLower = bs.map Char.toLower ↔ List.Forall₂ SameLetter as bs := by
  simp only [map_eq_map_iff_forall₂, ← sameLetter_iff]

theorem words_toLower_eq_iff {ws vs : List (List Char)} :
    ws.map (List.map Char.toLower) = vs.map (List.map Char.toLower) ↔
      List.Forall₂ (List.Forall₂ SameLetter) ws vs := by
  simp only [map_eq_map_iff_forall₂ (f := List.map Char.toLower), map_toLower_eq_iff]

theorem isAlpha_toLower (c : Char) : c.toLower.isAlpha = c.isAlpha := by
  rw [Bool.eq_iff_iff, isAlpha_iff, isAlpha_iff, toNat_toLower]
  split_ifs <;> omega

theorem isBlank_of_isSymbol (h : isSymbol c = true) : isBlank c = false := by
  simpa using (Bool.and_eq_true_iff.1 h).1

theorem toLower_of_isSymbol (h : isSymbol c = true) : c.toLower = c := by
  have hletter : c.isAlpha = false := by simpa using (Bool.and_eq_true_iff.1 h).2
  have hcapital : ¬(65 ≤ c.toNat ∧ c.toNat ≤ 90) := fun hcapital =>
    absurd (isAlpha_iff.2 (.inl hcapital)) (Bool.eq_false_iff.1 hletter)
  rw [← Char.toNat_inj, toNat_toLower, if_neg hcapital]

theorem filter_isSymbol_map_toLower (cs : List Char) :
    (cs.map Char.toLower).filter isSymbol = cs.filter isSymbol := by
  have hsymbol : isSymbol ∘ Char.toLower = isSymbol := by
    funext c
    show (!isBlank c.toLower && !c.toLower.isAlpha) = (!isBlank c && !c.isAlpha)
    rw [isBlank_toLower, isAlpha_toLower]
  rw [List.filter_map, hsymbol]
  calc (cs.filter isSymbol).map Char.toLower
    _ = (cs.filter isSymbol).map id :=
      List.map_congr_left fun c hc => toLower_of_isSymbol (List.of_mem_filter hc)
    _ = cs.filter isSymbol := List.map_id _

end Letters

section Ascii

variable {c : Char} {cs : List Char}

theorem fold_singleton_of_isAscii (hc : c.isAscii = true) : fold [c] = [c.toLower] := by
  have hall : ∀ n < 128, fold [Char.ofNat n] = [(Char.ofNat n).toLower] := by decide +kernel
  have hfold := hall c.toNat (of_decide_eq_true hc)
  rwa [Char.ofNat_toNat] at hfold

theorem fold_of_isAscii (h : ∀ c ∈ cs, c.isAscii = true) : fold cs = cs.map Char.toLower := by
  induction cs with
  | nil => rfl
  | cons c cs ih =>
    obtain ⟨hc, hcs⟩ := List.forall_mem_cons.1 h
    rw [fold_cons, fold_singleton_of_isAscii hc, ih hcs]
    rfl

theorem words_fold_of_isAscii (h : ∀ c ∈ cs, c.isAscii = true) :
    words (fold cs) = (words cs).map (List.map Char.toLower) := by
  rw [fold_of_isAscii h, words_map isBlank_toLower]

end Ascii

end Bookkeeping.Text

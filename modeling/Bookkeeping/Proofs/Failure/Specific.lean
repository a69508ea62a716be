import Bookkeeping.Proofs.Failure.Commands
import Bookkeeping.Proofs.Ledger.Run

namespace Bookkeeping

namespace Ledger

variable {L L' : Ledger}

theorem Sound.grown_run (hs : L.Sound) (c : Command) (o : Occasion) :
    Grown (c.generated o) c.updated L (L.run c o) := by
  have h := told_perform hs c o
  rw [run]
  cases hp : perform c o L with
  | ok r => rwa [hp] at h
  | error e => exact .refl _ _ L

end Ledger

namespace Store

theorem Holds.ids_after {s : Store} {L : Ledger} (h : s.Holds L) {steps : List (Command × Occasion)}
    {id : Uuid} (hid : id ∈ (L.after steps).ids) : id ∈ L.ids ∨ id ∈ Command.generatedIn steps := by
  induction steps generalizing s L with
  | nil => exact .inl hid
  | cons step steps ih =>
    obtain ⟨c, o⟩ := step
    rw [Command.generatedIn, List.flatMap_cons, List.mem_append]
    rcases ih (h.run c o) hid with hid | hid
    · exact ((h.sound.grown_run c o).mem_ids hid).imp_right .inl
    · exact .inr (.inr hid)

/-- Whatever a household asks of its books, it is done, or a rule is broken that the error names. No
error is one of the storage, and none is generic: identifiers are drawn once, and no account runs
out of versions. -/
theorem errors_are_specific (steps : List (Command × Occasion)) (c : Command) (o : Occasion)
    (hids : (Command.generatedIn (steps ++ [(c, o)])).Nodup)
    (hversions : ∀ a ∈ (fresh.after steps).books.accounts, a.version < greatestWord) :
    (∃ r, (c.run o (fresh.after steps)).1 = .ok r) ∨
      ∃ e : DomainError, (c.run o (fresh.after steps)).1 = .error (.domain e) ∧
        e.isGeneric = false := by
  have h := holds_fresh.after steps
  have htold := Ledger.told_perform h.sound c o
  cases hp : Ledger.perform c o (Ledger.fresh.after steps) with
  | ok r => exact .inl ⟨r.1, by rw [(h.run_of_ok hp).2]⟩
  | error f =>
    rw [hp] at htold
    rw [h.run_of_error hp]
    cases htold with
    | @rule e hgeneric =>
      refine .inr ⟨e, rfl, Bool.eq_false_iff.2 fun hg => ?_⟩
      -- an identifier that is used was drawn before, and now again
      obtain ⟨id, hnow, hused⟩ := hgeneric hg
      have hearlier := (holds_fresh.ids_after hused).resolve_left List.not_mem_nil
      rw [Command.generatedIn, List.flatMap_append, List.nodup_append] at hids
      exact hids.2.2 id hearlier id (by simpa using hnow) rfl
    | worn hworn o =>
      obtain ⟨a, ha, hv⟩ := hworn
      rw [h.books] at hversions
      exact absurd (hversions a.row (List.mem_map_of_mem ha)) (Int.not_lt.2 hv)

theorem tag_named_twice_is_told :
    let cmd : NewTag := ⟨"weekly", "expenditure", ⟨none, none, none⟩⟩
    let steps : List (Command × Occasion) :=
      [(.createTag cmd, ⟨.ofNat 1, .ofNat 2, .ofSeconds 0, .ofSeconds 0⟩)]
    let o : Occasion := ⟨.ofNat 3, .ofNat 4, .ofSeconds 1, .ofSeconds 1⟩
    (Command.generatedIn (steps ++ [(.createTag cmd, o)])).Nodup ∧
      (∀ a ∈ (fresh.after steps).books.accounts, a.version < greatestWord) ∧
      ∃ e : DomainError, ((Command.createTag cmd).run o (fresh.after steps)).1 =
        .error (.domain e) ∧ e.isGeneric = false := by
  intro cmd steps o
  have hids : (Command.generatedIn (steps ++ [(.createTag cmd, o)])).Nodup := by decide
  have hversions : ∀ a ∈ (fresh.after steps).books.accounts, a.version < greatestWord := by
    decide +kernel
  have hfails : ((Command.createTag cmd).run o (fresh.after steps)).1.isOk = false := by
    decide +kernel
  have htold := errors_are_specific steps (.createTag cmd) o hids hversions
  refine ⟨hids, hversions, htold.resolve_left ?_⟩
  rintro ⟨r, hr⟩
  rw [hr] at hfails
  cases hfails

end Store

end Bookkeeping

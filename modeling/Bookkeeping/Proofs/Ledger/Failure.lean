import Bookkeeping.Proofs.Ledger.Outcome

namespace Bookkeeping

/-- What an error comes from. It is generic only if an identifier clashes, and an overflow only if
something is worn out. -/
inductive Fault.Explained (clash worn : Prop) : Fault → Prop
  | rule {e : DomainError} (h : e.isGeneric = true → clash) : Explained clash worn (.domain e)
  | worn (h : worn) (o : Overflow) : Explained clash worn (.overflow o)

theorem Fault.Explained.named {clash worn : Prop} {e : DomainError} (he : e.isGeneric = false) :
    Explained clash worn (.domain e) := .rule fun hg => absurd (he.symm.trans hg) Bool.false_ne_true

def Ruled (clash : Prop) (P : α → Prop) : Except DomainError α → Prop
  | .ok a => P a
  | .error e => e.isGeneric = true → clash

def Told (clash worn : Prop) (P : α → Prop) : Except Fault α → Prop
  | .ok a => P a
  | .error f => f.Explained clash worn

namespace Ruled

variable {clash clash' : Prop} {P Q : α → Prop} {x y : Except DomainError α}

theorem named {e : DomainError} (he : e.isGeneric = false) : Ruled clash P (.error e) :=
  fun hg => absurd (he.symm.trans hg) Bool.false_ne_true

theorem of_ok (h : Ruled True P x) {a : α} (hx : x = .ok a) : P a := by
  subst hx
  exact h

theorem imp (h : Ruled clash P x) (hc : clash → clash') (hPQ : ∀ a, P a → Q a) :
    Ruled clash' Q x := by
  cases x with
  | ok a => exact hPQ a h
  | error e => exact fun hg => hc (h hg)

theorem ite {p : Prop} [Decidable p] (hx : p → Ruled clash P x) (hy : ¬p → Ruled clash P y) :
    Ruled clash P (if p then x else y) := by
  by_cases hp : p
  · rw [if_pos hp]
    exact hx hp
  · rw [if_neg hp]
    exact hy hp

theorem bind {f : α → Except DomainError β} {R : β → Prop} (hx : Ruled clash P x)
    (hf : ∀ a, P a → Ruled clash R (f a)) : Ruled clash R (x >>= f) := by
  cases x with
  | ok a => exact hf a hx
  | error e => exact hx

end Ruled

namespace Ledger

variable {L : Ledger} {e : Fault}

namespace Step

@[simp] theorem not_pure_error {a : α} : ¬(pure a : Step α) L = .error e := nofun

@[simp] theorem bind_error {m : Step α} {f : α → Step β} :
    (m >>= f) L = .error e ↔ m L = .error e ∨ ∃ a L₁, m L = .ok (a, L₁) ∧ f a L₁ = .error e := by
  rw [bind_apply]
  cases m L with
  | ok r =>
    obtain ⟨a, L₁⟩ := r
    simp
  | error e' => simp

@[simp] theorem map_error {m : Step α} {f : α → β} : (f <$> m) L = .error e ↔ m L = .error e := by
  rw [map_eq_pure_bind, bind_error]
  simp

@[simp] theorem ask_error {q : Query α} : ask q L = .error e ↔ q L = .error e := by
  rw [ask]
  cases q L <;> simp [Except.map]

end Step

end Ledger

open Ledger (Query Step Edit)

namespace Told

variable {clash worn : Prop} {P : α → Prop} {L : Ledger}

theorem imp {Q : α → Prop} {x : Except Fault α} (h : Told clash worn P x) (hPQ : ∀ a, P a → Q a) :
    Told clash worn Q x := by
  cases x with
  | ok a => exact hPQ a h
  | error f => exact h

theorem ite {p : Prop} [Decidable p] {x y : Except Fault α} (hx : p → Told clash worn P x)
    (hy : ¬p → Told clash worn P y) : Told clash worn P (if p then x else y) := by
  by_cases hp : p
  · rw [if_pos hp]
    exact hx hp
  · rw [if_neg hp]
    exact hy hp

theorem of_ok {x : Except Fault α} (h : Told clash worn (fun _ => True) x)
    (hP : ∀ a, x = .ok a → P a) : Told clash worn P x := by
  cases x with
  | ok a => exact hP a rfl
  | error f => exact h

section Queries

theorem all (f : Ledger → α) : Told clash worn (fun _ => True) (Query.ask f L) := trivial

theorem refuse {e : DomainError} (he : e.isGeneric = false) :
    Told clash worn P (Query.refuse e L) := .named he

theorem ofDomain {x : Except DomainError α} (h : Ruled clash P x) :
    Told clash worn P (Query.ofDomain x L) := by
  cases x with
  | ok a => exact h
  | error e => exact .rule h

theorem ofOverflow {x : Except Overflow α} (hok : ∀ a, x = .ok a → P a)
    (herror : ∀ o, x = .error o → worn) : Told clash worn P (Query.ofOverflow x L) := by
  cases x with
  | ok a => exact hok a rfl
  | error o => exact .worn (herror o rfl) o

theorem find [BEq κ] [LawfulBEq κ] {xs : Ledger → List α} {key : α → κ} (k : κ) {e : DomainError}
    (he : e.isGeneric = false) :
    Told clash worn (fun a => a ∈ xs L ∧ key a = k) ((Query.find xs key k).notFoundAs e L) := by
  cases hf : Query.find xs key k L with
  | ok a =>
    rw [Query.notFoundAs_ok.2 hf]
    exact Query.find_ok hf
  | error f =>
    have hnone : f = .domain .recordNotFound := by
      rw [Query.find] at hf
      split at hf
      · cases hf
      · exact (Except.error.inj hf).symm
    rw [Query.notFoundAs, Query.mapError, hf, hnone]
    exact refuse (L := L) he

theorem query_bind {q : Query α} {f : α → Query β} {R : β → Prop} (hq : Told clash worn P (q L))
    (hf : ∀ a, P a → Told clash worn R (f a L)) : Told clash worn R ((q >>= f) L) := by
  show Told clash worn R ((q L).bind fun a => f a L)
  cases hx : q L with
  | ok a => exact hf a (by rwa [hx] at hq)
  | error e => rwa [hx] at hq

theorem query_map {q : Query α} {f : α → β} {R : β → Prop}
    (hq : Told clash worn (fun a => R (f a)) (q L)) : Told clash worn R ((f <$> q) L) := by
  rw [map_eq_pure_bind]
  exact query_bind hq fun _ h => h

theorem query_foldlM {f : β → α → Query β}
    (hf : ∀ b a, Told clash worn (fun _ => True) (f b a L)) (as : List α) (b : β) :
    Told clash worn (fun _ => True) (as.foldlM f b L) := by
  induction as generalizing b with
  | nil => exact trivial
  | cons a as ih =>
    rw [List.foldlM_cons]
    exact query_bind (hf b a) fun b _ => ih b

end Queries

section Steps

variable {P : α × Ledger → Prop}

theorem bind {m : Step α} {f : α → Step β} {R : β × Ledger → Prop} (hm : Told clash worn P (m L))
    (hf : ∀ a L', P (a, L') → Told clash worn R (f a L')) : Told clash worn R ((m >>= f) L) := by
  rw [Step.bind_apply]
  cases hx : m L with
  | ok r => exact hf r.1 r.2 (by rwa [hx] at hm)
  | error e => rwa [hx] at hm

theorem ask {q : Query α} {Q : α → Prop} (hq : Told clash worn Q (q L)) :
    Told clash worn (fun r => Q r.1 ∧ r.2 = L) (Step.ask q L) := by
  rw [Step.ask]
  cases hx : q L with
  | ok a => exact ⟨by rwa [hx] at hq, rfl⟩
  | error e => rwa [hx] at hq

theorem ask_bind {q : Query β} {f : β → Step α} {Q : β → Prop} (hq : Told clash worn Q (q L))
    (hf : ∀ b, Q b → Told clash worn P (f b L)) : Told clash worn P ((Step.ask q >>= f) L) := by
  refine (ask hq).bind ?_
  rintro b _ ⟨hb, rfl⟩
  exact hf b hb

theorem map {m : Step α} {f : α → β} {R : β × Ledger → Prop}
    (hm : Told clash worn (fun r => R (f r.1, r.2)) (m L)) : Told clash worn R ((f <$> m) L) := by
  rw [map_eq_pure_bind]
  exact hm.bind fun a L' h => h

theorem refused_bind {p : Prop} [Decidable p] {e : DomainError} {f : β → Step α} {m : Step α}
    (he : e.isGeneric = false) (hm : ¬p → Told clash worn P (m L)) :
    Told clash worn P ((if p then Step.refuse e >>= f else m) L) := by
  by_cases hp : p
  · rw [if_pos hp]
    exact .named he
  · rw [if_neg hp]
    exact hm hp

theorem edit_mapError {x : Edit} {f : LedgerError → LedgerError} {Q : Ledger → Prop}
    (hok : ∀ L', x L = .ok L' → Q L') (herror : ∀ e, x L = .error e →
      ∃ e' : DomainError, f (.domain e) = .domain e' ∧ e'.isGeneric = false) :
    Told clash worn (fun r => Q r.2) ((Step.edit x).mapError f L) := by
  rw [Step.mapError, Step.edit]
  cases hx : x L with
  | ok L' => exact hok L' hx
  | error e =>
    obtain ⟨e', he', hg⟩ := herror e hx
    show Fault.Explained clash worn (.error (f (.domain e)))
    rw [he']
    exact .named hg

theorem edit {x : Edit} {Q : Ledger → Prop} (hx : Ruled clash Q (x L)) :
    Told clash worn (fun r => Q r.2) (Step.edit x L) := by
  rw [Step.edit]
  cases h : x L with
  | ok L' => rwa [h] at hx
  | error e => exact .rule (by rwa [h] at hx)

end Steps

end Told

end Bookkeeping

import Bookkeeping.Error.Ledger

/-! Methods that change a value assignment by assignment, and histories of calls of them. What a
method assigned before it failed stays assigned, so a failed call is not without a trace by
itself. -/

namespace Bookkeeping

abbrev InPlace (σ α : Type) := ExceptT Fault (StateM σ) α

namespace InPlace

def ofDomain : Except DomainError α → InPlace σ α
  | .ok x => pure x
  | .error e => throw (.domain e)

def ofOverflow : Except Overflow α → InPlace σ α
  | .ok x => pure x
  | .error o => throw (.overflow o)

theorem bind_get (f : σ → InPlace σ α) (a : σ) : (get >>= f : InPlace σ α) a = f a a := rfl

def update (f : σ → Except Fault σ) : InPlace σ Unit := fun a =>
  match f a with
  | .ok b => (.ok (), b)
  | .error e => (.error e, a)

theorem update_ok {f : σ → Except Fault σ} {a b : σ} : update f a = (.ok (), b) ↔ f a = .ok b := by
  rw [update]
  cases f a with
  | ok a' =>
    constructor <;> intro h <;> cases h <;> rfl
  | error e => constructor <;> intro h <;> cases h

def Traceless (w : InPlace σ α) : Prop := ∀ a e, (w a).1 = .error e → (w a).2 = a

theorem traceless_update (f : σ → Except Fault σ) : Traceless (update f) := by
  intro a e h
  rw [update] at h ⊢
  cases hf : f a with
  | ok b =>
    rw [hf] at h
    cases h
  | error e => rfl

section History

variable {σ γ : Type} (call : γ → InPlace σ Unit)

def after (cs : List γ) (a : σ) : σ := cs.foldl (fun a c => (call c a).2) a

def accepted : List γ → σ → List γ
  | [], _ => []
  | c :: cs, a =>
    match call c a with
    | (.ok (), b) => c :: accepted cs b
    | (.error _, b) => accepted cs b

variable {call} {cs : List γ} {c : γ} {a b : σ}

theorem accepted_of_ok (h : call c a = (.ok (), b)) :
    accepted call (c :: cs) a = c :: accepted call cs b := by
  rw [accepted, h]

theorem accepted_of_error {e : Fault} (h : call c a = (.error e, b)) :
    accepted call (c :: cs) a = accepted call cs b := by
  rw [accepted, h]

theorem after_cons_of_eq {r : Except Fault Unit} (h : call c a = (r, b)) :
    after call (c :: cs) a = after call cs b := by
  rw [after, List.foldl_cons, h]
  rfl

theorem eq_of_error (hcall : ∀ c, Traceless (call c)) {e : Fault} (h : call c a = (.error e, b)) :
    b = a := by
  have ha := hcall c a e
  rw [h] at ha
  exact ha rfl

theorem after_accepted (hcall : ∀ c, Traceless (call c)) (cs : List γ) (a : σ) :
    after call (accepted call cs a) a = after call cs a := by
  induction cs generalizing a with
  | nil => rfl
  | cons c cs ih =>
    rcases h : call c a with ⟨e | ⟨⟩, b⟩
    · obtain rfl := eq_of_error hcall h
      rw [accepted_of_error h, after_cons_of_eq h]
      exact ih b
    · rw [accepted_of_ok h, after_cons_of_eq h, after_cons_of_eq h]
      exact ih b

theorem accepted_accepted (hcall : ∀ c, Traceless (call c)) (cs : List γ) (a : σ) :
    accepted call (accepted call cs a) a = accepted call cs a := by
  induction cs generalizing a with
  | nil => rfl
  | cons c cs ih =>
    rcases h : call c a with ⟨e | ⟨⟩, b⟩
    · obtain rfl := eq_of_error hcall h
      rw [accepted_of_error h]
      exact ih b
    · rw [accepted_of_ok h, accepted_of_ok h, ih b]

variable (call) in
/-- What the calls do at once is `result`, and over any history a failed call is as one that was
never made. -/
structure Strict (result : γ → σ → Except Fault σ) : Prop where
  agrees : ∀ c, call c = update (result c)
  traceless : ∀ c, Traceless (call c)
  after_accepted : ∀ cs a, after call (accepted call cs a) a = after call cs a
  accepted_accepted : ∀ cs a, accepted call (accepted call cs a) a = accepted call cs a

theorem strict {result : γ → σ → Except Fault σ} (h : ∀ c, call c = update (result c)) :
    Strict call result where
  agrees := h
  traceless c := h c ▸ traceless_update _
  after_accepted := after_accepted fun c => h c ▸ traceless_update _
  accepted_accepted := accepted_accepted fun c => h c ▸ traceless_update _

end History

end InPlace

structure Part (σ π : Type) where
  get : σ → π
  set : π → σ → σ
  get_set : ∀ p a, get (set p a) = p
  set_get : ∀ a, set (get a) a = a
  set_set : ∀ p q a, set q (set p a) = set q a

namespace Part

variable (part : Part σ π)

def on (w : InPlace π α) : InPlace σ α := fun a =>
  match w (part.get a) with
  | (r, p) => (r, part.set p a)

theorem on_update (f : π → Except Fault π) :
    part.on (InPlace.update f) = InPlace.update fun a => (f (part.get a)).map (part.set · a) := by
  funext a
  rw [on, InPlace.update, InPlace.update]
  cases f (part.get a) with
  | ok p => rfl
  | error e => simp [Except.map, part.set_get]

end Part

end Bookkeeping

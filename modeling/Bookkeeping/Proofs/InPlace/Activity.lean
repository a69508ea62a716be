import Bookkeeping.Account
import Bookkeeping.Label
import Bookkeeping.Member
import Bookkeeping.Proofs.InPlace.Basic
import Mathlib.Data.List.Chain
import Mathlib.Tactic.ByContra

namespace Bookkeeping

open InPlace (accepted update)

structure Activity where
  active : Bool
  updatedAt : Instant
  deriving DecidableEq, Repr

structure Toggle where
  on : Bool
  now : Instant
  deriving DecidableEq, Repr

namespace Activity

def activate (already : DomainError) (now : Instant) : InPlace Activity Unit := do
  if (← get).active then throw (.domain already)
  modify ({ · with active := true })
  modify ({ · with updatedAt := now })

def deactivate (already : DomainError) (now : Instant) : InPlace Activity Unit := do
  if !(← get).active then throw (.domain already)
  modify ({ · with active := false })
  modify ({ · with updatedAt := now })

def toggle (alreadyActive alreadyInactive : DomainError) (t : Toggle) : InPlace Activity Unit :=
  if t.on then activate alreadyActive t.now else deactivate alreadyInactive t.now

theorem toggle_eq (alreadyActive alreadyInactive : DomainError) (t : Toggle) :
    toggle alreadyActive alreadyInactive t = update fun p =>
      if p.active = t.on then .error (.domain (if t.on then alreadyActive else alreadyInactive))
      else .ok ⟨t.on, t.now⟩ := by
  funext ⟨active, updatedAt⟩
  obtain ⟨on, now⟩ := t
  cases on <;> cases active <;> rfl

end Activity

section Switches

variable {σ γ : Type} (call : γ → InPlace σ Unit) (active : σ → Bool) (toggle? : γ → Option Bool)

/-- Calls that switch something on and off: one is accepted if it changes the state. All other
calls leave the state alone. -/
structure Switches : Prop where
  accepts : ∀ c on, toggle? c = some on → ∀ a, (call c a).1 = .ok () ↔ active a ≠ on
  turned : ∀ c on, toggle? c = some on → ∀ a, active (call c a).2 = on
  others : ∀ c, toggle? c = none → ∀ a, active (call c a).2 = active a

/-- From the state that there is at first, the calls that are accepted take turns. -/
structure Alternates : Prop extends Switches call active toggle? where
  isChain : ∀ cs a, (active a :: (accepted call cs a).filterMap toggle?).IsChain (· ≠ ·)

variable {call active toggle?}

theorem Switches.isChain (h : Switches call active toggle?) (cs : List γ) (a : σ) :
    (active a :: (accepted call cs a).filterMap toggle?).IsChain (· ≠ ·) := by
  induction cs generalizing a with
  | nil => exact .singleton _
  | cons c cs ih =>
    rcases hc : call c a with ⟨e | ⟨⟩, b⟩
    · rw [InPlace.accepted_of_error hc]
      have hactive : active b = active a := by
        cases ht : toggle? c with
        | none => rw [← h.others c ht a, hc]
        | some on =>
          -- a call that is refused found the state that it was to bring about
          have hon : active a = on := by
            by_contra hne
            have hok := (h.accepts c on ht a).2 hne
            rw [hc] at hok
            cases hok
          rw [hon, ← h.turned c on ht a, hc]
      exact hactive ▸ ih b
    · rw [InPlace.accepted_of_ok hc, List.filterMap_cons]
      cases ht : toggle? c with
      | none =>
        have hactive : active b = active a := by rw [← h.others c ht a, hc]
        exact hactive ▸ ih b
      | some on =>
        have hne : active a ≠ on := (h.accepts c on ht a).1 (by rw [hc])
        have hon : active b = on := by rw [← h.turned c on ht a, hc]
        exact .cons_cons hne (hon ▸ ih b)

theorem Switches.alternates (h : Switches call active toggle?) : Alternates call active toggle? :=
  ⟨h, h.isChain⟩

end Switches

namespace Part

variable (activity : Part σ Activity) (alreadyActive alreadyInactive : DomainError)

def toggle (t : Toggle) : InPlace σ Unit :=
  activity.on (Activity.toggle alreadyActive alreadyInactive t)

theorem toggle_eq (t : Toggle) : activity.toggle alreadyActive alreadyInactive t = update fun a =>
    if (activity.get a).active = t.on then
      .error (.domain (if t.on then alreadyActive else alreadyInactive))
    else .ok (activity.set ⟨t.on, t.now⟩ a) := by
  rw [toggle, Activity.toggle_eq, on_update]
  congr 1
  funext a
  by_cases h : (activity.get a).active = t.on
  · rw [if_pos h, if_pos h]
    rfl
  · rw [if_neg h, if_neg h]
    rfl

theorem toggle_accepts (t : Toggle) (a : σ) :
    (activity.toggle alreadyActive alreadyInactive t a).1 = .ok () ↔
      (activity.get a).active ≠ t.on := by
  rw [toggle_eq, update]
  by_cases h : (activity.get a).active = t.on <;> simp [h]

theorem toggle_active (t : Toggle) (a : σ) :
    (activity.get (activity.toggle alreadyActive alreadyInactive t a).2).active = t.on := by
  rw [toggle_eq, update]
  by_cases h : (activity.get a).active = t.on
  · simp [h]
  · simp [h, activity.get_set]

theorem switches_toggle :
    Switches (activity.toggle alreadyActive alreadyInactive) (fun a => (activity.get a).active)
      (fun t => some t.on) where
  accepts t on ht a := by
    cases ht
    exact activity.toggle_accepts alreadyActive alreadyInactive t a
  turned t on ht a := by
    cases ht
    exact activity.toggle_active alreadyActive alreadyInactive t a
  others t ht := nomatch ht

end Part

def Category.activity : Part Category Activity where
  get c := ⟨c.active, c.updatedAt⟩
  set p c := { c with active := p.active, updatedAt := p.updatedAt }
  get_set _ _ := rfl
  set_get _ := rfl
  set_set _ _ _ := rfl

def Member.activity : Part Member Activity where
  get m := ⟨m.active, m.updatedAt⟩
  set p m := { m with active := p.active, updatedAt := p.updatedAt }
  get_set _ _ := rfl
  set_get _ := rfl
  set_set _ _ _ := rfl

def Account.activity : Part Account Activity where
  get a := ⟨a.active, a.updatedAt⟩
  set p a := { a with active := p.active, updatedAt := p.updatedAt }
  get_set _ _ := rfl
  set_get _ := rfl
  set_set _ _ _ := rfl

def Category.toggle : Toggle → InPlace Category Unit :=
  activity.toggle .categoryAlreadyActive .categoryAlreadyInactive

theorem Category.switches_toggle : Switches toggle Category.active (some ·.on) :=
  activity.switches_toggle _ _

def Category.toggled (t : Toggle) (c : Category) : Except Fault Category :=
  (if t.on then c.activate t.now else c.deactivate t.now).mapError .domain

theorem Category.toggle_eq (t : Toggle) : toggle t = update (toggled t) := by
  rw [toggle, Part.toggle_eq]
  congr 1
  funext c
  show (if c.active = t.on then _ else _) = _
  rw [toggled, activate, deactivate]
  cases t.on <;> cases c.active <;> rfl

def Member.toggle : Toggle → InPlace Member Unit :=
  activity.toggle .householdMemberAlreadyActive .householdMemberAlreadyInactive

theorem Member.switches_toggle : Switches toggle Member.active (some ·.on) :=
  activity.switches_toggle _ _

def Member.toggled (t : Toggle) (m : Member) : Except Fault Member :=
  (if t.on then m.activate t.now else m.deactivate t.now).mapError .domain

theorem Member.toggle_eq (t : Toggle) : toggle t = update (toggled t) := by
  rw [toggle, Part.toggle_eq]
  congr 1
  funext m
  show (if m.active = t.on then _ else _) = _
  rw [toggled, activate, deactivate]
  cases t.on <;> cases m.active <;> rfl

namespace Account

def toggle : Toggle → InPlace Account Unit :=
  activity.toggle .accountAlreadyActive .accountAlreadyInactive

theorem switches_toggle : Switches toggle (·.active) (some ·.on) :=
  activity.switches_toggle _ _

def toggled (t : Toggle) (a : Account) : Except Fault Account :=
  (if t.on then a.activate t.now else a.deactivate t.now).mapError .domain

theorem toggle_eq (t : Toggle) : toggle t = update (toggled t) := by
  rw [toggle, Part.toggle_eq]
  congr 1
  funext a
  show (if a.active = t.on then _ else _) = _
  rw [toggled, activate, deactivate]
  cases t.on <;> cases a.active <;> rfl

end Account

end Bookkeeping

import Bookkeeping.Proofs.Ledger.Failure
import Bookkeeping.Proofs.Ledger.Run

namespace Bookkeeping

open Ledger (Step)

inductive Payment
  | spend (cmd : NewExpenditure)
  | receive (cmd : NewMovement)
  deriving DecidableEq, Repr

namespace Payment

def amount : Payment → Money
  | .spend cmd => cmd.amount
  | .receive cmd => cmd.amount

def command : Payment → Command
  | .spend cmd => .createExpenditure cmd
  | .receive cmd => .createIngress cmd

def work (p : Payment) (o : Occasion) : Work Reply :=
  match p with
  | .spend cmd => Reply.expenditure <$> UseCase.spend cmd o
  | .receive cmd => Reply.ingress <$> UseCase.receive cmd o

def together (payments : List (Payment × Occasion)) : Work (List Reply) :=
  atomically (payments.mapM fun (p, o) => p.work o)

def apart (payments : List (Payment × Occasion)) : List (Command × Occasion) :=
  payments.map fun (p, o) => (p.command, o)

def step (p : Payment) (o : Occasion) : Step Reply :=
  match p with
  | .spend cmd => Reply.expenditure <$> Ledger.spend cmd o
  | .receive cmd => Reply.ingress <$> Ledger.receive cmd o

def steps (payments : List (Payment × Occasion)) : Step (List Reply) :=
  payments.mapM fun (p, o) => p.step o

theorem simulates_work (p : Payment) (o : Occasion) : Simulates (p.work o) (p.step o) := by
  cases p with
  | spend cmd => exact (simulates_spend cmd o).map _
  | receive cmd => exact (simulates_receive cmd o).map _

theorem performs_together (payments : List (Payment × Occasion)) :
    Performs (together payments) (steps payments) := by
  refine .atomically ?_
  rw [steps]
  induction payments with
  | nil =>
    rw [List.mapM_nil, List.mapM_nil]
    exact .pure []
  | cons payment payments ih =>
    rw [List.mapM_cons, List.mapM_cons]
    exact (simulates_work payment.1 payment.2).bind fun r => ih.bind fun rs => .pure (r :: rs)

theorem perform_command {p : Payment} (hpos : 0 < p.amount.minor) (o : Occasion) :
    Ledger.perform p.command o = p.step o := by
  have hask : Step.ask (Ledger.ensurePositive p.amount) = pure () := by
    rw [Ledger.ensurePositive, if_pos (by simpa [Money.isPositive] using hpos)]
    rfl
  cases p with
  | spend cmd =>
    show Reply.expenditure <$> (Step.ask (Ledger.ensurePositive cmd.amount) >>= fun _ => _) = _
    rw [show Step.ask (Ledger.ensurePositive cmd.amount) = pure () from hask, pure_bind]
    rfl
  | receive cmd =>
    show Reply.ingress <$> (Step.ask (Ledger.ensurePositive cmd.amount) >>= fun _ => _) = _
    rw [show Step.ask (Ledger.ensurePositive cmd.amount) = pure () from hask, pure_bind]
    rfl

end Payment

namespace Store.Holds

variable {s : Store} {L L' : Ledger} {payments : List (Payment × Occasion)}

theorem apart_of_ok (h : s.Holds L) (hpos : ∀ p ∈ payments, 0 < p.1.amount.minor)
    {replies : List Reply} (hm : Payment.steps payments L = .ok (replies, L')) :
    s.answers (Payment.apart payments) = replies.map .ok ∧
      s.after (Payment.apart payments) = { s with books := L'.books } := by
  induction payments generalizing s L replies with
  | nil =>
    cases hm
    exact ⟨rfl, by rw [← h.books]; rfl⟩
  | cons payment payments ih =>
    obtain ⟨p, o⟩ := payment
    obtain ⟨hp₁, hpos⟩ := List.forall_mem_cons.1 hpos
    simp only [Payment.steps, List.mapM_cons, Step.bind_ok, Step.pure_ok] at hm
    obtain ⟨r, L₁, hstep, replies, _, hrest, rfl, rfl⟩ := hm
    obtain ⟨hs, hrun⟩ := h.run_of_ok ((congrFun (Payment.perform_command hp₁ o) L).trans hstep)
    obtain ⟨hanswers, hafter⟩ := ih (h.withBooks hs) hpos hrest
    rw [Payment.apart, List.map_cons, Store.answers, Store.after, hrun]
    exact ⟨congrArg _ hanswers, hafter⟩

theorem apart_of_error (h : s.Holds L) (hpos : ∀ p ∈ payments, 0 < p.1.amount.minor) {e : Fault}
    (hm : Payment.steps payments L = .error e) :
    ∃ (replies : List Reply) (rest : _),
      s.answers (Payment.apart payments) = replies.map .ok ++ .error e :: rest := by
  induction payments generalizing s L with
  | nil => cases hm
  | cons payment payments ih =>
    obtain ⟨p, o⟩ := payment
    obtain ⟨hp₁, hpos⟩ := List.forall_mem_cons.1 hpos
    have hperform := congrFun (Payment.perform_command hp₁ o) L
    rw [Payment.apart, List.map_cons, Store.answers]
    simp only [Payment.steps, List.mapM_cons, Step.bind_error, Step.not_pure_error, and_false,
      exists_false, or_false] at hm
    obtain hstep | ⟨r, L₁, hstep, hrest⟩ := hm
    · exact ⟨[], _, by rw [h.run_of_error (hperform.trans hstep)]; rfl⟩
    · obtain ⟨hs, hrun⟩ := h.run_of_ok (hperform.trans hstep)
      obtain ⟨replies, rest, hanswers⟩ := ih (h.withBooks hs) hpos hrest
      exact ⟨r :: replies, rest, by rw [hrun]; exact congrArg _ hanswers⟩

end Store.Holds

theorem mapM_id_ok (as : List α) :
    (as.map .ok : List (Except ε α)).mapM id = .ok as := by
  rw [List.mapM_map]
  exact List.mapM_pure.trans (congrArg _ (List.map_id as))

theorem mapM_id_error (as : List α) (e : ε) (rest : List (Except ε α)) :
    (as.map Except.ok ++ Except.error e :: rest).mapM id = .error e := by
  rw [List.mapM_append, mapM_id_ok, List.mapM_cons]
  rfl

/-- Payments in one unit of work are the same payments one by one, as long as those all succeed. If
one of them fails, its error is the error of the unit, which then changes nothing. -/
theorem Payment.together_refines_apart (steps : List (Command × Occasion))
    (payments : List (Payment × Occasion)) (hpos : ∀ p ∈ payments, 0 < p.1.amount.minor) :
    Payment.together payments (Store.fresh.after steps) =
      match ((Store.fresh.after steps).answers (Payment.apart payments)).mapM id with
      | .ok replies => (.ok replies, (Store.fresh.after steps).after (Payment.apart payments))
      | .error e => (.error e, Store.fresh.after steps) := by
  have h := Store.holds_fresh.after steps
  have hmatches := Payment.performs_together payments _ _ h.ready h.transaction h.sound h.books
  cases hm : Payment.steps payments (Ledger.fresh.after steps) with
  | ok r =>
    obtain ⟨replies, L'⟩ := r
    obtain ⟨hanswers, hafter⟩ := h.apart_of_ok hpos hm
    rw [(hmatches.of_ok hm).2, hanswers, mapM_id_ok, ← hafter]
  | error e =>
    obtain ⟨replies, rest, hanswers⟩ := h.apart_of_error hpos hm
    rw [hmatches.of_error hm, hanswers, mapM_id_error]

/-- The rent is paid from the wages of the same unit of work. If it comes first it cannot be paid,
and the wages do not come in either. -/
theorem Payment.rent_after_wages :
    let steps : List (Command × Occasion) := [
      (.createAccount ⟨"Wallet", .cash, .euro, ⟨100, by decide⟩, none, true⟩,
        ⟨.ofNat 1, .ofNat 9, .ofSeconds 0, .ofSeconds 0⟩),
      (.createCategory ⟨"Wages", .ingress, ⟨none, none, none⟩⟩,
        ⟨.ofNat 2, .ofNat 9, .ofSeconds 0, .ofSeconds 0⟩),
      (.createCategory ⟨"Rent", .expenditure, ⟨none, none, none⟩⟩,
        ⟨.ofNat 3, .ofNat 9, .ofSeconds 0, .ofSeconds 0⟩)]
    let wages : Payment × Occasion := (.receive ⟨.ofNat 1, .ofNat 2, ⟨500, by decide⟩, .euro,
      .ofSeconds 0, none, []⟩, ⟨.ofNat 4, .ofNat 5, .ofSeconds 1, .ofSeconds 2⟩)
    let rent : Payment × Occasion := (.spend ⟨⟨.ofNat 1, .ofNat 3, ⟨450, by decide⟩, .euro,
      .ofSeconds 0, none, []⟩, false, true⟩, ⟨.ofNat 6, .ofNat 7, .ofSeconds 3, .ofSeconds 4⟩)
    (∀ p ∈ [wages, rent], 0 < p.1.amount.minor) ∧ (∀ p ∈ [rent, wages], 0 < p.1.amount.minor) ∧
      (∃ replies, replies.length = 2 ∧
        Payment.together [wages, rent] (Store.fresh.after steps) =
          (.ok replies, (Store.fresh.after steps).after (Payment.apart [wages, rent]))) ∧
      Payment.together [rent, wages] (Store.fresh.after steps) =
        (.error (.domain .insufficientBalance), Store.fresh.after steps) := by
  intro steps wages rent
  have hpos : ∀ p ∈ [wages, rent], 0 < p.1.amount.minor := by decide
  have hpos' : ∀ p ∈ [rent, wages], 0 < p.1.amount.minor := by decide
  refine ⟨hpos, hpos', ?_, ?_⟩
  · have h := Payment.together_refines_apart steps [wages, rent] hpos
    have hlength : (((Store.fresh.after steps).answers (Payment.apart [wages, rent])).mapM id).map
        List.length = .ok 2 := by decide +kernel
    cases hr : ((Store.fresh.after steps).answers (Payment.apart [wages, rent])).mapM id with
    | ok replies =>
      rw [hr] at h hlength
      exact ⟨replies, Except.ok.inj hlength, h⟩
    | error e =>
      rw [hr] at hlength
      cases hlength
  · have h := Payment.together_refines_apart steps [rent, wages] hpos'
    have herror : ((Store.fresh.after steps).answers (Payment.apart [rent, wages])).mapM id =
        .error (.domain .insufficientBalance) := by decide +kernel
    rwa [herror] at h

end Bookkeeping

import Bookkeeping.Proofs.Ledger.Command

namespace Bookkeeping

def Store.answers (s : Store) : List (Command × Occasion) → List (Except Fault Reply)
  | [] => []
  | (c, o) :: rest => (c.run o s).1 :: Store.answers (c.run o s).2 rest

theorem Store.after_append (s : Store) (steps rest : List (Command × Occasion)) :
    s.after (steps ++ rest) = (s.after steps).after rest := by
  induction steps generalizing s with
  | nil => rfl
  | cons step steps ih => exact ih (step.1.run step.2 s).2

namespace Store.Holds

variable {s : Store} {L L' : Ledger} {c : Command} {o : Occasion}

theorem run_of_ok (h : s.Holds L) {r : Reply} (hl : Ledger.perform c o L = .ok (r, L')) :
    L'.Sound ∧ c.run o s = (.ok r, { s with books := L'.books }) :=
  (performs_command c o s L h.ready h.transaction h.sound h.books).of_ok hl

theorem run_of_error (h : s.Holds L) {e : Fault} (hl : Ledger.perform c o L = .error e) :
    c.run o s = (.error e, s) :=
  (performs_command c o s L h.ready h.transaction h.sound h.books).of_error hl

end Store.Holds

end Bookkeeping

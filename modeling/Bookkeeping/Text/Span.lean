namespace Bookkeeping.Text

def inSpans : List (Nat × Nat) → Nat → Bool
  | [], _ => false
  | (first, last) :: rest, n =>
    if n < first then false
    else if n ≤ last then true
    else inSpans rest n

end Bookkeeping.Text

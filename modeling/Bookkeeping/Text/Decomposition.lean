import Bookkeeping.Text.Mark
import Bookkeeping.Text.Decomposition.Letters
import Bookkeeping.Text.Decomposition.Phrases

namespace Bookkeeping.Text

def findRun (runs : List (Nat × List α)) (n : Nat) : Option α :=
  match runs with
  | [] => none
  | (first, targets) :: rest =>
    if n < first then none
    else match targets[n - first]? with
      | some t => some t
      | none => findRun rest n

def hangulBase : Nat := 0xAC00

def isHangulSyllable (n : Nat) : Bool := hangulBase ≤ n && n < hangulBase + 19 * 21 * 28

/-- Leading consonant, vowel and, unless it is absent, trailing consonant of a syllable. -/
def jamo (n : Nat) : List Nat :=
  let i := n - hangulBase
  let trail := i % 28
  [0x1100 + i / (21 * 28), 0x1161 + i / 28 % 21] ++ (if trail = 0 then [] else [0x11A7 + trail])

def firstDecomposed : Nat := 0xA0

def bareCodes (n : Nat) : List Nat :=
  if n < firstDecomposed then [n]
  else if isHangulSyllable n then jamo n
  else match findRun letterRuns n with
    | some t => [t]
    | none => (findRun phraseRuns n).getD [n]

/-- The decomposition of a character with its marks left out; a mark leaves nothing. -/
def bare (c : Char) : List Char :=
  if isMark c then [] else (bareCodes c.toNat).map Char.ofNat

end Bookkeeping.Text

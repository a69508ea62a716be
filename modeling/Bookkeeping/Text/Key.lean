import Bookkeeping.Text.Blank
import Bookkeeping.Text.Decomposition
import Bookkeeping.Text.Lowercase

/-! Comparison keys: what is left of a name without marks, letter case, compatibility variants and
spacing. Symbols are kept, so that `C++` and `C#` stay apart. -/

namespace Bookkeeping.Text

def fold (cs : List Char) : List Char := (cs.flatMap bare).flatMap lower

def key? (s : String) : Option String := tidy? (String.ofList (fold s.toList))

/-- The key a name is compared by; a name that folds to nothing is compared in lower case. -/
def comparisonKey (name : String) : String := (key? name).getD (lowercase name)

end Bookkeeping.Text

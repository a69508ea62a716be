import Bookkeeping.CommandLine.Order
import Bookkeeping.Text.Pieces

namespace Bookkeeping.CommandLine

structure Entry where
  words : List String
  occasion : Occasion
  deriving DecidableEq, Repr

namespace Entry

def escape : Char → List Char
  | '\\' => ['\\', 's']
  | '\t' => ['\\', 't']
  | '\n' => ['\\', 'n']
  | c => [c]

def unescape : List Char → List Char
  | '\\' :: 's' :: cs => '\\' :: unescape cs
  | '\\' :: 't' :: cs => '\t' :: unescape cs
  | '\\' :: 'n' :: cs => '\n' :: unescape cs
  | c :: cs => c :: unescape cs
  | [] => []

def line (fields : List (List Char)) : List Char := fields.flatMap (·.flatMap escape ++ ['\t'])

def fields (line : List Char) : List (List Char) := ((Text.splitOn '\t' line).dropLast).map unescape

theorem unescape_cons {c : Char} (h : c ≠ '\\') (cs : List Char) :
    unescape (c :: cs) = c :: unescape cs := by
  rw [unescape]
  all_goals simp_all

theorem unescape_escape_append (c : Char) (cs : List Char) :
    unescape (escape c ++ cs) = c :: unescape cs := by
  unfold escape
  split
  · simp [unescape]
  · simp [unescape]
  · simp [unescape]
  · rename_i h _ _
    exact unescape_cons h cs

theorem unescape_flatMap_escape (cs : List Char) : unescape (cs.flatMap escape) = cs := by
  induction cs with
  | nil => rfl
  | cons c cs ih => rw [List.flatMap_cons, unescape_escape_append, ih]

theorem not_mem_escape (c : Char) : '\t' ∉ escape c := by
  unfold escape
  split
  · decide
  · decide
  · decide
  · rename_i h _
    simpa using Ne.symm h

theorem splitOn_line (fs : List (List Char)) :
    Text.splitOn '\t' (line fs) = fs.map (·.flatMap escape) ++ [[]] := by
  induction fs with
  | nil => rfl
  | cons f fs ih =>
    have h : '\t' ∉ f.flatMap escape := by simp [not_mem_escape]
    rw [line, List.flatMap_cons, List.append_assoc]
    exact (Text.splitOn_append h _).trans (congrArg _ ih)

theorem fields_line (fs : List (List Char)) : fields (line fs) = fs := by
  simp [fields, splitOn_line, Function.comp_def, unescape_flatMap_escape]

def text (e : Entry) : String :=
  let o := e.occasion
  String.ofList (line (([o.id.text, o.transactionId.text, o.now.display, o.savedAt.display]
    ++ e.words).map String.toList))

def ofText? (s : String) : Option Entry := do
  match (fields s.toList).map String.ofList with
  | id :: transactionId :: now :: savedAt :: words =>
    return ⟨words, ← Uuid.parse? id, ← Uuid.parse? transactionId, ← Instant.parse? now,
      ← Instant.parse? savedAt⟩
  | _ => none

def replay (s : Store) (e : Entry) : Store :=
  match read e.occasion.now e.words with
  | .ok invocation => (invocation.order.run e.occasion s).2
  | .error _ => s

end Entry

def restore? (journal : String) : Option Store := do
  let lines := (Text.splitOn '\n' journal.toList).filter (!·.isEmpty)
  let entries ← lines.mapM fun cs => Entry.ofText? (String.ofList cs)
  return entries.foldl Entry.replay .fresh

end Bookkeeping.CommandLine

import Bookkeeping.Migration
import Bookkeeping.Proofs.Money.Grammar

namespace Bookkeeping

open Text (IsWord isBlank)

section Identifiers

-- Beyond ASCII whatever is not blank counts as a letter.
def startsIdentifier (c : Char) : Bool :=
  c.isAlpha || c == '_' || (decide (128 ≤ c.toNat) && !isBlank c)

def continuesIdentifier (c : Char) : Bool := startsIdentifier c || c.isDigit || c == '$'

/-- A name that stands in a statement as it is, without quotes. -/
def isIdentifier (name : String) : Bool :=
  match name.toList with
  | [] => false
  | c :: cs => startsIdentifier c && cs.all continuesIdentifier

theorem isBlank_of_continuesIdentifier {c : Char} (h : continuesIdentifier c = true) :
    isBlank c = false := by
  simp only [continuesIdentifier, startsIdentifier, Bool.or_eq_true, Bool.and_eq_true,
    Bool.not_eq_true', beq_iff_eq] at h
  obtain ((((halpha | rfl) | ⟨-, hblank⟩) | hdigit) | rfl) := h
  · exact Text.isBlank_of_isAlpha halpha
  · decide
  · exact hblank
  · exact Decimal.isBlank_of_isDigit hdigit
  · decide

theorem ne_semicolon_of_continuesIdentifier {c : Char} (h : continuesIdentifier c = true) :
    c ≠ ';' := by
  rintro rfl
  exact absurd h (by decide)

variable {name : String}

theorem ne_nil_of_isIdentifier (h : isIdentifier name = true) : name.toList ≠ [] := by
  intro hnil
  rw [isIdentifier, hnil] at h
  cases h

theorem continues_of_isIdentifier (h : isIdentifier name = true) :
    ∀ c ∈ name.toList, continuesIdentifier c = true := by
  rw [isIdentifier] at h
  split at h
  · cases h
  · rename_i c cs hname
    obtain ⟨hc, hcs⟩ := Bool.and_eq_true_iff.1 h
    rw [hname]
    refine List.forall_mem_cons.2 ⟨?_, List.all_eq_true.1 hcs⟩
    rw [continuesIdentifier, hc]
    rfl

theorem isWord_of_isIdentifier (h : isIdentifier name = true) : IsWord name.toList where
  ne_nil := ne_nil_of_isIdentifier h
  solid c hc := isBlank_of_continuesIdentifier (continues_of_isIdentifier h c hc)

end Identifiers

inductive GuardEvent
  | insert
  | update
  | delete
  deriving DecidableEq, Repr

def GuardEvent.label : GuardEvent → String
  | .insert => "insert"
  | .update => "update"
  | .delete => "delete"

namespace ForeignKey

variable (k : ForeignKey) (e : GuardEvent)

def guardEvents : List GuardEvent :=
  if k.onDelete = .restrict then [.insert, .update, .delete] else [.insert, .update]

theorem mem_guardEvents {k : ForeignKey} {e : GuardEvent} :
    e ∈ k.guardEvents ↔ (e = .delete → k.onDelete = .restrict) := by
  rw [guardEvents]
  split_ifs with h <;> cases e <;> simp [h]

def triggerName : String := s!"guard_{k.name}_{e.label}"

def createTrigger : GuardEvent → String
  | .insert => k.insertTrigger
  | .update => k.updateTrigger
  | .delete => k.deleteTrigger

def message : GuardEvent → String
  | .insert | .update => k.childMessage
  | .delete => k.parentMessage

def triggerScope : GuardEvent → String × String
  | .insert => (s!"INSERT ON {k.childTable}", k.childCondition)
  | .update => (s!"UPDATE OF {k.childColumn} ON {k.childTable}", k.childCondition)
  | .delete => (s!"DELETE ON {k.parentTable}",
      s!"EXISTS (SELECT 1 FROM {k.childTable} WHERE {k.childColumn} = OLD.{k.parentColumn})")

/-- The statement that creates a guard, up to its message. -/
def raising : String :=
  let (target, condition) := k.triggerScope e
  s!"CREATE TRIGGER IF NOT EXISTS {k.triggerName e} BEFORE {target} FOR EACH ROW "
    ++ s!"WHEN {condition} BEGIN SELECT RAISE(ABORT, '"

def ending : List Char := "'); END;".toList

theorem toList_triggerName :
    (k.triggerName e).toList = "guard_".toList ++ (k.name.toList ++ '_' :: e.label.toList) := by
  have h : "_".toList = ['_'] := rfl
  simp only [triggerName, toString, String.toList_append, List.append_assoc, h]
  rfl

theorem triggerNames_eq : k.triggerNames = k.guardEvents.map k.triggerName := by
  have hlabel (e : GuardEvent) (label : String) (h : label.toList = '_' :: e.label.toList) :
      s!"guard_{k.name}" ++ label = k.triggerName e := by
    apply String.toList_injective
    rw [toList_triggerName, ← h]
    simp only [toString, String.toList_append, List.append_assoc]
  have hinsert := hlabel .insert "_insert" (by decide +kernel)
  have hupdate := hlabel .update "_update" (by decide +kernel)
  have hdelete := hlabel .delete "_delete" (by decide +kernel)
  rw [triggerNames, guardEvents]
  split_ifs with h
  · rw [List.map_cons, List.map_cons, List.map_singleton, ← hinsert, ← hupdate, ← hdelete]
    rfl
  · rw [List.map_cons, List.map_singleton, ← hinsert, ← hupdate]
    rfl

theorem createTriggers_eq : k.createTriggers = k.guardEvents.map k.createTrigger := by
  rw [createTriggers, guardEvents]
  split_ifs <;> rfl

theorem toList_createTrigger : (k.createTrigger e).toList =
    (k.raising e).toList ++ ((k.message e).toList ++ ending) := by
  -- by `delta`, as the equation lemmas would have the literals evaluated one by one
  cases e with
  | insert =>
    delta createTrigger insertTrigger raising triggerScope triggerName message ending
    simp [toString, GuardEvent.label]
  | update =>
    delta createTrigger updateTrigger raising triggerScope triggerName message ending
    simp [toString, GuardEvent.label]
  | delete =>
    delta createTrigger deleteTrigger raising triggerScope triggerName message ending
    simp [toString, GuardEvent.label]

theorem toList_raising : ∃ rest, (k.raising e).toList =
    "CREATE TRIGGER IF NOT EXISTS ".toList ++ ((k.triggerName e).toList ++ ' ' :: rest) := by
  have hbefore : " BEFORE ".toList = ' ' :: "BEFORE ".toList := rfl
  delta raising
  generalize k.triggerScope e = scope
  obtain ⟨target, condition⟩ := scope
  simp only [toString, String.toList_append, List.append_assoc, hbefore, List.cons_append]
  exact ⟨_, rfl⟩

variable {k} (hname : isIdentifier k.name = true)

include hname

theorem isIdentifier_triggerName : isIdentifier (k.triggerName e) = true := by
  have hopening : "guard_".toList = 'g' :: "uard_".toList := rfl
  have hlabel : ('_' :: e.label.toList).all continuesIdentifier = true := by
    cases e <;> decide +kernel
  have hrest : "uard_".toList.all continuesIdentifier = true := by decide +kernel
  have hall : k.name.toList.all continuesIdentifier = true :=
    List.all_eq_true.2 (continues_of_isIdentifier hname)
  rw [isIdentifier, toList_triggerName, hopening, List.cons_append]
  simp only [List.all_append, hrest, hall, hlabel]
  rfl

theorem triggerOf?_createTrigger :
    ∃ table, Schema.triggerOf? (k.createTrigger e) = some ⟨k.triggerName e, table⟩ := by
  have hopening (cs : List Char) : Text.words ("CREATE TRIGGER IF NOT EXISTS ".toList ++ cs) =
      ["CREATE".toList, "TRIGGER".toList, "IF".toList, "NOT".toList, "EXISTS".toList] ++
        Text.words cs := rfl
  obtain ⟨rest, hrest⟩ := k.toList_raising e
  have hword := isWord_of_isIdentifier (isIdentifier_triggerName e hname)
  rw [Schema.triggerOf?, k.toList_createTrigger e, hrest, List.append_assoc, hopening,
    List.append_assoc, List.cons_append, Text.words_append hword rfl]
  simp only [List.cons_append, List.nil_append, List.map_cons, String.ofList_toList]
  exact ⟨_, rfl⟩

end ForeignKey

theorem Schema.droppedBy?_dropStatement {name : String} (h : isIdentifier name = true) :
    droppedBy? (dropStatement name) = some name := by
  have hopening : "DROP TRIGGER IF EXISTS ".toList.all (· != ';') = true := by decide +kernel
  have hend : ";".toList = [';'] := rfl
  have hwords (cs : List Char) : Text.words ("DROP TRIGGER IF EXISTS ".toList ++ cs) =
      ["DROP".toList, "TRIGGER".toList, "IF".toList, "EXISTS".toList] ++ Text.words cs := rfl
  have hsolid : ∀ c ∈ name.toList, (c != ';') = true := fun c hc =>
    bne_iff_ne.2 (ne_semicolon_of_continuesIdentifier (continues_of_isIdentifier h c hc))
  have hstatement : (dropStatement name).toList =
      "DROP TRIGGER IF EXISTS ".toList ++ (name.toList ++ [';']) := by
    delta dropStatement
    simp only [toString, String.toList_append, List.append_assoc, hend]
  have hword : Text.words (name.toList ++ []) = [name.toList] :=
    Text.words_append (isWord_of_isIdentifier h) rfl
  rw [droppedBy?, hstatement, List.takeWhile_append_of_pos (List.all_eq_true.1 hopening),
    List.takeWhile_append_of_pos hsolid, List.takeWhile_cons_of_neg (by decide), hwords, hword]
  simp only [List.cons_append, List.nil_append, List.map_cons, List.map_nil, String.ofList_toList]

end Bookkeeping

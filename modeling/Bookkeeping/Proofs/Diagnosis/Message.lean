import Bookkeeping.Proofs.Diagnosis.Naming
import Bookkeeping.Proofs.Ledger.Keyed

namespace Bookkeeping.Diagnosis

open Text

theorem keyword_eq : keyword = ['C', 'O', 'N', 'S', 'T', 'R', 'A', 'I', 'N', 'T'] := by
  decide +kernel

theorem announcedName?_of_ne {c : Char} (h : c ≠ 'C') (cs : List Char) :
    announcedName? (c :: cs) = none := by
  have hp : keyword.isPrefixOf (c :: cs) = false := by
    simp [keyword_eq, List.isPrefixOf, Ne.symm h]
  unfold announcedName?
  split
  · rfl
  · simp [hp]

theorem findName?_append {before : List Char} (h : 'C' ∉ before) (cs : List Char) :
    findName? (before ++ cs) = findName? cs := by
  induction before with
  | nil => rfl
  | cons c before ih =>
    have hc : c ≠ 'C' := fun hc => h (hc ▸ List.mem_cons_self)
    rw [List.cons_append, findName?, announcedName?_of_ne hc]
    exact ih fun hm => h (List.mem_cons_of_mem _ hm)

theorem findName?_capital_append {before : List Char} (h : 'C' ∉ 'a' :: before) (cs : List Char) :
    findName? ('C' :: 'a' :: before ++ cs) = findName? cs := by
  have hp : announcedName? ('C' :: 'a' :: before ++ cs) = none := by
    unfold announcedName?
    split
    · rfl
    · simp [keyword_eq, List.isPrefixOf]
  rw [List.cons_append, findName?, ← List.cons_append, hp]
  exact findName?_append h cs

theorem findName?_announced {name : List Char} (hn : name ≠ [])
    (hq : ∀ c ∈ name, isQuote c = false) (rest : List Char) :
    findName? (keyword ++ ' ' :: '\x60' :: (name ++ '\x60' :: rest)) = some name := by
  have hblank : ∀ c ∈ [' '], isBlank c = true := by simp [isBlank]
  exact findName?_eq_some_iff.2 (.here (.mk ⟨List.cons_ne_nil _ _, hblank⟩ ⟨hn, hq⟩ rfl rfl))

def complaint : String := ": a foreign key constraint fails "

def restOfReference (k : ForeignKey) : String :=
  s!" FOREIGN KEY (`{k.childColumn}`) " ++ s!"REFERENCES `{k.parentTable}` (`{k.parentColumn}`))"

/-- A name that a reader of messages can tell from what surrounds it. -/
def IsPlainName (name : String) : Prop := name ≠ "" ∧ ∀ c ∈ name.toList, isQuote c = false

instance (name : String) : Decidable (IsPlainName name) :=
  decidable_of_iff (name ≠ "" ∧ name.toList.all (!isQuote ·)) (by simp [IsPlainName])

theorem findName?_complaint (side : ViolationSide) (cs : List Char) :
    findName? (sideWords side ++ (complaint.toList ++ '(' :: cs)) = findName? cs := by
  have hchild : 'C' ∉ 'a' ::
      ("nnot add or update a child row".toList ++ (complaint.toList ++ ['('])) := by
    decide +kernel
  have hparent : 'C' ∉ 'a' ::
      ("nnot delete or update a parent row".toList ++ (complaint.toList ++ ['('])) := by
    decide +kernel
  cases side with
  | parentMissing =>
    rw [sideWords, childRowOpening_eq]
    simpa using findName?_capital_append hchild cs
  | stillReferenced =>
    rw [sideWords, parentRowOpening_eq]
    simpa using findName?_capital_append hparent cs

/-- How the message of a broken key begins: the side at fault, and the name up to its closing
quote. -/
def accusation (side : ViolationSide) (name : List Char) : List Char :=
  sideWords side ++ (complaint.toList ++ '(' :: (keyword ++ ' ' :: '\x60' :: (name ++ ['\x60'])))

theorem accusation_append (side : ViolationSide) (name rest : List Char) :
    accusation side name ++ rest = sideWords side ++ (complaint.toList ++ '(' ::
      (keyword ++ ' ' :: '\x60' :: (name ++ '\x60' :: rest))) := by
  simp [accusation]

section Accusation

variable {text name : String} {side : ViolationSide} {rest : List Char}
  (htext : text.toList = accusation side name.toList ++ rest)

include htext

theorem constraintName?_of_accusation (hname : IsPlainName name) :
    constraintName? text = some name := by
  rw [constraintName?, htext, accusation_append, findName?_complaint,
    findName?_announced (by simpa using hname.1) hname.2, Option.map_some, String.ofList_toList]

theorem side?_of_accusation : side? text = some side :=
  side?_eq_some_iff.2 ⟨[], _, nofun, htext.trans (accusation_append _ _ _)⟩

end Accusation

theorem toList_reference (k : ForeignKey) : k.reference.toList =
    '(' :: (keyword ++
      ' ' :: '\x60' :: (k.name.toList ++ '\x60' :: (restOfReference k).toList)) := by
  have hopen : "(CONSTRAINT `".toList = '(' :: (keyword ++ [' ', '\x60']) := by decide +kernel
  have hclose : "` FOREIGN KEY (`".toList = '\x60' :: " FOREIGN KEY (`".toList := rfl
  unfold ForeignKey.reference restOfReference
  simp only [toString, String.toList_append, hopen, hclose, List.append_assoc, List.cons_append,
    List.nil_append]

theorem toList_childMessage (k : ForeignKey) : k.childMessage.toList =
    accusation .parentMissing k.name.toList ++ (restOfReference k).toList := by
  have hopening : "Cannot add or update a child row: a foreign key constraint fails ".toList =
      childRowOpening.toList ++ complaint.toList := by decide +kernel
  rw [accusation_append, ← toList_reference, sideWords]
  unfold ForeignKey.childMessage
  simp only [toString, String.toList_append, hopening, List.append_assoc]

theorem toList_parentMessage (k : ForeignKey) : k.parentMessage.toList =
    accusation .stillReferenced k.name.toList ++ (restOfReference k).toList := by
  have hopening : "Cannot delete or update a parent row: a foreign key constraint fails ".toList =
      parentRowOpening.toList ++ complaint.toList := by decide +kernel
  rw [accusation_append, ← toList_reference, sideWords]
  unfold ForeignKey.parentMessage
  simp only [toString, String.toList_append, hopening, List.append_assoc]

theorem isPlainName_of_mem : ∀ r ∈ KeyRule.registry, IsPlainName r.name := by decide +kernel

theorem ofName?_eq_some_iff {rule : KeyRule} {name : String} :
    KeyRule.ofName? name = some rule ↔ rule ∈ KeyRule.registry ∧ rule.name = name := by
  have hn : (KeyRule.registry.map KeyRule.name).Nodup :=
    KeyRule.map_name_registry ▸ ForeignKey.nodup_names
  exact Keyed.find?_eq_some_iff hn

theorem diagnose_named {message name : String} {side : ViolationSide} {r : KeyRule}
    {e : DomainError} (hn : constraintName? message = some name) (hs : side? message = some side)
    (hr : KeyRule.ofName? name = some r) (he : r.meaning side = some e) :
    diagnose (.database (some 1811) message) = .domain e := by
  have hcode : codeMeaning? 1811 = some (.brokenKey none) := rfl
  simp [diagnose, StorageFailure.database, byCode, hcode, hn, hs, brokenKey, hr, he]

section Listed

variable {k : ForeignKey} {r : KeyRule} {e : DomainError} (hr : r ∈ KeyRule.registry)
  (hk : r.name = k.name)

include hr hk

theorem diagnose_accusation {text : String} {side : ViolationSide} {rest : List Char}
    (htext : text.toList = accusation side k.name.toList ++ rest) (he : r.meaning side = some e) :
    diagnose (.database (some 1811) text) = .domain e :=
  diagnose_named (constraintName?_of_accusation htext (hk ▸ isPlainName_of_mem r hr))
    (side?_of_accusation htext) (ofName?_eq_some_iff.2 ⟨hr, hk⟩) he

theorem diagnose_childMessage (he : r.parentMissing = some e) :
    diagnose (.database (some 1811) k.childMessage) = .domain e :=
  diagnose_accusation hr hk (toList_childMessage k) he

theorem diagnose_parentMessage (he : r.stillReferenced = some e) :
    diagnose (.database (some 1811) k.parentMessage) = .domain e :=
  diagnose_accusation hr hk (toList_parentMessage k) he

end Listed

end Bookkeeping.Diagnosis

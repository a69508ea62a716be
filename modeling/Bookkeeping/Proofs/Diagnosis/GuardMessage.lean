import Bookkeeping.Proofs.Diagnosis.Meaning
import Bookkeeping.Proofs.Migration.Trigger

namespace Bookkeeping

namespace Text

/-- What a literal says, given from behind its opening quote. A doubled quote stands for one. -/
def literal? : List Char → Option (List Char)
  | [] => none
  | [c] => if c = '\x27' then some [] else none
  | c :: d :: cs =>
    if c = '\x27' then
      if d = '\x27' then (literal? cs).map ('\x27' :: ·) else some []
    else (literal? (d :: cs)).map (c :: ·)

theorem literal?_cons {c : Char} (h : c ≠ '\x27') (cs : List Char) :
    literal? (c :: cs) = (literal? cs).map (c :: ·) := by
  cases cs with
  | nil => simp [literal?, h]
  | cons d cs => rw [literal?, if_neg h]

theorem literal?_append {cs : List Char} (h : '\x27' ∉ cs) (rest : List Char) :
    literal? (cs ++ rest) = (literal? rest).map (cs ++ ·) := by
  induction cs with
  | nil => simp
  | cons c cs ih =>
    obtain ⟨hc, hcs⟩ := not_or.1 (List.mem_cons.not.1 h)
    rw [List.cons_append, literal?_cons (Ne.symm hc), ih hcs, Option.map_map]
    rfl

theorem isSome_literal? (cs rest : List Char) :
    (literal? (cs ++ ')' :: '\x27' :: ')' :: rest)).isSome = true := by
  induction cs using literal?.induct with
  | case1 => rfl
  | case2 => rfl
  | case3 c hc => simp [literal?, hc]
  | case4 cs ih => simpa [literal?] using ih
  | case5 d cs hd => simp [literal?, hd]
  | case6 c d cs hc ih =>
    rw [List.cons_append, literal?_cons hc, Option.isSome_map]
    exact ih

end Text

def GuardEvent.side : GuardEvent → ViolationSide
  | .insert | .update => .parentMissing
  | .delete => .stillReferenced

namespace ForeignKey

/-- The text that a guard raises: what the literal in its statement says. -/
def Raises (k : ForeignKey) (e : GuardEvent) (text : String) : Prop :=
  ∃ statement ∈ k.createTriggers, ∃ rest,
    statement.toList = (k.raising e).toList ++ rest ∧ Text.literal? rest = some text.toList

theorem eq_of_raising {k : ForeignKey} {e e' : GuardEvent} {rest rest' : List Char}
    (h : (k.raising e).toList ++ rest = (k.raising e').toList ++ rest') : e = e' := by
  have hlength (e : GuardEvent) : e.label.toList.length = 6 := by cases e <;> decide +kernel
  have hlabel : e.label.toList = e'.label.toList → e = e' := by
    cases e <;> cases e' <;> decide +kernel
  obtain ⟨tail, htail⟩ := k.toList_raising e
  obtain ⟨tail', htail'⟩ := k.toList_raising e'
  rw [htail, htail', toList_triggerName, toList_triggerName] at h
  simp only [List.append_assoc, List.cons_append, List.append_cancel_left_eq, List.cons.injEq,
    true_and] at h
  exact hlabel (List.append_inj_left h ((hlength e).trans (hlength e').symm))

theorem raises_iff {k : ForeignKey} {e : GuardEvent} {text : String} : k.Raises e text ↔
    e ∈ k.guardEvents ∧ Text.literal? ((k.message e).toList ++ ending) = some text.toList := by
  constructor
  · rintro ⟨statement, hmem, rest, hstatement, hliteral⟩
    rw [k.createTriggers_eq] at hmem
    obtain ⟨e', he', rfl⟩ := List.mem_map.1 hmem
    rw [toList_createTrigger] at hstatement
    obtain rfl := eq_of_raising hstatement
    rw [List.append_cancel_left hstatement]
    exact ⟨he', hliteral⟩
  · rintro ⟨he, hliteral⟩
    refine ⟨k.createTrigger e, ?_, _, k.toList_createTrigger e, hliteral⟩
    rw [k.createTriggers_eq]
    exact List.mem_map_of_mem he

end ForeignKey

namespace Diagnosis

variable {k : ForeignKey} {e : GuardEvent} {text name : String} {side : ViolationSide}
  {rest : List Char}

/-- A message that is read as a failure of the key of a name, on one of its sides. The registry
tells what that means, and a name that it does not have is handed on. -/
structure Understood (name : String) (side : ViolationSide) (text : String) : Prop where
  names : constraintName? text = some name
  tells : side? text = some side
  registered : ∀ f : StorageFailure, Coded f → f.code = some 1811 → f.message = text →
    ∀ rule ∈ KeyRule.registry, rule.name = name → diagnose f =
      match rule.meaning side with
      | some e => .domain e
      | none => .infra (.unexpectedConstraint name side f)
  unregistered : ∀ f : StorageFailure, Coded f → f.code = some 1811 → f.message = text →
    (∀ rule ∈ KeyRule.registry, rule.name ≠ name) →
      diagnose f = .infra (.unknownConstraint (some name) f)

theorem understood_of_read (hname : constraintName? text = some name)
    (hside : side? text = some side) : Understood name side text := by
  have hspoken : (1811, .brokenKey none) ∈ codes := by decide
  have hread {f : StorageFailure} (hcoded : Coded f) (hcode : f.code = some 1811)
      (hmessage : f.message = text) : diagnose f = brokenKey (some name) (some side) f := by
    have htold : toldSide? none f = some side := by rwa [← hmessage] at hside
    rw [diagnose_of_coded hcoded, byCode_brokenKey hcode hspoken, hmessage, hname, htold]
  refine ⟨hname, hside, fun f hcoded hcode hmessage rule hrule hk => ?_,
    fun f hcoded hcode hmessage hnone => ?_⟩
  · subst hk
    have hlookup := ofName?_eq_some_iff.2 ⟨hrule, rfl⟩
    cases hmeaning : rule.meaning side with
    | none => simp only [hread hcoded hcode hmessage, brokenKey, hlookup, hmeaning]
    | some e => simp only [hread hcoded hcode hmessage, brokenKey, hlookup, hmeaning]
  · have hlookup : KeyRule.ofName? name = none := by
      refine Option.eq_none_iff_forall_ne_some.2 fun rule hrule => ?_
      obtain ⟨hmem, hk⟩ := ofName?_eq_some_iff.1 hrule
      exact hnone rule hmem hk
    rw [hread hcoded hcode hmessage, brokenKey, hlookup]

theorem understood_of_accusation (hname : IsPlainName name)
    (htext : text.toList = accusation side name.toList ++ rest) : Understood name side text :=
  understood_of_read (constraintName?_of_accusation htext hname) (side?_of_accusation htext)

theorem toList_restOfReference (k : ForeignKey) :
    ∃ rest, (restOfReference k).toList = rest ++ [')'] := by
  have hend : "`))".toList = "`)".toList ++ [')'] := by decide +kernel
  unfold restOfReference
  simp only [toString, String.toList_append, hend, ← List.append_assoc]
  exact ⟨_, rfl⟩

theorem toList_message (k : ForeignKey) (e : GuardEvent) :
    (k.message e).toList = accusation e.side k.name.toList ++ (restOfReference k).toList := by
  cases e with
  | insert | update => exact toList_childMessage k
  | delete => exact toList_parentMessage k

theorem not_quoted_accusation (hname : IsPlainName name) (side : ViolationSide) :
    '\x27' ∉ accusation side name.toList := by
  have hplain : '\x27' ∉ name.toList := fun h => absurd (hname.2 _ h) (by decide)
  have hwords : '\x27' ∉ sideWords side ∧ '\x27' ∉ complaint.toList ∧ '\x27' ∉ keyword := by
    cases side <;> decide +kernel
  simp [accusation, hplain, hwords]

theorem raises_accusation (hname : IsPlainName k.name) (h : k.Raises e text) :
    ∃ rest, text.toList = accusation e.side k.name.toList ++ rest := by
  obtain ⟨-, hliteral⟩ := ForeignKey.raises_iff.1 h
  rw [toList_message, List.append_assoc, Text.literal?_append (not_quoted_accusation hname _),
    Option.map_eq_some_iff] at hliteral
  obtain ⟨rest, -, hrest⟩ := hliteral
  exact ⟨rest, hrest.symm⟩

theorem exists_raises (he : e ∈ k.guardEvents) : ∃ text, k.Raises e text := by
  obtain ⟨rest, hrest⟩ := toList_restOfReference k
  have hend : ForeignKey.ending = '\x27' :: ')' :: "; END;".toList := by decide +kernel
  have hsome : (Text.literal? ((k.message e).toList ++ ForeignKey.ending)).isSome = true := by
    rw [toList_message, hrest, hend, ← List.append_assoc, List.append_assoc]
    exact Text.isSome_literal? _ _
  obtain ⟨text, htext⟩ := Option.isSome_iff_exists.1 hsome
  refine ⟨String.ofList text, ForeignKey.raises_iff.2 ⟨he, ?_⟩⟩
  rw [htext, String.toList_ofList]

theorem raises_message (hplain : '\x27' ∉ (k.message e).toList) (h : k.Raises e text) :
    text = k.message e := by
  obtain ⟨-, hliteral⟩ := ForeignKey.raises_iff.1 h
  have hend : Text.literal? ForeignKey.ending = some [] := by decide +kernel
  rw [Text.literal?_append hplain, hend, Option.map_some, List.append_nil] at hliteral
  exact (String.toList_injective (Option.some.inj hliteral)).symm

/-- Guards say what is understood. Whatever the tables and columns of a key are called, its guards
stand in front of inserts, updates and, if it restricts them, deletes; their messages are read as
failures of that key on the side that they watch, as they are written in the statements and as they
are raised. -/
theorem guards_are_understood (k : ForeignKey) (hname : IsPlainName k.name) (e : GuardEvent) :
    ((∃ text, k.Raises e text) ↔ (e = .delete → k.onDelete = .restrict)) ∧
    Understood k.name e.side (k.message e) ∧
    (∀ text, k.Raises e text → Understood k.name e.side text) ∧
    ('\x27' ∉ (k.message e).toList → ∀ text, k.Raises e text → text = k.message e) := by
  refine ⟨?_, ?_, fun text h => ?_, fun hplain text => raises_message hplain⟩
  · rw [← ForeignKey.mem_guardEvents]
    exact ⟨fun ⟨_, h⟩ => (ForeignKey.raises_iff.1 h).1, exists_raises⟩
  · exact understood_of_accusation hname (toList_message k e)
  · obtain ⟨rest, htext⟩ := raises_accusation hname h
    exact understood_of_accusation hname htext

/-- A key whose table and columns look like names of constraints, in quotes of their own. -/
theorem odd_key_is_understood :
    let k : ForeignKey := ⟨"fk_CONSTRAINT x", "it\x27s", "CONSTRAINT `a`",
      "CONSTRAINT \x27b\x27 `c`", "d\x27", .restrict⟩
    let f (text : String) : StorageFailure := .database (some 1811) text
    IsPlainName k.name ∧ ∃ text, k.Raises .delete text ∧
      side? text = some .stillReferenced ∧
      diagnose (f text) = .infra (.unknownConstraint (some "fk_CONSTRAINT x") (f text)) := by
  intro k f
  have hname : IsPlainName k.name := by decide +kernel
  obtain ⟨hguarded, -, hraised, -⟩ := guards_are_understood k hname .delete
  obtain ⟨text, htext⟩ := hguarded.2 fun _ => rfl
  have h := hraised text htext
  have hnew : ∀ rule ∈ KeyRule.registry, rule.name ≠ k.name := by decide +kernel
  exact ⟨hname, text, htext, h.tells, h.unregistered (f text) (.inl rfl) rfl rfl hnew⟩

end Diagnosis

end Bookkeeping

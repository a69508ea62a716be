import Bookkeeping.Diagnosis.Driver
import Bookkeeping.Proofs.Diagnosis.Message
import Mathlib.Tactic.FinCases

namespace Bookkeeping

namespace Diagnosis

section Codes

def codes : List (Int × CodeMeaning) := [
  (1216, .brokenKey (some .parentMissing)), (1452, .brokenKey (some .parentMissing)),
  (1217, .brokenKey (some .stillReferenced)), (1451, .brokenKey (some .stillReferenced)),
  (1062, .rule .duplicateKey), (1586, .rule .duplicateKey),
  (1048, .rule .notNullViolation), (1406, .rule .dataTooLong), (1264, .rule .dataOutOfRange),
  (1265, .rule .dataTruncated), (3819, .rule .constraintViolation),
  (4025, .rule .constraintViolation), (1064, .badSyntax), (1205, .rule .concurrentUpdate),
  (1213, .rule .concurrentUpdate), (787, .brokenKey none), (1811, .brokenKey none),
  (2067, .rule .duplicateKey), (1555, .rule .duplicateKey), (1299, .rule .notNullViolation),
  (18, .rule .dataTooLong), (275, .rule .constraintViolation), (19, .rule .constraintViolation),
  (5, .rule .concurrentUpdate), (517, .rule .concurrentUpdate), (6, .rule .concurrentUpdate),
  (262, .rule .concurrentUpdate)]

theorem codeMeaning?_of_mem : ∀ p ∈ codes, codeMeaning? p.1 = some p.2 := by
  decide

theorem or_of_ite_some {p : Prop} [Decidable p] {a b : α} {x : Option α}
    (h : (if p then some a else x) = some b) : p ∧ a = b ∨ x = some b := by
  by_cases hp : p
  · rw [if_pos hp] at h
    exact .inl ⟨hp, Option.some.inj h⟩
  · rw [if_neg hp] at h
    exact .inr h

theorem codeMeaning?_eq_some_iff {code : Int} {m : CodeMeaning} :
    codeMeaning? code = some m ↔ (code, m) ∈ codes := by
  constructor
  · intro h
    unfold codeMeaning? at h
    -- one round for each line of the reader
    repeat
      obtain ⟨hcode, rfl⟩ | h := or_of_ite_some h
      · first
          | fin_cases hcode <;> decide
          | subst hcode
            decide
    cases h
  · exact codeMeaning?_of_mem _

end Codes

section Meaning

variable {f : StorageFailure} {code : Int} {rule : KeyRule} {side : ViolationSide}

/-- Neither a missing row nor a broken connection: the code tells. -/
def Coded (f : StorageFailure) : Prop := f.kind = .database ∨ f.kind = .other

/-- The side of a broken key. A code that tells the side is believed, whatever the message says. -/
inductive Tells (f : StorageFailure) (side : ViolationSide) : Prop
  | code {code : Int} (hcode : f.code = some code)
      (hmem : (code, .brokenKey (some side)) ∈ codes)
  | words {code : Int} (hcode : f.code = some code) (hmem : (code, .brokenKey none) ∈ codes)
      (hwords : Opens f.message.toList (sideWords side))

structure Blames (f : StorageFailure) (rule : KeyRule) (side : ViolationSide) : Prop where
  registered : rule ∈ KeyRule.registry
  named : Names f.message.toList rule.name.toList
  told : Tells f side

inductive Means (f : StorageFailure) : LedgerError → Prop
  | noRows (hkind : f.kind = .noRows) : Means f (.domain .recordNotFound)
  | connection (hkind : f.kind = .connection) : Means f (.infra (.connection f))
  | unknown (hkind : Coded f) (hcode : ∀ code m, f.code = some code → (code, m) ∉ codes) :
    Means f (.infra (.unknown f))
  | rule {code : Int} {e : DomainError} (hkind : Coded f) (hcode : f.code = some code)
      (hmem : (code, .rule e) ∈ codes) : Means f (.domain e)
  | badSyntax {code : Int} (hkind : Coded f) (hcode : f.code = some code)
      (hmem : (code, .badSyntax) ∈ codes) : Means f (.infra (.badSyntax f))
  | key {rule : KeyRule} {side : ViolationSide} {e : DomainError} (hkind : Coded f)
      (hblames : Blames f rule side) (he : rule.meaning side = some e) : Means f (.domain e)
  | ruledOut {rule : KeyRule} {side : ViolationSide} (hkind : Coded f)
      (hblames : Blames f rule side) (he : rule.meaning side = none) :
    Means f (.infra (.unexpectedConstraint rule.name side f))
  | unhandled {code : Int} {told : Option ViolationSide} {name : Option String} (hkind : Coded f)
      (hcode : f.code = some code) (hmem : (code, .brokenKey told) ∈ codes)
      (hname : ∀ n, name = some n ↔ Names f.message.toList n.toList)
      (hnone : ∀ rule side, ¬Blames f rule side) : Means f (.infra (.unknownConstraint name f))

theorem diagnose_of_coded (h : Coded f) : diagnose f = byCode f := by
  rcases h with h | h <;> rw [diagnose, h]

theorem byCode_of_mem {m : CodeMeaning} (hcode : f.code = some code) (hmem : (code, m) ∈ codes) :
    f.code.bind codeMeaning? = some m := by
  rw [hcode]
  exact codeMeaning?_eq_some_iff.2 hmem

def toldSide? (told : Option ViolationSide) (f : StorageFailure) : Option ViolationSide :=
  told.orElse fun _ => side? f.message

section BrokenKey

variable {told : Option ViolationSide} (hcode : f.code = some code)
  (hmem : (code, .brokenKey told) ∈ codes)

include hcode hmem

theorem byCode_brokenKey :
    byCode f = brokenKey (constraintName? f.message) (toldSide? told f) f := by
  rw [byCode, byCode_of_mem hcode hmem]
  rfl

theorem tells_iff : Tells f side ↔ toldSide? told f = some side := by
  have hunique {told' : Option ViolationSide} {code' : Int} (hcode' : f.code = some code')
      (hmem' : (code', .brokenKey told') ∈ codes) : told' = told := by
    have h := (byCode_of_mem hcode' hmem').symm.trans (byCode_of_mem hcode hmem)
    cases h
    rfl
  constructor
  · rintro (⟨hcode', hmem'⟩ | ⟨hcode', hmem', hwords⟩)
    · rw [← hunique hcode' hmem']
      rfl
    · rw [← hunique hcode' hmem']
      exact side?_eq_some_iff.2 hwords
  · intro h
    cases told with
    | some told =>
      cases h
      exact .code hcode hmem
    | none => exact .words hcode hmem (side?_eq_some_iff.1 h)

theorem blames_iff : Blames f rule side ↔ KeyRule.ofName? rule.name = some rule ∧
    constraintName? f.message = some rule.name ∧ toldSide? told f = some side := by
  rw [ofName?_eq_some_iff, constraintName?_eq_some_iff, ← tells_iff hcode hmem]
  constructor
  · rintro ⟨hreg, hname, hside⟩
    exact ⟨⟨hreg, rfl⟩, hname, hside⟩
  · rintro ⟨⟨hreg, -⟩, hname, hside⟩
    exact ⟨hreg, hname, hside⟩

theorem byCode_of_blames (h : Blames f rule side) : byCode f =
    match rule.meaning side with
    | some e => .domain e
    | none => .infra (.unexpectedConstraint rule.name side f) := by
  obtain ⟨hreg, hname, hside⟩ := (blames_iff hcode hmem).1 h
  have hkey : byCode f = brokenKey (some rule.name) (some side) f := by
    rw [byCode_brokenKey hcode hmem, hname, hside]
  cases he : rule.meaning side with
  | none => simp only [hkey, brokenKey, hreg, he]
  | some e => simp only [hkey, brokenKey, hreg, he]

theorem byCode_of_not_blames (h : ∀ rule side, ¬Blames f rule side) :
    byCode f = .infra (.unknownConstraint (constraintName? f.message) f) := by
  simp only [blames_iff hcode hmem] at h
  rw [byCode_brokenKey hcode hmem]
  cases hname : constraintName? f.message with
  | none => rfl
  | some name =>
    cases hside : toldSide? told f with
    | none => rfl
    | some side =>
      cases hreg : KeyRule.ofName? name with
      | none => rw [brokenKey, hreg]
      | some rule =>
        obtain ⟨-, rfl⟩ := ofName?_eq_some_iff.1 hreg
        exact absurd ⟨hreg, hname, hside⟩ (h rule side)

end BrokenKey

theorem Blames.exists_code (h : Blames f rule side) :
    ∃ code told, f.code = some code ∧ (code, .brokenKey told) ∈ codes := by
  obtain ⟨hcode, hmem⟩ | ⟨hcode, hmem, -⟩ := h.told
  · exact ⟨_, _, hcode, hmem⟩
  · exact ⟨_, _, hcode, hmem⟩

theorem diagnose_of_means {e : LedgerError} (h : Means f e) : diagnose f = e := by
  cases h with
  | noRows hkind | connection hkind => rw [diagnose, hkind]
  | unknown hkind hcode =>
    have hnone : f.code.bind codeMeaning? = none := by
      rw [Option.bind_eq_none_iff]
      intro code hc
      rw [Option.eq_none_iff_forall_ne_some]
      intro m hm
      exact hcode code m hc (codeMeaning?_eq_some_iff.1 hm)
    rw [diagnose_of_coded hkind, byCode, hnone]
  | rule hkind hcode hmem | badSyntax hkind hcode hmem =>
    rw [diagnose_of_coded hkind, byCode, byCode_of_mem hcode hmem]
  | key hkind hblames he =>
    obtain ⟨code, told, hcode, hmem⟩ := hblames.exists_code
    rw [diagnose_of_coded hkind, byCode_of_blames hcode hmem hblames, he]
  | ruledOut hkind hblames he =>
    obtain ⟨code, told, hcode, hmem⟩ := hblames.exists_code
    rw [diagnose_of_coded hkind, byCode_of_blames hcode hmem hblames, he]
  | unhandled hkind hcode hmem hname hnone =>
    rw [diagnose_of_coded hkind, byCode_of_not_blames hcode hmem hnone]
    have hsame : constraintName? f.message = _ := Option.ext fun n =>
      constraintName?_eq_some_iff.trans (hname n).symm
    rw [hsame]

theorem means_byCode (hkind : Coded f) : Means f (byCode f) := by
  cases hm : f.code.bind codeMeaning? with
  | none =>
    rw [byCode, hm]
    refine .unknown hkind fun code m hcode hmem => ?_
    rw [byCode_of_mem hcode hmem] at hm
    cases hm
  | some m =>
    obtain ⟨code, hcode, hm'⟩ := Option.bind_eq_some_iff.1 hm
    have hmem := codeMeaning?_eq_some_iff.1 hm'
    cases m with
    | rule e =>
      rw [byCode, hm]
      exact .rule hkind hcode hmem
    | badSyntax =>
      rw [byCode, hm]
      exact .badSyntax hkind hcode hmem
    | brokenKey told =>
      by_cases hblames : ∃ rule side, Blames f rule side
      · obtain ⟨rule, side, hblames⟩ := hblames
        rw [byCode_of_blames hcode hmem hblames]
        cases he : rule.meaning side with
        | some e => exact .key hkind hblames he
        | none => exact .ruledOut hkind hblames he
      · have hnone : ∀ rule side, ¬Blames f rule side := by simpa using hblames
        rw [byCode_of_not_blames hcode hmem hnone]
        exact .unhandled hkind hcode hmem (fun _ => constraintName?_eq_some_iff) hnone

theorem diagnose_eq_iff {e : LedgerError} : diagnose f = e ↔ Means f e := by
  constructor
  · rintro rfl
    cases hkind : f.kind with
    | noRows =>
      rw [diagnose, hkind]
      exact .noRows hkind
    | connection =>
      rw [diagnose, hkind]
      exact .connection hkind
    | database =>
      rw [diagnose_of_coded (.inl hkind)]
      exact means_byCode (.inl hkind)
    | other =>
      rw [diagnose_of_coded (.inr hkind)]
      exact means_byCode (.inr hkind)
  · exact diagnose_of_means

theorem rule_ne_recordNotFound : ∀ p ∈ codes, p.2 ≠ .rule .recordNotFound := by decide

theorem meaning_ne_recordNotFound : ∀ r ∈ KeyRule.registry, ∀ side,
    r.meaning side ≠ some .recordNotFound := by
  intro r hr side
  revert r
  cases side <;> decide

theorem diagnose_recordNotFound : diagnose f = .domain .recordNotFound ↔ f.kind = .noRows := by
  rw [diagnose_eq_iff]
  constructor
  · intro h
    cases h with
    | noRows hkind => exact hkind
    | rule _ _ hmem => exact absurd rfl (rule_ne_recordNotFound _ hmem)
    | key _ hblames he => exact absurd he (meaning_ne_recordNotFound _ hblames.registered _)
  · exact .noRows

theorem diagnose_connection :
    (∃ g, diagnose f = .infra (.connection g)) ↔ f.kind = .connection := by
  constructor
  · rintro ⟨g, h⟩
    cases diagnose_eq_iff.1 h with
    | connection hkind => exact hkind
  · intro hkind
    exact ⟨f, diagnose_eq_iff.2 (.connection hkind)⟩

theorem domain_of_no_code (hcode : f.code = none) {e : DomainError}
    (h : (diagnose f).domain? = some e) : e = .recordNotFound := by
  have hmeans : Means f (diagnose f) := diagnose_eq_iff.1 rfl
  generalize diagnose f = diagnosed at h hmeans
  cases hmeans with
  | noRows =>
    cases h
    rfl
  | rule _ hcode' _ =>
    rw [hcode] at hcode'
    cases hcode'
  | key _ hblames _ =>
    obtain ⟨_, _, hcode', _⟩ := hblames.exists_code
    rw [hcode] at hcode'
    cases hcode'
  | _ => cases h

theorem failure?_of_infra {e : InfraError} (h : diagnose f = .infra e) : e.failure? = some f := by
  cases diagnose_eq_iff.1 h <;> rfl

end Meaning

end Diagnosis

namespace DriverError

def databaseCode? : DriverError → Option Int
  | .connect (.wire (.database code _)) | .execute (.wire (.database code _))
  | .query (.wire (.database code _)) => code.bind WireError.codeNumber?
  | _ => none

theorem code_failure (d : DriverError) : d.failure.code = d.databaseCode? := by
  cases d with
  | connect cause | execute cause | query cause =>
    cases cause with
    | internal m => rfl
    | wire e => cases e <;> rfl
  | _ => rfl

end DriverError

namespace Diagnosis

/-- What a failure means is what it is diagnosed as. A row is missing exactly for failures of that
kind, whatever their code, and so for broken connections. Trouble with the storage keeps the failure
that it was, and an error without a number from the database breaks no rule, unless a row is
missing. -/
theorem diagnosis_complete (f : StorageFailure) :
    (∀ e, diagnose f = e ↔ Means f e) ∧
    (diagnose f = .domain .recordNotFound ↔ f.kind = .noRows) ∧
    ((∃ g, diagnose f = .infra (.connection g)) ↔ f.kind = .connection) ∧
    (∀ e, diagnose f = .infra e → e.failure? = some f) ∧
    ∀ d : DriverError, d.databaseCode? = none → ∀ e, (diagnose d.failure).domain? = some e →
      e = .recordNotFound :=
  ⟨fun _ => diagnose_eq_iff, diagnose_recordNotFound, diagnose_connection,
    fun _ => failure?_of_infra, fun d hcode _ => domain_of_no_code (d.code_failure.trans hcode)⟩

theorem code_believed :
    let f := StorageFailure.database (some 1452)
      "Cannot delete or update a parent row: (CONSTRAINT `fk_accounts_owner_id`)"
    let d := DriverError.query (.internal "no such table: accounts")
    Means f (.domain .householdMemberNotFound) ∧
      Opens f.message.toList (sideWords .stillReferenced) ∧ d.databaseCode? = none ∧
      ∀ e, (diagnose d.failure).domain? = some e → e = .recordNotFound := by
  intro f d
  obtain ⟨hmeans, -, -, -, hdriver⟩ := diagnosis_complete f
  refine ⟨(hmeans _).1 (by decide +kernel), ?_, rfl, hdriver d rfl⟩
  exact side?_eq_some_iff.1 (by decide +kernel)

end Diagnosis

end Bookkeeping

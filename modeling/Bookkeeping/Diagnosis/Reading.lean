import Bookkeeping.Diagnosis.ConstraintName
import Bookkeeping.ForeignKey.Rule

/-! What a storage failure means. Broken keys are read by the name and side in the message, all
other failures by their code; the codes of two kinds of store are known, and do not clash. -/

namespace Bookkeeping.Diagnosis

open Text

inductive CodeMeaning
  /-- A broken key. Some codes tell the side, the others leave it to the message. -/
  | brokenKey (side : Option ViolationSide)
  | rule (e : DomainError)
  | badSyntax
  deriving DecidableEq, Repr

def codeMeaning? (code : Int) : Option CodeMeaning :=
  if code ∈ [1216, 1452] then some (.brokenKey (some .parentMissing))
  else if code ∈ [1217, 1451] then some (.brokenKey (some .stillReferenced))
  else if code ∈ [787, 1811] then some (.brokenKey none)
  else if code ∈ [1062, 1586, 2067, 1555] then some (.rule .duplicateKey)
  else if code ∈ [1048, 1299] then some (.rule .notNullViolation)
  else if code ∈ [1406, 18] then some (.rule .dataTooLong)
  else if code = 1264 then some (.rule .dataOutOfRange)
  else if code = 1265 then some (.rule .dataTruncated)
  else if code ∈ [3819, 4025, 275, 19] then some (.rule .constraintViolation)
  else if code ∈ [1205, 1213, 5, 517, 6, 262] then some (.rule .concurrentUpdate)
  else if code = 1064 then some .badSyntax
  else none

def childRowOpening : String := "Cannot add or update a child row"

def parentRowOpening : String := "Cannot delete or update a parent row"

def side? (message : String) : Option ViolationSide :=
  let cs := trimStart message.toList
  if childRowOpening.toList.isPrefixOf cs then some .parentMissing
  else if parentRowOpening.toList.isPrefixOf cs then some .stillReferenced
  else none

def brokenKey (name : Option String) (side : Option ViolationSide) (f : StorageFailure) :
    LedgerError :=
  match name, side with
  | some name, some side =>
    match KeyRule.ofName? name with
    | none => .infra (.unknownConstraint (some name) f)
    | some rule =>
      match rule.meaning side with
      | some e => .domain e
      | none => .infra (.unexpectedConstraint rule.name side f)
  | name, _ => .infra (.unknownConstraint name f)

def byCode (f : StorageFailure) : LedgerError :=
  match f.code.bind codeMeaning? with
  | some (.brokenKey side) =>
    brokenKey (constraintName? f.message) (side.orElse fun _ => side? f.message) f
  | some (.rule e) => .domain e
  | some .badSyntax => .infra (.badSyntax f)
  | none => .infra (.unknown f)

/-- Total: every failure gets a typed error. -/
def diagnose (f : StorageFailure) : LedgerError :=
  match f.kind with
  | .noRows => .domain .recordNotFound
  | .connection => .infra (.connection f)
  | .database | .other => byCode f

end Bookkeeping.Diagnosis

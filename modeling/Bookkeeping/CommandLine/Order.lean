import Bookkeeping.CommandLine.Reader
import Bookkeeping.Json.Report

namespace Bookkeeping.CommandLine

inductive Order
  | migrate
  | perform (c : Command)
  deriving DecidableEq, Repr

namespace Order

def run (o : Order) (occasion : Occasion) : Work Reply :=
  match o with
  | .migrate => pure .done
  | .perform c => c.perform occasion

def report (o : Order) (r : Reply) : Json :=
  match o with
  | .migrate => .object [("migrated", .bool true)]
  | .perform (.deleteAccount id) => .object [("deleted", id.json)]
  | .perform (.deleteCategory id) => .object [("deleted", id.json)]
  | .perform _ => r.json

end Order

def once (name : String) (shape : Shape) : Parameter := ⟨name, .once shape⟩

def flag (name : String) : Parameter := ⟨name, .flag⟩

def migrate : Level Order := .leaf [] fun _ => some .migrate

def addMember : Level Order :=
  .leaf [once "first-name" .text, once "last-name" .text, once "nickname" .text, once "role" .text]
    fun vs => do
      return .perform (.createMember {
        firstName := ← vs.get? "first-name" .text
        lastName := vs.get? "last-name" .text
        nickname := vs.get? "nickname" .text
        role := vs.get? "role" .text })

def addAccount : Level Order :=
  .leaf [once "name" .text, once "type" .accountKind, once "currency" .currency,
      once "initial-balance" .amount, once "owner" .id, flag "inactive"]
    fun vs => do
      return .perform (.createAccount {
        name := ← vs.get? "name" .text
        kind := ← vs.get? "type" .accountKind
        currency := (vs.get? "currency" .currency).getD .euro
        initialBalance := (vs.get? "initial-balance" .amount).getD .zero
        owner := vs.get? "owner" .id
        active := !vs.has "inactive" })

def onRecord (command : Uuid → Command) : Level Order :=
  .leaf [once "id" .id] fun vs => do return .perform (command (← vs.get? "id" .id))

def describedBy (vs : Values) : Look := ⟨vs.get? "description" .text, none, none⟩

def addCategory : Level Order :=
  .leaf [once "name" .text, once "type" .categoryKind, once "description" .text] fun vs => do
    return .perform (.createCategory
      ⟨← vs.get? "name" .text, ← vs.get? "type" .categoryKind, describedBy vs⟩)

def addTag : Level Order :=
  .leaf [once "name" .text, once "type" .text, once "description" .text] fun vs => do
    return .perform (.createTag ⟨← vs.get? "name" .text, ← vs.get? "type" .text, describedBy vs⟩)

def movementParameters : List Parameter :=
  [once "account" .id, once "category" .id, once "amount" .amount, once "currency" .currency,
    once "date" .instant, once "description" .text, ⟨"tag", .repeated .id⟩, flag "declared",
    flag "planned"]

def movement? (now : Instant) (vs : Values) : Option NewMovement := do
  return {
    account := ← vs.get? "account" .id
    category := ← vs.get? "category" .id
    amount := ← vs.get? "amount" .amount
    currency := (vs.get? "currency" .currency).getD .euro
    date := (vs.get? "date" .instant).getD now
    description := vs.get? "description" .text
    tags := vs.all "tag" .id }

def addExpenditure (now : Instant) : Level Order :=
  .leaf movementParameters fun vs => do
    return .perform (.createExpenditure {
      toNewMovement := ← movement? now vs
      declared := vs.has "declared"
      planned := vs.has "planned" })

def addIngress (now : Instant) : Level Order :=
  .leaf movementParameters fun vs => do return .perform (.createIngress (← movement? now vs))

def household (now : Instant) : Level Order :=
  .group [once "config" .text] [
    ("migrate", migrate),
    ("member", .group [] [("add", addMember)]),
    ("account", .group [] [
      ("add", addAccount), ("show", onRecord .account), ("activate", onRecord .activateAccount),
      ("deactivate", onRecord .deactivateAccount), ("delete", onRecord .deleteAccount)]),
    ("category", .group [] [("add", addCategory), ("delete", onRecord .deleteCategory)]),
    ("tag", .group [] [("add", addTag)]),
    ("expenditure", .group [] [("add", addExpenditure now)]),
    ("ingress", .group [] [("add", addIngress now)])]

structure Invocation where
  config : String
  order : Order
  deriving DecidableEq, Repr

/-- Reads the words after the program's name; moves without a date happen now. -/
def read (now : Instant) (words : List String) : Except UsageError Invocation := do
  let (values, order) ← (household now).read .silence words
  .ok ⟨(values.get? "config" .text).getD "household", order⟩

end Bookkeeping.CommandLine

import Bookkeeping.Json.Basic
import Bookkeeping.UseCase.Command

namespace Bookkeeping

def Uuid.json (id : Uuid) : Json := .text id.text

def Instant.json (t : Instant) : Json := .text t.display

def Money.json (m : Money) : Json := .int m.minor

def Look.fields (l : Look) : List (String × Json) := [
  ("description", .ofText? l.description), ("color", .ofText? l.color),
  ("background_color", .ofText? l.backgroundColor)]

def Member.fields (m : Member) : List (String × Json) := [
  ("id", m.id.json), ("first_name", .text m.firstName), ("last_name", .ofText? m.lastName),
  ("nickname", .ofText? m.nickname), ("role", .ofText? m.role), ("active", .bool m.active),
  ("created_at", m.createdAt.json), ("updated_at", m.updatedAt.json)]

def Account.fields (a : Account) : List (String × Json) := [
  ("id", a.id.json), ("name", .text a.name), ("account_type", .text a.kind.code),
  ("currency", .text a.currency.code), ("initial_balance", a.initialBalance.json),
  ("current_balance", a.currentBalance.json), ("active", .bool a.active),
  ("owner_id", .ofText? (a.owner.map Uuid.text)), ("version", .int a.version),
  ("created_at", a.createdAt.json), ("updated_at", a.updatedAt.json)]

def Category.fields (c : Category) : List (String × Json) :=
  [("id", c.id.json), ("name", .text c.name)] ++ c.look.fields ++ [
    ("category_type", .text c.kind.code), ("active", .bool c.active),
    ("created_at", c.createdAt.json), ("updated_at", c.updatedAt.json)]

def Tag.fields (t : Tag) : List (String × Json) :=
  [("id", t.id.json), ("name", .text t.name.display)] ++ t.look.fields ++ [
    ("tag_type", .text t.kind.code), ("created_at", t.createdAt.json),
    ("updated_at", t.updatedAt.json)]

def Transaction.fields (t : Transaction) : List (String × Json) := [
  ("id", t.id.json), ("account_id", t.account.json), ("amount", t.amount.json),
  ("currency", .text t.currency.code), ("date", t.date.json),
  ("description", .ofText? t.description), ("transaction_type", .text t.kind.code),
  ("balance_after", t.balanceAfter.json), ("status", .text t.status.code),
  ("created_at", t.createdAt.json), ("updated_at", t.updatedAt.json)]

def Expenditure.fields (e : Expenditure) : List (String × Json) := [
  ("id", e.id.json), ("category_id", e.category.json), ("transaction_id", e.transaction.json),
  ("declared", .bool e.declared), ("planned", .bool e.planned),
  ("created_at", e.createdAt.json), ("updated_at", e.updatedAt.json)]

def Ingress.fields (i : Ingress) : List (String × Json) := [
  ("id", i.id.json), ("category_id", i.category.json), ("transaction_id", i.transaction.json),
  ("created_at", i.createdAt.json), ("updated_at", i.updatedAt.json)]

def Detail.fields {R : Type} (record : R → List (String × Json)) (d : Detail R) :
    List (String × Json) :=
  record d.record ++ [
    ("transaction", .object d.transaction.fields), ("category", .object d.category.fields),
    ("tags", .list (d.tags.map (.object ·.fields)))]

def Reply.json : Reply → Json
  | .done => .null
  | .member m => .object m.fields
  | .members ms => .list (ms.map (.object ·.fields))
  | .account a => .object a.fields
  | .accounts as => .list (as.map (.object ·.fields))
  | .category c => .object c.fields
  | .categories cs => .list (cs.map (.object ·.fields))
  | .tag t => .object t.fields
  | .tags ts => .list (ts.map (.object ·.fields))
  | .expenditure d => .object (d.fields Expenditure.fields)
  | .expenditures es => .list (es.map (.object ·.fields))
  | .ingress d => .object (d.fields Ingress.fields)
  | .transaction t => .object t.fields
  | .transactions ts => .list (ts.map (.object ·.fields))

namespace Json

def caseName? : Json → Option String
  | .text s => some s
  | .object [(name, .null)] => some name
  | _ => none

def accountKind? (j : Json) : Option AccountKind := j.caseName?.bind AccountKind.ofCode?

def categoryKind? (j : Json) : Option CategoryKind := j.caseName?.bind CategoryKind.ofCode?

def tagKind? (j : Json) : Option TagKind := j.caseName?.bind TagKind.ofCode?

def transactionKind? (j : Json) : Option TransactionKind :=
  j.caseName?.bind TransactionKind.ofCode?

def transactionStatus? (j : Json) : Option TransactionStatus :=
  j.caseName?.bind TransactionStatus.ofCode?

def money? : Json → Option Money
  | .int n => Money.ofInt? n
  | _ => none

def currency? : Json → Option Currency
  | .text s => Currency.parse? s
  | _ => none

end Json

end Bookkeeping

import Bookkeeping.Register.Basic

namespace Bookkeeping

namespace Transactions

def create (t : Transaction) : Work Unit := Register.enter .transactions t.row

def get (id : Uuid) : Work Transaction :=
  Register.look (fun b => b.transactions.find? (·.id == id.text)) Transaction.ofRow

def list (account : Uuid) : Work (List Transaction) :=
  Register.list
    (fun b => (b.transactions.filter (·.account == account.text)).mergeSort
      (Register.byTexts (·.date.stamp) (·.createdAt.stamp)))
    Transaction.ofRow

end Transactions

namespace Expenditures

def create (e : Expenditure) : Work Unit := Register.enter .expenditures e.row

def get (id : Uuid) : Work Expenditure :=
  Register.look (fun b => b.expenditures.find? (·.id == id.text)) Expenditure.ofRow

structure Entry where
  expenditure : ExpenditureRow
  transaction : TransactionRow

def entries (b : Books) : List Entry :=
  b.expenditures.flatMap fun e =>
    (b.transactions.filter (·.id == e.transaction)).map (⟨e, ·⟩)

def passes (f : ExpenditureFilter) (e : Entry) : Bool :=
  f.account.all (·.text == e.transaction.account)
    && f.category.all (·.text == e.expenditure.category)
    && f.since.all (·.stamp ≤ e.transaction.date.stamp)
    && f.before.all (e.transaction.date.stamp < ·.stamp)
    && f.declared.all (· == e.expenditure.declared)
    && f.planned.all (· == e.expenditure.planned)

def newestFirst (a b : Entry) : Bool :=
  Register.byTexts (·.transaction.date.stamp) (·.expenditure.createdAt.stamp) b a

def find (f : ExpenditureFilter) : Work (List Expenditure) :=
  Register.list
    (fun b => (((entries b).filter (passes f)).mergeSort newestFirst).map (·.expenditure))
    Expenditure.ofRow

end Expenditures

namespace Ingresses

def create (i : Ingress) : Work Unit := Register.enter .ingresses i.row

def get (id : Uuid) : Work Ingress :=
  Register.look (fun b => b.ingresses.find? (·.id == id.text)) Ingress.ofRow

end Ingresses

end Bookkeeping

import Bookkeeping.Error.Domain
import Bookkeeping.Text.Blank

namespace Bookkeeping

def looseName (s : String) : String := String.ofList ((Text.trim s.toList).map Char.toLower)

inductive AccountKind
  | bank
  | cash
  | crypto
  | investment
  | other
  deriving DecidableEq, Repr

namespace AccountKind

def code : AccountKind → String
  | .bank => "bank"
  | .cash => "cash"
  | .crypto => "crypto"
  | .investment => "investment"
  | .other => "other"

def all : List AccountKind := [.bank, .cash, .crypto, .investment, .other]

def ofCode? (s : String) : Option AccountKind := all.find? (·.code == s)

def parse (s : String) : Except DomainError AccountKind :=
  match ofCode? (looseName s) with
  | some k => .ok k
  | none => .error .unknownAccountType

theorem ofCode?_code (k : AccountKind) : ofCode? k.code = some k := by
  cases k <;> decide

end AccountKind

inductive CategoryKind
  | ingress
  | expenditure
  | transfer
  | savingsGoal
  deriving DecidableEq, Repr

namespace CategoryKind

def code : CategoryKind → String
  | .ingress => "ingress"
  | .expenditure => "expenditure"
  | .transfer => "transfer"
  | .savingsGoal => "savings_goal"

def all : List CategoryKind := [.ingress, .expenditure, .transfer, .savingsGoal]

def ofCode? (s : String) : Option CategoryKind := all.find? (·.code == s)

def parse (s : String) : Except DomainError CategoryKind :=
  match ofCode? (looseName s) with
  | some k => .ok k
  | none => .error .unknownCategoryType

theorem ofCode?_code (k : CategoryKind) : ofCode? k.code = some k := by
  cases k <;> decide

end CategoryKind

inductive TagKind
  | expenditure
  | ingress
  | transfer
  | savingsGoal
  | savingsWithdrawal
  | savingsContribution
  deriving DecidableEq, Repr

namespace TagKind

def code : TagKind → String
  | .expenditure => "expenditure"
  | .ingress => "ingress"
  | .transfer => "transfer"
  | .savingsGoal => "savings_goal"
  | .savingsWithdrawal => "savings_withdrawal"
  | .savingsContribution => "savings_contribution"

def all : List TagKind :=
  [.expenditure, .ingress, .transfer, .savingsGoal, .savingsWithdrawal, .savingsContribution]

def ofCode? (s : String) : Option TagKind := all.find? (·.code == s)

def parse (s : String) : Except DomainError TagKind :=
  match ofCode? (looseName s) with
  | some k => .ok k
  | none => .error .unknownTagType

theorem ofCode?_code (k : TagKind) : ofCode? k.code = some k := by
  cases k <;> decide

end TagKind

inductive TransactionKind
  | expenditure
  | ingress
  | transfer
  | savingsContribution
  | savingsWithdrawal
  deriving DecidableEq, Repr

namespace TransactionKind

def code : TransactionKind → String
  | .expenditure => "expenditure"
  | .ingress => "ingress"
  | .transfer => "transfer"
  | .savingsContribution => "savings_contribution"
  | .savingsWithdrawal => "savings_withdrawal"

def all : List TransactionKind :=
  [.expenditure, .ingress, .transfer, .savingsContribution, .savingsWithdrawal]

def ofCode? (s : String) : Option TransactionKind := all.find? (·.code == s)

def parse (s : String) : Except DomainError TransactionKind :=
  match ofCode? s with
  | some k => .ok k
  | none => .error .unknownTransactionType

theorem ofCode?_code (k : TransactionKind) : ofCode? k.code = some k := by
  cases k <;> decide

end TransactionKind

inductive TransactionStatus
  | pending
  | completed
  | failed
  | cancelled
  deriving DecidableEq, Repr

namespace TransactionStatus

def code : TransactionStatus → String
  | .pending => "pending"
  | .completed => "completed"
  | .failed => "failed"
  | .cancelled => "cancelled"

def all : List TransactionStatus := [.pending, .completed, .failed, .cancelled]

def ofCode? (s : String) : Option TransactionStatus := all.find? (·.code == s)

def parse (s : String) : Except DomainError TransactionStatus :=
  match ofCode? s with
  | some k => .ok k
  | none => .error .unknownTransactionStatus

/-- A pending transaction settles once; a settled one is final. -/
def canBecome : TransactionStatus → TransactionStatus → Bool
  | .pending, .completed | .pending, .failed | .pending, .cancelled => true
  | _, _ => false

theorem ofCode?_code (k : TransactionStatus) : ofCode? k.code = some k := by
  cases k <;> decide

theorem canBecome_iff (a b : TransactionStatus) :
    a.canBecome b = true ↔ a = .pending ∧ b ≠ .pending := by
  cases a <;> cases b <;> simp [canBecome]

end TransactionStatus

end Bookkeeping

namespace Bookkeeping

inductive DomainError
  | recordNotFound
  | duplicateKey
  | notNullViolation
  | dataTooLong
  | dataOutOfRange
  | dataTruncated
  | constraintViolation
  | concurrentUpdate
  | invalidAmount
  | invalidCurrency
  | currencyNotFound
  | currencyMismatch
  | accountNotFound
  | accountInactive
  | accountAlreadyActive
  | accountAlreadyInactive
  | accountHasTransactions
  | insufficientBalance
  | balanceOverflow
  | accountNameEmpty
  | unknownAccountType
  | categoryNotFound
  | categoryInactive
  | categoryAlreadyActive
  | categoryAlreadyInactive
  | categoryInUseByExpenditure
  | categoryInUseByIngress
  | categoryInUseByTransfer
  | categoryInUseBySavingsGoal
  | categoryNameEmpty
  | unknownCategoryType
  | householdMemberNotFound
  | householdMemberInactive
  | householdMemberAlreadyActive
  | householdMemberAlreadyInactive
  | memberHasActiveAccounts
  | memberNameEmpty
  | tagNotFound
  | tagAlreadyExists
  | tagNameEmpty
  | unknownTagType
  | tagTypeMismatch
  | tagInUse
  | transactionNotFound
  | transactionInUse
  | invalidStatusTransition
  | unknownTransactionType
  | unknownTransactionStatus
  | expenditureNotFound
  | ingressNotFound
  deriving DecidableEq, Repr

namespace DomainError

def message : DomainError → String
  | .recordNotFound => "record not found"
  | .duplicateKey => "duplicate key"
  | .notNullViolation => "a required value is missing"
  | .dataTooLong => "value too long"
  | .dataOutOfRange => "value out of range"
  | .dataTruncated => "value truncated"
  | .constraintViolation => "constraint violated"
  | .concurrentUpdate => "record was modified concurrently, retry the operation"
  | .invalidAmount => "invalid amount: must be greater than zero"
  | .invalidCurrency => "invalid currency code"
  | .currencyNotFound => "currency not found"
  | .currencyMismatch => "currency does not match the account currency"
  | .accountNotFound => "account not found"
  | .accountInactive => "account is inactive"
  | .accountAlreadyActive => "account is already active"
  | .accountAlreadyInactive => "account is already inactive"
  | .accountHasTransactions => "account still has transactions"
  | .insufficientBalance => "insufficient balance"
  | .balanceOverflow => "balance would exceed the largest representable amount"
  | .accountNameEmpty => "account name must not be empty"
  | .unknownAccountType => "unknown account type"
  | .categoryNotFound => "category not found"
  | .categoryInactive => "category is inactive"
  | .categoryAlreadyActive => "category is already active"
  | .categoryAlreadyInactive => "category is already inactive"
  | .categoryInUseByExpenditure => "category is used by an expenditure"
  | .categoryInUseByIngress => "category is used by an ingress"
  | .categoryInUseByTransfer => "category is used by a transfer"
  | .categoryInUseBySavingsGoal => "category is used by a savings goal"
  | .categoryNameEmpty => "category name must not be empty"
  | .unknownCategoryType => "unknown category type"
  | .householdMemberNotFound => "household member not found"
  | .householdMemberInactive => "household member is inactive"
  | .householdMemberAlreadyActive => "household member is already active"
  | .householdMemberAlreadyInactive => "household member is already inactive"
  | .memberHasActiveAccounts => "household member still owns active accounts"
  | .memberNameEmpty => "household member name must not be empty"
  | .tagNotFound => "tag not found"
  | .tagAlreadyExists => "a tag with this name and type already exists"
  | .tagNameEmpty => "tag name must not be empty"
  | .unknownTagType => "unknown tag type"
  | .tagTypeMismatch => "tag type does not match the tagged entity"
  | .tagInUse => "tag is still linked to a record"
  | .transactionNotFound => "transaction not found"
  | .transactionInUse => "transaction is still referenced"
  | .invalidStatusTransition => "transaction status cannot change this way"
  | .unknownTransactionType => "unknown transaction type"
  | .unknownTransactionStatus => "unknown transaction status"
  | .expenditureNotFound => "expenditure not found"
  | .ingressNotFound => "ingress not found"

def code : DomainError → String
  | .recordNotFound => "RecordNotFound"
  | .duplicateKey => "DuplicateKey"
  | .notNullViolation => "NotNullViolation"
  | .dataTooLong => "DataTooLong"
  | .dataOutOfRange => "DataOutOfRange"
  | .dataTruncated => "DataTruncated"
  | .constraintViolation => "ConstraintViolation"
  | .concurrentUpdate => "ConcurrentUpdate"
  | .invalidAmount => "InvalidAmount"
  | .invalidCurrency => "InvalidCurrency"
  | .currencyNotFound => "CurrencyNotFound"
  | .currencyMismatch => "CurrencyMismatch"
  | .accountNotFound => "AccountNotFound"
  | .accountInactive => "AccountInactive"
  | .accountAlreadyActive => "AccountAlreadyActive"
  | .accountAlreadyInactive => "AccountAlreadyInactive"
  | .accountHasTransactions => "AccountHasTransactions"
  | .insufficientBalance => "InsufficientBalance"
  | .balanceOverflow => "BalanceOverflow"
  | .accountNameEmpty => "AccountNameEmpty"
  | .unknownAccountType => "UnknownAccountType"
  | .categoryNotFound => "CategoryNotFound"
  | .categoryInactive => "CategoryInactive"
  | .categoryAlreadyActive => "CategoryAlreadyActive"
  | .categoryAlreadyInactive => "CategoryAlreadyInactive"
  | .categoryInUseByExpenditure => "CategoryInUseByExpenditure"
  | .categoryInUseByIngress => "CategoryInUseByIngress"
  | .categoryInUseByTransfer => "CategoryInUseByTransfer"
  | .categoryInUseBySavingsGoal => "CategoryInUseBySavingsGoal"
  | .categoryNameEmpty => "CategoryNameEmpty"
  | .unknownCategoryType => "UnknownCategoryType"
  | .householdMemberNotFound => "HouseholdMemberNotFound"
  | .householdMemberInactive => "HouseholdMemberInactive"
  | .householdMemberAlreadyActive => "HouseholdMemberAlreadyActive"
  | .householdMemberAlreadyInactive => "HouseholdMemberAlreadyInactive"
  | .memberHasActiveAccounts => "MemberHasActiveAccounts"
  | .memberNameEmpty => "MemberNameEmpty"
  | .tagNotFound => "TagNotFound"
  | .tagAlreadyExists => "TagAlreadyExists"
  | .tagNameEmpty => "TagNameEmpty"
  | .unknownTagType => "UnknownTagType"
  | .tagTypeMismatch => "TagTypeMismatch"
  | .tagInUse => "TagInUse"
  | .transactionNotFound => "TransactionNotFound"
  | .transactionInUse => "TransactionInUse"
  | .invalidStatusTransition => "InvalidStatusTransition"
  | .unknownTransactionType => "UnknownTransactionType"
  | .unknownTransactionStatus => "UnknownTransactionStatus"
  | .expenditureNotFound => "ExpenditureNotFound"
  | .ingressNotFound => "IngressNotFound"

def all : List DomainError := [
  .recordNotFound, .duplicateKey, .notNullViolation, .dataTooLong, .dataOutOfRange,
  .dataTruncated, .constraintViolation, .concurrentUpdate, .invalidAmount, .invalidCurrency,
  .currencyNotFound, .currencyMismatch, .accountNotFound, .accountInactive,
  .accountAlreadyActive, .accountAlreadyInactive, .accountHasTransactions, .insufficientBalance,
  .balanceOverflow, .accountNameEmpty, .unknownAccountType, .categoryNotFound, .categoryInactive,
  .categoryAlreadyActive, .categoryAlreadyInactive, .categoryInUseByExpenditure,
  .categoryInUseByIngress, .categoryInUseByTransfer, .categoryInUseBySavingsGoal,
  .categoryNameEmpty, .unknownCategoryType, .householdMemberNotFound, .householdMemberInactive,
  .householdMemberAlreadyActive, .householdMemberAlreadyInactive, .memberHasActiveAccounts,
  .memberNameEmpty, .tagNotFound, .tagAlreadyExists, .tagNameEmpty, .unknownTagType,
  .tagTypeMismatch, .tagInUse, .transactionNotFound, .transactionInUse, .invalidStatusTransition,
  .unknownTransactionType, .unknownTransactionStatus, .expenditureNotFound, .ingressNotFound]

theorem mem_all (e : DomainError) : e ∈ all := by
  cases e <;> decide

def ofCode? (code : String) : Option DomainError := all.find? (·.code == code)

def isGeneric : DomainError → Bool
  | .recordNotFound | .duplicateKey | .notNullViolation | .dataTooLong | .dataOutOfRange
  | .dataTruncated | .constraintViolation | .concurrentUpdate => true
  | _ => false

end DomainError

end Bookkeeping

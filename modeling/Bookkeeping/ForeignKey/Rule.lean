import Bookkeeping.Error.Ledger
import Bookkeeping.ForeignKey.Schema

namespace Bookkeeping

structure KeyRule where
  name : String
  child : String
  parent : String
  parentMissing : Option DomainError
  stillReferenced : Option DomainError
  deriving DecidableEq, Repr

namespace KeyRule

def meaning (r : KeyRule) : ViolationSide → Option DomainError
  | .parentMissing => r.parentMissing
  | .stillReferenced => r.stillReferenced

def registryVersion : Nat := 1

def registry : List KeyRule := [
  ⟨"fk_accounts_owner_id", "accounts.owner_id", "household_members.id",
    some .householdMemberNotFound, none⟩,
  ⟨"fk_accounts_currency", "accounts.currency", "currencies.code", some .currencyNotFound, none⟩,
  ⟨"fk_transactions_account_id", "transactions.account_id", "accounts.id",
    some .accountNotFound, some .accountHasTransactions⟩,
  ⟨"fk_transactions_currency", "transactions.currency", "currencies.code",
    some .currencyNotFound, none⟩,
  ⟨"fk_expenditures_category_id", "expenditures.category_id", "categories.id",
    some .categoryNotFound, some .categoryInUseByExpenditure⟩,
  ⟨"fk_expenditures_transaction_id", "expenditures.transaction_id", "transactions.id",
    some .transactionNotFound, some .transactionInUse⟩,
  ⟨"fk_ingresses_category_id", "ingresses.category_id", "categories.id",
    some .categoryNotFound, some .categoryInUseByIngress⟩,
  ⟨"fk_ingresses_transaction_id", "ingresses.transaction_id", "transactions.id",
    some .transactionNotFound, some .transactionInUse⟩,
  ⟨"fk_transfers_category_id", "transfers.category_id", "categories.id",
    some .categoryNotFound, some .categoryInUseByTransfer⟩,
  ⟨"fk_transfers_source_transaction_id", "transfers.source_transaction_id", "transactions.id",
    some .transactionNotFound, some .transactionInUse⟩,
  ⟨"fk_transfers_destination_transaction_id", "transfers.destination_transaction_id",
    "transactions.id", some .transactionNotFound, some .transactionInUse⟩,
  ⟨"fk_savings_goals_category_id", "savings_goals.category_id", "categories.id",
    some .categoryNotFound, some .categoryInUseBySavingsGoal⟩,
  ⟨"fk_savings_goals_currency", "savings_goals.currency", "currencies.code",
    some .currencyNotFound, none⟩,
  ⟨"fk_expenditure_tags_expenditure_id", "expenditure_tags.expenditure_id", "expenditures.id",
    some .expenditureNotFound, none⟩,
  ⟨"fk_expenditure_tags_tag_id", "expenditure_tags.tag_id", "tags.id",
    some .tagNotFound, some .tagInUse⟩,
  ⟨"fk_ingress_tags_ingress_id", "ingress_tags.ingress_id", "ingresses.id",
    some .ingressNotFound, none⟩,
  ⟨"fk_ingress_tags_tag_id", "ingress_tags.tag_id", "tags.id", some .tagNotFound, some .tagInUse⟩]

def ofName? (name : String) : Option KeyRule := registry.find? (·.name == name)

/-- Rules and keys are listed apart. They are the same, in the same order. -/
theorem registry_agrees : registry.map (fun r => (r.name, r.child, r.parent)) =
    ForeignKey.all.map fun k => (k.name, s!"{k.childTable}.{k.childColumn}",
      s!"{k.parentTable}.{k.parentColumn}") := by
  decide +kernel

theorem map_name_registry : registry.map name = ForeignKey.all.map (·.name) := by
  have h := congrArg (List.map Prod.fst) registry_agrees
  rw [List.map_map, List.map_map] at h
  exact h

end KeyRule

end Bookkeeping

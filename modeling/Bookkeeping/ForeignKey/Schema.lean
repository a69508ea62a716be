import Bookkeeping.ForeignKey.Basic

namespace Bookkeeping.ForeignKey

def accountsOwner : ForeignKey :=
  ⟨"fk_accounts_owner_id", "accounts", "owner_id", "household_members", "id", .setNull⟩

def accountsCurrency : ForeignKey :=
  ⟨"fk_accounts_currency", "accounts", "currency", "currencies", "code", .restrict⟩

def transactionsAccount : ForeignKey :=
  ⟨"fk_transactions_account_id", "transactions", "account_id", "accounts", "id", .restrict⟩

def transactionsCurrency : ForeignKey :=
  ⟨"fk_transactions_currency", "transactions", "currency", "currencies", "code", .restrict⟩

def expendituresCategory : ForeignKey :=
  ⟨"fk_expenditures_category_id", "expenditures", "category_id", "categories", "id", .restrict⟩

def expendituresTransaction : ForeignKey :=
  ⟨"fk_expenditures_transaction_id", "expenditures", "transaction_id", "transactions", "id",
    .restrict⟩

def ingressesCategory : ForeignKey :=
  ⟨"fk_ingresses_category_id", "ingresses", "category_id", "categories", "id", .restrict⟩

def ingressesTransaction : ForeignKey :=
  ⟨"fk_ingresses_transaction_id", "ingresses", "transaction_id", "transactions", "id", .restrict⟩

def transfersCategory : ForeignKey :=
  ⟨"fk_transfers_category_id", "transfers", "category_id", "categories", "id", .restrict⟩

def transfersSource : ForeignKey :=
  ⟨"fk_transfers_source_transaction_id", "transfers", "source_transaction_id", "transactions", "id",
    .restrict⟩

def transfersDestination : ForeignKey :=
  ⟨"fk_transfers_destination_transaction_id", "transfers", "destination_transaction_id",
    "transactions", "id", .restrict⟩

def savingsGoalsCategory : ForeignKey :=
  ⟨"fk_savings_goals_category_id", "savings_goals", "category_id", "categories", "id", .restrict⟩

def savingsGoalsCurrency : ForeignKey :=
  ⟨"fk_savings_goals_currency", "savings_goals", "currency", "currencies", "code", .restrict⟩

def expenditureTagsExpenditure : ForeignKey :=
  ⟨"fk_expenditure_tags_expenditure_id", "expenditure_tags", "expenditure_id", "expenditures", "id",
    .cascade⟩

def expenditureTagsTag : ForeignKey :=
  ⟨"fk_expenditure_tags_tag_id", "expenditure_tags", "tag_id", "tags", "id", .restrict⟩

def ingressTagsIngress : ForeignKey :=
  ⟨"fk_ingress_tags_ingress_id", "ingress_tags", "ingress_id", "ingresses", "id", .cascade⟩

def ingressTagsTag : ForeignKey :=
  ⟨"fk_ingress_tags_tag_id", "ingress_tags", "tag_id", "tags", "id", .restrict⟩

def all : List ForeignKey := [
  accountsOwner, accountsCurrency, transactionsAccount, transactionsCurrency, expendituresCategory,
  expendituresTransaction, ingressesCategory, ingressesTransaction, transfersCategory,
  transfersSource, transfersDestination, savingsGoalsCategory, savingsGoalsCurrency,
  expenditureTagsExpenditure, expenditureTagsTag, ingressTagsIngress, ingressTagsTag]

def ofName? (name : String) : Option ForeignKey := all.find? (·.name == name)

theorem nodup_names : (all.map name).Nodup := by decide

end Bookkeeping.ForeignKey

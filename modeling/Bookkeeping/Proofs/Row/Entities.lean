import Bookkeeping.Proofs.Row.Reading
import Bookkeeping.Proofs.Row.RoundTrip
import Bookkeeping.Store.Table

namespace Bookkeeping

open Form (Knows)

theorem AccountKind.knows :
    Knows ["bank", "cash", "crypto", "investment", "other"] Text.Spells .unknownAccountType code
      parse :=
  .of_find all rfl (fun _ k => looseName_eq_iff (by cases k <;> decide))
    (fun _ _ h => by rw [parse, ofCode?, h]) fun _ h => by rw [parse, ofCode?, h]

theorem CategoryKind.knows :
    Knows ["ingress", "expenditure", "transfer", "savings_goal"] Text.Spells .unknownCategoryType
      code parse :=
  .of_find all rfl (fun _ k => looseName_eq_iff (by cases k <;> decide))
    (fun _ _ h => by rw [parse, ofCode?, h]) fun _ h => by rw [parse, ofCode?, h]

theorem TagKind.knows :
    Knows ["expenditure", "ingress", "transfer", "savings_goal", "savings_withdrawal",
      "savings_contribution"] Text.Spells .unknownTagType code parse :=
  .of_find all rfl (fun _ k => looseName_eq_iff (by cases k <;> decide))
    (fun _ _ h => by rw [parse, ofCode?, h]) fun _ h => by rw [parse, ofCode?, h]

theorem TransactionKind.knows :
    Knows ["expenditure", "ingress", "transfer", "savings_contribution", "savings_withdrawal"] Eq
      .unknownTransactionType code parse :=
  .of_find all rfl (fun _ _ => Iff.rfl)
    (fun _ _ h => by rw [parse, ofCode?, h]) fun _ h => by rw [parse, ofCode?, h]

theorem TransactionStatus.knows :
    Knows ["pending", "completed", "failed", "cancelled"] Eq .unknownTransactionStatus code parse :=
  .of_find all rfl (fun _ _ => Iff.rfl)
    (fun _ _ h => by rw [parse, ofCode?, h]) fun _ h => by rw [parse, ofCode?, h]

theorem Record.cell?_cons (c column : String) (cell : Cell) (r : Record) :
    cell? ((c, cell) :: r) column = if column = c then some cell else r.cell? column := by
  rw [cell?, List.lookup_cons]
  by_cases h : column = c
  · rw [beq_iff_eq.2 h, if_pos h]
  · rw [beq_eq_false_iff_ne.2 h, if_neg h, cell?]

inductive Entity
  | member
  | account
  | category
  | tag
  | transaction
  | expenditure
  | ingress

namespace Entity

abbrev table : Entity → Table
  | .member => .members
  | .account => .accounts
  | .category => .categories
  | .tag => .tags
  | .transaction => .transactions
  | .expenditure => .expenditures
  | .ingress => .ingresses

abbrev Value : Entity → Type
  | .member => Member
  | .account => Account
  | .category => Category
  | .tag => Tag
  | .transaction => Transaction
  | .expenditure => Expenditure
  | .ingress => Ingress

def row : (e : Entity) → e.Value → e.table.Row
  | .member => Member.row
  | .account => Account.row
  | .category => Category.row
  | .tag => Tag.row
  | .transaction => Transaction.row
  | .expenditure => Expenditure.row
  | .ingress => Ingress.row

def ofRow : (e : Entity) → e.table.Row → Except InfraError e.Value
  | .member => Member.ofRow
  | .account => Account.ofRow
  | .category => Category.ofRow
  | .tag => Tag.ofRow
  | .transaction => Transaction.ofRow
  | .expenditure => Expenditure.ofRow
  | .ingress => Ingress.ofRow

def fields : Entity → List Field
  | .member => [⟨"id", .id⟩]
  | .account => [
    ⟨"id", .id⟩,
    ⟨"account_type", .named ["bank", "cash", "crypto", "investment", "other"] Text.Spells
      .unknownAccountType⟩,
    ⟨"currency", .currency⟩,
    ⟨"owner_id", .optionalId⟩]
  | .category => [
    ⟨"id", .id⟩,
    ⟨"category_type", .named ["ingress", "expenditure", "transfer", "savings_goal"] Text.Spells
      .unknownCategoryType⟩]
  | .tag => [
    ⟨"id", .id⟩,
    ⟨"tag_type", .named ["expenditure", "ingress", "transfer", "savings_goal",
      "savings_withdrawal", "savings_contribution"] Text.Spells .unknownTagType⟩]
  | .transaction => [
    ⟨"id", .id⟩,
    ⟨"account_id", .id⟩,
    ⟨"currency", .currency⟩,
    ⟨"transaction_type", .named ["expenditure", "ingress", "transfer", "savings_contribution",
      "savings_withdrawal"] Eq .unknownTransactionType⟩,
    ⟨"status", .named ["pending", "completed", "failed", "cancelled"] Eq
      .unknownTransactionStatus⟩]
  | .expenditure | .ingress => [⟨"id", .id⟩, ⟨"category_id", .id⟩, ⟨"transaction_id", .id⟩]

variable {e : Entity}

/-- A value is stored as a row that differs from `r` in nothing but the spelling of what was
decoded. -/
structure Restores (r : e.table.Row) (a : e.Value) : Prop where
  decoded : ∀ f ∈ e.fields,
    f.form.Reads ((e.table.record r).text? f.column) ((e.table.record (e.row a)).text? f.column)
  rest : ∀ column, column ∉ e.fields.map (·.column) →
    (e.table.record (e.row a)).cell? column = (e.table.record r).cell? column

theorem ofRow_row (e : Entity) (a : e.Value) : e.ofRow (e.row a) = .ok a := by
  cases e with
  | member => exact Member.ofRow_row a
  | account => exact Account.ofRow_row a
  | category => exact Category.ofRow_row a
  | tag => exact Tag.ofRow_row a
  | transaction => exact Transaction.ofRow_row a
  | expenditure => exact Expenditure.ofRow_row a
  | ingress => exact Ingress.ofRow_row a

theorem read (e : Entity) (r : e.table.Row) :
    Read e.table.name (e.table.record r) (Restores r) e.fields (e.ofRow r) := by
  cases e
  case' member =>
    refine .bind (Form.decoding_id _ _) rfl rfl fun id hid => .done ⟨?_, ?_⟩
    · simp only [fields, List.forall_mem_cons]
      exact ⟨hid, List.forall_mem_nil _⟩
  case' account =>
    refine .bind (Form.decoding_id _ _) rfl rfl fun id hid =>
      .bind (Form.decoding_named AccountKind.knows _ _) rfl rfl fun kind hkind =>
      .bind (Form.decoding_currency _ _) rfl rfl fun currency hcurrency =>
      .bind (Form.decoding_optionalId _ _) rfl (Cell.text?_ofText? _) fun owner howner =>
      .done ⟨?_, ?_⟩
    · rw [← Cell.text?_ofText? r.owner, ← Cell.text?_ofText? (owner.map Uuid.text)] at howner
      simp only [fields, List.forall_mem_cons]
      exact ⟨hid, hkind, hcurrency, howner, List.forall_mem_nil _⟩
  case' category =>
    refine .bind (Form.decoding_id _ _) rfl rfl fun id hid =>
      .bind (Form.decoding_named CategoryKind.knows _ _) rfl rfl fun kind hkind => .done ⟨?_, ?_⟩
    · simp only [fields, List.forall_mem_cons]
      exact ⟨hid, hkind, List.forall_mem_nil _⟩
  case' tag =>
    refine .bind (Form.decoding_id _ _) rfl rfl fun id hid =>
      .bind (Form.decoding_named TagKind.knows _ _) rfl rfl fun kind hkind => .done ⟨?_, ?_⟩
    · simp only [fields, List.forall_mem_cons]
      exact ⟨hid, hkind, List.forall_mem_nil _⟩
  case' transaction =>
    refine .bind (Form.decoding_id _ _) rfl rfl fun id hid =>
      .bind (Form.decoding_id _ _) rfl rfl fun account haccount =>
      .bind (Form.decoding_currency _ _) rfl rfl fun currency hcurrency =>
      .bind (Form.decoding_named TransactionKind.knows _ _) rfl rfl fun kind hkind =>
      .bind (Form.decoding_named TransactionStatus.knows _ _) rfl rfl fun status hstatus =>
      .done ⟨?_, ?_⟩
    · simp only [fields, List.forall_mem_cons]
      exact ⟨hid, haccount, hcurrency, hkind, hstatus, List.forall_mem_nil _⟩
  case' expenditure | ingress =>
    refine .bind (Form.decoding_id _ _) rfl rfl fun id hid =>
      .bind (Form.decoding_id _ _) rfl rfl fun category hcategory =>
      .bind (Form.decoding_id _ _) rfl rfl fun transaction htransaction => .done ⟨?_, ?_⟩
    · simp only [fields, List.forall_mem_cons]
      exact ⟨hid, hcategory, htransaction, List.forall_mem_nil _⟩
  -- The decoded columns are done. Every other one goes into the value and out again as it is.
  all_goals
    intro column h
    simp only [fields, List.map, List.mem_cons, not_or] at h
    simp [Table.record, MemberRow.record, AccountRow.record, CategoryRow.record, TagRow.record,
      TransactionRow.record, ExpenditureRow.record, IngressRow.record, Record.cell?_cons, row,
      Member.row, Account.row, Category.row, Tag.row, Transaction.row, Expenditure.row,
      Ingress.row, h]

/-- An entity reads back from its row. A row reads exactly if each of its decoded columns does, and
what is read is stored again as the same row, the decoded columns in canonical form. Otherwise the
error names the first column that does not read: stored texts break no rule of the books, they are
trouble with the storage. -/
theorem rows_read_back (e : Entity) :
    (∀ a, e.ofRow (e.row a) = .ok a) ∧
    ∀ r : e.table.Row,
      ((∃ a, e.ofRow r = .ok a) ↔
        ∀ f ∈ e.fields, f.form.Readable ((e.table.record r).text? f.column)) ∧
      (∀ a, e.ofRow r = .ok a → Restores r a) ∧
      ∀ error, e.ofRow r = .error error → ∃ before f after s,
        e.fields = before ++ f :: after ∧
        (∀ g ∈ before, g.form.Readable ((e.table.record r).text? g.column)) ∧
        (e.table.record r).text? f.column = some s ∧ ¬f.form.Readable (some s) ∧
        error = .decode s!"{e.table.name}.{f.column}: {f.form.complaint s}" :=
  ⟨e.ofRow_row, fun r => ⟨(e.read r).ok_iff, fun _ h => (e.read r).of_ok h,
    fun _ h => (e.read r).of_error h⟩⟩

-- Categories and transactions have kinds of one name, but only the former are read leniently.
example :
    (Category.ofRow ⟨"67E5504410B1426F9247BB680E5FE0C8", "Food", ⟨none, none, none⟩,
      " Expenditure ", true, .ofSeconds 0, .ofSeconds 0⟩).map (·.kind) = .ok .expenditure ∧
    Transaction.ofRow ⟨"67e55044-10b1-426f-9247-bb680e5fe0c8",
      "\x7b67e55044-10b1-426f-9247-bb680e5fe0c8\x7d", default, " eur ", .ofSeconds 0, none,
      " Expenditure ", default, "done", .ofSeconds 0, .ofSeconds 0⟩ =
      .error (.decode "transactions.transaction_type: unknown transaction type") := by
  decide +kernel

end Entity

end Bookkeeping

import Bookkeeping.Proofs.Text.Identifier
import Bookkeeping.Row.Account
import Bookkeeping.Row.Label
import Bookkeeping.Row.Member
import Bookkeeping.Row.Movement

namespace Bookkeeping

@[simp] theorem Currency.parse_code (c : Currency) : parse c.code = .ok c := by
  rw [parse, parse?_code]

theorem looseName_accountKind (k : AccountKind) : looseName k.code = k.code := by
  cases k <;> decide

theorem looseName_categoryKind (k : CategoryKind) : looseName k.code = k.code := by
  cases k <;> decide

theorem looseName_tagKind (k : TagKind) : looseName k.code = k.code := by
  cases k <;> decide

@[simp] theorem AccountKind.parse_code (k : AccountKind) : parse k.code = .ok k := by
  simp [parse, looseName_accountKind, ofCode?_code]

@[simp] theorem CategoryKind.parse_code (k : CategoryKind) : parse k.code = .ok k := by
  simp [parse, looseName_categoryKind, ofCode?_code]

@[simp] theorem TagKind.parse_code (k : TagKind) : parse k.code = .ok k := by
  simp [parse, looseName_tagKind, ofCode?_code]

@[simp] theorem TransactionKind.parse_code (k : TransactionKind) : parse k.code = .ok k := by
  simp [parse, ofCode?_code]

@[simp] theorem TransactionStatus.parse_code (k : TransactionStatus) : parse k.code = .ok k := by
  simp [parse, ofCode?_code]

theorem decodeId_text (column : String) (u : Uuid) : decodeId column u.text = .ok u := by
  simp [decodeId]

theorem decodeOptionalId_text (column : String) (u : Option Uuid) :
    decodeOptionalId column (u.map Uuid.text) = .ok u := by
  cases u with
  | none => rfl
  | some u => simp [decodeOptionalId, decodeId_text, Except.map]

@[simp] theorem Member.ofRow_row (m : Member) : ofRow m.row = .ok m := by
  simp [ofRow, row, decodeId_text, bind, Except.bind]

@[simp] theorem Account.ofRow_row (a : Account) : ofRow a.row = .ok a := by
  simp [ofRow, row, decodeId_text, decodeOptionalId_text, decodeColumn, bind, Except.bind]

@[simp] theorem Category.ofRow_row (c : Category) : ofRow c.row = .ok c := by
  simp [ofRow, row, decodeId_text, decodeColumn, bind, Except.bind]

@[simp] theorem Tag.ofRow_row (t : Tag) : ofRow t.row = .ok t := by
  simp [ofRow, row, decodeId_text, decodeColumn, bind, Except.bind]

@[simp] theorem Transaction.ofRow_row (t : Transaction) : ofRow t.row = .ok t := by
  simp [ofRow, row, decodeId_text, decodeColumn, bind, Except.bind]

@[simp] theorem Expenditure.ofRow_row (e : Expenditure) : ofRow e.row = .ok e := by
  simp [ofRow, row, decodeId_text, bind, Except.bind]

@[simp] theorem Ingress.ofRow_row (i : Ingress) : ofRow i.row = .ok i := by
  simp [ofRow, row, decodeId_text, bind, Except.bind]

end Bookkeeping

import Bookkeeping.Proofs.Ledger.Members
import Bookkeeping.UseCase.Accounts

namespace Bookkeeping

def Account.saved (a : Account) (savedAt : Instant) : Account :=
  { a with version := a.version + 1, updatedAt := savedAt }

namespace Ledger

def findAccount (id : Uuid) : Query Account :=
  (Query.find accounts (·.id) id).notFoundAs .accountNotFound

def listAccounts : Query (List Account) :=
  .ask (·.accounts.mergeSort (Register.byText (·.name)))

def hasTransactions (id : Uuid) : Query Bool := .ask (·.transactions.any (·.account == id))

def checkOwner : Option Uuid → Query Unit
  | none => pure ()
  | some id => do
    if !(← findMember id).active then Query.refuse .householdMemberInactive

def storeAccount (version : Int) (a : Account) : Edit := fun L =>
  match L.accounts.find? (·.id == a.id) with
  | none => .error .recordNotFound
  | some old =>
    if old.version = version then L.replaceAccount old a else .error .concurrentUpdate

def saveAccount (a : Account) (savedAt : Instant) : Step Account := do
  let version ← Step.ask (.ofOverflow (Accounts.nextVersion a.version))
  Step.edit (storeAccount a.version { a with version, updatedAt := savedAt })
  return { a with version, updatedAt := savedAt }

def createAccount (cmd : NewAccount) (o : Occasion) : Step Account := do
  let account ← Step.ask (.ofDomain (Account.new cmd o.id o.now))
  Step.ask (checkOwner account.owner)
  Step.edit (enterAccount account)
  return account

def changeAccount (id : Uuid) (change : Account → Except DomainError Account) (o : Occasion) :
    Step Account := do
  let account ← Step.ask (findAccount id)
  let account ← Step.ask (.ofDomain (change account))
  saveAccount account o.savedAt

def deleteAccount (id : Uuid) : Step Unit := do
  discard (Step.ask (findAccount id))
  if (← Step.ask (hasTransactions id)) then Step.refuse .accountHasTransactions
  (Step.edit (strikeAccount id)).notFoundAs .accountNotFound

end Ledger

open Ledger (Query Step)

theorem answers_findAccount (id : Uuid) :
    Answers (UseCase.findAccount id) (Ledger.findAccount id) :=
  (Answers.look Books.accounts AccountRow.id Account.ofRow_row (fun _ => rfl) (fun _ => rfl) id)
    |>.notFoundAs _

theorem answers_listAccounts : Answers Accounts.list Ledger.listAccounts :=
  .list Account.ofRow_row fun L _ => sorted_rows (fun _ => rfl) L.accounts

theorem answers_hasTransactions (id : Uuid) :
    Answers (Accounts.hasTransactions id) (Ledger.hasTransactions id) :=
  .read fun L _ => by simp [Ledger.books, Transaction.row, List.any_map, Function.comp_def]

theorem answers_checkOwner (owner : Option Uuid) :
    Answers (UseCase.checkOwner owner) (Ledger.checkOwner owner) := by
  cases owner with
  | none => exact .pure ()
  | some id => exact (answers_findMember id).bind fun _ => .ite (.failDomain _) (.pure ())

theorem Ledger.Sound.any_current {L : Ledger} (h : L.Sound) (id : Uuid) (version : Int) :
    L.books.accounts.any (fun r => r.id == id.text && r.version == version) =
      (L.accounts.find? (·.id == id)).any (·.version == version) := by
  have hrows : L.books.accounts.any (fun r => r.id == id.text && r.version == version) =
      L.accounts.any fun a => a.id == id && a.version == version := by
    simp [books, Account.row, List.any_map, Function.comp_def]
  rw [hrows, Bool.eq_iff_iff, List.any_eq_true]
  cases hf : L.accounts.find? (·.id == id) with
  | none =>
    have hnone := List.find?_eq_none.1 hf
    simp only [Option.any_none, Bool.false_eq_true, iff_false]
    rintro ⟨a, ha, hp⟩
    exact hnone a ha (Bool.and_eq_true_iff.1 hp).1
  | some old =>
    obtain ⟨hmem, hid⟩ := (Keyed.find?_eq_some_iff h.nodup_accounts).1 hf
    constructor
    · rintro ⟨a, ha, hp⟩
      have hp : a.id = id ∧ a.version = version := by simpa using hp
      have heq : a = old := List.inj_on_of_nodup_map h.nodup_accounts ha hmem (hp.1.trans hid.symm)
      simp [← heq, hp.2]
    · intro hv
      exact ⟨old, hmem, by simpa [hid] using hv⟩

theorem Ledger.storeAccount_of_not_mem {L : Ledger} {a : Account} (h : a.id ∉ L.accountIds)
    (version : Int) : storeAccount version a L = .error .recordNotFound := by
  have hf : L.accounts.find? (·.id == a.id) = none := by simpa [accountIds] using h
  rw [storeAccount, hf]

theorem Ledger.storeAccount_of_mem {L : Ledger} (h : L.Sound) {old a : Account}
    (hold : old ∈ L.accounts) (hid : old.id = a.id) (version : Int) :
    storeAccount version a L =
      if old.version = version then L.replaceAccount old a else .error .concurrentUpdate := by
  rw [storeAccount, (Keyed.find?_eq_some_iff h.nodup_accounts).2 ⟨hold, hid⟩]

theorem Ledger.saveAccount_apply {a : Account} (hv : a.version + 1 ≤ greatestWord)
    (savedAt : Instant) (L : Ledger) :
    saveAccount a savedAt L = match storeAccount a.version (a.saved savedAt) L with
      | .ok L => .ok (a.saved savedAt, L)
      | .error e => .error (.domain e) := by
  rw [saveAccount, Step.ask_bind, Accounts.nextVersion, if_pos hv]
  exact Step.edit_bind _ _ L

theorem settles_storeAccount (version : Int) (a : Account) :
    Settles (do
      let current (r : AccountRow) : Bool := r.id == a.id.text && r.version == version
      if ← Work.read (·.accounts.any current) then
        Register.replace .accounts Accounts.changeable current a.row
        return a
      else if ← Work.read (·.accounts.any (·.id == a.id.text)) then
        Work.failDomain .concurrentUpdate
      else Work.failDomain .recordNotFound)
      (do Step.edit (Ledger.storeAccount version a); return a) := by
  intro s L hr hs hb
  have hread (p : Books → Bool) : Work.read p s = (.ok (p L.books), s) := hb ▸ Work.read_apply hr p
  have hcurrent := hs.any_current a.id version
  have hthere : L.books.accounts.any (·.id == a.id.text) = decide (a.id ∈ L.accountIds) :=
    any_rowId (t := .accounts) (f := Account.row) (fun _ => rfl) L.accounts a.id
  by_cases hin : a.id ∈ L.accountIds
  · obtain ⟨old, hold, hid⟩ := List.mem_map.1 hin
    rw [(Keyed.find?_eq_some_iff hs.nodup_accounts).2 ⟨hold, hid⟩, Option.any_some] at hcurrent
    by_cases hv : old.version = version
    · subst hv
      rw [beq_self_eq_true] at hcurrent
      have hrows : (L.books.rows .accounts).any (fun (r : AccountRow) =>
          r.id == a.id.text && r.version == old.version) = true := hcurrent
      have hreplace : Matches (Register.replace .accounts Accounts.changeable
          (fun r => r.id == a.id.text && r.version == old.version) a.row)
          (Step.edit (Ledger.storeAccount old.version a)) s L := by
        rw [Matches, Register.replace, Work.bind_ok (hread _), if_pos hrows, Step.edit,
          Ledger.storeAccount_of_mem hs hold hid, if_pos rfl]
        exact Settles.write_at hr hb (Ledger.enforced_replaceAccount hs hold hid)
      have hdone := hreplace.then_pure a
      rw [Matches] at hdone ⊢
      rwa [Work.bind_ok (hread _), if_pos hcurrent]
    · rw [Matches, Work.bind_ok (hread _), Step.edit_bind, hcurrent,
        Ledger.storeAccount_of_mem hs hold hid, if_neg hv, if_neg (by simpa using hv),
        Work.bind_ok (hread _), hthere, if_pos (decide_eq_true hin)]
      rfl
  · have hnone : L.accounts.find? (·.id == a.id) = none := by
      simpa [Ledger.accountIds] using hin
    rw [hnone, Option.any_none] at hcurrent
    rw [Matches, Work.bind_ok (hread _), Step.edit_bind, Ledger.storeAccount_of_not_mem hin,
      hcurrent, if_neg Bool.false_ne_true, Work.bind_ok (hread _), hthere, decide_eq_false hin,
      if_neg Bool.false_ne_true]
    rfl

theorem settles_saveAccount (a : Account) (savedAt : Instant) :
    Settles (Accounts.save a savedAt) (Ledger.saveAccount a savedAt) :=
  .after (.ofOverflow _) fun version =>
    settles_storeAccount a.version { a with version, updatedAt := savedAt }

theorem simulates_deleteAccount (id : Uuid) :
    Simulates (Accounts.delete id) (Step.edit (Ledger.strikeAccount id)) :=
  simulates_strike Ledger.accounts (fun _ => rfl) (fun _ => rfl)
    (fun _ hs hm => Ledger.enforced_strikeAccount hs hm) fun _ hm => if_pos hm

theorem performs_createAccount (cmd : NewAccount) (o : Occasion) :
    Performs (UseCase.createAccount cmd o) (Ledger.createAccount cmd o) :=
  .after (.ofDomain _) fun a => .atomically <|
    (answers_checkOwner a.owner).simulates.bind fun _ =>
      (simulates_enter fun _ hs => Ledger.enforced_enterAccount hs a).bind fun _ => .pure a

theorem performs_changeAccount (id : Uuid) (change : Account → Except DomainError Account)
    (o : Occasion) :
    Performs (UseCase.changeAccount id change o) (Ledger.changeAccount id change o) :=
  .atomically <| (answers_findAccount id).simulates.bind fun a =>
    (Answers.ofDomain (change a)).simulates.bind fun a =>
      (settles_saveAccount a o.savedAt).simulates

theorem performs_deleteAccount (id : Uuid) :
    Performs (UseCase.deleteAccount id) (Ledger.deleteAccount id) := by
  have hgo := (simulates_deleteAccount id).notFoundAs .accountNotFound
  exact .atomically <| ((answers_findAccount id).simulates.map fun _ => ()).bind fun _ =>
    (answers_hasTransactions id).simulates.bind fun _ =>
      .ite ((Simulates.failDomain _).bind fun _ => hgo) hgo

end Bookkeeping

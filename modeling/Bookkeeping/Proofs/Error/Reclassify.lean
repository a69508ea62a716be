import Bookkeeping.Proofs.UnitOfWork.Calls
import Mathlib.Tactic.SplitIfs

namespace Bookkeeping

namespace LedgerError

def rollbacks : LedgerError → List InfraError
  | .domain _ | .infra _ => []
  | .rollbackFailed cause rollback => rollback :: cause.rollbacks

def troubles : LedgerError → List InfraError
  | .domain _ => []
  | .infra e => [e]
  | .rollbackFailed cause rollback => rollback :: cause.troubles

variable (e : LedgerError) (old new : DomainError)

theorem reclassify_cases :
    e.reclassify old new = e ∨ e = .domain old ∧ e.reclassify old new = .domain new := by
  cases e with
  | domain e =>
    rw [reclassify]
    split_ifs with h
    · exact .inr ⟨congrArg _ h, rfl⟩
    · exact .inl rfl
  | infra e => exact .inl rfl
  | rollbackFailed cause rollback => exact .inl rfl

variable {e} in
theorem reclassify_of_rollbacks (h : e.rollbacks ≠ []) : e.reclassify old new = e := by
  rcases reclassify_cases e old new with he | ⟨rfl, -⟩
  · exact he
  · exact absurd rfl h

theorem domain?_reclassify : (e.reclassify old new).domain? =
    if e.rollbacks = [] ∧ e.domain? = some old then some new else e.domain? := by
  cases e with
  | domain e =>
    rw [domain?_reclassify_domain]
    by_cases he : e = old <;> simp [rollbacks, domain?, he]
  | infra e => rfl
  | rollbackFailed cause rollback =>
    have hr : (rollbackFailed cause rollback).rollbacks ≠ [] := List.cons_ne_nil _ _
    rw [reclassify_of_rollbacks old new hr, if_neg fun h => hr h.1]

theorem isDomain_reclassify : (e.reclassify old new).isDomain = e.isDomain := by
  rcases reclassify_cases e old new with he | ⟨rfl, he⟩ <;> rw [he]
  rfl

theorem troubles_reclassify : (e.reclassify old new).troubles = e.troubles := by
  rcases reclassify_cases e old new with he | ⟨rfl, he⟩ <;> rw [he]
  rfl

theorem rollbacks_reclassify : (e.reclassify old new).rollbacks = e.rollbacks := by
  rcases reclassify_cases e old new with he | ⟨rfl, he⟩ <;> rw [he]
  rfl

end LedgerError

theorem Diagnosis.rollbacks_diagnose (f : StorageFailure) : (diagnose f).rollbacks = [] := by
  have hkey (name side) : (brokenKey name side f).rollbacks = [] := by
    unfold brokenKey
    repeat' split
    all_goals rfl
  have hcode : (byCode f).rollbacks = [] := by
    unfold byCode
    split
    · exact hkey _ _
    · rfl
    · rfl
    · rfl
  unfold diagnose
  split
  · rfl
  · rfl
  · exact hcode
  · exact hcode

namespace Work

def Plain (w : Work α) : Prop := ∀ s e, (w s).1 = .error (.error e) → e.rollbacks = []

namespace Plain

theorem pure (a : α) : Plain (Pure.pure a) := by
  intro s e h
  cases h

theorem bind {w : Work α} {f : α → Work β} (hw : Plain w) (hf : ∀ a, Plain (f a)) :
    Plain (w >>= f) := by
  intro s e h
  have hs := hw s
  rw [bind_apply] at h
  generalize w s = r at h hs
  obtain ⟨e' | a, s'⟩ := r
  · cases h
    exact hs e rfl
  · exact hf a s' e h

theorem ite {q : Prop} [Decidable q] {w w' : Work α} (h : Plain w) (h' : Plain w') :
    Plain (if q then w else w') := by
  by_cases hq : q
  · rwa [if_pos hq]
  · rwa [if_neg hq]

theorem reclassify {w : Work α} (hw : Plain w) (old new : DomainError) :
    Plain (w.mapError (·.reclassify old new)) := by
  intro s e h
  have hs := hw s
  rw [mapError_apply] at h
  generalize w s = r at h hs
  obtain ⟨(e' | o) | a, s'⟩ := r
  · cases h
    rw [LedgerError.rollbacks_reclassify]
    exact hs e' rfl
  · cases h
  · cases h

theorem failDomain (e : DomainError) : Plain (Work.failDomain e : Work α) := by
  intro s e' h
  cases h
  rfl

theorem ofOverflow (x : Except Overflow α) : Plain (Work.ofOverflow x) := by
  intro s e h
  cases x <;> cases h

theorem ofDecoded (x : Except InfraError α) : Plain (Work.ofDecoded x) := by
  intro s e h
  cases x <;> cases h
  rfl

theorem ofStorage (x : Except StorageFailure α) : Plain (Work.ofStorage x) := by
  intro s e h
  cases x <;> cases h
  exact Diagnosis.rollbacks_diagnose _

theorem get : Plain (MonadState.get : Work Store) := by
  intro s e h
  cases h

theorem set (s' : Store) : Plain (MonadStateOf.set s' : Work PUnit) := by
  intro s e h
  cases h

theorem modify (f : Store → Store) : Plain (modifyThe Store f : Work PUnit) := by
  intro s e h
  cases h

theorem connected : Plain Work.connected := by
  refine get.bind fun s => .ite (.ofStorage _) ?_
  cases s.refusals.statements with
  | nil => exact .pure ()
  | cons refusal rest =>
    refine (set _).bind fun _ => ?_
    cases refusal with
    | none => exact .pure ()
    | some f => exact .ofStorage _

theorem read (query : Books → α) : Plain (Work.read query) :=
  connected.bind fun _ => get.bind fun _ => .pure _

theorem write (statement : Enforcement → Books → Except StorageFailure Books) :
    Plain (Work.write statement) :=
  connected.bind fun _ => get.bind fun _ => (ofStorage _).bind fun _ => set _

theorem look (query : Books → Option ρ) (decode : ρ → Except InfraError α) :
    Plain (Register.look query decode) :=
  (read query).bind fun
    | none => failDomain _
    | some row => ofDecoded (decode row)

theorem list (query : Books → List ρ) (decode : ρ → Except InfraError α) :
    Plain (Register.list query decode) :=
  (read query).bind fun _ => ofDecoded _

theorem enter (t : Table) (row : t.Row) : Plain (Register.enter t row) := write _

theorem replace (t : Table) (columns : List String) (chosen : t.Row → Bool) (row : t.Row) :
    Plain (Register.replace t columns chosen row) :=
  (read _).bind fun _ => ite (write _) (failDomain _)

theorem strike (t : Table) (chosen : t.Row → Bool) : Plain (Register.strike t chosen) :=
  (read _).bind fun _ => ite (write _) (failDomain _)

end Plain

end Work

namespace Call

open Work (Plain)

theorem plain_saveAccount (a : Account) (savedAt : Instant) : Plain (Accounts.save a savedAt) :=
  (Plain.ofOverflow _).bind fun _ => (Plain.read _).bind fun _ =>
    .ite ((Plain.replace _ _ _ _).bind fun _ => .pure _)
      ((Plain.read _).bind fun _ => .ite (.failDomain _) (.failDomain _))

theorem plain_linkTags (kind : TagKind) (target : Uuid) (tags : List Uuid) :
    Plain (Tags.link kind target tags) := by
  unfold Tags.link
  generalize Tags.distinct tags = tags
  refine .ite (.pure ()) ?_
  cases kind with
  | expenditure => exact .write _
  | ingress => exact .write _
  | _ => exact .failDomain _

theorem plain_linkedTags (kind : TagKind) (target : Uuid) : Plain (Tags.linkedTo kind target) := by
  cases kind with
  | expenditure => exact .list _ _
  | ingress => exact .list _ _
  | _ => exact .pure []

theorem plain (c : Call α) : Plain c.run := by
  cases c with rw [run]
  | createMember m => exact .enter .members _
  | getMember id => exact .look _ _
  | saveMember m => exact .replace .members _ _ _
  | deleteMember id => exact .strike .members _
  | listMembers => exact .list _ _
  | createAccount a => exact .enter .accounts _
  | getAccount id => exact .look _ _
  | saveAccount a savedAt => exact plain_saveAccount a savedAt
  | deleteAccount id => exact .strike .accounts _
  | listAccounts => exact .list _ _
  | listAccountsOf owner => exact .list _ _
  | hasTransactions id => exact .read _
  | createCategory c => exact .enter .categories _
  | getCategory id => exact .look _ _
  | saveCategory c => exact .replace .categories _ _ _
  | deleteCategory id => exact .strike .categories _
  | listCategories => exact .list _ _
  | listCategoriesOf kind => exact .list _ _
  | createTag t => exact (Plain.enter .tags _).reclassify _ _
  | getTag id => exact .look _ _
  | saveTag t => exact (Plain.replace .tags _ _ _).reclassify _ _
  | deleteTag id => exact .strike .tags _
  | listTagsOf kind => exact .list _ _
  | linkTags kind target tags => exact plain_linkTags kind target tags
  | linkedTags kind target => exact plain_linkedTags kind target
  | createTransaction t => exact .enter .transactions _
  | getTransaction id => exact .look _ _
  | listTransactions account => exact .list _ _
  | createExpenditure e => exact .enter .expenditures _
  | getExpenditure id => exact .look _ _
  | findExpenditures filter => exact .list _ _
  | createIngress i => exact .enter .ingresses _
  | getIngress id => exact .look _ _
  | deferForeignKeys => exact Plain.connected.bind fun _ => .modify _

end Call

namespace LedgerError

/-- A rule is renamed where the error tells of no failed rollback, as those of the registers do; an
error that tells of one stays as it is, whichever rule is behind it. Whether a rule was broken, and
all trouble with the storage, is told as before. -/
theorem reclassify_reaches_plain_errors (e : LedgerError) (old new : DomainError) :
    (e.reclassify old new).domain? =
      (if e.rollbacks = [] ∧ e.domain? = some old then some new else e.domain?) ∧
    ((e.reclassify old new).domain? = (if e.domain? = some old then some new else e.domain?) ↔
      e.rollbacks = [] ∨ e.domain? ≠ some old ∨ old = new) ∧
    (e.reclassify old new).isDomain = e.isDomain ∧
    (e.reclassify old new).isInfrastructure = e.isInfrastructure ∧
    (e.reclassify old new).troubles = e.troubles ∧
    (e.reclassify old new).rollbacks = e.rollbacks ∧
    (e.rollbacks ≠ [] → e.reclassify old new = e) ∧
    ∀ {α : Type} (c : Call α) (s : Store), (c.run s).1 = .error (.error e) → e.rollbacks = [] := by
  refine ⟨domain?_reclassify e old new, ?_, isDomain_reclassify e old new, ?_,
    troubles_reclassify e old new, rollbacks_reclassify e old new, reclassify_of_rollbacks old new,
    fun c s => c.plain s e⟩
  · rw [domain?_reclassify]
    by_cases hr : e.rollbacks = []
    · simp [hr]
    · by_cases hd : e.domain? = some old
      · simp [hr, hd]
      · simp [hr, hd]
  · rw [isInfrastructure, isInfrastructure, isDomain_reclassify]

/-- Looking up an account that is not there, with a storage that does not roll back: the error is
that no record was found, and it cannot be made one of accounts. -/
theorem missing_account_keeps_its_name :
    let s : Store := { Store.fresh with
      refusals := { Refusals.none with rollback := some (.connection "pool closed") } }
    let e : LedgerError :=
      .rollbackFailed (.domain .recordNotFound) (.rollback (.connection "pool closed"))
    (atomically (Accounts.get (.ofNat 1)) s).1 = .error (.error e) ∧
      e.domain? = some .recordNotFound ∧
      (e.reclassify .recordNotFound .accountNotFound).domain? = some .recordNotFound ∧
      ¬∀ (e : LedgerError) (old new : DomainError), (e.reclassify old new).domain? =
        if e.domain? = some old then some new else e.domain? := by
  intro s e
  refine ⟨rfl, rfl, rfl, fun h => ?_⟩
  have he := h e .recordNotFound .accountNotFound
  revert he
  decide

end LedgerError

end Bookkeeping

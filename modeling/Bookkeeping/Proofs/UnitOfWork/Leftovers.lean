import Bookkeeping.Proofs.Permanence.Commands

namespace Bookkeeping

namespace Work

/-- Work that leaves nothing behind when it fails. When it succeeds, it would have done the same on
a store in no trouble. -/
structure Clean (w : Work α) : Prop where
  failed : ∀ {s s' : Store} {e : Fault}, w s = (.error e, s') → s'.calm = s.calm
  done : ∀ {s s' : Store} {a : α}, w s = (.ok a, s') → w s.calm = (.ok a, s'.calm)

namespace Clean

theorem looks {w : Work α} {g : Store → Except Fault α} (h : ∀ s, w s = (g s, s))
    (hg : ∀ s, g s.calm = g s) : Clean w where
  failed {s s' e} hs := by
    rw [h] at hs
    rw [(Prod.mk.inj hs).2]
  done {s s' a} hs := by
    rw [h] at hs ⊢
    obtain ⟨hr, rfl⟩ := Prod.mk.inj hs
    rw [hg, hr]

theorem const {w : Work α} {r : Except Fault α} (h : ∀ s, w s = (r, s)) : Clean w :=
  looks h fun _ => rfl

theorem pure (a : α) : Clean (Pure.pure a) := const fun _ => rfl

theorem failDomain (e : DomainError) : Clean (Work.failDomain e : Work α) := const fun _ => rfl

theorem ofOverflow (x : Except Overflow α) : Clean (Work.ofOverflow x) := by
  cases x with
  | ok a => exact pure a
  | error o => exact const fun _ => rfl

theorem ofDecoded (x : Except InfraError α) : Clean (Work.ofDecoded x) := by
  cases x with
  | ok a => exact pure a
  | error e => exact const fun _ => rfl

theorem after {v : Work β} {f : β → Work α} (hv : Clean v) (hk : Keeps Store.calm v)
    (hf : ∀ b, Clean (f b)) : Clean (v >>= f) where
  failed {s s' e} h := by
    have hs := hk s
    rw [bind_apply] at h
    cases hr : v s with
    | mk r s₁ =>
      rw [hr] at h hs
      cases r with
      | error e₁ =>
        cases h
        exact hs
      | ok b => exact ((hf b).failed h).trans hs
  done {s s' a} h := by
    rw [bind_apply] at h
    cases hr : v s with
    | mk r s₁ =>
      rw [hr] at h
      cases r with
      | error e₁ => cases h
      | ok b =>
        rw [bind_ok (hv.done hr)]
        exact (hf b).done h

theorem map {w : Work α} (hw : Clean w) (f : α → β) : Clean (f <$> w) where
  failed {s s' e} h := by
    rw [map_apply] at h
    cases hr : w s with
    | mk r s₁ =>
      rw [hr] at h
      cases r <;> cases h
      exact hw.failed hr
  done {s s' b} h := by
    rw [map_apply] at h
    cases hr : w s with
    | mk r s₁ =>
      rw [hr] at h
      cases r <;> cases h
      rw [map_apply, hw.done hr]

theorem ite {q : Prop} [Decidable q] {w w' : Work α} (h : Clean w) (h' : Clean w') :
    Clean (if q then w else w') := by
  by_cases hq : q
  · rwa [if_pos hq]
  · rwa [if_neg hq]

theorem mapError {w : Work α} (hw : Clean w) (f : LedgerError → LedgerError) :
    Clean (w.mapError f) where
  failed {s s' e} h := by
    rw [mapError_apply] at h
    cases hr : w s with
    | mk r s₁ =>
      rw [hr] at h
      obtain (e₁ | o) | a := r <;> cases h <;> exact hw.failed hr
  done {s s' a} h := by
    rw [mapError_apply] at h
    cases hr : w s with
    | mk r s₁ =>
      rw [hr] at h
      obtain (e₁ | o) | a := r <;> cases h
      rw [mapError_apply, hw.done hr]

theorem keeps_connected : Keeps Store.calm Work.connected := .connected fun _ _ => rfl

theorem connected : Clean Work.connected := by
  have hget (s : Store) : (get : Work Store) s = (.ok s, s) := rfl
  have hkept {s s' : Store} {r : Except Fault Unit} (h : Work.connected s = (r, s')) :
      s'.calm = s.calm := by
    rw [← keeps_connected s, h]
  constructor
  · intro s s' e h
    exact hkept h
  · intro s s' u h
    have hopen : s.isOpen = true := by
      by_contra hclosed
      rw [Work.connected, bind_ok (hget s), if_pos (by simpa using hclosed)] at h
      cases h
    have hcalm : Work.connected s.calm = (.ok u, s.calm) := by
      rw [Work.connected, bind_ok (hget s.calm), if_neg (by simpa [Store.calm] using hopen)]
      rfl
    rw [hcalm, hkept h]

theorem read (query : Books → α) : Clean (Work.read query) := by
  refine connected.after keeps_connected fun _ => ?_
  exact looks (g := fun s => .ok (query s.books)) (fun _ => rfl) fun _ => rfl

theorem keeps_read (query : Books → α) : Keeps Store.calm (Work.read query) :=
  .read (fun _ _ => rfl) query

theorem changes {w : Work Unit} {g : Enforcement → Books → Except StorageFailure Books}
    (h : ∀ s, w s = match g s.enforcement s.books with
      | .ok b => (.ok (), { s with books := b })
      | .error f => (.error (.error (Diagnosis.diagnose f)), s)) : Clean w where
  failed {s s' e} hs := by
    rw [h] at hs
    cases hg : g s.enforcement s.books <;> rw [hg] at hs <;> cases hs
    rfl
  done {s s' u} hs := by
    have hcalm : w s.calm = match g s.enforcement s.books with
      | .ok b => (.ok (), { s.calm with books := b })
      | .error f => (.error (.error (Diagnosis.diagnose f)), s.calm) := h s.calm
    rw [h] at hs
    cases hg : g s.enforcement s.books <;> rw [hg] at hs hcalm <;> cases hs
    exact hcalm

theorem write (statement : Enforcement → Books → Except StorageFailure Books) :
    Clean (Work.write statement) := by
  refine connected.after keeps_connected fun _ => changes (g := statement) fun s => ?_
  rw [bind_ok (show (get : Work Store) s = (.ok s, s) from rfl)]
  cases statement s.enforcement s.books <;> rfl

theorem look (query : Books → Option ρ) (decode : ρ → Except InfraError α) :
    Clean (Register.look query decode) := by
  refine (read query).after (keeps_read query) fun row => ?_
  cases row with
  | none => exact failDomain _
  | some row => exact ofDecoded _

theorem list (query : Books → List ρ) (decode : ρ → Except InfraError α) :
    Clean (Register.list query decode) :=
  (read query).after (keeps_read query) fun _ => ofDecoded _

theorem enter (t : Table) (row : t.Row) : Clean (Register.enter t row) := write _

theorem replace (t : Table) (columns : List String) (chosen : t.Row → Bool) (row : t.Row) :
    Clean (Register.replace t columns chosen row) :=
  (read _).after (keeps_read _) fun _ => ite (write _) (failDomain _)

theorem strike (t : Table) (chosen : t.Row → Bool) : Clean (Register.strike t chosen) :=
  (read _).after (keeps_read _) fun _ => ite (write _) (failDomain _)

end Clean

end Work

namespace Call

open Work (Clean)

theorem clean_saveAccount (a : Account) (savedAt : Instant) : Clean (Accounts.save a savedAt) :=
  (Clean.ofOverflow _).after (.ofOverflow _) fun _ =>
    (Clean.read _).after (Clean.keeps_read _) fun _ =>
      .ite ((Clean.replace _ _ _ _).map fun _ => _)
        ((Clean.read _).after (Clean.keeps_read _) fun _ => .ite (.failDomain _) (.failDomain _))

theorem clean_linkTags (kind : TagKind) (target : Uuid) (tags : List Uuid) :
    Clean (Tags.link kind target tags) := by
  unfold Tags.link
  generalize Tags.distinct tags = tags
  refine .ite (.pure ()) ?_
  cases kind with
  | expenditure => exact .write _
  | ingress => exact .write _
  | _ => exact .failDomain _

theorem clean_linkedTags (kind : TagKind) (target : Uuid) : Clean (Tags.linkedTo kind target) := by
  cases kind with
  | expenditure => exact .list _ _
  | ingress => exact .list _ _
  | _ => exact .pure []

theorem clean_deferForeignKeys : Clean Work.deferForeignKeys := by
  refine Clean.connected.after Clean.keeps_connected fun _ => ?_
  constructor
  · intro s s' e h
    cases h
  · intro s s' u h
    cases h
    rfl

theorem clean (c : Call α) : Clean c.run := by
  cases c with rw [run]
  | createMember m => exact .enter .members _
  | getMember id => exact .look _ _
  | saveMember m => exact .replace .members _ _ _
  | deleteMember id => exact .strike .members _
  | listMembers => exact .list _ _
  | createAccount a => exact .enter .accounts _
  | getAccount id => exact .look _ _
  | saveAccount a savedAt => exact clean_saveAccount a savedAt
  | deleteAccount id => exact .strike .accounts _
  | listAccounts => exact .list _ _
  | listAccountsOf owner => exact .list _ _
  | hasTransactions id => exact .read _
  | createCategory c => exact .enter .categories _
  | getCategory id => exact .look _ _
  | saveCategory c => exact .replace .categories _ _ _
  | deleteCategory id => exact .strike .categories _
  | listCategories => exact .list _ _
  | listCategoriesOf kind => exact .list _ _
  | createTag t => exact (Clean.enter .tags _).mapError _
  | getTag id => exact .look _ _
  | saveTag t => exact (Clean.replace .tags _ _ _).mapError _
  | deleteTag id => exact .strike .tags _
  | listTagsOf kind => exact .list _ _
  | linkTags kind target tags => exact clean_linkTags kind target tags
  | linkedTags kind target => exact clean_linkedTags kind target
  | createTransaction t => exact .enter .transactions _
  | getTransaction id => exact .look _ _
  | listTransactions account => exact .list _ _
  | createExpenditure e => exact .enter .expenditures _
  | getExpenditure id => exact .look _ _
  | findExpenditures filter => exact .list _ _
  | createIngress i => exact .enter .ingresses _
  | getIngress id => exact .look _ _
  | deferForeignKeys => exact clean_deferForeignKeys

end Call

namespace Closure

/-- One call after another, whatever each of them answers. -/
def heedless : List (Sigma Call) → Closure Unit
  | [] => done (.ok ())
  | c :: cs => call c.2 fun _ => heedless cs

def all : List (Sigma Call) → Closure Unit
  | [] => done (.ok ())
  | c :: cs => call c.2 fun
    | .ok _ => all cs
    | .error e => done (.error (.error e))

def kept : Closure α → Store → List (Sigma Call)
  | done _, _ => []
  | call c next, s =>
    match c.run s with
    | (.ok b, s) => ⟨_, c⟩ :: (next (.ok b)).kept s
    | (.error (.error e), s) => (next (.error e)).kept s
    | (.error (.overflow _), _) => []

theorem run_kept {w : Closure α} {s s' : Store} {v : α} (h : w.run s = (.ok v, s')) :
    (all (w.kept s)).run s.calm = (.ok (), s'.calm) := by
  induction w generalizing s with
  | done r =>
    cases h
    rfl
  | call c next ih =>
    rw [run_call] at h
    rw [kept]
    rcases hc : c.run s with ⟨(e | o) | b, s₁⟩
    · rw [hc] at h
      rw [← c.clean.failed hc]
      exact ih (.error e) h
    · rw [hc] at h
      cases h
    · rw [hc] at h
      rw [all, run_call, c.clean.done hc]
      exact ih (.ok b) h

theorem kept_heedless (cs : List (Sigma Call)) (s : Store) : ((heedless cs).kept s).Sublist cs := by
  induction cs generalizing s with
  | nil => exact .slnil
  | cons c cs ih =>
    rw [heedless, kept]
    rcases c.2.run s with ⟨(e | o) | b, s₁⟩
    · exact (ih s₁).cons c
    · exact List.nil_sublist _
    · exact (ih s₁).cons_cons c

end Closure

namespace Store

variable {s s' : Store} {r : Refusals}

theorem begin_calm (h : (control r).begin s = (.ok (), s')) :
    (control .none).begin s.calm = (.ok (), s'.calm) := by
  obtain rfl := begin_ok h
  simp only [control] at h
  cases hr : r.begin with
  | some f =>
    rw [hr] at h
    cases h
  | none =>
    rw [hr] at h
    show s.calm.begin = (.ok (), s.begun.calm)
    simp only [Store.begin] at h ⊢
    show (if !s.isOpen then _ else if s.transaction.isSome then _ else _) = _
    split_ifs at h ⊢ with hopen hidle
    · cases h
    · cases h
    · rfl

theorem commit_calm (h : (control r).commit s = (.ok (), s')) :
    (control .none).commit s.calm = (.ok (), s'.calm) := by
  simp only [control] at h
  cases hr : r.commit with
  | some f =>
    rw [hr] at h
    cases h
  | none =>
    rw [hr] at h
    show s.calm.commit = (.ok (), s'.calm)
    cases ht : s.transaction with
    | none =>
      rw [Store.commit, ht] at h
      cases h
    | some t =>
      rw [Store.commit, ht] at h
      rw [Store.commit, show s.calm.transaction = some t from ht]
      show (if s.books.Intact then _ else _) = _
      split_ifs at h ⊢ with hintact
      · cases h
        rfl
      · cases h

end Store

theorem Closure.atomically_kept {w : Closure α} {s s' : Store} {v : α}
    (h : atomically w.run s = (.ok v, s')) :
    atomically (all (w.kept s.begun)).run s.calm = (.ok (), s'.calm) := by
  obtain ⟨log, r, s₁, -, hrun, hruns⟩ := TransactionControl.runs (Store.control s.refusals) w.run s
  obtain ⟨rfl, rfl⟩ := Prod.mk.inj (hrun.symm.trans h)
  -- a unit of work that succeeds was begun, did its work and was committed
  cases hruns with
  | kept hb hw hc =>
    obtain rfl := Store.begin_ok hb
    have hcalm : s.calm.refusals = .none := rfl
    rw [atomically, hcalm, TransactionControl.run, Store.begin_calm hb]
    simp only [run_kept hw, Store.commit_calm hc]

section Heedless

namespace Call

def isRegister : Call α → Bool
  | deferForeignKeys => false
  | _ => true

open Work (Grows)
open UseCase (calm_withRefusals)

theorem grows (c : Call α) (h : c.isRegister = true) : c.run.Grows := by
  cases c with rw [run]
  | createMember m => exact .enter .members _
  | getMember id => exact .reads (.look calm_withRefusals _ _)
  | saveMember m => exact .replace (by decide)
  | deleteMember id => exact .strike (by decide) (by decide)
  | listMembers => exact .reads (.list calm_withRefusals _ _)
  | createAccount a => exact .enter .accounts _
  | getAccount id => exact .reads (.look calm_withRefusals _ _)
  | saveAccount a savedAt => exact UseCase.grows_saveAccount a savedAt
  | deleteAccount id => exact .strike (by decide) (by decide)
  | listAccounts => exact .reads (.list calm_withRefusals _ _)
  | listAccountsOf owner => exact .reads (.list calm_withRefusals _ _)
  | hasTransactions id => exact .reads (.read calm_withRefusals _)
  | createCategory c => exact .enter .categories _
  | getCategory id => exact .reads (.look calm_withRefusals _ _)
  | saveCategory c => exact .replace (by decide)
  | deleteCategory id => exact .strike (by decide) (by decide)
  | listCategories => exact .reads (.list calm_withRefusals _ _)
  | listCategoriesOf kind => exact .reads (.list calm_withRefusals _ _)
  | createTag t => exact (Grows.enter .tags _).mapError _
  | getTag id => exact .reads (.look calm_withRefusals _ _)
  | saveTag t => exact (Grows.replace (by decide)).mapError _
  | deleteTag id => exact .strike (by decide) (by decide)
  | listTagsOf kind => exact .reads (.list calm_withRefusals _ _)
  | linkTags kind target tags => exact UseCase.grows_linkTags kind target tags
  | linkedTags kind target => exact .reads (keeps_linkedTags calm_withRefusals kind target)
  | createTransaction t => exact .enter .transactions _
  | getTransaction id => exact .reads (.look calm_withRefusals _ _)
  | listTransactions account => exact .reads (.list calm_withRefusals _ _)
  | createExpenditure e => exact .enter .expenditures _
  | getExpenditure id => exact .reads (.look calm_withRefusals _ _)
  | findExpenditures filter => exact .reads (.list calm_withRefusals _ _)
  | createIngress i => exact .enter .ingresses _
  | getIngress id => exact .reads (.look calm_withRefusals _ _)
  | deferForeignKeys => cases h

end Call

variable {cs : List (Sigma Call)} {s : Store}

structure Store.Willing (s : Store) : Prop where
  isOpen : s.isOpen = true
  idle : s.transaction = none
  begin : s.refusals.begin = none
  commit : s.refusals.commit = none
  intact : s.books.Intact

namespace Closure

theorem run_heedless (hcs : ∀ c ∈ cs, c.2.isRegister = true) (s : Store) :
    (∃ s', (heedless cs).run s = (.ok (), s') ∧ s.Grows s') ∨
      ∃ o s', (heedless cs).run s = (.error (.overflow o), s') := by
  induction cs generalizing s with
  | nil => exact .inl ⟨s, rfl, .refl s⟩
  | cons c cs ih =>
    obtain ⟨hc, hcs⟩ := List.forall_mem_cons.1 hcs
    have hgrows := c.2.grows hc s
    rw [heedless, run_call]
    generalize c.2.run s = r at hgrows ⊢
    obtain ⟨(e | o) | b, s₁⟩ := r
    · exact (ih hcs s₁).imp_left fun ⟨s', hrun, h⟩ => ⟨s', hrun, hgrows.trans h⟩
    · exact .inr ⟨o, s₁, rfl⟩
    · exact (ih hcs s₁).imp_left fun ⟨s', hrun, h⟩ => ⟨s', hrun, hgrows.trans h⟩

theorem heedless_commits (hs : s.Willing) (hcs : ∀ c ∈ cs, c.2.isRegister = true) :
    (∃ s', atomically (heedless cs).run s = (.ok (), s')) ∨
      ∃ o s', atomically (heedless cs).run s = (.error (.overflow o), s') := by
  have hbegin : (Store.control s.refusals).begin s = (.ok (), s.begun) := by
    simp [Store.control, hs.begin, Store.begin, hs.isOpen, hs.idle, Store.begun]
  rw [atomically, TransactionControl.run, hbegin]
  rcases run_heedless hcs s.begun with ⟨s', hrun, hgrows⟩ | ⟨o, s', hrun⟩
  · obtain ⟨hintact, -⟩ := hgrows.books rfl hs.intact
    obtain ⟨t, ht, -⟩ := Option.map_eq_some_iff.1 hgrows.undo
    have hcommit : (Store.control s.refusals).commit s' =
        (.ok (), { s' with transaction := none }) := by
      simp [Store.control, hs.commit, Store.commit, ht, hintact]
    simp only [hrun, hcommit]
    exact .inl ⟨_, rfl⟩
  · simp only [hrun]
    exact .inr ⟨o, _, rfl⟩

end Closure

end Heedless

/-- A failed call leaves all tables as they were. What a unit of work commits is what it commits
without the calls that failed in it, and one call after another, whatever they answer, is committed,
unless a version overflows. -/
theorem failed_calls_leave_nothing :
    (∀ {β : Type} (c : Call β) (s s' : Store) (e : Fault), c.run s = (.error e, s') →
      s'.books = s.books) ∧
    (∀ {α : Type} (w : Closure α) (s s' : Store) (v : α), atomically w.run s = (.ok v, s') →
      ∃ s'', atomically (Closure.all (w.kept s.begun)).run s.calm = (.ok (), s'') ∧
        s''.books = s'.books) ∧
    ∀ (cs : List (Sigma Call)) (s : Store), s.Willing → (∀ c ∈ cs, c.2.isRegister = true) →
      ((Closure.heedless cs).kept s.begun).Sublist cs ∧
      ((∃ s', atomically (Closure.heedless cs).run s = (.ok (), s')) ∨
        ∃ o s', atomically (Closure.heedless cs).run s = (.error (.overflow o), s')) := by
  refine ⟨fun c s s' e h => ?_, fun w s s' v h => ?_, fun cs s hs hcs => ?_⟩
  · have hcalm : s'.calm.books = s.calm.books := congrArg Store.books (c.clean.failed h)
    exact hcalm
  · exact ⟨s'.calm, Closure.atomically_kept h, rfl⟩
  · exact ⟨Closure.kept_heedless cs s.begun, Closure.heedless_commits hs hcs⟩

/-- A tag is created twice, and all but the second time is committed. Then two links are written at
once, the second to no tag, and neither stays. -/
theorem bad_link_leaves_nothing :
    let noon : Instant := .ofSeconds 0
    let wallet : Account := ⟨.ofNat 1, "Wallet", .cash, .euro, ⟨0, by decide⟩, ⟨0, by decide⟩, true,
      none, 0, noon, noon⟩
    let food : Category := ⟨.ofNat 2, "Food", ⟨none, none, none⟩, .expenditure, true, noon, noon⟩
    let bread : Tag := ⟨.ofNat 3, ⟨"Bread", "bread"⟩, ⟨none, none, none⟩, .expenditure, noon, noon⟩
    let paid : Transaction := ⟨.ofNat 4, wallet.id, ⟨-3, by decide⟩, .euro, noon, none,
      .expenditure, ⟨-3, by decide⟩, .completed, noon, noon⟩
    let lunch : Expenditure := ⟨.ofNat 5, food.id, paid.id, true, false, noon, noon⟩
    let cs : List (Sigma Call) := [⟨_, .createAccount wallet⟩, ⟨_, .createCategory food⟩,
      ⟨_, .createTag bread⟩, ⟨_, .createTag bread⟩, ⟨_, .createTransaction paid⟩,
      ⟨_, .createExpenditure lunch⟩]
    let link : Call Unit := .linkTags .expenditure lunch.id [bread.id, .ofNat 6]
    ∃ s s', atomically (Closure.heedless cs).run Store.fresh = (.ok (), s) ∧
      s.books.tags = [bread.row] ∧ s.books.expenditures = [lunch.row] ∧
      link.run s = (.error (.domain .tagNotFound), s') ∧ s'.books = s.books := by
  intro noon wallet food bread paid lunch cs link
  have hwilling : Store.fresh.Willing := ⟨rfl, rfl, rfl, rfl, by decide +kernel⟩
  have hsorted : [bread.id, .ofNat 6].mergeSort Uuid.le = [bread.id, .ofNat 6] :=
    List.mergeSort_of_pairwise (by decide +kernel)
  have hdistinct : Tags.distinct [bread.id, .ofNat 6] = [bread.id, .ofNat 6] := by
    rw [Tags.distinct, hsorted]
    decide
  have hlink : link.run = Work.write (·.insert .expenditureTags
      [Table.record .expenditureTags ⟨lunch.id.text, bread.id.text⟩,
        Table.record .expenditureTags ⟨lunch.id.text, (Uuid.ofNat 6).text⟩]) := by
    rw [Call.run, Tags.link, hdistinct]
    rfl
  have hcommitted : (atomically (Closure.heedless cs).run Store.fresh).1 = .ok () := by
    decide +kernel
  have htags : (atomically (Closure.heedless cs).run Store.fresh).2.books.tags = [bread.row] := by
    decide +kernel
  have hexpenditures : (atomically (Closure.heedless cs).run Store.fresh).2.books.expenditures =
      [lunch.row] := by
    decide +kernel
  have hfailed : (link.run (atomically (Closure.heedless cs).run Store.fresh).2).1 =
      .error (.domain .tagNotFound) := by
    rw [hlink]
    decide +kernel
  obtain ⟨hbooks, -, hall⟩ := failed_calls_leave_nothing
  obtain ⟨-, ⟨s, hs⟩ | ⟨o, s, hs⟩⟩ := hall cs Store.fresh hwilling (by decide)
  · rw [hs] at htags hexpenditures hfailed
    rcases hl : link.run s with ⟨r, s'⟩
    rw [hl] at hfailed
    obtain rfl : r = .error (.domain .tagNotFound) := hfailed
    exact ⟨s, s', hs, htags, hexpenditures, hl, hbooks link s s' _ hl⟩
  · rw [hs] at hcommitted
    cases hcommitted

end Bookkeeping

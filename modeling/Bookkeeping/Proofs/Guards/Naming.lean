import Bookkeeping.Proofs.Failure.Specific
import Bookkeeping.Proofs.Guards.Commands
import Bookkeeping.Proofs.Migration.Guards

namespace Bookkeeping

open Ledger (Query Step Enforced)
open Work (Alike)
open Enforcement (guarded native)

/-- The errors of a command that are read out of what a guard says, and out of nothing else. -/
def Command.unnamed : Command → List DomainError
  | .createAccount _ => [.currencyNotFound]
  | .deleteCategory _ => [.categoryInUseByExpenditure, .categoryInUseByIngress]
  | .deleteTag _ => [.tagInUse]
  | _ => []

/-- What is answered with the guards, and what without them, where the errors in `unnamed` lose
their name. -/
inductive Renamed (unnamed : List DomainError) (repeats : Prop) :
    Except Fault α → Except Fault α → Prop
  | same {x : Except Fault α} (h : ∀ e ∈ unnamed, x ≠ .error (.domain e)) :
    Renamed unnamed repeats x x
  | nameless {e : DomainError} (h : e ∈ unnamed) (f : StorageFailure) :
    Renamed unnamed repeats (.error (.domain e))
      (.error (.error (.infra (.unknownConstraint none f))))
  /-- A guard comes before the unique keys, the key itself after them. -/
  | clash (h : .currencyNotFound ∈ unnamed) (hr : repeats) :
    Renamed unnamed repeats (.error (.domain .currencyNotFound)) (.error (.domain .duplicateKey))

namespace Renamed

variable {unnamed : List DomainError} {repeats repeats' : Prop} {x y : Except Fault α}

theorem map (h : Renamed unnamed repeats x y) (f : α → β) :
    Renamed unnamed repeats (x.map f) (y.map f) := by
  cases h with
  | same h =>
    refine .same fun e he heq => ?_
    cases x with
    | ok a => cases heq
    | error f => exact h e he (congrArg Except.error (Except.error.inj heq))
  | nameless h f => exact .nameless h f
  | clash h hr => exact .clash h hr

theorem imp (h : Renamed unnamed repeats x y)
    (hr : .currencyNotFound ∈ unnamed → repeats → repeats') :
    Renamed unnamed repeats' x y := by
  cases h with
  | same h => exact .same h
  | nameless h f => exact .nameless h f
  | clash h hr' => exact .clash h (hr h hr')

end Renamed

structure Work.Mirrors (unnamed : List DomainError) (repeats : Prop) (w : Work α) (s : Store) :
    Prop where
  answer : Renamed unnamed repeats (w s).1 (w s.unguarded).1
  store : (w s.unguarded).2 = (w s).2.unguarded

namespace Work

variable {unnamed : List DomainError} {repeats : Prop} {s : Store} {L : Ledger} {w : Work α}
  {m : Step α}

theorem Mirrors.map (h : Mirrors unnamed repeats w s) (f : α → β) :
    Mirrors unnamed repeats (f <$> w) s := by
  have hanswer (s : Store) : ((f <$> w) s).1 = (w s).1.map f ∧ ((f <$> w) s).2 = (w s).2 := by
    rw [map_apply]
    rcases w s with ⟨_ | _, _⟩ <;> exact ⟨rfl, rfl⟩
  refine ⟨?_, ?_⟩
  · rw [(hanswer s).1, (hanswer s.unguarded).1]
    exact h.answer.map f
  · rw [(hanswer s).2, (hanswer s.unguarded).2]
    exact h.store

theorem Alike.mirrors (hw : Alike w s) (h : ∀ e ∈ unnamed, (w s).1 ≠ .error (.domain e)) :
    Mirrors unnamed repeats w s := by
  rw [Alike] at hw
  refine ⟨?_, ?_⟩ <;> rw [hw]
  exact .same h

theorem Alike.mirrors_nil (hw : Alike w s) : Mirrors [] repeats w s :=
  hw.mirrors fun _ he => absurd he List.not_mem_nil

theorem Alike.mirrors_of_matches (hw : Alike w s) (hm : Matches w m s L)
    (h : ∀ e ∈ unnamed, m L ≠ .error (.domain e)) : Mirrors unnamed repeats w s := by
  refine hw.mirrors fun e he heq => h e he ?_
  cases hmL : m L with
  | ok r =>
    rw [(hm.of_ok hmL).2] at heq
    cases heq
  | error f =>
    rw [hm.of_error hmL] at heq
    cases heq
    rfl

theorem Mirrors.of_error (hm : Matches w m s L) {e : DomainError} (hmL : m L = .error (.domain e))
    {u : LedgerError} (hu : w s.unguarded = (.error (.error u), s.unguarded))
    (h : Renamed unnamed repeats (.error (.domain e) : Except Fault α) (.error (.error u))) :
    Mirrors unnamed repeats w s := by
  refine ⟨?_, ?_⟩ <;> rw [hm.of_error hmL, hu]
  exact h

theorem atomically_unguarded_error (h : s.Holds L) {e : LedgerError}
    (hw : w s.begun.unguarded = (.error (.error e), s.begun.unguarded)) :
    atomically w s.unguarded = (.error (.error e), s.unguarded) := by
  have hbegin : (Store.control .none).begin s.unguarded = (.ok (), s.begun.unguarded) := by
    simp [Store.control, Refusals.none, Store.begin, Store.unguarded, Store.begun, h.ready.isOpen,
      h.transaction]
  have hrollback : (Store.control .none).rollback s.begun.unguarded = (.ok (), s.unguarded) := by
    simp [Store.control, Refusals.none, Store.rollback, Store.unguarded, Store.begun, Store.discard,
      h.transaction]
  rw [atomically, show s.unguarded.refusals = .none from h.ready.refusals, TransactionControl.run,
    hbegin]
  simp only [hw, hrollback]

end Work

section Strike

variable {α : Type} {unnamed : List DomainError} {repeats : Prop} {s : Store} {L : Ledger}
  {t : Table} {f : α → t.Row} {id : α → Uuid} {xs : List α} {rowId : t.Row → String}

theorem strike_unguarded (h : s.Shows L)
    (hrestrict : ∀ k ∈ ForeignKey.all, k.parentTable = t.name → k.onDelete = .restrict)
    (hrows : L.books.rows t = xs.map f) (hn : (xs.map id).Nodup)
    (hrow : ∀ a, rowId (f a) = (id a).text) {u : Uuid} (hu : u ∈ xs.map id) {e : DomainError}
    (hd : Enforced (guarded.delete t (rowId · == u.text) L.books) (.error e))
    (missing : DomainError) :
    (Register.strike t (rowId · == u.text)).notFoundAs missing s.unguarded =
      (.error (.error (.infra (.unknownConstraint none
        (.database (some 1811) Enforcement.nativeMessage)))), s.unguarded) := by
  have hread := Alike.read (fun b => (b.rows t).any (rowId · == u.text)) s
  rw [Alike, Work.read_apply h.ready] at hread
  have hany : (s.books.rows t).any (rowId · == u.text) = true := by
    rw [h.books, hrows, any_rowId hrow, decide_eq_true hu]
  obtain ⟨a, ha, rfl⟩ := List.mem_map.1 hu
  have hone : (xs.map f).filter (rowId · == (id a).text) = [f a] := Ledger.filter_id hn ha hrow
  rw [← hrows] at hone
  rw [Work.notFoundAs, Work.mapError_apply, Register.strike, Work.bind_ok hread, if_pos hany,
    Work.write_unguarded h.ready, h.books, Enforcement.delete_native_error hrestrict hone hd]
  rfl

theorem mirrors_strike (h : s.Holds L)
    (hrestrict : ∀ k ∈ ForeignKey.all, k.parentTable = t.name → k.onDelete = .restrict)
    (hrows : L.books.rows t = xs.map f) (hn : (xs.map id).Nodup)
    (hrow : ∀ a, rowId (f a) = (id a).text) {u : Uuid} {x : Ledger.Edit} {missing : DomainError}
    (hm : Performs (atomically ((Register.strike t (rowId · == u.text)).notFoundAs missing))
      ((Step.edit x).notFoundAs missing))
    (hthere : u ∈ xs.map id → Enforced (guarded.delete t (rowId · == u.text) L.books) (x L))
    (hgone : u ∉ xs.map id → x L = .error .recordNotFound) (hmissing : missing ∉ unnamed)
    (hused : u ∈ xs.map id → ∀ e, x L = .error e → e ∈ unnamed ∧ e ≠ .recordNotFound) :
    (atomically ((Register.strike t (rowId · == u.text)).notFoundAs missing)).Mirrors unnamed
      repeats s := by
  have hmatches := hm s L h.ready h.transaction h.sound h.books
  have happly := Ledger.Step.edit_notFoundAs_apply x missing L
  by_cases hu : u ∈ xs.map id
  · cases hx : x L with
    | ok L' =>
      rw [hx] at happly hthere
      have halike := alike_strike h.begun hrows hrow fun hu => ⟨L', hthere hu⟩
      have hwhole := Alike.atomically (halike.notFoundAs missing)
      refine hwhole.mirrors_of_matches hmatches fun e _ => ?_
      rw [happly]
      exact nofun
    | error e =>
      obtain ⟨he, hne⟩ := hused hu e hx
      rw [hx] at hthere
      simp only [hx, if_neg hne] at happly
      have hfails := strike_unguarded h.begun hrestrict hrows hn hrow hu (hthere hu) missing
      exact .of_error hmatches happly (Work.atomically_unguarded_error h hfails) (.nameless he _)
  · have halike := alike_strike h.begun hrows hrow fun hmem => absurd hmem hu
    have hwhole := Alike.atomically (halike.notFoundAs missing)
    refine hwhole.mirrors_of_matches hmatches fun e he => ?_
    simp only [happly, hgone hu, if_pos]
    rintro ⟨⟩
    exact hmissing he

end Strike

namespace Ledger

variable {L : Ledger}

theorem checkOwner_ok {owner : Option Uuid} {u : Unit} (h : checkOwner owner L = .ok u) :
    ∀ m ∈ owner, m ∈ L.memberIds := by
  rintro id rfl
  obtain ⟨m, hm, -⟩ := Query.bind_ok.1 h
  obtain ⟨hmem, rfl⟩ := Query.find_ok (Query.notFoundAs_ok.1 hm)
  exact List.mem_map_of_mem hmem

theorem checkOwner_ne (owner : Option Uuid) :
    checkOwner owner L ≠ .error (.domain .currencyNotFound) := by
  intro h
  cases owner with
  | none => cases h
  | some id =>
    change (findMember id L).bind _ = _ at h
    rw [findMember, Query.notFoundAs, Query.mapError, Query.find] at h
    cases hfind : L.members.find? (·.id == id) with
    | none =>
      rw [hfind] at h
      cases h
    | some m =>
      rw [hfind] at h
      change (if !m.active then Query.refuse _ else pure () : Query Unit) L = _ at h
      split at h <;> cases h

theorem createAccount_unknown {cmd : NewAccount} {o : Occasion} :
    createAccount cmd o L = .error (.domain .currencyNotFound) ↔
      ∃ a, Account.new cmd o.id o.now = .ok a ∧ checkOwner a.owner L = .ok () ∧
        ¬a.currency.IsKnown := by
  rw [createAccount, Step.ask_bind]
  cases hnew : Account.new cmd o.id o.now with
  | error e =>
    rw [Account.new] at hnew
    split at hnew <;> cases hnew
    simp [Query.ofDomain, Fault.domain]
  | ok a =>
    simp only [Query.ofDomain, Step.ask_bind, Step.edit_bind, Except.ok.injEq, exists_eq_left']
    cases howner : checkOwner a.owner L with
    | error f =>
      have := howner ▸ checkOwner_ne a.owner
      simpa using this
    | ok u =>
      rw [enterAccount]
      by_cases hk : a.currency.IsKnown
      · rw [if_neg (not_not_intro hk)]
        split_ifs <;> simp [hk, Fault.domain]
      · simp [hk]

end Ledger

theorem Account.id_new {cmd : NewAccount} {id : Uuid} {now : Instant} {a : Account}
    (h : Account.new cmd id now = .ok a) : a.id = id := by
  rw [Account.new] at h
  split at h <;> cases h
  rfl

section Commands

variable {repeats : Prop} {s : Store} {L : Ledger}

/-- Without its guard an unknown currency is noticed once the account is written, and by then the
account may have clashed with another. -/
theorem enterAccount_unguarded (h : s.Shows L) {a : Account} (hk : ¬a.currency.IsKnown) :
    ∃ e, Accounts.create a s.unguarded = (.error (.error e), s.unguarded) ∧
      ((∃ f, e = .infra (.unknownConstraint none f)) ∨
        a.id ∈ L.accountIds ∧ e = .domain .duplicateKey) := by
  have horphan : L.books.Orphans .accounts a.row .accountsCurrency :=
    ⟨by decide, rfl, a.currency.code, rfl, hk⟩
  have hclash : Table.clash? .accounts a.row (L.accounts.map Account.row) = none ↔
      a.id ∉ L.accountIds := Table.clash?_id rfl fun _ => rfl
  have hwrite := Work.write_unguarded h.ready (·.insert .accounts [Table.record .accounts a.row])
  have hinsert := Enforcement.insert_native_orphan horphan
  rw [h.books] at hwrite
  cases hc : Table.clash? .accounts a.row (L.books.rows .accounts) with
  | none =>
    rw [hc] at hinsert
    simp only [hinsert] at hwrite
    exact ⟨_, hwrite, .inl ⟨_, rfl⟩⟩
  | some f =>
    rw [hc] at hinsert
    simp only [hinsert] at hwrite
    refine ⟨_, hwrite, .inr ⟨not_not.1 fun hid => ?_, Table.diagnose_clash? hc⟩⟩
    cases hc.symm.trans (hclash.2 hid)

theorem mirrors_createAccount (h : s.Holds L) (cmd : NewAccount) (o : Occasion) :
    (UseCase.createAccount cmd o).Mirrors [.currencyNotFound] (o.id ∈ L.accountIds) s := by
  have hmatches := performs_createAccount cmd o s L h.ready h.transaction h.sound h.books
  by_cases hl : Ledger.createAccount cmd o L = .error (.domain .currencyNotFound)
  · obtain ⟨a, hnew, howner, hk⟩ := Ledger.createAccount_unknown.1 hl
    have hid : a.id = o.id := Account.id_new hnew
    obtain ⟨e, hcreate, he⟩ := enterAccount_unguarded h.begun hk
    have hcheck := UseCase.alike_checkOwner s.begun a.owner
    rw [Alike, answers_checkOwner _ _ L h.begun.ready h.sound h.begun.books, howner] at hcheck
    have hinside : (UseCase.checkOwner a.owner >>= fun _ => Accounts.create a >>= fun _ => pure a)
        s.begun.unguarded = (.error (.error e), s.begun.unguarded) := by
      rw [Work.bind_ok hcheck, Work.bind_apply, hcreate]
    have hnamed : Renamed [.currencyNotFound] (o.id ∈ L.accountIds)
        (.error (.domain .currencyNotFound) : Except Fault Account) (.error (.error e)) := by
      rcases he with ⟨f, rfl⟩ | ⟨hthere, rfl⟩
      · exact .nameless (List.mem_singleton.2 rfl) f
      · exact .clash (List.mem_singleton.2 rfl) (hid ▸ hthere)
    refine .of_error hmatches hl ?_ hnamed
    rw [UseCase.createAccount, hnew]
    exact Work.atomically_unguarded_error h hinside
  · refine Alike.mirrors_of_matches ?_ hmatches (List.forall_mem_singleton.2 hl)
    refine .ask h.shows (.ofDomain _) (.ofDomain _) fun a hnew => .atomically <|
      .ask h.begun (answers_checkOwner _) (UseCase.alike_checkOwner _ _) fun _ howner =>
        (alike_enterAccount h.begun ?_ (Ledger.checkOwner_ok howner)).bind fun _ _ _ => .pure a
    exact not_not.1 fun hk =>
      hl (Ledger.createAccount_unknown.2 ⟨a, Query.ofDomain_ok.1 hnew, howner, hk⟩)

theorem mirrors_deleteCategory (h : s.Holds L) (id : Uuid) :
    (UseCase.deleteCategory id).Mirrors [.categoryInUseByExpenditure, .categoryInUseByIngress]
      repeats s := by
  refine mirrors_strike h (f := Category.row) (by decide) rfl h.sound.nodup_categories
    (fun _ => rfl) (performs_deleteCategory id) (Ledger.enforced_strikeCategory h.sound)
    (fun hid => if_pos hid) (by decide) fun (hid : id ∈ L.categoryIds) e hx => ?_
  rw [Ledger.strikeCategory, if_neg (not_not_intro hid)] at hx
  split_ifs at hx <;> cases hx <;> decide

theorem mirrors_deleteTag (h : s.Holds L) (id : Uuid) :
    (UseCase.deleteTag id).Mirrors [.tagInUse] repeats s := by
  refine mirrors_strike h (f := Tag.row) (by decide) rfl h.sound.nodup_tags
    (fun _ => rfl) (performs_deleteTag id) (Ledger.enforced_strikeTag h.sound)
    (fun hid => if_pos hid) (by decide) fun (hid : id ∈ L.tagIds) e hx => ?_
  rw [Ledger.strikeTag, if_neg (not_not_intro hid)] at hx
  split_ifs at hx
  cases hx
  decide

theorem mirrors_command (h : s.Holds L) (c : Command) (o : Occasion) :
    (c.perform o).Mirrors c.unnamed (o.id ∈ L.accountIds) s := by
  -- Whatever else a key could stop is checked before it comes to that. Only a currency that nobody
  -- knows, and a category or a tag in use, are left to the guards.
  cases c with
  | createMember cmd => exact ((UseCase.alike_createMember h cmd o).map _).mirrors_nil
  | member id => exact ((UseCase.alike_findMember s id).map _).mirrors_nil
  | listMembers => exact ((Alike.list _ _ s).map _).mirrors_nil
  | activateMember id => exact ((UseCase.alike_changeMember h id _).map _).mirrors_nil
  | deactivateMember id => exact ((UseCase.alike_changeMember h id _).map _).mirrors_nil
  | deleteMember id => exact ((UseCase.alike_deleteMember h id).map _).mirrors_nil
  | createAccount cmd => exact (mirrors_createAccount h cmd o).map _
  | account id => exact ((UseCase.alike_findAccount s id).map _).mirrors_nil
  | listAccounts => exact ((Alike.list _ _ s).map _).mirrors_nil
  | activateAccount id =>
    refine ((UseCase.alike_changeAccount h id (fun a b hb => ?_) o).map _).mirrors_nil
    obtain ⟨-, rfl⟩ := Ledger.activate_ok.1 hb
    exact ⟨rfl, rfl⟩
  | deactivateAccount id =>
    refine ((UseCase.alike_changeAccount h id (fun a b hb => ?_) o).map _).mirrors_nil
    obtain ⟨-, rfl⟩ := Ledger.deactivate_ok.1 hb
    exact ⟨rfl, rfl⟩
  | renameAccount id name =>
    refine ((UseCase.alike_changeAccount h id (fun a b hb => ?_) o).map _).mirrors_nil
    obtain ⟨_, -, rfl⟩ := Ledger.rename_ok.1 hb
    exact ⟨rfl, rfl⟩
  | deleteAccount id => exact ((UseCase.alike_deleteAccount h id).map _).mirrors_nil
  | createCategory cmd => exact ((UseCase.alike_createCategory h cmd o).map _).mirrors_nil
  | category id => exact ((UseCase.alike_findCategory s id).map _).mirrors_nil
  | listCategories => exact ((Alike.list _ _ s).map _).mirrors_nil
  | categoriesByKind kind => exact ((Alike.list _ _ s).map _).mirrors_nil
  | updateCategory id changes => exact ((UseCase.alike_changeCategory h id _).map _).mirrors_nil
  | activateCategory id => exact ((UseCase.alike_changeCategory h id _).map _).mirrors_nil
  | deactivateCategory id => exact ((UseCase.alike_changeCategory h id _).map _).mirrors_nil
  | deleteCategory id => exact (mirrors_deleteCategory h id).map _
  | createTag cmd => exact ((UseCase.alike_createTag h cmd o).map _).mirrors_nil
  | tag id => exact ((UseCase.alike_findTag s id).map _).mirrors_nil
  | tagsByKind kind => exact ((Alike.list _ _ s).map _).mirrors_nil
  | updateTag id changes => exact ((UseCase.alike_updateTag h id changes o).map _).mirrors_nil
  | deleteTag id => exact (mirrors_deleteTag h id).map _
  | createExpenditure cmd => exact ((UseCase.alike_createExpenditure h cmd o).map _).mirrors_nil
  | expenditure id => exact ((UseCase.alike_findExpenditure s id).map _).mirrors_nil
  | findExpenditures filter => exact ((Alike.list _ _ s).map _).mirrors_nil
  | createIngress cmd => exact ((UseCase.alike_createIngress h cmd o).map _).mirrors_nil
  | ingress id => exact ((UseCase.alike_findIngress s id).map _).mirrors_nil
  | transaction id => exact ((UseCase.alike_findTransaction s id).map _).mirrors_nil
  | listTransactions id => exact ((UseCase.alike_listTransactions s id).map _).mirrors_nil

end Commands

theorem Command.mem_generated {c : Command} (h : .currencyNotFound ∈ c.unnamed) (o : Occasion) :
    o.id ∈ c.generated o := by
  cases c with
  | createAccount cmd => exact List.mem_singleton.2 rfl
  | _ => simp [Command.unnamed] at h

namespace Store

variable {s : Store} {L : Ledger}

def under (s : Store) (schema : Schema) : Store := { s with guards := schema.guards }

theorem Holds.under_rebuild (h : s.Holds L) : s.under .rebuild = s := by
  have hguards : s.guards = ForeignKey.all := congrArg Enforcement.guards h.ready.enforcement
  rw [under, Schema.guards_rebuild, ← hguards]

theorem under_undone (s : Store) : s.under (Schema.rebuild.down (some 1)) = s.unguarded := by
  rw [under, Schema.guards_undone, unguarded]

theorem Holds.run_unguarded (h : s.Holds L) (c : Command) (o : Occasion) :
    (c.run o s.unguarded).2 = (c.run o s).2.unguarded := (mirrors_command h c o).store

theorem Holds.after_unguarded (h : s.Holds L) (steps : List (Command × Occasion)) :
    s.unguarded.after steps = (s.after steps).unguarded := by
  induction steps generalizing s L with
  | nil => rfl
  | cons step steps ih =>
    obtain ⟨c, o⟩ := step
    rw [Store.after, Store.after, h.run_unguarded]
    exact ih (h.run c o)

/-- Guards decide nothing. Whatever a household asks, with the guards in place or once the migration
that brought them is undone, the books come to be the same, and so are the answers, but that without
the guards no key is named. Only an identifier that was drawn twice is then told before the key. -/
theorem guards_only_name (before steps : List (Command × Occasion)) (c : Command) (o : Occasion) :
    let s := ((fresh.after before).under .rebuild).after steps
    let u := ((fresh.after before).under (Schema.rebuild.down (some 1))).after steps
    u.books = s.books ∧
      Renamed c.unnamed (¬(Command.generatedIn (before ++ steps ++ [(c, o)])).Nodup)
        (c.run o s).1 (c.run o u).1 ∧
      (c.run o u).2.books = (c.run o s).2.books := by
  have hbefore := holds_fresh.after before
  have h := hbefore.after steps
  rw [hbefore.under_rebuild, under_undone, hbefore.after_unguarded]
  refine ⟨rfl, (mirrors_command h c o).answer.imp fun hc hid hnodup => ?_, ?books⟩
  case books =>
    rw [h.run_unguarded]
    rfl
  have hdrawn : o.id ∈ Command.generatedIn before ∨ o.id ∈ Command.generatedIn steps := by
    have hids : o.id ∈ ((Ledger.fresh.after before).after steps).ids := by
      simp [Ledger.ids, hid]
    refine (hbefore.ids_after hids).imp_left fun hids => ?_
    exact (holds_fresh.ids_after hids).resolve_left List.not_mem_nil
  rw [Command.generatedIn, List.flatMap_append, List.flatMap_append, List.nodup_append] at hnodup
  exact hnodup.2.2 o.id (List.mem_append.2 hdrawn) o.id (by simpa using Command.mem_generated hc o)
    rfl

example :
    let ask : Command := .createAccount
      ⟨"purse", .cash, ⟨"XXX", by decide⟩, Money.zero, none, true⟩
    let o : Occasion := ⟨.ofNat 1, .ofNat 2, .ofSeconds 0, .ofSeconds 0⟩
    (ask.run o (fresh.under .rebuild)).1 = .error (.domain .currencyNotFound) ∧
      (ask.run o (fresh.under (Schema.rebuild.down (some 1)))).1 = .error (.error (.infra
        (.unknownConstraint none (.database (some 787) Enforcement.nativeMessage)))) := by
  rw [holds_fresh.under_rebuild, under_undone]
  decide +kernel

end Store

end Bookkeeping

import Bookkeeping.Proofs.Guards.Unguarded
import Bookkeeping.Proofs.Ledger.Deletion
import Bookkeeping.Proofs.Spending.Tags

namespace Bookkeeping

open Ledger (Query Step Enforced)
open Work (Alike)
open Enforcement (guarded)

variable {s : Store} {L : Ledger}

namespace UseCase

section Reads

variable (s)

theorem alike_findMember (id : Uuid) : Alike (findMember id) s := (Alike.look _ _ s).notFoundAs _

theorem alike_findAccount (id : Uuid) : Alike (findAccount id) s := (Alike.look _ _ s).notFoundAs _

theorem alike_findCategory (id : Uuid) : Alike (findCategory id) s :=
  (Alike.look _ _ s).notFoundAs _

theorem alike_findTag (id : Uuid) : Alike (findTag id) s := (Alike.look _ _ s).notFoundAs _

theorem alike_findTransaction (id : Uuid) : Alike (findTransaction id) s :=
  (Alike.look _ _ s).notFoundAs _

theorem alike_linkedTo (kind : TagKind) (target : Uuid) : Alike (Tags.linkedTo kind target) s := by
  cases kind <;> first | exact .pure _ | exact .list _ _ s

theorem alike_findExpenditure (id : Uuid) : Alike (findExpenditure id) s :=
  ((Alike.look _ _ s).notFoundAs _).bind fun _ s _ =>
    (alike_findTransaction s _).bind fun _ s _ => (alike_findCategory s _).bind fun _ s _ =>
      (alike_linkedTo s _ _).bind fun _ _ _ => .pure _

theorem alike_findIngress (id : Uuid) : Alike (findIngress id) s :=
  ((Alike.look _ _ s).notFoundAs _).bind fun _ s _ =>
    (alike_findTransaction s _).bind fun _ s _ => (alike_findCategory s _).bind fun _ s _ =>
      (alike_linkedTo s _ _).bind fun _ _ _ => .pure _

theorem alike_listTransactions (account : Uuid) : Alike (listTransactions account) s :=
  ((alike_findAccount s account).map _).bind fun _ s _ => .list _ _ s

theorem alike_checkOwner (owner : Option Uuid) : Alike (checkOwner owner) s := by
  cases owner with
  | none => exact .pure ()
  | some id =>
    exact (alike_findMember s id).bind fun _ _ _ => .ite (fun _ => .failDomain _) fun _ => .pure ()

theorem alike_activeAccount (id : Uuid) : Alike (activeAccount id) s :=
  (alike_findAccount s id).bind fun a _ _ => .ite (fun _ => .pure a) fun _ => .failDomain _

theorem alike_activeCategory (id : Uuid) : Alike (activeCategory id) s :=
  (alike_findCategory s id).bind fun c _ _ => .ite (fun _ => .pure c) fun _ => .failDomain _

theorem alike_ensureCurrency (currency : Currency) (a : Account) :
    Alike (ensureCurrency currency a) s := .ite (fun _ => .pure ()) fun _ => .failDomain _

theorem alike_ensurePositive (amount : Money) : Alike (ensurePositive amount) s :=
  .ite (fun _ => .pure ()) fun _ => .failDomain _

theorem alike_resolveTags (kind : TagKind) (ids : List Uuid) : Alike (resolveTags kind ids) s :=
  .foldlM (fun _ _ s => .ite (fun _ => .pure _) fun _ => (alike_findTag s _).bind fun tag _ _ =>
    (Alike.ofDomain (tag.ensureKind kind)).bind fun _ _ _ => .pure _) ids [] s

end Reads

end UseCase

namespace Work.Alike

theorem enter_childless {t : Table} (h : s.Ready) (ht : t.childKeys = []) (row : t.Row) :
    Alike (Register.enter t row) s :=
  .enter h (Ledger.childGuard?_of_childKeys_eq_nil ht _ _ _)

theorem replace_childless {t : Table} (h : s.Ready) (ht : t.childKeys = []) (columns : List String)
    (chosen : t.Row → Bool) (row : t.Row) : Alike (Register.replace t columns chosen row) s :=
  .replace h fun _ _ _ => Ledger.childGuard?_of_childKeys_eq_nil ht _ _ _

end Work.Alike

section Writes

theorem alike_enterAccount (h : s.Shows L) {a : Account} (hc : a.currency.IsKnown)
    (ho : ∀ m ∈ a.owner, m ∈ L.memberIds) : Alike (Accounts.create a) s := by
  refine .enter h.ready ?_
  rw [h.books]
  have hg := Ledger.childGuard?_account L a Table.accounts.columns (by decide) (by decide)
  rwa [if_neg (not_not_intro hc), if_neg (not_not_intro ho)] at hg

theorem alike_enterTransaction (h : s.Shows L) {t : Transaction} (hc : t.currency.IsKnown)
    (ha : t.account ∈ L.accountIds) : Alike (Transactions.create t) s := by
  refine .enter h.ready ?_
  rw [h.books]
  have hg := Ledger.childGuard?_transaction L t
  rwa [if_neg (not_not_intro hc), if_neg (not_not_intro ha)] at hg

theorem alike_enterExpenditure (h : s.Shows L) {e : Expenditure}
    (ht : e.transaction ∈ L.transactionIds) (hc : e.category ∈ L.categoryIds) :
    Alike (Expenditures.create e) s := by
  refine .enter h.ready ?_
  rw [h.books]
  have hg := Ledger.childGuard?_expenditure L e
  rwa [if_neg (not_not_intro ht), if_neg (not_not_intro hc)] at hg

theorem alike_enterIngress (h : s.Shows L) {i : Ingress}
    (ht : i.transaction ∈ L.transactionIds) (hc : i.category ∈ L.categoryIds) :
    Alike (Ingresses.create i) s := by
  refine .enter h.ready ?_
  rw [h.books]
  have hg := Ledger.childGuard?_ingress L i
  rwa [if_neg (not_not_intro ht), if_neg (not_not_intro hc)] at hg

theorem alike_linkExpenditure (h : s.Shows L) {target : Uuid} {tags : List Uuid}
    (htarget : target ∈ L.expenditureIds) (htags : ∀ tag ∈ tags, tag ∈ L.tagIds) :
    Alike (Tags.link .expenditure target tags) s := by
  refine .ite (fun _ => .pure ()) fun _ => .write h.ready (Enforcement.insert_native ?_)
  refine List.forall_mem_map.2 fun tag htag => ?_
  rw [h.books]
  have hg := Ledger.childGuard?_expenditureTag L ⟨target, tag⟩
  rwa [if_neg (not_not_intro (htags tag (Tags.mem_distinct.1 htag))),
    if_neg (not_not_intro htarget)] at hg

theorem alike_linkIngress (h : s.Shows L) {target : Uuid} {tags : List Uuid}
    (htarget : target ∈ L.ingressIds) (htags : ∀ tag ∈ tags, tag ∈ L.tagIds) :
    Alike (Tags.link .ingress target tags) s := by
  refine .ite (fun _ => .pure ()) fun _ => .write h.ready (Enforcement.insert_native ?_)
  refine List.forall_mem_map.2 fun tag htag => ?_
  rw [h.books]
  have hg := Ledger.childGuard?_ingressTag L ⟨target, tag⟩
  rwa [if_neg (not_not_intro (htags tag (Tags.mem_distinct.1 htag))),
    if_neg (not_not_intro htarget)] at hg

theorem alike_saveAccount (h : s.Shows L) {a : Account} (hc : a.currency.IsKnown)
    (ho : ∀ m ∈ a.owner, m ∈ L.memberIds) (savedAt : Instant) :
    Alike (Accounts.save a savedAt) s := by
  refine .ask h (.ofOverflow _) (.ofOverflow _) fun version _ => ?_
  refine .read_bind h.ready (.ite (fun _ => ?_) fun _ =>
    .read_bind h.ready (.ite (fun _ => .failDomain _) fun _ => .failDomain _))
  refine .bind (.replace h.ready fun old hold hcurrent => ?_) fun _ _ _ => .pure _
  rw [h.books] at hold ⊢
  obtain ⟨b, -, rfl⟩ := List.mem_map.1 hold
  have hid : b.row.id = a.id.text := by simpa using (Bool.and_eq_true_iff.1 hcurrent).1
  rw [Register.merged_accounts _ _ hid]
  have hg := Ledger.childGuard?_account L
    { a with version, createdAt := b.createdAt, updatedAt := savedAt } Accounts.changeable
    (by decide) (by decide)
  rwa [if_neg (not_not_intro hc), if_neg (not_not_intro ho)] at hg

theorem alike_strike (h : s.Shows L) {t : Table} {f : α → t.Row} {id : α → Uuid} {xs : List α}
    {rowId : t.Row → String} (hrows : L.books.rows t = xs.map f)
    (hrow : ∀ a, rowId (f a) = (id a).text) {u : Uuid} (hd : u ∈ xs.map id →
      ∃ L', Enforced (guarded.delete t (rowId · == u.text) L.books) (.ok L')) :
    Alike (Register.strike t (rowId · == u.text)) s := by
  refine .strike h.ready fun hany => ?_
  rw [h.books] at hany ⊢
  rw [hrows, any_rowId hrow, decide_eq_true_iff] at hany
  obtain ⟨L', -, hL'⟩ := hd hany
  exact ⟨L'.books, hL'⟩

end Writes

namespace UseCase

section Members

theorem alike_createMember (h : s.Holds L) (cmd : NewMember) (o : Occasion) :
    Alike (createMember cmd o) s :=
  .ask h.shows (.ofDomain _) (.ofDomain _) fun m _ => .atomically <|
    (Alike.enter_childless (t := .members) h.begun.ready (by decide) m.row).bind fun _ _ _ =>
      .pure m

theorem alike_changeMember (h : s.Holds L) (id : Uuid)
    (change : Member → Except DomainError Member) : Alike (changeMember id change) s :=
  .atomically <| .ask h.begun (answers_findMember id) (alike_findMember _ id) fun m _ =>
    .ask h.begun (.ofDomain _) (.ofDomain _) fun m _ =>
      (Alike.replace_childless (t := .members) h.begun.ready (by decide) _ _ m.row).bind
        fun _ _ _ => .pure m

theorem alike_deleteMember (h : s.Holds L) (id : Uuid) : Alike (deleteMember id) s := by
  have hgo : Alike ((Members.delete id).notFoundAs .householdMemberNotFound) s.begun := by
    refine (alike_strike h.begun (f := Member.row) rfl (fun _ => rfl) fun hid => ?_).notFoundAs _
    have hstrike := Ledger.enforced_strikeMember h.sound hid
    rw [Ledger.strikeMember, if_pos (show id ∈ L.memberIds from hid)] at hstrike
    exact ⟨_, hstrike⟩
  exact .atomically <| .ask h.begun ((answers_findMember id).map fun _ => ())
    ((alike_findMember _ id).map _) fun _ _ =>
      .ask h.begun (answers_accountsOf id) (.list _ _ _) fun _ _ =>
        .ite (fun _ => Alike.failDomain_bind _ _) fun _ => hgo

end Members

section Accounts

theorem alike_changeAccount (h : s.Holds L) (id : Uuid)
    {change : Account → Except DomainError Account} (hchange : ∀ a b, change a = .ok b →
      b.currency = a.currency ∧ b.owner = a.owner) (o : Occasion) :
    Alike (changeAccount id change o) s := by
  refine .atomically <| .ask h.begun (answers_findAccount id) (alike_findAccount _ id) fun a ha =>
    .ask h.begun (.ofDomain _) (.ofDomain _) fun b hb => ?_
  have hmem := (Ledger.findAccount_ok ha).1
  obtain ⟨hcurrency, howner⟩ := hchange a b (Query.ofDomain_ok.1 hb)
  exact alike_saveAccount h.begun (hcurrency ▸ h.sound.currency_account a hmem)
    (howner ▸ h.sound.owner_account a hmem) o.savedAt

theorem alike_deleteAccount (h : s.Holds L) (id : Uuid) : Alike (deleteAccount id) s := by
  refine .atomically <| .ask h.begun ((answers_findAccount id).map fun _ => ())
    ((alike_findAccount _ id).map _) fun _ _ =>
      .ask h.begun (answers_hasTransactions id) (.read _ _) fun used hused =>
        .ite (fun _ => Alike.failDomain_bind _ _) fun hfree => ?_
  refine (alike_strike h.begun (f := Account.row) rfl (fun _ => rfl) fun hid => ?_).notFoundAs _
  have hunused : id ∉ L.transactions.map (·.account) := by
    rw [← Query.ask_ok.1 hused] at hfree
    simpa using hfree
  have hstrike := Ledger.enforced_strikeAccount h.sound hid
  rw [Ledger.strikeAccount, if_neg (not_not_intro (show id ∈ L.accountIds from hid)),
    if_neg hunused] at hstrike
  exact ⟨_, hstrike⟩

end Accounts

section Labels

theorem alike_createCategory (h : s.Holds L) (cmd : NewCategory) (o : Occasion) :
    Alike (createCategory cmd o) s :=
  .ask h.shows (.ofDomain _) (.ofDomain _) fun c _ => .atomically <|
    (Alike.enter_childless (t := .categories) h.begun.ready (by decide) c.row).bind fun _ _ _ =>
      .pure c

theorem alike_changeCategory (h : s.Holds L) (id : Uuid)
    (change : Category → Except DomainError Category) : Alike (changeCategory id change) s :=
  .atomically <| .ask h.begun (answers_findCategory id) (alike_findCategory _ id) fun c _ =>
    .ask h.begun (.ofDomain _) (.ofDomain _) fun c _ =>
      (Alike.replace_childless (t := .categories) h.begun.ready (by decide) _ _ c.row).bind
        fun _ _ _ => .pure c

theorem alike_createTag (h : s.Holds L) (cmd : NewTag) (o : Occasion) :
    Alike (createTag cmd o) s :=
  .ask h.shows (.ofDomain _) (.ofDomain _) fun t _ => .atomically <|
    ((Alike.enter_childless (t := .tags) h.begun.ready (by decide) t.row).mapError _).bind
      fun _ _ _ => .pure t

theorem alike_updateTag (h : s.Holds L) (id : Uuid) (changes : Changes) (o : Occasion) :
    Alike (updateTag id changes o) s :=
  .atomically <| .ask h.begun (answers_findTag id) (alike_findTag _ id) fun t _ =>
    .ask h.begun (.ofDomain _) (.ofDomain _) fun t _ =>
      ((Alike.replace_childless (t := .tags) h.begun.ready (by decide) _ _ t.row).mapError _).bind
        fun _ _ _ => .pure t

end Labels

section Movements

theorem alike_post (h : s.Shows L) {old new : Account} (hold : old ∈ L.accounts)
    (hnew : new.id = old.id ∧ new.currency = old.currency ∧ new.owner = old.owner)
    {t : Transaction} (ht : t.account = new.id ∧ t.currency = new.currency) (savedAt : Instant)
    {w : Work α}
    (hw : ∀ L' s', s'.Shows L' → t.id ∈ L'.transactionIds → L'.categoryIds = L.categoryIds →
      Alike w s') :
    Alike (do
      Transactions.create t
      discard (Accounts.save new savedAt)
      w) s := by
  obtain ⟨hid, hcurrency, howner⟩ := hnew
  have hknown : new.currency.IsKnown := hcurrency ▸ h.sound.currency_account old hold
  have hthere : ∀ m ∈ new.owner, m ∈ L.memberIds := howner ▸ h.sound.owner_account old hold
  refine .step h (simulates_enter fun _ hs => Ledger.enforced_enterTransaction hs t)
    (alike_enterTransaction h (ht.2 ▸ hknown) ?_) fun _ L₁ s₁ hpost h₁ => ?_
  · rw [ht.1, hid]
    exact List.mem_map_of_mem hold
  obtain ⟨-, -, -, rfl⟩ := Ledger.enterTransaction_ok.1 (Step.edit_ok.1 hpost)
  refine .step h₁ ((settles_saveAccount new savedAt).simulates.map fun _ => ())
    ((alike_saveAccount h₁ hknown hthere savedAt).map _) fun _ L₂ s₂ hsave h₂ => ?_
  obtain ⟨b, hsave, -⟩ := Step.map_ok.1 hsave
  obtain ⟨_, _, _, _, _, _, rfl⟩ := Ledger.saveAccount_spec hsave
  exact hw _ s₂ h₂ (by simp [Ledger.transactionIds]) rfl

theorem alike_spend (h : s.Shows L) (cmd : NewExpenditure) (o : Occasion) :
    Alike (spend cmd o) s := by
  refine .ask h (answers_activeAccount _) (alike_activeAccount _ _) fun a ha => ?_
  refine .ask h (answers_activeCategory _) (alike_activeCategory _ _) fun c hc => ?_
  refine .ask h (answers_ensureCurrency _ a) (alike_ensureCurrency _ _ _) fun _ _ => ?_
  refine .ite (fun _ => Alike.failDomain_bind _ _) fun _ => ?_
  refine .ask h (.ofOverflow (a.debit cmd.amount)) (.ofOverflow _) fun b hb => ?_
  refine .ask h (.ofOverflow cmd.amount.neg) (.ofOverflow _) fun amount _ => ?_
  have hnew : b.id = a.id ∧ b.currency = a.currency ∧ b.owner = a.owner := by
    obtain ⟨_, -, rfl⟩ := Ledger.debit_ok.1 (Query.ofOverflow_ok.1 hb)
    exact ⟨rfl, rfl, rfl⟩
  refine alike_post h (Ledger.activeAccount_ok ha).1 hnew ⟨rfl, rfl⟩ o.savedAt
    fun L₂ s₂ h₂ htransaction hcategories => ?_
  have hcategory : c.id ∈ L₂.categoryIds :=
    hcategories ▸ List.mem_map_of_mem (Ledger.activeCategory_ok hc).1
  refine .step h₂ (simulates_enter fun _ hs =>
      Ledger.enforced_enterExpenditure hs (Ledger.expenditureOf cmd o c))
    (alike_enterExpenditure h₂ htransaction hcategory) fun _ L₃ s₃ henter h₃ => ?_
  obtain ⟨-, -, -, rfl⟩ := Ledger.enterExpenditure_ok.1 (Step.edit_ok.1 henter)
  refine .ask h₃ (answers_resolveTags _ _) (alike_resolveTags _ _ _) fun tags htags => ?_
  refine (alike_linkExpenditure h₃ ?_ ?_).bind fun _ _ _ => .pure _
  · simp [Ledger.expenditureIds, Ledger.expenditureOf]
  · exact Ledger.mem_tagIds_of_resolve h₃.sound.nodup_tags htags

theorem alike_receive (h : s.Shows L) (cmd : NewMovement) (o : Occasion) :
    Alike (receive cmd o) s := by
  refine .ask h (answers_activeAccount _) (alike_activeAccount _ _) fun a ha => ?_
  refine .ask h (answers_activeCategory _) (alike_activeCategory _ _) fun c hc => ?_
  refine .ask h (answers_ensureCurrency _ a) (alike_ensureCurrency _ _ _) fun _ _ => ?_
  refine .ask h (.ofDomain (a.credit cmd.amount)) (.ofDomain _) fun b hb => ?_
  have hnew : b.id = a.id ∧ b.currency = a.currency ∧ b.owner = a.owner := by
    obtain ⟨_, -, rfl⟩ := Ledger.credit_ok.1 (Query.ofDomain_ok.1 hb)
    exact ⟨rfl, rfl, rfl⟩
  refine alike_post h (Ledger.activeAccount_ok ha).1 hnew ⟨rfl, rfl⟩ o.savedAt
    fun L₂ s₂ h₂ htransaction hcategories => ?_
  have hcategory : c.id ∈ L₂.categoryIds :=
    hcategories ▸ List.mem_map_of_mem (Ledger.activeCategory_ok hc).1
  refine .step h₂ (simulates_enter fun _ hs =>
      Ledger.enforced_enterIngress hs (Ledger.ingressOf o c))
    (alike_enterIngress h₂ htransaction hcategory) fun _ L₃ s₃ henter h₃ => ?_
  obtain ⟨-, -, -, rfl⟩ := Ledger.enterIngress_ok.1 (Step.edit_ok.1 henter)
  refine .ask h₃ (answers_resolveTags _ _) (alike_resolveTags _ _ _) fun tags htags => ?_
  refine (alike_linkIngress h₃ ?_ ?_).bind fun _ _ _ => .pure _
  · simp [Ledger.ingressIds, Ledger.ingressOf]
  · exact Ledger.mem_tagIds_of_resolve h₃.sound.nodup_tags htags

theorem alike_createExpenditure (h : s.Holds L) (cmd : NewExpenditure) (o : Occasion) :
    Alike (createExpenditure cmd o) s :=
  .ask h.shows (answers_ensurePositive _) (alike_ensurePositive _ _) fun _ _ =>
    .atomically (alike_spend h.begun cmd o)

theorem alike_createIngress (h : s.Holds L) (cmd : NewMovement) (o : Occasion) :
    Alike (createIngress cmd o) s :=
  .ask h.shows (answers_ensurePositive _) (alike_ensurePositive _ _) fun _ _ =>
    .atomically (alike_receive h.begun cmd o)

end Movements

end UseCase

end Bookkeeping

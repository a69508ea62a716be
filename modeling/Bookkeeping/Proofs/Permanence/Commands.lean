import Bookkeeping.Proofs.Permanence.Statement
import Bookkeeping.Proofs.UnitOfWork.Commands

namespace Bookkeeping

open Books (Extends)

def Store.calm (s : Store) : Store := { s with refusals := .none }

/-- What work does to a store from inside a unit of work. Where keys are checked at once, intact
books stay intact and keep their permanent rows. -/
structure Store.Grows (s s' : Store) : Prop where
  undo : s'.undo = s.undo
  deferred : s'.enforcement.deferred = s.enforcement.deferred
  books : s.enforcement.deferred = false → s.books.Intact →
    s'.books.Intact ∧ s.books.Extends s'.books

namespace Store.Grows

variable {s s' s'' : Store}

theorem refl (s : Store) : Grows s s := ⟨rfl, rfl, fun _ hi => ⟨hi, .refl _⟩⟩

theorem trans (h : Grows s s') (h' : Grows s' s'') : Grows s s'' where
  undo := h'.undo.trans h.undo
  deferred := h'.deferred.trans h.deferred
  books hd hi := by
    obtain ⟨hi', hext⟩ := h.books hd hi
    obtain ⟨hi'', hext'⟩ := h'.books (h.deferred.trans hd) hi'
    exact ⟨hi'', hext.trans hext'⟩

theorem of_calm (h : s'.calm = s.calm) : Grows s s' where
  undo := show s'.calm.undo = s.calm.undo from congrArg Store.undo h
  deferred := show s'.calm.enforcement.deferred = s.calm.enforcement.deferred from
    congrArg (·.enforcement.deferred) h
  books _ hi := by
    have hbooks : s'.calm.books = s.calm.books := congrArg Store.books h
    show s'.calm.books.Intact ∧ s.books.Extends s'.calm.books
    rw [hbooks]
    exact ⟨hi, .refl _⟩

end Store.Grows

namespace Work

def Grows (w : Work α) : Prop := ∀ s : Store, s.Grows (w s).2

namespace Grows

theorem reads {w : Work α} (h : Keeps Store.calm w) : Grows w := fun s => .of_calm (h s)

theorem pure (a : α) : Grows (Pure.pure a) := reads (.pure a)

theorem failDomain (e : DomainError) : Grows (Work.failDomain e : Work α) := reads (.failDomain e)

theorem bind {w : Work α} {f : α → Work β} (hw : Grows w) (hf : ∀ a, Grows (f a)) :
    Grows (w >>= f) := by
  intro s
  have h := hw s
  rw [bind_apply]
  generalize w s = r at h ⊢
  obtain ⟨e | a, s'⟩ := r
  · exact h
  · exact h.trans (hf a s')

theorem map {w : Work α} (hw : Grows w) (f : α → β) : Grows (f <$> w) := by
  rw [map_eq_pure_bind]
  exact hw.bind fun a => pure (f a)

theorem ite {q : Prop} [Decidable q] {w w' : Work α} (h : Grows w) (h' : Grows w') :
    Grows (if q then w else w') := by
  by_cases hq : q
  · rwa [if_pos hq]
  · rwa [if_neg hq]

theorem mapError {w : Work α} (hw : Grows w) (f : LedgerError → LedgerError) :
    Grows (w.mapError f) := by
  intro s
  have h := hw s
  rw [mapError_apply]
  generalize w s = r at h ⊢
  obtain ⟨(e | o) | a, s'⟩ := r <;> exact h

theorem write {statement : Enforcement → Books → Except StorageFailure Books}
    (h : ∀ {e b b'}, e.deferred = false → statement e b = .ok b' → b'.Intact ∧ b.Extends b') :
    Grows (Work.write statement) := by
  refine (reads (.connected fun _ _ => rfl)).bind fun _ s => ?_
  rw [bind_ok (show (get : Work Store) s = (.ok s, s) from rfl)]
  cases hb : statement s.enforcement s.books with
  | error f => exact .refl s
  | ok b => exact ⟨rfl, rfl, fun hd _ => h hd hb⟩

theorem enter (t : Table) (row : t.Row) : Grows (Register.enter t row) :=
  write fun hd h => Enforcement.insert_extends hd h

variable {t : Table} {chosen : t.Row → Bool}

theorem replace {columns : List String} {row : t.Row} (ht : t ∉ Table.permanent) :
    Grows (Register.replace t columns chosen row) :=
  (reads (.read (fun _ _ => rfl) _)).bind fun _ =>
    ite (write fun hd h => Enforcement.update_extends hd ht h) (failDomain _)

theorem strike (ht : t ∉ Table.permanent) (hs : t.Spares) : Grows (Register.strike t chosen) :=
  (reads (.read (fun _ _ => rfl) _)).bind fun _ =>
    ite (write fun hd h => Enforcement.delete_extends hd ht hs h) (failDomain _)

end Grows

def Records (w : Work α) : Prop :=
  ∀ s, s.books.Intact → (w s).2.books.Intact ∧ s.books.Extends (w s).2.books

namespace Records

theorem reads {w : Work α} (h : Keeps Store.books w) : Records w := by
  intro s hi
  rw [h s]
  exact ⟨hi, .refl _⟩

theorem atomically {w : Work α} (h : Grows w) : Records (Bookkeeping.atomically w) := by
  intro s hi
  obtain ⟨log, r, s', -, hrun, hruns⟩ := TransactionControl.runs (Store.control s.refusals) w s
  have hending := Store.ending (fun s => (h s).undo) hruns
  rw [show Bookkeeping.atomically w s = (r, s') from hrun]
  generalize s'.books = b at hending
  cases hending with
  | kept _ => exact (h s.begun).books rfl hi
  | _ => exact ⟨hi, .refl _⟩

theorem after {v : Work β} {f : β → Work α} (hv : Keeps Store.books v) (hf : ∀ b, Records (f b)) :
    Records (v >>= f) := by
  intro s hi
  have hs := hv s
  rw [bind_apply]
  generalize v s = r at hs ⊢
  obtain ⟨e | b, s'⟩ := r
  · rw [hs]
    exact ⟨hi, .refl _⟩
  · have h := hf b s'
    rw [hs] at h
    exact h hi

theorem map {w : Work α} (h : Records w) (f : α → β) : Records (f <$> w) := by
  intro s hi
  have hs := h s hi
  rw [map_apply]
  generalize w s = r at hs ⊢
  obtain ⟨e | a, s'⟩ := r <;> exact hs

end Records

end Work

namespace UseCase

open Work (Keeps Grows Records)

theorem calm_withRefusals (s : Store) (r : Refusals) :
    Store.calm { s with refusals := r } = s.calm := rfl

theorem grows_saveAccount (a : Account) (savedAt : Instant) : Grows (Accounts.save a savedAt) :=
  (Grows.reads (.ofOverflow _)).bind fun _ => (Grows.reads (.read (fun _ _ => rfl) _)).bind fun _ =>
    .ite ((Grows.replace (by decide)).bind fun _ => .pure _)
      ((Grows.reads (.read (fun _ _ => rfl) _)).bind fun _ => .ite (.failDomain _) (.failDomain _))

theorem grows_linkTags (kind : TagKind) (target : Uuid) (tags : List Uuid) :
    Grows (Tags.link kind target tags) := by
  unfold Tags.link
  generalize Tags.distinct tags = tags
  refine .ite (.pure ()) ?_
  cases kind with
  | expenditure => exact .write fun hd h => Enforcement.insert_extends hd h
  | ingress => exact .write fun hd h => Enforcement.insert_extends hd h
  | _ => exact .failDomain _

theorem grows_spend (cmd : NewExpenditure) (o : Occasion) : Grows (spend cmd o) := by
  refine (Grows.reads (keeps_activeAccount calm_withRefusals _)).bind fun a => ?_
  refine (Grows.reads (keeps_activeCategory calm_withRefusals _)).bind fun c => ?_
  refine Grows.bind (.ite (.pure ()) (.failDomain _)) fun _ => ?_
  have hgo : Grows _ :=
    (Grows.reads (.ofOverflow (a.debit cmd.amount))).bind fun a =>
    (Grows.reads (.ofOverflow cmd.amount.neg)).bind fun amount =>
    (Grows.enter .transactions
      (completed cmd.toNewMovement a amount .expenditure o).row).bind fun _ =>
    ((grows_saveAccount a o.savedAt).map fun _ => ()).bind fun _ =>
    (Grows.enter .expenditures (Ledger.expenditureOf cmd o c).row).bind fun _ =>
    (Grows.reads (keeps_resolveTags calm_withRefusals .expenditure cmd.tags)).bind fun tags =>
    (grows_linkTags .expenditure o.id (tags.map (·.id))).bind fun _ =>
    .pure (⟨Ledger.expenditureOf cmd o c,
      completed cmd.toNewMovement a amount .expenditure o, c, tags⟩ : Detail Expenditure)
  exact .ite ((Grows.failDomain _).bind fun _ => hgo) hgo

theorem grows_receive (cmd : NewMovement) (o : Occasion) : Grows (receive cmd o) :=
  (Grows.reads (keeps_activeAccount calm_withRefusals _)).bind fun a =>
  (Grows.reads (keeps_activeCategory calm_withRefusals _)).bind fun _ =>
  (Grows.ite (.pure ()) (.failDomain _)).bind fun _ =>
  (Grows.reads (.ofDomain (a.credit cmd.amount))).bind fun _ =>
  (Grows.enter .transactions _).bind fun _ =>
  ((grows_saveAccount _ o.savedAt).map fun _ => ()).bind fun _ =>
  (Grows.enter .ingresses _).bind fun _ =>
  (Grows.reads (keeps_resolveTags calm_withRefusals .ingress cmd.tags)).bind fun _ =>
  (grows_linkTags .ingress o.id _).bind fun _ => .pure _

theorem records_createMember (cmd : NewMember) (o : Occasion) : Records (createMember cmd o) :=
  .after (.ofDomain _) fun m => .atomically <| (Grows.enter .members m.row).bind fun _ => .pure m

theorem records_changeMember (id : Uuid) (change : Member → Except DomainError Member) :
    Records (changeMember id change) :=
  .atomically <| (Grows.reads (keeps_findMember calm_withRefusals id)).bind fun m =>
    (Grows.reads (.ofDomain (change m))).bind fun m =>
      (Grows.replace (by decide)).bind fun _ => .pure m

theorem records_deleteMember (id : Uuid) : Records (deleteMember id) := by
  have hgo : Grows ((Members.delete id).notFoundAs .householdMemberNotFound) :=
    (Grows.strike (by decide) (by decide)).mapError _
  exact .atomically <|
    ((Grows.reads (keeps_findMember calm_withRefusals id)).map fun _ => ()).bind fun _ =>
    (Grows.reads (.list calm_withRefusals _ _)).bind fun _ =>
      .ite ((Grows.failDomain _).bind fun _ => hgo) hgo

theorem records_createAccount (cmd : NewAccount) (o : Occasion) : Records (createAccount cmd o) :=
  .after (.ofDomain _) fun a => .atomically <|
    (Grows.reads (keeps_checkOwner calm_withRefusals a.owner)).bind fun _ =>
      (Grows.enter .accounts a.row).bind fun _ => .pure a

theorem records_changeAccount (id : Uuid) (change : Account → Except DomainError Account)
    (o : Occasion) : Records (changeAccount id change o) :=
  .atomically <| (Grows.reads (keeps_findAccount calm_withRefusals id)).bind fun a =>
    (Grows.reads (.ofDomain (change a))).bind fun a => grows_saveAccount a o.savedAt

theorem records_deleteAccount (id : Uuid) : Records (deleteAccount id) := by
  have hgo : Grows ((Accounts.delete id).notFoundAs .accountNotFound) :=
    (Grows.strike (by decide) (by decide)).mapError _
  exact .atomically <|
    ((Grows.reads (keeps_findAccount calm_withRefusals id)).map fun _ => ()).bind fun _ =>
    (Grows.reads (.read calm_withRefusals _)).bind fun _ =>
      .ite ((Grows.failDomain _).bind fun _ => hgo) hgo

theorem records_createCategory (cmd : NewCategory) (o : Occasion) :
    Records (createCategory cmd o) :=
  .after (.ofDomain _) fun c => .atomically <|
    (Grows.enter .categories c.row).bind fun _ => .pure c

theorem records_changeCategory (id : Uuid) (change : Category → Except DomainError Category) :
    Records (changeCategory id change) :=
  .atomically <| (Grows.reads (keeps_findCategory calm_withRefusals id)).bind fun c =>
    (Grows.reads (.ofDomain (change c))).bind fun c =>
      (Grows.replace (by decide)).bind fun _ => .pure c

theorem records_deleteCategory (id : Uuid) : Records (deleteCategory id) :=
  .atomically ((Grows.strike (by decide) (by decide)).mapError _)

theorem records_createTag (cmd : NewTag) (o : Occasion) : Records (createTag cmd o) :=
  .after (.ofDomain _) fun t => .atomically <|
    ((Grows.enter .tags t.row).mapError _).bind fun _ => .pure t

theorem records_updateTag (id : Uuid) (changes : Changes) (o : Occasion) :
    Records (updateTag id changes o) :=
  .atomically <| (Grows.reads (keeps_findTag calm_withRefusals id)).bind fun t =>
    (Grows.reads (.ofDomain (t.apply changes o.now))).bind fun t =>
      ((Grows.replace (by decide)).mapError _).bind fun _ => .pure t

theorem records_deleteTag (id : Uuid) : Records (deleteTag id) :=
  .atomically ((Grows.strike (by decide) (by decide)).mapError _)

theorem records_createExpenditure (cmd : NewExpenditure) (o : Occasion) :
    Records (createExpenditure cmd o) :=
  .after (.ite (.pure ()) (.failDomain _)) fun _ => .atomically (grows_spend cmd o)

theorem records_createIngress (cmd : NewMovement) (o : Occasion) : Records (createIngress cmd o) :=
  .after (.ite (.pure ()) (.failDomain _)) fun _ => .atomically (grows_receive cmd o)

end UseCase

open UseCase in
theorem Command.records (c : Command) (o : Occasion) : (c.perform o).Records := by
  have hp (s : Store) (r : Refusals) : Store.books { s with refusals := r } = s.books := rfl
  cases c with rw [perform]
  | createMember cmd => exact (records_createMember cmd o).map _
  | member id => exact .reads ((keeps_findMember hp id).map _)
  | listMembers => exact .reads ((Work.Keeps.list hp _ _).map _)
  | activateMember id => exact (records_changeMember id _).map _
  | deactivateMember id => exact (records_changeMember id _).map _
  | deleteMember id => exact (records_deleteMember id).map _
  | createAccount cmd => exact (records_createAccount cmd o).map _
  | account id => exact .reads ((keeps_findAccount hp id).map _)
  | listAccounts => exact .reads ((Work.Keeps.list hp _ _).map _)
  | activateAccount id => exact (records_changeAccount id _ o).map _
  | deactivateAccount id => exact (records_changeAccount id _ o).map _
  | renameAccount id name => exact (records_changeAccount id _ o).map _
  | deleteAccount id => exact (records_deleteAccount id).map _
  | createCategory cmd => exact (records_createCategory cmd o).map _
  | category id => exact .reads ((keeps_findCategory hp id).map _)
  | listCategories => exact .reads ((Work.Keeps.list hp _ _).map _)
  | categoriesByKind kind => exact .reads ((Work.Keeps.list hp _ _).map _)
  | updateCategory id changes => exact (records_changeCategory id _).map _
  | activateCategory id => exact (records_changeCategory id _).map _
  | deactivateCategory id => exact (records_changeCategory id _).map _
  | deleteCategory id => exact (records_deleteCategory id).map _
  | createTag cmd => exact (records_createTag cmd o).map _
  | tag id => exact .reads ((keeps_findTag hp id).map _)
  | tagsByKind kind => exact .reads ((Work.Keeps.list hp _ _).map _)
  | updateTag id changes => exact (records_updateTag id changes o).map _
  | deleteTag id => exact (records_deleteTag id).map _
  | createExpenditure cmd => exact (records_createExpenditure cmd o).map _
  | expenditure id => exact .reads ((keeps_findExpenditure hp id).map _)
  | findExpenditures filter => exact .reads ((Work.Keeps.list hp _ _).map _)
  | createIngress cmd => exact (records_createIngress cmd o).map _
  | ingress id => exact .reads ((keeps_findIngress hp id).map _)
  | transaction id => exact .reads ((keeps_findTransaction hp id).map _)
  | listTransactions id => exact .reads ((keeps_listTransactions hp id).map _)

/-- What can happen to the store of a household. -/
inductive Happening
  | command (c : Command) (o : Occasion)
  | guards (keys : List ForeignKey)
  | trouble (r : Refusals)
  deriving DecidableEq, Repr

namespace Store

def meet (s : Store) : Happening → Store
  | .command c o => (c.run o s).2
  | .guards keys => { s with guards := keys }
  | .trouble r => { s with refusals := r }

def through (s : Store) (history : List Happening) : Store := history.foldl meet s

theorem meet_records {s : Store} (hi : s.books.Intact) (h : Happening) :
    (s.meet h).books.Intact ∧ s.books.Extends (s.meet h).books := by
  cases h with
  | command c o => exact c.records o s hi
  | guards keys => exact ⟨hi, .refl _⟩
  | trouble r => exact ⟨hi, .refl _⟩

theorem through_records {s : Store} (hi : s.books.Intact) (history : List Happening) :
    (s.through history).books.Intact ∧ s.books.Extends (s.through history).books := by
  induction history generalizing s with
  | nil => exact ⟨hi, .refl _⟩
  | cons h history ih =>
    obtain ⟨hi', hext⟩ := meet_records hi h
    obtain ⟨hi'', hext'⟩ := ih hi'
    exact ⟨hi'', hext.trans hext'⟩

end Store

/-- All that `b` records is still recorded in `b'`, as it was and in the same order, and all that it
refers to is still there. -/
structure Books.Kept (b b' : Books) : Prop where
  transactions : b.transactions <+: b'.transactions
  expenditures : b.expenditures <+: b'.expenditures
  ingresses : b.ingresses <+: b'.ingresses
  expenditureTags : b.expenditureTags <+: b'.expenditureTags
  ingressTags : b.ingressTags <+: b'.ingressTags
  account : ∀ t ∈ b.transactions, ∃ a ∈ b'.accounts, a.id = t.account
  expenditureCategory : ∀ e ∈ b.expenditures, ∃ c ∈ b'.categories, c.id = e.category
  ingressCategory : ∀ i ∈ b.ingresses, ∃ c ∈ b'.categories, c.id = i.category
  expenditureTag : ∀ l ∈ b.expenditureTags, ∃ t ∈ b'.tags, t.id = l.tag
  ingressTag : ∀ l ∈ b.ingressTags, ∃ t ∈ b'.tags, t.id = l.tag

theorem Books.Extends.kept {b b' : Books} (h : b.Extends b') (hi : b'.Intact) : b.Kept b' where
  transactions := h .transactions (by decide)
  expenditures := h .expenditures (by decide)
  ingresses := h .ingresses (by decide)
  expenditureTags := h .expenditureTags (by decide)
  ingressTags := h .ingressTags (by decide)
  account t ht := by
    have hrow := (h .transactions (by decide)).subset ht
    obtain ⟨a, ha, hid⟩ := hi.parent (k := .transactionsAccount) (t := .transactions)
      (u := .accounts) (by decide) rfl rfl hrow rfl
    exact ⟨a, ha, Option.some.inj hid⟩
  expenditureCategory e he := by
    have hrow := (h .expenditures (by decide)).subset he
    obtain ⟨c, hc, hid⟩ := hi.parent (k := .expendituresCategory) (t := .expenditures)
      (u := .categories) (by decide) rfl rfl hrow rfl
    exact ⟨c, hc, Option.some.inj hid⟩
  ingressCategory i hi' := by
    have hrow := (h .ingresses (by decide)).subset hi'
    obtain ⟨c, hc, hid⟩ := hi.parent (k := .ingressesCategory) (t := .ingresses)
      (u := .categories) (by decide) rfl rfl hrow rfl
    exact ⟨c, hc, Option.some.inj hid⟩
  expenditureTag l hl := by
    have hrow := (h .expenditureTags (by decide)).subset hl
    obtain ⟨t, ht, hid⟩ := hi.parent (k := .expenditureTagsTag) (t := .expenditureTags)
      (u := .tags) (by decide) rfl rfl hrow rfl
    exact ⟨t, ht, Option.some.inj hid⟩
  ingressTag l hl := by
    have hrow := (h .ingressTags (by decide)).subset hl
    obtain ⟨t, ht, hid⟩ := hi.parent (k := .ingressTagsTag) (t := .ingressTags)
      (u := .tags) (by decide) rfl rfl hrow rfl
    exact ⟨t, ht, Option.some.inj hid⟩

namespace Store

/-- Whatever happened before and whatever follows. -/
theorem recorded_stays (before after : List Happening) :
    (fresh.through before).books.Kept ((fresh.through before).through after).books := by
  have hfresh : fresh.books.Intact := by decide
  obtain ⟨hi, -⟩ := through_records hfresh before
  obtain ⟨hi', hext⟩ := through_records hi after
  exact hext.kept hi'

end Store

end Bookkeeping

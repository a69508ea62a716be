import Bookkeeping.Proofs.Failure.Entities
import Bookkeeping.Proofs.Ledger.Deletion
import Bookkeeping.Proofs.Ledger.Growth
import Bookkeeping.Proofs.Spending.Outcome

namespace Bookkeeping

open Ledger (Query Step Grown)

variable {clash worn : Prop} {L : Ledger} {o : Occasion}

namespace Ledger

section Lookup

theorem told_findMember (id : Uuid) :
    Told clash worn (fun m => m ∈ L.members ∧ m.id = id) (findMember id L) := .find id rfl

theorem told_findAccount (id : Uuid) :
    Told clash worn (fun a => a ∈ L.accounts ∧ a.id = id) (findAccount id L) := .find id rfl

theorem told_findCategory (id : Uuid) :
    Told clash worn (fun c => c ∈ L.categories ∧ c.id = id) (findCategory id L) := .find id rfl

theorem told_findTag (id : Uuid) :
    Told clash worn (fun t => t ∈ L.tags ∧ t.id = id) (findTag id L) := .find id rfl

theorem told_findTransaction (id : Uuid) :
    Told clash worn (fun t => t ∈ L.transactions ∧ t.id = id) (findTransaction id L) := .find id rfl

theorem told_findExpenditure (id : Uuid) :
    Told clash worn (fun _ => True) (findExpenditure id L) :=
  (Told.find id rfl).query_bind fun e _ =>
    (told_findTransaction e.transaction).query_bind fun _ _ =>
      (told_findCategory e.category).query_bind fun _ _ => trivial

theorem told_findIngress (id : Uuid) : Told clash worn (fun _ => True) (findIngress id L) :=
  (Told.find id rfl).query_bind fun i _ =>
    (told_findTransaction i.transaction).query_bind fun _ _ =>
      (told_findCategory i.category).query_bind fun _ _ => trivial

theorem told_listTransactions (id : Uuid) :
    Told clash worn (fun _ => True) (listTransactions id L) := by
  have hfind : Told clash worn (fun _ => True) ((discard (findAccount id) : Query Unit) L) :=
    Told.query_map ((told_findAccount id).imp fun _ _ => trivial)
  exact hfind.query_bind fun _ _ => trivial

theorem told_activeAccount (id : Uuid) :
    Told clash worn (fun a => a ∈ L.accounts ∧ a.id = id) (activeAccount id L) := by
  refine (told_findAccount id).query_bind fun a ha => ?_
  split
  · exact ha
  · exact .refuse rfl

theorem told_activeCategory (id : Uuid) :
    Told clash worn (fun _ => True) (activeCategory id L) := by
  refine (told_findCategory id).query_bind fun c _ => ?_
  split
  · trivial
  · exact .refuse rfl

theorem told_ensureCurrency (currency : Currency) (a : Account) :
    Told clash worn (fun _ => True) (ensureCurrency currency a L) := by
  rw [ensureCurrency]
  split
  · trivial
  · exact .refuse rfl

theorem told_ensurePositive (amount : Money) :
    Told clash worn (fun _ => 0 < amount.minor) (ensurePositive amount L) := by
  rw [ensurePositive]
  split
  · rename_i hpos
    exact (by simpa [Money.isPositive] using hpos : 0 < amount.minor)
  · exact .refuse rfl

theorem told_checkOwner (owner : Option Uuid) :
    Told clash worn (fun _ => True) (checkOwner owner L) := by
  cases owner with
  | none => trivial
  | some id =>
    refine (told_findMember id).query_bind fun m _ => ?_
    split
    · exact .refuse rfl
    · trivial

theorem told_resolveTags (kind : TagKind) (ids : List Uuid) :
    Told clash worn (fun _ => True) (resolveTags kind ids L) := by
  refine .query_foldlM (fun tags id => ?_) ids []
  show Told clash worn _ (resolveTag kind tags id L)
  rw [resolveTag]
  split
  · trivial
  · exact (told_findTag id).query_bind fun t _ =>
      (Told.ofDomain (t.ruled_ensureKind kind)).query_bind fun _ _ => trivial

end Lookup

section Members

theorem told_createMember (cmd : NewMember) (h : o.id ∈ L.memberIds → clash) :
    Told clash worn (fun r => Grown [o.id] none L r.2) (createMember cmd o L) := by
  refine .ask_bind (.ofDomain (Member.ruled_new cmd o.id o.now)) fun m hid => ?_
  refine (Told.edit (ruled_enterMember (hid ▸ h))).bind ?_
  rintro _ _ rfl
  exact { Grown.refl _ _ L with members := fun _ => mem_ids_append (hid ▸ List.mem_cons_self) }

theorem told_changeMember (id : Uuid) {change : Member → Except DomainError Member}
    (hchange : ∀ m, Ruled clash (·.id = m.id) (change m)) :
    Told clash worn (fun r => Grown [] none L r.2) (changeMember id change L) := by
  refine .ask_bind (told_findMember id) fun m hm => ?_
  refine .ask_bind (.ofDomain (hchange m)) fun n hn => ?_
  refine (Told.edit (ruled_replaceMember (hn ▸ List.mem_map_of_mem hm.1))).bind ?_
  rintro _ _ rfl
  exact { Grown.refl _ _ L with
    members := fun _ h => .inl (by rwa [memberIds, Keyed.map_key_replace] at h) }

theorem told_deleteMember (hs : L.Sound) (id : Uuid) :
    Told clash worn (fun r => Grown [] none L r.2) (deleteMember id L) := by
  rw [deleteMember_apply hs]
  refine .ite (fun _ => .named rfl) fun _ => .ite (fun _ => .named rfl) fun _ => ?_
  exact { Grown.refl [] none L with
    members := fun _ h => .inl ((List.filter_sublist.map _).mem h)
    accounts := List.forall_mem_map.2 fun a ha =>
      .inr ⟨a, ha, (a.release_id id).symm, .inl (a.release_version id)⟩ }

end Members

section Accounts

theorem told_createAccount (cmd : NewAccount) (h : o.id ∈ L.accountIds → clash) :
    Told clash worn (fun r => Grown [o.id] none L r.2) (createAccount cmd o L) := by
  refine .ask_bind (.ofDomain (Account.ruled_new cmd o.id o.now)) fun a ha => ?_
  refine .ask_bind (told_checkOwner a.owner) fun _ _ => ?_
  refine (Told.edit (ruled_enterAccount (ha.1 ▸ h))).bind ?_
  rintro _ _ rfl
  exact { Grown.refl [o.id] none L with
    accounts := Keyed.forall_mem_concat (Grown.refl [o.id] none L).accounts
      (.inl ⟨ha.1 ▸ List.mem_cons_self, ha.2⟩) }

theorem told_saveAccount (hn : L.accountIds.Nodup) {old new : Account} (hold : old ∈ L.accounts)
    (hnew : old.Follows new) (savedAt : Instant) (hworn : greatestWord ≤ old.version → worn) :
    Told clash worn (fun r => r.2 = { L with
      accounts := Keyed.replace (·.id) (new.over old savedAt) L.accounts })
      (saveAccount new savedAt L) := by
  obtain ⟨hid, hv⟩ := hnew
  refine .ask_bind (Q := (· = new.version + 1)) (.ofOverflow ?_ ?_) ?_
  · exact fun next h => (nextVersion_ok.1 h).2.symm
  · intro _ h
    rw [Accounts.nextVersion] at h
    split_ifs at h
    exact hworn (by omega)
  · rintro _ rfl
    have hstore : Ruled clash (· = { L with
        accounts := Keyed.replace (·.id) (new.over old savedAt) L.accounts })
        (storeAccount new.version (new.saved savedAt) L) := by
      rw [hv]
      exact ruled_storeAccount hn hold hid.symm
    refine (Told.edit hstore).bind ?_
    rintro _ _ rfl
    rfl

theorem Grown.replaceAccount (ids : List Uuid) {old new : Account} {id : Uuid}
    (hold : old ∈ L.accounts) (hid : old.id = id) (hnew : old.Follows new) (savedAt : Instant) :
    Grown ids (some id) L { L with
      accounts := Keyed.replace (·.id) (new.over old savedAt) L.accounts } := by
  refine { Grown.refl ids (some id) L with accounts := fun b hb => .inr ?_ }
  rcases Keyed.mem_replace hb with rfl | ⟨hb, -⟩
  · exact ⟨old, hold, hnew.1.symm, .inr ⟨congrArg some (hnew.1.trans hid).symm,
      congrArg (· + 1) hnew.2⟩⟩
  · exact ⟨b, hb, rfl, .inl rfl⟩

theorem told_changeAccount (hn : L.accountIds.Nodup) (id : Uuid)
    {change : Account → Except DomainError Account}
    (hchange : ∀ a, Ruled clash a.Follows (change a))
    (hworn : ∀ a ∈ L.accounts, greatestWord ≤ a.version → worn) :
    Told clash worn (fun r => Grown [] (some id) L r.2) (changeAccount id change o L) := by
  refine .ask_bind (told_findAccount id) fun a ha => ?_
  refine .ask_bind (.ofDomain (hchange a)) fun b hb => ?_
  refine (told_saveAccount hn ha.1 hb o.savedAt (hworn a ha.1)).imp ?_
  rintro ⟨_, _⟩ rfl
  exact .replaceAccount [] ha.1 ha.2 hb o.savedAt

theorem told_deleteAccount (hs : L.Sound) (id : Uuid) :
    Told clash worn (fun r => Grown [] none L r.2) (deleteAccount id L) := by
  rw [deleteAccount_apply hs]
  refine .ite (fun _ => .named rfl) fun _ => .ite (fun _ => .named rfl) fun _ => ?_
  exact { Grown.refl [] none L with
    accounts := fun a ha => .inr ⟨a, List.mem_of_mem_filter ha, rfl, .inl rfl⟩ }

end Accounts

section Labels

theorem told_createCategory (cmd : NewCategory) (h : o.id ∈ L.categoryIds → clash) :
    Told clash worn (fun r => Grown [o.id] none L r.2) (createCategory cmd o L) := by
  refine .ask_bind (.ofDomain (Category.ruled_new cmd o.id o.now)) fun c hid => ?_
  refine (Told.edit (ruled_enterCategory (hid ▸ h))).bind ?_
  rintro _ _ rfl
  exact { Grown.refl _ _ L with categories := fun _ => mem_ids_append (hid ▸ List.mem_cons_self) }

theorem told_changeCategory (id : Uuid) {change : Category → Except DomainError Category}
    (hchange : ∀ c, Ruled clash (·.id = c.id) (change c)) :
    Told clash worn (fun r => Grown [] none L r.2) (changeCategory id change L) := by
  refine .ask_bind (told_findCategory id) fun c hc => ?_
  refine .ask_bind (.ofDomain (hchange c)) fun d hd => ?_
  refine (Told.edit (ruled_replaceCategory (hd ▸ List.mem_map_of_mem hc.1))).bind ?_
  rintro _ _ rfl
  exact { Grown.refl _ _ L with
    categories := fun _ h => .inl (by rwa [categoryIds, Keyed.map_key_replace] at h) }

theorem told_deleteCategory (id : Uuid) :
    Told clash worn (fun r => Grown [] none L r.2) (deleteCategory id L) := by
  rw [deleteCategory_apply]
  refine .ite (fun _ => .named rfl) fun _ => .ite (fun _ => .named rfl) fun _ =>
    .ite (fun _ => .named rfl) fun _ => ?_
  exact { Grown.refl [] none L with
    categories := fun _ h => .inl ((List.filter_sublist.map _).mem h) }

theorem told_createTag (cmd : NewTag) :
    Told clash worn (fun r => Grown [o.id] none L r.2) (createTag cmd o L) := by
  refine .ask_bind (.ofDomain (Tag.ruled_new cmd o.id o.now)) fun t hid => ?_
  refine (Told.edit_mapError (Q := (· = { L with tags := L.tags ++ [t] })) ?_ ?_).bind ?_
  · intro L' h
    simp only [enterTag, refused_or_ok, Except.ok.injEq] at h
    exact h.2.symm
  · intro e h
    rw [enterTag] at h
    split_ifs at h
    cases h
    exact ⟨.tagAlreadyExists, rfl, rfl⟩
  · rintro _ _ rfl
    exact { Grown.refl _ _ L with tags := fun _ => mem_ids_append (hid ▸ List.mem_cons_self) }

theorem told_updateTag (id : Uuid) (changes : Changes) :
    Told clash worn (fun r => Grown [] none L r.2) (updateTag id changes o L) := by
  refine .ask_bind (told_findTag id) fun t ht => ?_
  refine .ask_bind (.ofDomain (t.ruled_apply changes o.now)) fun u hu => ?_
  have hmem : u.id ∈ L.tagIds := hu ▸ List.mem_map_of_mem ht.1
  refine (Told.edit_mapError (Q := (· = { L with tags := Keyed.replace (·.id) u L.tags }))
    ?_ ?_).bind ?_
  · intro L' h
    simp only [replaceTag, refused_or_ok, Except.ok.injEq] at h
    exact h.2.2.symm
  · intro e h
    rw [replaceTag, if_neg (not_not_intro hmem)] at h
    split_ifs at h
    cases h
    exact ⟨.tagAlreadyExists, rfl, rfl⟩
  · rintro _ _ rfl
    exact { Grown.refl _ _ L with
      tags := fun _ h => .inl (by rwa [tagIds, Keyed.map_key_replace] at h) }

theorem told_deleteTag (id : Uuid) :
    Told clash worn (fun r => Grown [] none L r.2) (deleteTag id L) := by
  rw [deleteTag_apply]
  refine .ite (fun _ => .named rfl) fun _ => .ite (fun _ => .named rfl) fun _ => ?_
  exact { Grown.refl [] none L with
    tags := fun _ h => .inl ((List.filter_sublist.map _).mem h) }

end Labels

section Movements

theorem told_post (hs : L.Sound) {old new : Account} (hold : old ∈ L.accounts)
    (hnew : old.Follows new) {t : Transaction} (ht : t.id ∈ L.transactionIds → clash)
    (savedAt : Instant) (hworn : greatestWord ≤ old.version → worn) {m : Step α}
    {P : α × Ledger → Prop}
    (hm : Told clash worn P (m ((L.posted t).withAccount (new.over old savedAt)))) :
    Told clash worn P ((do
      Step.edit (enterTransaction t)
      discard (saveAccount new savedAt)
      m) L) := by
  refine (Told.edit (ruled_enterTransaction ht)).bind ?_
  rintro _ _ rfl
  refine Told.bind (P := (·.2 = (L.posted t).withAccount (new.over old savedAt)))
    (Told.map (told_saveAccount (L := L.posted t) hs.nodup_accounts hold hnew savedAt hworn)) ?_
  rintro _ _ rfl
  exact hm

theorem told_linkTags {enter : Link → Edit} {links : Ledger → List Link}
    (henter : ∀ l L, Ruled (l ∈ links L) (fun L' => links L' = links L ++ [l]) (enter l L))
    {target : Uuid} (hnew : ∀ l ∈ links L, l.target = target → clash) (tags : List Uuid) :
    Told clash worn (fun _ => True) (linkTags enter target tags L) :=
  Told.edit (Q := fun _ => True)
    (ruled_linkEach henter (Tags.nodup_distinct tags) fun _ _ hmem => hnew _ hmem rfl)

theorem told_linkExpenditure {target : Uuid} (hnew : ∀ l ∈ L.expenditureTags, l.target = target →
    clash) (tags : List Uuid) : Told clash worn (fun r => r.2 = { L with
      expenditureTags := L.expenditureTags ++ (Tags.distinct tags).map (⟨target, ·⟩) })
      (linkTags enterExpenditureTag target tags L) :=
  (told_linkTags (fun l L => (ruled_enterExpenditureTag l L).imp id fun _ h => h ▸ rfl) hnew tags)
    |>.of_ok fun _ h => (linkExpenditure_ok h).symm

theorem told_linkIngress {target : Uuid} (hnew : ∀ l ∈ L.ingressTags, l.target = target → clash)
    (tags : List Uuid) : Told clash worn (fun r => r.2 = { L with
      ingressTags := L.ingressTags ++ (Tags.distinct tags).map (⟨target, ·⟩) })
      (linkTags enterIngressTag target tags L) :=
  (told_linkTags (fun l L => (ruled_enterIngressTag l L).imp id fun _ h => h ▸ rfl) hnew tags)
    |>.of_ok fun _ h => (linkIngress_ok h).symm

section Moves

variable (hs : L.Sound) (htransaction : o.transactionId ∈ L.transactionIds → clash)
  (hworn : ∀ a ∈ L.accounts, greatestWord ≤ a.version → worn)

include hs htransaction hworn

theorem told_spend {cmd : NewExpenditure} (hpos : 0 < cmd.amount.minor)
    (hid : o.id ∈ L.expenditureIds → clash) :
    Told clash worn (fun r => Grown [o.transactionId, o.id] (some cmd.account) L r.2)
      (spend cmd o L) := by
  refine .ask_bind (told_activeAccount cmd.account) fun a ha => ?_
  refine .ask_bind (told_activeCategory cmd.category) fun c _ => ?_
  refine .ask_bind (told_ensureCurrency cmd.currency a) fun _ _ => ?_
  refine .refused_bind rfl fun hcovers => ?_
  -- a covered amount can be taken out, and its negation is in range
  obtain ⟨hneg, hdebit⟩ := covers_fits hpos (by simpa using hcovers)
  refine .ask_bind (Q := fun b => a.Follows b) (.ofOverflow ?_ ?_) fun b hb => ?_
  · intro b h
    obtain ⟨_, -, rfl⟩ := debit_ok.1 h
    exact ⟨rfl, rfl⟩
  · intro o h
    rw [debit_ok.2 ⟨⟨_, hdebit⟩, rfl, rfl⟩] at h
    cases h
  refine .ask_bind (Q := fun _ => True) (.ofOverflow (fun _ _ => trivial) ?_) fun amount _ => ?_
  · intro o h
    rw [(neg_ok (b := ⟨_, hneg⟩)).2 rfl] at h
    cases h
  refine told_post hs ha.1 hb htransaction o.savedAt (hworn a ha.1) ?_
  refine (Told.edit (ruled_enterExpenditure ?_)).bind ?_
  · rintro (h | h)
    · exact hid h
    · obtain ⟨e, he, heq : e.transaction = o.transactionId⟩ := List.mem_map.1 h
      exact htransaction (heq ▸ hs.transaction_expenditure e he)
  rintro _ _ rfl
  refine .ask_bind (told_resolveTags .expenditure cmd.tags) fun tags _ => ?_
  refine (told_linkExpenditure ?_ (tags.map (·.id))).bind ?_
  · exact fun l hl heq => hid (heq ▸ hs.target_expenditureTag l hl)
  rintro _ _ rfl
  have hgrown := Grown.replaceAccount [o.transactionId, o.id] ha.1 ha.2 hb o.savedAt
  exact { hgrown with
    transactions := fun _ => mem_ids_append List.mem_cons_self
    expenditures := fun _ => mem_ids_append (List.mem_cons_of_mem _ List.mem_cons_self) }

theorem told_receive (cmd : NewMovement) (hid : o.id ∈ L.ingressIds → clash) :
    Told clash worn (fun r => Grown [o.transactionId, o.id] (some cmd.account) L r.2)
      (receive cmd o L) := by
  refine .ask_bind (told_activeAccount cmd.account) fun a ha => ?_
  refine .ask_bind (told_activeCategory cmd.category) fun c _ => ?_
  refine .ask_bind (told_ensureCurrency cmd.currency a) fun _ _ => ?_
  refine .ask_bind (.ofDomain (a.ruled_credit cmd.amount)) fun b hb => ?_
  refine told_post hs ha.1 hb htransaction o.savedAt (hworn a ha.1) ?_
  refine (Told.edit (ruled_enterIngress ?_)).bind ?_
  · rintro (h | h)
    · exact hid h
    · obtain ⟨i, hi, heq : i.transaction = o.transactionId⟩ := List.mem_map.1 h
      exact htransaction (heq ▸ hs.transaction_ingress i hi)
  rintro _ _ rfl
  refine .ask_bind (told_resolveTags .ingress cmd.tags) fun tags _ => ?_
  refine (told_linkIngress ?_ (tags.map (·.id))).bind ?_
  · exact fun l hl heq => hid (heq ▸ hs.target_ingressTag l hl)
  rintro _ _ rfl
  have hgrown := Grown.replaceAccount [o.transactionId, o.id] ha.1 ha.2 hb o.savedAt
  exact { hgrown with
    transactions := fun _ => mem_ids_append List.mem_cons_self
    ingresses := fun _ => mem_ids_append (List.mem_cons_of_mem _ List.mem_cons_self) }

end Moves

end Movements

theorem told_asked {q : Query α} {P : α → Prop} (h : Told clash worn P (q L)) (f : α → Reply) :
    Told clash worn (fun r => Grown [] none L r.2) (Step.ask (f <$> q) L) := by
  refine (Told.ask (Told.query_map (R := fun _ => True) (h.imp fun _ _ => trivial))).imp ?_
  rintro ⟨_, _⟩ ⟨-, rfl⟩
  exact .refl _ _ _

theorem told_perform (hs : L.Sound) (c : Command) (o : Occasion) :
    Told (∃ id ∈ c.generated o, id ∈ L.ids) (∃ a ∈ L.accounts, greatestWord ≤ a.version)
      (fun r => Grown (c.generated o) c.updated L r.2) (perform c o L) := by
  have hworn : ∀ a ∈ L.accounts, greatestWord ≤ a.version →
      ∃ a ∈ L.accounts, greatestWord ≤ a.version := fun a ha hv => ⟨a, ha, hv⟩
  cases c with
  | createMember cmd =>
    exact .map (told_createMember cmd fun h =>
      ⟨o.id, by simp [Command.generated], by simp [ids, h]⟩)
  | member id => exact told_asked (told_findMember id) _
  | listMembers => exact told_asked (.all _) _
  | activateMember id => exact .map (told_changeMember id (Member.ruled_activate o.now))
  | deactivateMember id => exact .map (told_changeMember id (Member.ruled_deactivate o.now))
  | deleteMember id => exact .map (told_deleteMember hs id)
  | createAccount cmd =>
    exact .map (told_createAccount cmd fun h =>
      ⟨o.id, by simp [Command.generated], by simp [ids, h]⟩)
  | account id => exact told_asked (told_findAccount id) _
  | listAccounts => exact told_asked (.all _) _
  | activateAccount id =>
    exact .map (told_changeAccount hs.nodup_accounts id (Account.ruled_activate o.now) hworn)
  | deactivateAccount id =>
    exact .map (told_changeAccount hs.nodup_accounts id (Account.ruled_deactivate o.now) hworn)
  | renameAccount id name =>
    exact .map (told_changeAccount hs.nodup_accounts id (Account.ruled_rename name o.now) hworn)
  | deleteAccount id => exact .map (told_deleteAccount hs id)
  | createCategory cmd =>
    exact .map (told_createCategory cmd fun h =>
      ⟨o.id, by simp [Command.generated], by simp [ids, h]⟩)
  | category id => exact told_asked (told_findCategory id) _
  | listCategories => exact told_asked (.all _) _
  | categoriesByKind kind => exact told_asked (.all _) _
  | updateCategory id changes =>
    exact .map (told_changeCategory id (Category.ruled_apply changes o.now))
  | activateCategory id => exact .map (told_changeCategory id (Category.ruled_activate o.now))
  | deactivateCategory id => exact .map (told_changeCategory id (Category.ruled_deactivate o.now))
  | deleteCategory id => exact .map (told_deleteCategory id)
  | createTag cmd => exact .map (told_createTag cmd)
  | tag id => exact told_asked (told_findTag id) _
  | tagsByKind kind => exact told_asked (.all _) _
  | updateTag id changes => exact .map (told_updateTag id changes)
  | deleteTag id => exact .map (told_deleteTag id)
  | createExpenditure cmd =>
    refine .map (.ask_bind (told_ensurePositive cmd.amount) fun _ hpos => ?_)
    refine told_spend hs (fun h => ⟨o.transactionId, ?_, ?_⟩) hworn hpos fun h => ⟨o.id, ?_, ?_⟩
    all_goals simp [Command.generated, ids, h]
  | expenditure id => exact told_asked (told_findExpenditure id) _
  | findExpenditures filter => exact told_asked (.all _) _
  | createIngress cmd =>
    refine .map (.ask_bind (told_ensurePositive cmd.amount) fun _ _ => ?_)
    refine told_receive hs (fun h => ⟨o.transactionId, ?_, ?_⟩) hworn cmd fun h => ⟨o.id, ?_, ?_⟩
    all_goals simp [Command.generated, ids, h]
  | ingress id => exact told_asked (told_findIngress id) _
  | transaction id => exact told_asked (told_findTransaction id) _
  | listTransactions id => exact told_asked (told_listTransactions id) _

end Ledger

end Bookkeeping

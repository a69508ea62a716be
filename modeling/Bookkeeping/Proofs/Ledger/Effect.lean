import Bookkeeping.Proofs.Payment.Booking

namespace Bookkeeping

open Ledger (Step)

namespace Command

def looks : Command → Bool
  | .member _ | .listMembers | .account _ | .listAccounts | .category _ | .listCategories
  | .categoriesByKind _ | .tag _ | .tagsByKind _ | .expenditure _ | .findExpenditures _
  | .ingress _ | .transaction _ | .listTransactions _ => true
  | _ => false

def memberChange (o : Occasion) :
    Command → Option (Uuid × (Member → Except DomainError Member))
  | .activateMember id => some (id, (·.activate o.now))
  | .deactivateMember id => some (id, (·.deactivate o.now))
  | _ => none

def accountChange (o : Occasion) :
    Command → Option (Uuid × (Account → Except DomainError Account))
  | .activateAccount id => some (id, (·.activate o.now))
  | .deactivateAccount id => some (id, (·.deactivate o.now))
  | .renameAccount id name => some (id, (·.rename name o.now))
  | _ => none

def categoryChange (o : Occasion) :
    Command → Option (Uuid × (Category → Except DomainError Category))
  | .updateCategory id changes => some (id, (·.apply changes o.now))
  | .activateCategory id => some (id, (·.activate o.now))
  | .deactivateCategory id => some (id, (·.deactivate o.now))
  | _ => none

end Command

namespace Ledger

/-- What a command does to a ledger when it succeeds, and what it answers. -/
inductive Effect (L : Ledger) (o : Occasion) : Command → Reply → Ledger → Prop
  | looked {c : Command} {r : Reply} (hc : c.looks = true) : Effect L o c r L
  | memberCreated {cmd : NewMember} {m : Member} (hnew : Member.new cmd o.id o.now = .ok m)
      (hid : m.id ∉ L.memberIds) :
    Effect L o (.createMember cmd) (.member m) { L with members := L.members ++ [m] }
  | memberChanged {c : Command} {change : Member → Except DomainError Member} {old new : Member}
      (hc : c.memberChange o = some (old.id, change)) (hold : old ∈ L.members)
      (hnew : change old = .ok new) :
    Effect L o c (.member new) { L with members := Keyed.replace (·.id) new L.members }
  | memberDeleted {id : Uuid} (hid : id ∈ L.memberIds) :
    Effect L o (.deleteMember id) .done { L with
      members := L.members.filter (·.id != id)
      accounts := L.accounts.map (·.release id) }
  | accountCreated {cmd : NewAccount} {a : Account} (hnew : Account.new cmd o.id o.now = .ok a)
      (hid : a.id ∉ L.accountIds) :
    Effect L o (.createAccount cmd) (.account a) { L with accounts := L.accounts ++ [a] }
  | accountChanged {c : Command} {change : Account → Except DomainError Account} {old new : Account}
      (hc : c.accountChange o = some (old.id, change)) (hold : old ∈ L.accounts)
      (hnew : change old = .ok new) :
    Effect L o c (.account (new.saved o.savedAt)) (L.withAccount (new.saved o.savedAt))
  | accountDeleted {id : Uuid} (hunused : id ∉ L.transactions.map (·.account)) :
    Effect L o (.deleteAccount id) .done { L with accounts := L.accounts.filter (·.id != id) }
  | categoryCreated {cmd : NewCategory} {c : Category} (hnew : Category.new cmd o.id o.now = .ok c)
      (hid : c.id ∉ L.categoryIds) :
    Effect L o (.createCategory cmd) (.category c) { L with categories := L.categories ++ [c] }
  | categoryChanged {c : Command} {change : Category → Except DomainError Category}
      {old new : Category} (hc : c.categoryChange o = some (old.id, change))
      (hold : old ∈ L.categories) (hnew : change old = .ok new) :
    Effect L o c (.category new) { L with categories := Keyed.replace (·.id) new L.categories }
  | categoryDeleted {id : Uuid} :
    Effect L o (.deleteCategory id) .done
      { L with categories := L.categories.filter (·.id != id) }
  | tagCreated {cmd : NewTag} {t : Tag} (hnew : Tag.new cmd o.id o.now = .ok t)
      (hid : t.id ∉ L.tagIds) (hkey : (t.name.key, t.kind) ∉ L.tagKeys) :
    Effect L o (.createTag cmd) (.tag t) { L with tags := L.tags ++ [t] }
  | tagChanged {changes : Changes} {old new : Tag} (hold : old ∈ L.tags)
      (hnew : old.apply changes o.now = .ok new) :
    Effect L o (.updateTag old.id changes) (.tag new)
      { L with tags := Keyed.replace (·.id) new L.tags }
  | tagDeleted {id : Uuid} :
    Effect L o (.deleteTag id) .done { L with tags := L.tags.filter (·.id != id) }
  | paid {p : Payment} {r : Reply} {b : Booking} (hplan : p.plan o L = .ok (r, b)) :
    Effect L o p.command r (L.book b)

variable {L L' : Ledger} {o : Occasion}

theorem accountChange_ok {c : Command} {id : Uuid} {change : Account → Except DomainError Account}
    (hc : c.accountChange o = some (id, change)) {a b : Account} (h : change a = .ok b) :
    { a with name := b.name, active := b.active, updatedAt := o.now } = b := by
  cases c <;> cases hc
  case activateAccount =>
    obtain ⟨-, rfl⟩ := activate_ok.1 h
    rfl
  case deactivateAccount =>
    obtain ⟨-, rfl⟩ := deactivate_ok.1 h
    rfl
  case renameAccount =>
    obtain ⟨_, -, rfl⟩ := rename_ok.1 h
    rfl

section Outcomes

theorem effect_createMember {cmd : NewMember} {m : Member}
    (h : createMember cmd o L = .ok (m, L')) : Effect L o (.createMember cmd) (.member m) L' := by
  simp only [createMember, enterMember, Step.bind_ok, Step.ask_ok, Step.edit_ok, Step.pure_ok,
    refused_or_ok, Query.ofDomain_ok, Except.ok.injEq] at h
  obtain ⟨m, _, ⟨hnew, rfl⟩, _, _, ⟨hid, rfl⟩, rfl, rfl⟩ := h
  exact .memberCreated hnew hid

theorem effect_changeMember {c : Command} {id : Uuid} {change : Member → Except DomainError Member}
    (hc : c.memberChange o = some (id, change)) {m : Member}
    (h : changeMember id change L = .ok (m, L')) : Effect L o c (.member m) L' := by
  simp only [changeMember, Step.bind_ok, Step.ask_ok, Step.edit_ok, Step.pure_ok,
    Query.ofDomain_ok] at h
  obtain ⟨old, _, ⟨hfind, rfl⟩, new, _, ⟨hnew, rfl⟩, _, _, hreplace, rfl, rfl⟩ := h
  obtain ⟨hold, rfl⟩ := Query.find_ok (Query.notFoundAs_ok.1 hfind)
  rw [replaceMember] at hreplace
  split_ifs at hreplace
  cases hreplace
  exact .memberChanged hc hold hnew

theorem effect_createAccount {cmd : NewAccount} {a : Account}
    (h : createAccount cmd o L = .ok (a, L')) :
    Effect L o (.createAccount cmd) (.account a) L' := by
  simp only [createAccount, enterAccount_ok, Step.bind_ok, Step.ask_ok, Step.edit_ok, Step.pure_ok,
    Query.ofDomain_ok] at h
  obtain ⟨a, _, ⟨hnew, rfl⟩, _, _, ⟨-, rfl⟩, _, _, ⟨-, -, hid, rfl⟩, rfl, rfl⟩ := h
  exact .accountCreated hnew hid

theorem effect_changeAccount (hs : L.Sound) {c : Command} {id : Uuid}
    {change : Account → Except DomainError Account} (hc : c.accountChange o = some (id, change))
    {b : Account} (h : changeAccount id change o L = .ok (b, L')) :
    Effect L o c (.account b) L' := by
  simp only [changeAccount, Step.bind_ok, Step.ask_ok, Query.ofDomain_ok] at h
  obtain ⟨a, _, ⟨hfind, rfl⟩, new, _, ⟨hnew, rfl⟩, hsave⟩ := h
  obtain ⟨ha, rfl⟩ := findAccount_ok hfind
  have hkept := accountChange_ok hc hnew
  have hid : a.id = new.id := by rw [← hkept]
  have hover : new.over a o.savedAt = new.saved o.savedAt := by
    rw [← hkept]
    rfl
  obtain ⟨-, rfl, -⟩ := saveAccount_ok.1 hsave
  rw [← saveAccount_sound hs ha hid hsave, hover]
  exact .accountChanged hc ha hnew

theorem effect_createCategory {cmd : NewCategory} {c : Category}
    (h : createCategory cmd o L = .ok (c, L')) :
    Effect L o (.createCategory cmd) (.category c) L' := by
  simp only [createCategory, enterCategory, Step.bind_ok, Step.ask_ok, Step.edit_ok, Step.pure_ok,
    refused_or_ok, Query.ofDomain_ok, Except.ok.injEq] at h
  obtain ⟨c, _, ⟨hnew, rfl⟩, _, _, ⟨hid, rfl⟩, rfl, rfl⟩ := h
  exact .categoryCreated hnew hid

theorem effect_changeCategory {c : Command} {id : Uuid}
    {change : Category → Except DomainError Category} (hc : c.categoryChange o = some (id, change))
    {k : Category} (h : changeCategory id change L = .ok (k, L')) :
    Effect L o c (.category k) L' := by
  simp only [changeCategory, Step.bind_ok, Step.ask_ok, Step.edit_ok, Step.pure_ok,
    Query.ofDomain_ok] at h
  obtain ⟨old, _, ⟨hfind, rfl⟩, new, _, ⟨hnew, rfl⟩, _, _, hreplace, rfl, rfl⟩ := h
  obtain ⟨hold, rfl⟩ := Query.find_ok (Query.notFoundAs_ok.1 hfind)
  rw [replaceCategory] at hreplace
  split_ifs at hreplace
  cases hreplace
  exact .categoryChanged hc hold hnew

theorem effect_deleteCategory {id : Uuid} (h : deleteCategory id L = .ok ((), L')) :
    Effect L o (.deleteCategory id) .done L' := by
  simp only [deleteCategory, strikeCategory, Step.notFoundAs_ok, Step.edit_ok, refused_or_ok,
    Except.ok.injEq] at h
  obtain ⟨-, -, -, rfl⟩ := h
  exact .categoryDeleted

theorem effect_createTag {cmd : NewTag} {t : Tag} (h : createTag cmd o L = .ok (t, L')) :
    Effect L o (.createTag cmd) (.tag t) L' := by
  simp only [createTag, duplicateAsExisting, enterTag, Step.bind_ok, Step.ask_ok,
    Step.mapError_ok, Step.edit_ok, Step.pure_ok, refused_or_ok, not_or, Query.ofDomain_ok,
    Except.ok.injEq] at h
  obtain ⟨t, _, ⟨hnew, rfl⟩, _, _, ⟨⟨hid, hkey⟩, rfl⟩, rfl, rfl⟩ := h
  exact .tagCreated hnew hid hkey

theorem effect_updateTag {id : Uuid} {changes : Changes} {t : Tag}
    (h : updateTag id changes o L = .ok (t, L')) :
    Effect L o (.updateTag id changes) (.tag t) L' := by
  simp only [updateTag, duplicateAsExisting, replaceTag, Step.bind_ok, Step.ask_ok,
    Step.mapError_ok, Step.edit_ok, Step.pure_ok, refused_or_ok, Except.ok.injEq,
    Query.ofDomain_ok] at h
  obtain ⟨old, _, ⟨hfind, rfl⟩, new, _, ⟨hnew, rfl⟩, _, _, ⟨-, -, rfl⟩, rfl, rfl⟩ := h
  obtain ⟨hold, rfl⟩ := Query.find_ok (Query.notFoundAs_ok.1 hfind)
  exact .tagChanged hold hnew

theorem effect_deleteTag {id : Uuid} (h : deleteTag id L = .ok ((), L')) :
    Effect L o (.deleteTag id) .done L' := by
  simp only [deleteTag, strikeTag, Step.notFoundAs_ok, Step.edit_ok, refused_or_ok,
    Except.ok.injEq] at h
  obtain ⟨-, -, rfl⟩ := h
  exact .tagDeleted

theorem effect_pay (hs : L.Sound) {p : Payment} {r : Reply}
    (h : perform p.command o L = .ok (r, L')) : Effect L o p.command r L' := by
  rw [Payment.perform_plan hs] at h
  cases hplan : p.plan o L with
  | ok rb =>
    rw [hplan] at h
    cases h
    exact .paid hplan
  | error e =>
    rw [hplan] at h
    cases h

end Outcomes

theorem perform_effect (hs : L.Sound) {c : Command} {r : Reply}
    (h : perform c o L = .ok (r, L')) : Effect L o c r L' := by
  cases c with
  | createMember cmd =>
    obtain ⟨m, hm, rfl⟩ := Step.map_ok.1 h
    exact effect_createMember hm
  | activateMember id | deactivateMember id =>
    obtain ⟨m, hm, rfl⟩ := Step.map_ok.1 h
    exact effect_changeMember rfl hm
  | deleteMember id =>
    obtain ⟨_, hm, rfl⟩ := Step.map_ok.1 h
    obtain ⟨hid, rfl⟩ := deleteMember_ok hm
    exact .memberDeleted hid
  | createAccount cmd =>
    obtain ⟨a, ha, rfl⟩ := Step.map_ok.1 h
    exact effect_createAccount ha
  | activateAccount id | deactivateAccount id | renameAccount id name =>
    obtain ⟨a, ha, rfl⟩ := Step.map_ok.1 h
    exact effect_changeAccount hs rfl ha
  | deleteAccount id =>
    obtain ⟨_, ha, rfl⟩ := Step.map_ok.1 h
    obtain ⟨hunused, rfl⟩ := deleteAccount_ok ha
    exact .accountDeleted hunused
  | createCategory cmd =>
    obtain ⟨c, hc, rfl⟩ := Step.map_ok.1 h
    exact effect_createCategory hc
  | updateCategory id changes | activateCategory id | deactivateCategory id =>
    obtain ⟨c, hc, rfl⟩ := Step.map_ok.1 h
    exact effect_changeCategory rfl hc
  | deleteCategory id =>
    obtain ⟨_, hc, rfl⟩ := Step.map_ok.1 h
    exact effect_deleteCategory hc
  | createTag cmd =>
    obtain ⟨t, ht, rfl⟩ := Step.map_ok.1 h
    exact effect_createTag ht
  | updateTag id changes =>
    obtain ⟨t, ht, rfl⟩ := Step.map_ok.1 h
    exact effect_updateTag ht
  | deleteTag id =>
    obtain ⟨_, ht, rfl⟩ := Step.map_ok.1 h
    exact effect_deleteTag ht
  | createExpenditure cmd => exact effect_pay hs (p := .spend cmd) h
  | createIngress cmd => exact effect_pay hs (p := .receive cmd) h
  -- the rest only looks things up
  | _ =>
    obtain ⟨-, rfl⟩ := Step.ask_ok.1 h
    exact .looked rfl

end Ledger

end Bookkeeping

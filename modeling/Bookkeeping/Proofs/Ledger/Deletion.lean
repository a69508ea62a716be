import Bookkeeping.Proofs.Spending.Checks

namespace Bookkeeping

inductive Deletion
  | account (id : Uuid)
  | category (id : Uuid)
  | tag (id : Uuid)
  | member (id : Uuid)
  deriving DecidableEq, Repr

namespace Deletion

def work : Deletion → Work Unit
  | account id => UseCase.deleteAccount id
  | category id => UseCase.deleteCategory id
  | tag id => UseCase.deleteTag id
  | member id => UseCase.deleteMember id

def IsThere (b : Books) : Deletion → Prop
  | account id => id.text ∈ b.accounts.map (·.id)
  | category id => id.text ∈ b.categories.map (·.id)
  | tag id => id.text ∈ b.tags.map (·.id)
  | member id => id.text ∈ b.members.map (·.id)

def notFound : Deletion → DomainError
  | account _ => .accountNotFound
  | category _ => .categoryNotFound
  | tag _ => .tagNotFound
  | member _ => .householdMemberNotFound

/-- What keeps an entry in the books, and the error that names it. An inactive account does not keep
its owner. -/
inductive Used (b : Books) : Deletion → DomainError → Prop
  | transaction {id : Uuid} {t : TransactionRow} (ht : t ∈ b.transactions)
      (hid : t.account = id.text) : Used b (account id) .accountHasTransactions
  | expenditure {id : Uuid} {e : ExpenditureRow} (he : e ∈ b.expenditures)
      (hid : e.category = id.text) : Used b (category id) .categoryInUseByExpenditure
  | ingress {id : Uuid} {i : IngressRow} (hi : i ∈ b.ingresses)
      (hid : i.category = id.text) : Used b (category id) .categoryInUseByIngress
  | expenditureTag {id : Uuid} {l : LinkRow} (hl : l ∈ b.expenditureTags)
      (hid : l.tag = id.text) : Used b (tag id) .tagInUse
  | ingressTag {id : Uuid} {l : LinkRow} (hl : l ∈ b.ingressTags)
      (hid : l.tag = id.text) : Used b (tag id) .tagInUse
  | activeAccount {id : Uuid} {a : AccountRow} (ha : a ∈ b.accounts)
      (howner : a.owner = some id.text) (hactive : a.active = true) :
      Used b (member id) .memberHasActiveAccounts

/-- The books without the entry. A member's accounts stay, without an owner. -/
def gone (b : Books) : Deletion → Books
  | account id => { b with accounts := b.accounts.filter (·.id != id.text) }
  | category id => { b with categories := b.categories.filter (·.id != id.text) }
  | tag id => { b with tags := b.tags.filter (·.id != id.text) }
  | member id => { b with
      members := b.members.filter (·.id != id.text)
      accounts := b.accounts.map fun a =>
        if a.owner = some id.text then { a with owner := none } else a }

structure Exact (d : Deletion) (s : Store) : Prop where
  succeeds_iff : (d.work s).1 = .ok () ↔ d.IsThere s.books ∧ ∀ e, ¬Used s.books d e
  success : (d.work s).1 = .ok () → (d.work s).2 = { s with books := d.gone s.books }
  missing : ¬d.IsThere s.books → d.work s = (.error (.domain d.notFound), s)
  used : d.IsThere s.books → (∃ e, Used s.books d e) →
    ∃ e, Used s.books d e ∧ d.work s = (.error (.domain e), s)

end Deletion

namespace Ledger

variable {L : Ledger} {id : Uuid}

theorem Query.find_notFoundAs_of_mem {xs : Ledger → List α} {key : α → Uuid}
    (hn : ((xs L).map key).Nodup) (h : id ∈ (xs L).map key) (e : DomainError) :
    ∃ a, (Query.find xs key id).notFoundAs e L = .ok a := by
  obtain ⟨a, ha, rfl⟩ := List.mem_map.1 h
  exact ⟨a, Query.notFoundAs_ok.2 (Query.find_of_mem hn ha)⟩

theorem Query.find_notFoundAs_of_not_mem {xs : Ledger → List α} {key : α → Uuid}
    (h : id ∉ (xs L).map key) (e : DomainError) :
    (Query.find xs key id).notFoundAs e L = .error (.domain e) := by
  rw [Query.notFoundAs, Query.mapError, Query.find_of_not_mem h]
  rfl

namespace Step

theorem discard_ask_bind (q : Query α) (m : Step β) (L : Ledger) :
    (discard (ask q) >>= fun _ => m) L = match q L with
      | .ok _ => m L
      | .error e => .error e := by
  show ((fun _ => ()) <$> ask q >>= fun _ => m) L = _
  rw [map_eq_pure_bind, bind_assoc, ask_bind]
  cases q L <;> rfl

theorem refuse_if_apply {p : Bool} {e : DomainError} {m : Step α} {f : β → Step α} :
    (if p then refuse e >>= f else m) L = if p then .error (.domain e) else m L := by
  cases p <;> rfl

end Step

theorem deleteAccount_apply (hs : L.Sound) (id : Uuid) : deleteAccount id L =
    if id ∉ L.accountIds then .error (.domain .accountNotFound)
    else if id ∈ L.transactions.map (·.account) then .error (.domain .accountHasTransactions)
    else .ok ((), { L with accounts := L.accounts.filter (·.id != id) }) := by
  rw [deleteAccount, Step.discard_ask_bind, findAccount]
  by_cases hin : id ∈ L.accountIds
  · obtain ⟨a, ha⟩ := Query.find_notFoundAs_of_mem hs.nodup_accounts hin .accountNotFound
    have hany : L.transactions.any (·.account == id) =
        decide (id ∈ L.transactions.map (·.account)) := by
      rw [Bool.eq_iff_iff]
      simp
    rw [ha, if_neg (not_not_intro hin)]
    simp only [Step.ask_bind, hasTransactions, Query.ask, Step.refuse_if_apply, hany]
    by_cases ht : id ∈ L.transactions.map (·.account)
    · simp only [ht, decide_true, if_true]
    · simp only [ht, decide_false, Bool.false_eq_true, if_false]
      have hstrike : strikeAccount id L =
          .ok { L with accounts := L.accounts.filter (·.id != id) } := by
        rw [strikeAccount, if_neg (not_not_intro hin), if_neg ht]
      exact Step.notFoundAs_ok.2 (Step.edit_ok.2 hstrike)
  · rw [Query.find_notFoundAs_of_not_mem hin, if_pos hin]

theorem deleteMember_apply (hs : L.Sound) (id : Uuid) : deleteMember id L =
    if id ∉ L.memberIds then .error (.domain .householdMemberNotFound)
    else if ∃ a ∈ L.accounts, a.owner = some id ∧ a.active = true then
      .error (.domain .memberHasActiveAccounts)
    else .ok ((), { L with
      members := L.members.filter (·.id != id)
      accounts := L.accounts.map (·.release id) }) := by
  rw [deleteMember, Step.discard_ask_bind, findMember]
  by_cases hin : id ∈ L.memberIds
  · obtain ⟨a, ha⟩ := Query.find_notFoundAs_of_mem hs.nodup_members hin .householdMemberNotFound
    have hany : ((L.accounts.filter (·.owner == some id)).mergeSort
        (Register.byText (·.name))).any (·.active) =
          decide (∃ a ∈ L.accounts, a.owner = some id ∧ a.active = true) := by
      rw [(List.mergeSort_perm _ _).any_eq, Bool.eq_iff_iff]
      simp
    rw [ha, if_neg (not_not_intro hin)]
    simp only [Step.ask_bind, accountsOf, Query.ask, Step.refuse_if_apply, hany]
    by_cases ht : ∃ a ∈ L.accounts, a.owner = some id ∧ a.active = true
    · simp only [ht, decide_true, if_true]
    · simp only [ht, decide_false, Bool.false_eq_true, if_false]
      have hstrike : strikeMember id L = .ok { L with
          members := L.members.filter (·.id != id)
          accounts := L.accounts.map (·.release id) } := by
        rw [strikeMember, if_pos hin]
      exact Step.notFoundAs_ok.2 (Step.edit_ok.2 hstrike)
  · rw [Query.find_notFoundAs_of_not_mem hin, if_pos hin]

theorem Step.edit_notFoundAs_apply (x : Edit) (e : DomainError) (L : Ledger) :
    (Step.edit x).notFoundAs e L = match x L with
      | .ok L' => .ok ((), L')
      | .error f => .error (.domain (if f = .recordNotFound then e else f)) := by
  rw [Step.notFoundAs, Step.mapError, Step.edit]
  cases x L <;> rfl

theorem deleteCategory_apply (id : Uuid) (L : Ledger) : deleteCategory id L =
    if id ∉ L.categoryIds then .error (.domain .categoryNotFound)
    else if id ∈ L.ingresses.map (·.category) then .error (.domain .categoryInUseByIngress)
    else if id ∈ L.expenditures.map (·.category) then .error (.domain .categoryInUseByExpenditure)
    else .ok ((), { L with categories := L.categories.filter (·.id != id) }) := by
  rw [deleteCategory, Step.edit_notFoundAs_apply, strikeCategory]
  split_ifs <;> rfl

theorem deleteTag_apply (id : Uuid) (L : Ledger) : deleteTag id L =
    if id ∉ L.tagIds then .error (.domain .tagNotFound)
    else if id ∈ L.ingressTags.map (·.tag) ∨ id ∈ L.expenditureTags.map (·.tag) then
      .error (.domain .tagInUse)
    else .ok ((), { L with tags := L.tags.filter (·.id != id) }) := by
  rw [deleteTag, Step.edit_notFoundAs_apply, strikeTag]
  split_ifs <;> rfl

end Ledger

namespace Deletion

open Ledger (Step)

inductive Outcome (b : Books) (d : Deletion) : Except DomainError Books → Prop
  | missing (h : ¬d.IsThere b) : Outcome b d (.error d.notFound)
  | used {e : DomainError} (h : d.IsThere b) (hused : d.Used b e) : Outcome b d (.error e)
  | gone (h : d.IsThere b) (hfree : ∀ e, ¬d.Used b e) : Outcome b d (.ok (d.gone b))

def step : Deletion → Step Unit
  | account id => Ledger.deleteAccount id
  | category id => Ledger.deleteCategory id
  | tag id => Ledger.deleteTag id
  | member id => Ledger.deleteMember id

theorem performs : (d : Deletion) → Performs d.work d.step
  | account id => performs_deleteAccount id
  | category id => performs_deleteCategory id
  | tag id => performs_deleteTag id
  | member id => performs_deleteMember id

def result (m : Step Unit) (L : Ledger) : Except Fault Books := (m L).map (·.2.books)

def ending (s : Store) : Except DomainError Books → Except Fault Unit × Store
  | .ok b => (.ok (), { s with books := b })
  | .error e => (.error (.domain e), s)

variable {L : Ledger}

section Rows

variable {id : Uuid} {e : DomainError}

theorem used_account_iff : (account id).Used L.books e ↔
    id ∈ L.transactions.map (·.account) ∧ e = .accountHasTransactions := by
  constructor
  · rintro ⟨hrow, hid⟩
    obtain ⟨t, ht, rfl⟩ := List.mem_map.1 hrow
    exact ⟨List.mem_map.2 ⟨t, ht, Uuid.text_inj.1 hid⟩, rfl⟩
  · rintro ⟨hid, rfl⟩
    obtain ⟨t, ht, rfl⟩ := List.mem_map.1 hid
    exact .transaction (List.mem_map_of_mem ht) rfl

theorem used_category_iff : (category id).Used L.books e ↔
    id ∈ L.ingresses.map (·.category) ∧ e = .categoryInUseByIngress ∨
      id ∈ L.expenditures.map (·.category) ∧ e = .categoryInUseByExpenditure := by
  constructor
  · rintro (_ | ⟨hrow, hid⟩ | ⟨hrow, hid⟩)
    · obtain ⟨x, hx, rfl⟩ := List.mem_map.1 hrow
      exact .inr ⟨List.mem_map.2 ⟨x, hx, Uuid.text_inj.1 hid⟩, rfl⟩
    · obtain ⟨i, hi, rfl⟩ := List.mem_map.1 hrow
      exact .inl ⟨List.mem_map.2 ⟨i, hi, Uuid.text_inj.1 hid⟩, rfl⟩
  · rintro (⟨hid, rfl⟩ | ⟨hid, rfl⟩)
    · obtain ⟨i, hi, rfl⟩ := List.mem_map.1 hid
      exact .ingress (List.mem_map_of_mem hi) rfl
    · obtain ⟨x, hx, rfl⟩ := List.mem_map.1 hid
      exact .expenditure (List.mem_map_of_mem hx) rfl

theorem used_tag_iff : (tag id).Used L.books e ↔
    (id ∈ L.ingressTags.map (·.tag) ∨ id ∈ L.expenditureTags.map (·.tag)) ∧ e = .tagInUse := by
  constructor
  · rintro (_ | _ | _ | ⟨hrow, hid⟩ | ⟨hrow, hid⟩)
    all_goals obtain ⟨l, hl, rfl⟩ := List.mem_map.1 hrow
    · exact ⟨.inr (List.mem_map.2 ⟨l, hl, Uuid.text_inj.1 hid⟩), rfl⟩
    · exact ⟨.inl (List.mem_map.2 ⟨l, hl, Uuid.text_inj.1 hid⟩), rfl⟩
  · rintro ⟨hid | hid, rfl⟩
    all_goals obtain ⟨l, hl, rfl⟩ := List.mem_map.1 hid
    · exact .ingressTag (List.mem_map_of_mem hl) rfl
    · exact .expenditureTag (List.mem_map_of_mem hl) rfl

theorem used_member_iff : (member id).Used L.books e ↔
    (∃ a ∈ L.accounts, a.owner = some id ∧ a.active = true) ∧ e = .memberHasActiveAccounts := by
  constructor
  · rintro (_ | _ | _ | _ | _ | ⟨hrow, howner, hactive⟩)
    obtain ⟨a, ha, rfl⟩ := List.mem_map.1 hrow
    exact ⟨⟨a, ha, (Ledger.owner_row a).1 howner, hactive⟩, rfl⟩
  · rintro ⟨⟨a, ha, howner, hactive⟩, rfl⟩
    exact .activeAccount (List.mem_map_of_mem ha) ((Ledger.owner_row a).2 howner) hactive

variable (id)

theorem rows_without (xs : List α) (f : α → ρ) (rowId : ρ → String) {key : α → Uuid}
    (hrow : ∀ x, rowId (f x) = (key x).text) :
    (xs.map f).filter (rowId · != id.text) = (xs.filter (key · != id)).map f :=
  filter_rows (fun x => by rw [hrow, bne, Uuid.text_beq_text, bne]) xs

theorem gone_account : (account id).gone L.books =
    { L with accounts := L.accounts.filter (·.id != id) : Ledger }.books :=
  congrArg (fun rows => { L.books with accounts := rows })
    (rows_without id L.accounts Account.row AccountRow.id fun _ => rfl)

theorem gone_category : (category id).gone L.books =
    { L with categories := L.categories.filter (·.id != id) : Ledger }.books :=
  congrArg (fun rows => { L.books with categories := rows })
    (rows_without id L.categories Category.row CategoryRow.id fun _ => rfl)

theorem gone_tag : (tag id).gone L.books =
    { L with tags := L.tags.filter (·.id != id) : Ledger }.books :=
  congrArg (fun rows => { L.books with tags := rows })
    (rows_without id L.tags Tag.row TagRow.id fun _ => rfl)

theorem gone_member : (member id).gone L.books =
    { L with
      members := L.members.filter (·.id != id)
      accounts := L.accounts.map (·.release id) : Ledger }.books :=
  congrArg₂ (fun members accounts => { L.books with members, accounts })
    (rows_without id L.members Member.row MemberRow.id fun _ => rfl)
    (Ledger.release_rows id L.accounts).symm

end Rows

theorem outcome (hs : L.Sound) (d : Deletion) :
    ∃ r, Outcome L.books d r ∧ result d.step L = r.mapError .domain := by
  cases d with
  | account id =>
    have hthere : id.text ∈ (L.accounts.map Account.row).map (·.id) ↔ _ :=
      Ledger.mem_texts_iff Account.row (·.id) fun _ => rfl
    rw [result, step, Ledger.deleteAccount_apply hs]
    split_ifs with hin ht
    · exact ⟨_, .used (hthere.2 hin) (used_account_iff.2 ⟨ht, rfl⟩), rfl⟩
    · have hfree (e : DomainError) (h : (account id).Used L.books e) : False :=
        ht (used_account_iff.1 h).1
      exact ⟨_, .gone (hthere.2 hin) hfree, congrArg _ (gone_account id).symm⟩
    · exact ⟨_, .missing (hthere.not.2 hin), rfl⟩
  | category id =>
    have hthere : id.text ∈ (L.categories.map Category.row).map (·.id) ↔ _ :=
      Ledger.mem_texts_iff Category.row (·.id) fun _ => rfl
    rw [result, step, Ledger.deleteCategory_apply]
    split_ifs with hin hi he
    · exact ⟨_, .used (hthere.2 hin) (used_category_iff.2 (.inl ⟨hi, rfl⟩)), rfl⟩
    · exact ⟨_, .used (hthere.2 hin) (used_category_iff.2 (.inr ⟨he, rfl⟩)), rfl⟩
    · have hfree (e : DomainError) (h : (category id).Used L.books e) : False :=
        (used_category_iff.1 h).elim (hi ·.1) (he ·.1)
      exact ⟨_, .gone (hthere.2 hin) hfree, congrArg _ (gone_category id).symm⟩
    · exact ⟨_, .missing (hthere.not.2 hin), rfl⟩
  | tag id =>
    have hthere : id.text ∈ (L.tags.map Tag.row).map (·.id) ↔ _ :=
      Ledger.mem_texts_iff Tag.row (·.id) fun _ => rfl
    rw [result, step, Ledger.deleteTag_apply]
    split_ifs with hin hl
    · exact ⟨_, .used (hthere.2 hin) (used_tag_iff.2 ⟨hl, rfl⟩), rfl⟩
    · have hfree (e : DomainError) (h : (tag id).Used L.books e) : False :=
        hl (used_tag_iff.1 h).1
      exact ⟨_, .gone (hthere.2 hin) hfree, congrArg _ (gone_tag id).symm⟩
    · exact ⟨_, .missing (hthere.not.2 hin), rfl⟩
  | member id =>
    have hthere : id.text ∈ (L.members.map Member.row).map (·.id) ↔ _ :=
      Ledger.mem_texts_iff Member.row (·.id) fun _ => rfl
    rw [result, step, Ledger.deleteMember_apply hs]
    split_ifs with hin ha
    · exact ⟨_, .used (hthere.2 hin) (used_member_iff.2 ⟨ha, rfl⟩), rfl⟩
    · have hfree (e : DomainError) (h : (member id).Used L.books e) : False :=
        ha (used_member_iff.1 h).1
      exact ⟨_, .gone (hthere.2 hin) hfree, congrArg _ (gone_member id).symm⟩
    · exact ⟨_, .missing (hthere.not.2 hin), rfl⟩

theorem work_eq_ending {s : Store} (h : s.Holds L) {d : Deletion} {r : Except DomainError Books}
    (hr : result d.step L = r.mapError .domain) : d.work s = ending s r := by
  have hp := d.performs s L h.ready h.transaction h.sound h.books
  rw [result] at hr
  cases hm : d.step L with
  | ok p =>
    rw [hm] at hr
    cases r with
    | ok b =>
      cases hr
      exact (hp.of_ok hm).2
    | error e => cases hr
  | error f =>
    rw [hm] at hr
    cases r with
    | ok b => cases hr
    | error e =>
      cases hr
      exact hp.of_error hm

theorem Outcome.exact {s : Store} {d : Deletion} {r : Except DomainError Books}
    (h : Outcome s.books d r) (hw : d.work s = ending s r) : d.Exact s := by
  cases h with
  | missing hin =>
    exact {
      succeeds_iff := by simp [hw, ending, hin]
      success := by simp [hw, ending]
      missing := fun _ => hw
      used := fun h => absurd h hin }
  | @used e hin hused =>
    exact {
      succeeds_iff := by
        simp only [hw, ending, hin, true_and]
        exact iff_of_false nofun fun hfree => hfree e hused
      success := by simp [hw, ending]
      missing := fun h => absurd hin h
      used := fun _ _ => ⟨e, hused, hw⟩ }
  | gone hin hfree =>
    exact {
      succeeds_iff := by
        simp only [hw, ending, true_iff]
        exact ⟨hin, hfree⟩
      success := by simp [hw, ending]
      missing := fun h => absurd hin h
      used := fun _ ⟨e, he⟩ => absurd he (hfree e) }

/-- After any commands, each deletion is exact. -/
theorem deletes_exactly (steps : List (Command × Occasion)) (d : Deletion) :
    d.Exact (Store.fresh.after steps) := by
  have h := Store.holds_fresh.after steps
  obtain ⟨r, hr, hresult⟩ := outcome h.sound d
  rw [← h.books] at hr
  exact hr.exact (work_eq_ending h hresult)

end Deletion

end Bookkeeping

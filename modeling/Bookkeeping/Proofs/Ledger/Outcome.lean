import Bookkeeping.Proofs.Ledger.Movements

namespace Bookkeeping

def Account.over (new old : Account) (savedAt : Instant) : Account where
  __ := new
  version := new.version + 1
  createdAt := old.createdAt
  updatedAt := savedAt

namespace Ledger

variable {L L' : Ledger}

namespace Query

@[simp] theorem pure_ok {a b : α} : (pure a : Query α) L = .ok b ↔ a = b :=
  ⟨fun h => Except.ok.inj h, congrArg Except.ok⟩

@[simp] theorem bind_ok {q : Query α} {f : α → Query β} {b : β} :
    (q >>= f) L = .ok b ↔ ∃ a, q L = .ok a ∧ f a L = .ok b := by
  show (q L).bind (fun a => f a L) = .ok b ↔ _
  cases q L <;> simp [Except.bind]

@[simp] theorem map_ok {q : Query α} {f : α → β} {b : β} :
    (f <$> q) L = .ok b ↔ ∃ a, q L = .ok a ∧ f a = b := by
  rw [map_eq_pure_bind, bind_ok]
  simp

@[simp] theorem ask_ok {f : Ledger → α} {a : α} : ask f L = .ok a ↔ f L = a := by simp [ask]

@[simp] theorem not_refuse_ok {e : DomainError} {a : α} : ¬refuse e L = .ok a := by simp [refuse]

@[simp] theorem ofDomain_ok {x : Except DomainError α} {a : α} :
    ofDomain x L = .ok a ↔ x = .ok a := by
  cases x <;> simp [ofDomain]

@[simp] theorem ofOverflow_ok {x : Except Overflow α} {a : α} :
    ofOverflow x L = .ok a ↔ x = .ok a := by
  cases x <;> simp [ofOverflow]

@[simp] theorem notFoundAs_ok {q : Query α} {e : DomainError} {a : α} :
    q.notFoundAs e L = .ok a ↔ q L = .ok a := by
  rw [notFoundAs, mapError]
  rcases q L with (_ | _) | _ <;> simp

theorem find_ok [BEq κ] [LawfulBEq κ] {xs : Ledger → List α} {key : α → κ} {k : κ} {a : α}
    (h : find xs key k L = .ok a) : a ∈ xs L ∧ key a = k := by
  rw [find] at h
  split at h
  · rename_i hf
    cases h
    exact ⟨List.mem_of_find?_eq_some hf, by simpa using List.find?_some hf⟩
  · cases h

end Query

namespace Step

variable {a : α} {b : β}

@[simp] theorem pure_ok {a' : α} :
    (pure a : Step α) L = .ok (a', L') ↔ a = a' ∧ L = L' := by
  show Except.ok (a, L) = .ok (a', L') ↔ _
  simp

@[simp] theorem bind_ok {m : Step α} {f : α → Step β} :
    (m >>= f) L = .ok (b, L') ↔ ∃ a L₁, m L = .ok (a, L₁) ∧ f a L₁ = .ok (b, L') := by
  rw [bind_apply]
  cases m L with
  | ok r =>
    obtain ⟨a, L₁⟩ := r
    simp
  | error e => simp

@[simp] theorem map_ok {m : Step α} {f : α → β} :
    (f <$> m) L = .ok (b, L') ↔ ∃ a, m L = .ok (a, L') ∧ f a = b := by
  rw [map_eq_pure_bind, bind_ok]
  simp

@[simp] theorem discard_ok {m : Step α} {u : Unit} :
    discard m L = .ok (u, L') ↔ ∃ a, m L = .ok (a, L') := by
  show ((fun _ => ()) <$> m) L = .ok (u, L') ↔ _
  simp

@[simp] theorem ask_ok {q : Query α} : ask q L = .ok (a, L') ↔ q L = .ok a ∧ L = L' := by
  rw [ask]
  cases q L <;> simp [Except.map]

@[simp] theorem edit_ok {x : Edit} {u : Unit} : edit x L = .ok (u, L') ↔ x L = .ok L' := by
  rw [edit]
  cases x L <;> simp

@[simp] theorem not_refuse_ok {e : DomainError} : ¬(refuse e : Step α) L = .ok (a, L') := by
  simp [refuse]

@[simp] theorem mapError_ok {m : Step α} {f : LedgerError → LedgerError} :
    m.mapError f L = .ok (a, L') ↔ m L = .ok (a, L') := by
  rw [mapError]
  rcases m L with (_ | _) | _ <;> simp

@[simp] theorem notFoundAs_ok {m : Step α} {e : DomainError} :
    m.notFoundAs e L = .ok (a, L') ↔ m L = .ok (a, L') := mapError_ok

end Step

theorem refused_or_ok {p : Prop} [Decidable p] {e : ε} {x : Except ε α} {a : α} :
    (if p then .error e else x) = .ok a ↔ ¬p ∧ x = .ok a := by
  by_cases hp : p <;> simp [hp]

theorem enterAccount_ok {a : Account} :
    enterAccount a L = .ok L' ↔ a.currency.IsKnown ∧ (∀ m ∈ a.owner, m ∈ L.memberIds) ∧
      a.id ∉ L.accountIds ∧ { L with accounts := L.accounts ++ [a] } = L' := by
  simp only [enterAccount, refused_or_ok, not_not, Except.ok.injEq]

theorem enterTransaction_ok {t : Transaction} :
    enterTransaction t L = .ok L' ↔ t.currency.IsKnown ∧ t.account ∈ L.accountIds ∧
      t.id ∉ L.transactionIds ∧ { L with transactions := L.transactions ++ [t] } = L' := by
  simp only [enterTransaction, refused_or_ok, not_not, Except.ok.injEq]

theorem enterExpenditure_ok {e : Expenditure} :
    enterExpenditure e L = .ok L' ↔ e.transaction ∈ L.transactionIds ∧ e.category ∈ L.categoryIds ∧
      (e.id ∉ L.expenditureIds ∧ e.transaction ∉ L.expenditures.map (·.transaction)) ∧
      { L with expenditures := L.expenditures ++ [e] } = L' := by
  simp only [enterExpenditure, refused_or_ok, not_not, not_or, Except.ok.injEq]

theorem replaceAccount_ok {old new : Account} :
    replaceAccount old new L = .ok L' ↔ new.currency.IsKnown ∧
      (∀ m ∈ new.owner, m ∈ L.memberIds) ∧
      { L with accounts :=
        Keyed.replace (·.id) { new with createdAt := old.createdAt } L.accounts } = L' := by
  simp only [replaceAccount, refused_or_ok, not_not, Except.ok.injEq]

theorem storeAccount_ok {version : Int} {a : Account} :
    storeAccount version a L = .ok L' ↔ ∃ old, L.accounts.find? (·.id == a.id) = some old ∧
      old.version = version ∧ replaceAccount old a L = .ok L' := by
  rw [storeAccount]
  cases hf : L.accounts.find? (·.id == a.id) with
  | none => simp
  | some old =>
    by_cases hv : old.version = version <;> simp [hv]

theorem enterIngress_ok {i : Ingress} :
    enterIngress i L = .ok L' ↔ i.transaction ∈ L.transactionIds ∧ i.category ∈ L.categoryIds ∧
      (i.id ∉ L.ingressIds ∧ i.transaction ∉ L.ingresses.map (·.transaction)) ∧
      { L with ingresses := L.ingresses ++ [i] } = L' := by
  simp only [enterIngress, refused_or_ok, not_not, not_or, Except.ok.injEq]

theorem linkTags_ok {enter : Link → Edit} {a : List Link → Ledger → Ledger}
    (hnil : ∀ L, a [] L = L) (hcons : ∀ l ls L, a ls (a [l] L) = a (l :: ls) L)
    (henter : ∀ {l : Link} {L L' : Ledger}, enter l L = .ok L' → a [l] L = L') {target : Uuid}
    {tags : List Uuid} (h : linkTags enter target tags L = .ok ((), L')) :
    a ((Tags.distinct tags).map (⟨target, ·⟩)) L = L' := by
  rw [linkTags, Step.edit_ok] at h
  generalize Tags.distinct tags = tags at h
  induction tags generalizing L with
  | nil =>
    cases h
    exact hnil _
  | cons tag tags ih =>
    rw [List.foldlM_cons] at h
    cases ht : enter ⟨target, tag⟩ L with
    | error e =>
      rw [ht] at h
      cases h
    | ok L₁ =>
      rw [ht] at h
      rw [List.map_cons, ← hcons, henter ht]
      exact ih h

theorem linkExpenditure_ok {target : Uuid} {tags : List Uuid}
    (h : linkTags enterExpenditureTag target tags L = .ok ((), L')) :
    { L with expenditureTags := L.expenditureTags ++ (Tags.distinct tags).map (⟨target, ·⟩) } =
      L' := by
  refine linkTags_ok (a := fun ls L => { L with expenditureTags := L.expenditureTags ++ ls })
    (fun L => by simp) (fun l ls L => by simp) (fun hl => ?_) h
  simp only [enterExpenditureTag, refused_or_ok, Except.ok.injEq] at hl
  exact hl.2.2.2

theorem linkIngress_ok {target : Uuid} {tags : List Uuid}
    (h : linkTags enterIngressTag target tags L = .ok ((), L')) :
    { L with ingressTags := L.ingressTags ++ (Tags.distinct tags).map (⟨target, ·⟩) } = L' := by
  refine linkTags_ok (a := fun ls L => { L with ingressTags := L.ingressTags ++ ls })
    (fun L => by simp) (fun l ls L => by simp) (fun hl => ?_) h
  simp only [enterIngressTag, refused_or_ok, Except.ok.injEq] at hl
  exact hl.2.2.2

theorem findAccount_ok {id : Uuid} {a : Account} (h : findAccount id L = .ok a) :
    a ∈ L.accounts ∧ a.id = id := Query.find_ok (Query.notFoundAs_ok.1 h)

theorem debit_ok {a b : Account} {amount : Money} : a.debit amount = .ok b ↔
    ∃ m, m.minor = a.currentBalance.minor - amount.minor ∧ { a with currentBalance := m } = b := by
  rw [Account.debit, Money.sub]
  simp only [← Money.checkedSub_eq_some_iff]
  cases a.currentBalance.checkedSub amount with
  | none => simp
  | some m => simp

theorem credit_ok {a b : Account} {amount : Money} : a.credit amount = .ok b ↔
    ∃ m, m.minor = a.currentBalance.minor + amount.minor ∧ { a with currentBalance := m } = b := by
  rw [Account.credit]
  simp only [← Money.checkedAdd_eq_some_iff]
  cases a.currentBalance.checkedAdd amount with
  | none => simp
  | some m => simp

theorem rename_ok {a b : Account} {name : String} {now : Instant} : a.rename name now = .ok b ↔
    ∃ n, Text.tidy? name = some n ∧ { a with name := n, updatedAt := now } = b := by
  rw [Account.rename]
  cases Text.tidy? name with
  | none => simp
  | some n => simp

theorem activate_ok {a b : Account} {now : Instant} : a.activate now = .ok b ↔
    a.active = false ∧ { a with active := true, updatedAt := now } = b := by
  rw [Account.activate]
  cases a.active <;> simp

theorem deactivate_ok {a b : Account} {now : Instant} : a.deactivate now = .ok b ↔
    a.active = true ∧ { a with active := false, updatedAt := now } = b := by
  rw [Account.deactivate]
  cases a.active <;> simp

theorem neg_ok {a b : Money} : a.neg = .ok b ↔ b.minor = -a.minor := by
  rw [Money.neg, ← Money.ofInt?_eq_some_iff]
  cases Money.ofInt? (-a.minor) with
  | none => simp
  | some m => simp

theorem nextVersion_ok {version next : Int} :
    Accounts.nextVersion version = .ok next ↔
      version + 1 ≤ greatestWord ∧ version + 1 = next := by
  rw [Accounts.nextVersion]
  by_cases h : version + 1 ≤ greatestWord <;> simp [h]

theorem saveAccount_ok {a b : Account} {savedAt : Instant} :
    saveAccount a savedAt L = .ok (b, L') ↔ a.version + 1 ≤ greatestWord ∧
      a.saved savedAt = b ∧ storeAccount a.version b L = .ok L' := by
  rw [saveAccount, Step.bind_ok]
  constructor
  · simp only [Step.ask_ok, Query.ofOverflow_ok, nextVersion_ok]
    rintro ⟨version, L₁, ⟨⟨hv, rfl⟩, rfl⟩, h⟩
    simp only [Step.bind_ok, Step.edit_ok, Step.pure_ok] at h
    obtain ⟨-, L₁, hstore, rfl, rfl⟩ := h
    exact ⟨hv, rfl, hstore⟩
  · rintro ⟨hv, rfl, hstore⟩
    exact ⟨a.version + 1, L, by simp [nextVersion_ok, hv], by simpa [Account.saved] using hstore⟩

theorem saveAccount_spec {a b : Account} {savedAt : Instant}
    (h : saveAccount a savedAt L = .ok (b, L')) : ∃ old ∈ L.accounts, old.id = a.id ∧
      old.version = a.version ∧ a.saved savedAt = b ∧ (∀ m ∈ a.owner, m ∈ L.memberIds) ∧
      { L with accounts := Keyed.replace (·.id) (a.over old savedAt) L.accounts } = L' := by
  obtain ⟨-, rfl, hstore⟩ := saveAccount_ok.1 h
  obtain ⟨old, hfind, hversion, hreplace⟩ := storeAccount_ok.1 hstore
  obtain ⟨-, ho, hL⟩ := replaceAccount_ok.1 hreplace
  have hid : old.id = (a.saved savedAt).id := by simpa using List.find?_some hfind
  exact ⟨old, List.mem_of_find?_eq_some hfind, hid, hversion, rfl, ho, hL⟩

theorem saveAccount_sound (hs : L.Sound) {old a b : Account} {savedAt : Instant}
    (hold : old ∈ L.accounts) (hid : old.id = a.id) (h : saveAccount a savedAt L = .ok (b, L')) :
    { L with accounts := Keyed.replace (·.id) (a.over old savedAt) L.accounts } = L' := by
  obtain ⟨old', hold', hid', -, -, -, hL⟩ := saveAccount_spec h
  rwa [List.inj_on_of_nodup_map hs.nodup_accounts hold hold' (hid.trans hid'.symm)]

theorem refused_bind_or_ok {p : Prop} [Decidable p] {e : DomainError} {f : α → Step β} {m : Step β}
    {b : β} : (if p then Step.refuse e >>= f else m) L = .ok (b, L') ↔ ¬p ∧ m L = .ok (b, L') := by
  by_cases hp : p <;> simp [hp]

theorem activeAccount_ok {id : Uuid} {a : Account} (h : activeAccount id L = .ok a) :
    a ∈ L.accounts ∧ a.id = id := by
  obtain ⟨b, hb, h⟩ := Query.bind_ok.1 h
  split_ifs at h
  · cases Query.pure_ok.1 h
    exact findAccount_ok hb
  · exact absurd h Query.not_refuse_ok

theorem activeCategory_ok {id : Uuid} {c : Category} (h : activeCategory id L = .ok c) :
    c ∈ L.categories ∧ c.id = id := by
  obtain ⟨b, hb, h⟩ := Query.bind_ok.1 h
  split_ifs at h
  · cases Query.pure_ok.1 h
    exact Query.find_ok (Query.notFoundAs_ok.1 hb)
  · exact absurd h Query.not_refuse_ok

theorem ensurePositive_ok {amount : Money} {u : Unit} (h : ensurePositive amount L = .ok u) :
    0 < amount.minor := by
  rw [ensurePositive] at h
  split_ifs at h with hpos
  · simpa [Money.isPositive] using hpos
  · exact absurd h Query.not_refuse_ok

theorem deleteAccount_ok {id : Uuid} (h : deleteAccount id L = .ok ((), L')) :
    id ∉ L.transactions.map (·.account) ∧
      { L with accounts := L.accounts.filter (·.id != id) } = L' := by
  simp only [deleteAccount, Step.bind_ok, Step.discard_ok, Step.ask_ok, refused_bind_or_ok,
    Step.notFoundAs_ok, Step.edit_ok] at h
  obtain ⟨_, L₁, ⟨_, -, rfl⟩, _, L₂, ⟨-, rfl⟩, -, hstrike⟩ := h
  simp only [strikeAccount, refused_or_ok, Except.ok.injEq] at hstrike
  exact hstrike.2

theorem deleteMember_ok {id : Uuid} (h : deleteMember id L = .ok ((), L')) :
    id ∈ L.memberIds ∧ { L with
      members := L.members.filter (·.id != id)
      accounts := L.accounts.map (·.release id) } = L' := by
  simp only [deleteMember, Step.bind_ok, Step.discard_ok, Step.ask_ok, refused_bind_or_ok,
    Step.notFoundAs_ok, Step.edit_ok] at h
  obtain ⟨_, L₁, ⟨_, -, rfl⟩, _, L₂, ⟨-, rfl⟩, -, hstrike⟩ := h
  rw [strikeMember] at hstrike
  split_ifs at hstrike with hid
  exact ⟨hid, Except.ok.inj hstrike⟩

end Ledger

end Bookkeeping

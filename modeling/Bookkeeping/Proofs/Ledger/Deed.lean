import Bookkeeping.Proofs.Ledger.Effect

namespace Bookkeeping

theorem Tag.apply_ok {t t' : Tag} {changes : Changes} {now : Instant}
    (h : t.apply changes now = .ok t') : t'.id = t.id ∧ t'.kind = t.kind ∧
      (t'.name = t.name ∨ ∃ text, TagName.parse text = .ok t'.name) := by
  rw [Tag.apply] at h
  cases hname : changes.name with
  | none =>
    rw [hname] at h
    cases h
    exact ⟨rfl, rfl, .inl rfl⟩
  | some text =>
    rw [hname] at h
    cases hparse : TagName.parse text with
    | ok name =>
      simp only [hparse] at h
      cases h
      exact ⟨rfl, rfl, .inr ⟨text, hparse⟩⟩
    | error e =>
      simp only [hparse] at h
      cases h

namespace Ledger

/-- Movements, records and links stay as they are. An account that stays keeps its currency, and a
tag its kind. -/
structure Quiet (L L' : Ledger) : Prop where
  transactions : L'.transactions = L.transactions
  expenditures : L'.expenditures = L.expenditures
  ingresses : L'.ingresses = L.ingresses
  expenditureTags : L'.expenditureTags = L.expenditureTags
  ingressTags : L'.ingressTags = L.ingressTags
  accounts : ∀ a ∈ L'.accounts, a.id ∈ L.accountIds →
    ∃ old ∈ L.accounts, old.id = a.id ∧ old.currency = a.currency
  tags : ∀ t ∈ L'.tags, t.id ∈ L.tagIds → ∃ old ∈ L.tags, old.id = t.id ∧ old.kind = t.kind

structure Moved (L : Ledger) (new : Account) (t : Transaction) : Prop where
  account : ∃ old ∈ L.accounts, old.id = new.id ∧ old.currency = new.currency
  target : t.account = new.id
  currency : t.currency = new.currency
  fresh : t.id ∉ L.transactionIds

def Fits (L : Ledger) (kind : TagKind) (ids : List Uuid) : Prop :=
  ∀ id ∈ ids, ∃ t ∈ L.tags, t.id = id ∧ t.kind = kind

inductive Deed (L L' : Ledger) : Prop
  | quiet (h : Quiet L L')
  | spent {new : Account} {t : Transaction} {e : Expenditure} {ids : List Uuid} (h : Moved L new t)
      (hkind : t.kind = .expenditure) (hamount : t.amount.minor < 0) (he : e.transaction = t.id)
      (htags : Fits L .expenditure ids)
      (hL : L' = { L with
        accounts := Keyed.replace (·.id) new L.accounts
        transactions := L.transactions ++ [t]
        expenditures := L.expenditures ++ [e]
        expenditureTags := L.expenditureTags ++ ids.map (⟨e.id, ·⟩) })
  | received {new : Account} {t : Transaction} {i : Ingress} {ids : List Uuid} (h : Moved L new t)
      (hkind : t.kind = .ingress) (hamount : 0 < t.amount.minor) (hi : i.transaction = t.id)
      (htags : Fits L .ingress ids)
      (hL : L' = { L with
        accounts := Keyed.replace (·.id) new L.accounts
        transactions := L.transactions ++ [t]
        ingresses := L.ingresses ++ [i]
        ingressTags := L.ingressTags ++ ids.map (⟨i.id, ·⟩) })

variable {L L' : Ledger}

namespace Quiet

theorem refl (L : Ledger) : Quiet L L where
  transactions := rfl
  expenditures := rfl
  ingresses := rfl
  expenditureTags := rfl
  ingressTags := rfl
  accounts a ha _ := ⟨a, ha, rfl, rfl⟩
  tags t ht _ := ⟨t, ht, rfl, rfl⟩

theorem withMembers (ms : List Member) : Quiet L { L with members := ms } := { refl L with }

theorem withCategories (cs : List Category) : Quiet L { L with categories := cs } :=
  { refl L with }

theorem withTags {ts : List Tag}
    (h : ∀ t ∈ ts, t.id ∈ L.tagIds → ∃ old ∈ L.tags, old.id = t.id ∧ old.kind = t.kind) :
    Quiet L { L with tags := ts } :=
  { refl L with tags := h }

theorem withAccounts {as : List Account} (h : ∀ a ∈ as, a.id ∈ L.accountIds →
    ∃ old ∈ L.accounts, old.id = a.id ∧ old.currency = a.currency) :
    Quiet L { L with accounts := as } :=
  { refl L with accounts := h }

end Quiet

variable {c : Command} {o : Occasion} {r : Reply}

theorem fits_of_resolve (hn : L.tagIds.Nodup) {kind : TagKind} {ids : List Uuid} {tags : List Tag}
    (h : resolveTags kind ids L = .ok tags) : Fits L kind (Tags.distinct (tags.map (·.id))) := by
  have hr := resolveTags_ok hn h
  intro id hid
  obtain ⟨t, ht, rfl⟩ := List.mem_map.1 (Tags.mem_distinct.1 hid)
  exact ⟨t, (hr.mem t ht).1, rfl, (hr.mem t ht).2⟩

theorem Effect.deed (hs : L.Sound) (h : Effect L o c r L') : Deed L L' := by
  -- payments alone enter movements, records and links; all else is quiet
  cases h with
  | looked => exact .quiet (.refl L)
  | memberCreated | memberChanged => exact .quiet (.withMembers _)
  | categoryCreated | categoryChanged | categoryDeleted => exact .quiet (.withCategories _)
  | @memberDeleted id =>
    refine .quiet { Quiet.refl L with accounts := List.forall_mem_map.2 fun a ha _ => ?_ }
    exact ⟨a, ha, (a.release_id id).symm, (a.release_currency id).symm⟩
  | accountCreated _ hid =>
    refine .quiet (.withAccounts fun b hb hmem => ?_)
    rcases List.mem_append.1 hb with hb | hb
    · exact ⟨b, hb, rfl, rfl⟩
    · cases List.mem_singleton.1 hb
      exact absurd hmem hid
  | @accountChanged _ _ old new hc hold hnew =>
    have hkept := accountChange_ok hc hnew
    refine .quiet (.withAccounts fun b hb _ => ?_)
    rcases Keyed.mem_replace hb with rfl | ⟨hb, -⟩
    · have hid : new.id = old.id := by rw [← hkept]
      have hcurrency : new.currency = old.currency := by rw [← hkept]
      exact ⟨old, hold, hid.symm, hcurrency.symm⟩
    · exact ⟨b, hb, rfl, rfl⟩
  | accountDeleted =>
    exact .quiet (.withAccounts fun a ha _ => ⟨a, List.mem_of_mem_filter ha, rfl, rfl⟩)
  | tagCreated _ hid =>
    refine .quiet (.withTags fun u hu hmem => ?_)
    rcases List.mem_append.1 hu with hu | hu
    · exact ⟨u, hu, rfl, rfl⟩
    · cases List.mem_singleton.1 hu
      exact absurd hmem hid
  | @tagChanged _ old _ hold hnew =>
    obtain ⟨hid, hkind, -⟩ := Tag.apply_ok hnew
    refine .quiet (.withTags fun u hu _ => ?_)
    rcases Keyed.mem_replace hu with rfl | ⟨hu, -⟩
    · exact ⟨old, hold, hid.symm, hkind.symm⟩
    · exact ⟨u, hu, rfl, rfl⟩
  | tagDeleted => exact .quiet (.withTags fun t ht _ => ⟨t, List.mem_of_mem_filter ht, rfl, rfl⟩)
  | @paid p _ b hplan =>
    obtain ⟨a, k, balance, amount, tags, h⟩ := Payment.plan_ok hplan
    have hb := h.booking
    subst hb
    have hmoved : Moved L (Account.saved { a with currentBalance := balance } o.savedAt)
        (p.transaction o { a with currentBalance := balance } amount) :=
      ⟨⟨a, h.mem, rfl, rfl⟩, rfl, rfl, h.unposted⟩
    have hpositive := h.positive
    have hshown := h.shown
    cases p with
    | spend cmd =>
      have hamount : amount.minor < 0 := by
        simp only [Payment.change, Payment.amount] at hpositive hshown
        omega
      exact .spent hmoved rfl hamount rfl (fits_of_resolve hs.nodup_tags h.resolved) rfl
    | receive cmd =>
      have hamount : 0 < amount.minor := by
        simp only [Payment.change, Payment.amount] at hpositive hshown
        omega
      exact .received hmoved rfl hamount rfl (fits_of_resolve hs.nodup_tags h.resolved) rfl

theorem run_deed (hs : L.Sound) (c : Command) (o : Occasion) : Deed L (L.run c o) := by
  rw [run]
  cases hp : perform c o L with
  | ok r => exact (perform_effect hs hp).deed hs
  | error e => exact .quiet (.refl L)

end Ledger

end Bookkeeping

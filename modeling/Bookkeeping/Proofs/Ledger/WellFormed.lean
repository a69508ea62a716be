import Bookkeeping.Proofs.Ledger.Balance
import Bookkeeping.Proofs.Ledger.Deed

namespace Bookkeeping

/-- Every reference resolves to the one row with that identifier, and the rows fit together. -/
structure Books.WellFormed (b : Books) : Prop where
  nodup_ids : ∀ ids ∈ [b.members.map (·.id), b.accounts.map (·.id), b.categories.map (·.id),
    b.tags.map (·.id), b.transactions.map (·.id), b.expenditures.map (·.id),
    b.ingresses.map (·.id)], ids.Nodup
  owner : ∀ a ∈ b.accounts, ∀ m ∈ a.owner, m ∈ b.members.map (·.id)
  known : ∀ a ∈ b.accounts, a.currency ∈ b.currencies.map (·.code)
  explained : ∀ t ∈ b.transactions,
    let spent := (b.expenditures.map (·.transaction)).count t.id
    let received := (b.ingresses.map (·.transaction)).count t.id
    t.kind = TransactionKind.expenditure.code ∧ spent = 1 ∧ received = 0 ∨
      t.kind = TransactionKind.ingress.code ∧ spent = 0 ∧ received = 1
  completed : ∀ t ∈ b.transactions, t.status = TransactionStatus.completed.code
  account : ∀ t ∈ b.transactions, ∃ a ∈ b.accounts, a.id = t.account ∧ a.currency = t.currency
  expenditure : ∀ e ∈ b.expenditures, e.category ∈ b.categories.map (·.id) ∧
    ∃ t ∈ b.transactions, t.id = e.transaction ∧ t.amount.minor < 0
  ingress : ∀ i ∈ b.ingresses, i.category ∈ b.categories.map (·.id) ∧
    ∃ t ∈ b.transactions, t.id = i.transaction ∧ 0 < t.amount.minor
  expenditureTag : ∀ l ∈ b.expenditureTags, l.target ∈ b.expenditures.map (·.id) ∧
    ∃ t ∈ b.tags, t.id = l.tag ∧ t.kind = TagKind.expenditure.code
  ingressTag : ∀ l ∈ b.ingressTags, l.target ∈ b.ingresses.map (·.id) ∧
    ∃ t ∈ b.tags, t.id = l.tag ∧ t.kind = TagKind.ingress.code
  nodup_expenditureTags : b.expenditureTags.Nodup
  nodup_ingressTags : b.ingressTags.Nodup

namespace Ledger

inductive Explained (L : Ledger) (t : Transaction) : Prop
  | spent (hkind : t.kind = .expenditure) (hamount : t.amount.minor < 0)
      (hmem : t.id ∈ L.expenditures.map (·.transaction))
      (hother : t.id ∉ L.ingresses.map (·.transaction))
  | received (hkind : t.kind = .ingress) (hamount : 0 < t.amount.minor)
      (hmem : t.id ∈ L.ingresses.map (·.transaction))
      (hother : t.id ∉ L.expenditures.map (·.transaction))

/-- What no key enforces, and the commands see to. -/
structure Orderly (L : Ledger) : Prop where
  explained : ∀ t ∈ L.transactions, L.Explained t
  currency : ∀ t ∈ L.transactions, ∀ a ∈ L.accounts, a.id = t.account → a.currency = t.currency
  expenditureTag : ∀ l ∈ L.expenditureTags, ∀ t ∈ L.tags, t.id = l.tag → t.kind = .expenditure
  ingressTag : ∀ l ∈ L.ingressTags, ∀ t ∈ L.tags, t.id = l.tag → t.kind = .ingress

theorem orderly_fresh : fresh.Orderly := by
  constructor <;> simp [fresh]

variable {L L' : Ledger}

theorem Quiet.orderly (hs : L.Sound) (ho : L.Orderly) (h : Quiet L L') : L'.Orderly where
  explained := by
    rw [h.transactions]
    intro t ht
    cases ho.explained t ht with
    | spent hkind hamount hmem hother =>
      exact .spent hkind hamount (h.expenditures ▸ hmem) (h.ingresses ▸ hother)
    | received hkind hamount hmem hother =>
      exact .received hkind hamount (h.ingresses ▸ hmem) (h.expenditures ▸ hother)
  currency := by
    rw [h.transactions]
    intro t ht a ha hid
    obtain ⟨old, hold, hold_id, hcurrency⟩ :=
      h.accounts a ha (hid ▸ hs.account_transaction t ht)
    exact hcurrency ▸ ho.currency t ht old hold (hold_id.trans hid)
  expenditureTag := by
    rw [h.expenditureTags]
    intro l hl t ht hid
    obtain ⟨old, hold, hold_id, hkind⟩ := h.tags t ht (hid ▸ hs.tag_expenditureTag l hl)
    exact hkind ▸ ho.expenditureTag l hl old hold (hold_id.trans hid)
  ingressTag := by
    rw [h.ingressTags]
    intro l hl t ht hid
    obtain ⟨old, hold, hold_id, hkind⟩ := h.tags t ht (hid ▸ hs.tag_ingressTag l hl)
    exact hkind ▸ ho.ingressTag l hl old hold (hold_id.trans hid)

theorem Moved.currencies {new : Account} {t : Transaction} (h : Moved L new t) (ho : L.Orderly) :
    ∀ u ∈ L.transactions ++ [t], ∀ a ∈ Keyed.replace (·.id) new L.accounts,
      a.id = u.account → a.currency = u.currency := by
  obtain ⟨old, hold, hid, hcurrency⟩ := h.account
  refine Keyed.forall_mem_concat (fun u hu a ha haid => ?_) (fun a ha haid => ?_)
  · rcases Keyed.mem_replace ha with rfl | ⟨ha, -⟩
    · exact hcurrency ▸ ho.currency u hu old hold (hid.trans haid)
    · exact ho.currency u hu a ha haid
  · rcases Keyed.mem_replace ha with rfl | ⟨-, hne⟩
    · exact h.currency.symm
    · exact absurd (haid.trans h.target) hne

theorem Fits.links (hn : L.tagIds.Nodup) {kind : TagKind} {ids : List Uuid} (h : Fits L kind ids)
    {links : List Link} (hlinks : ∀ l ∈ links, ∀ t ∈ L.tags, t.id = l.tag → t.kind = kind)
    (target : Uuid) : ∀ l ∈ links ++ ids.map (⟨target, ·⟩), ∀ t ∈ L.tags, t.id = l.tag →
      t.kind = kind := by
  refine List.forall_mem_append.2 ⟨hlinks, List.forall_mem_map.2 fun id hid t ht heq => ?_⟩
  obtain ⟨u, hu, huid, hkind⟩ := h id hid
  rwa [List.inj_on_of_nodup_map hn ht hu (heq.trans huid.symm)]

theorem Deed.orderly (hs : L.Sound) (ho : L.Orderly) (h : Deed L L') : L'.Orderly := by
  have hne {t u : Transaction} (ht : t.id ∉ L.transactionIds) (hu : u ∈ L.transactions) :
      u.id ≠ t.id := fun h => ht (h ▸ List.mem_map_of_mem hu)
  cases h with
  | quiet h => exact h.orderly hs ho
  | @spent new t e ids h hkind hamount he htags hL =>
    subst hL
    refine ⟨Keyed.forall_mem_concat (fun u hu => ?_) ?_, h.currencies ho,
      htags.links hs.nodup_tags ho.expenditureTag e.id, ho.ingressTag⟩
    · cases ho.explained u hu with
      | spent hkind hamount hmem hother =>
        exact .spent hkind hamount (Keyed.mem_map_append hmem) hother
      | received hkind hamount hmem hother =>
        refine .received hkind hamount hmem ?_
        simpa [he, hne h.fresh hu] using hother
    · refine .spent hkind hamount ?_ fun hmem => ?_
      · simp [he]
      · obtain ⟨i, hi, heq⟩ := List.mem_map.1 hmem
        exact h.fresh (heq ▸ hs.transaction_ingress i hi)
  | @received new t i ids h hkind hamount hi htags hL =>
    subst hL
    refine ⟨Keyed.forall_mem_concat (fun u hu => ?_) ?_, h.currencies ho, ho.expenditureTag,
      htags.links hs.nodup_tags ho.ingressTag i.id⟩
    · cases ho.explained u hu with
      | spent hkind hamount hmem hother =>
        refine .spent hkind hamount hmem ?_
        simpa [hi, hne h.fresh hu] using hother
      | received hkind hamount hmem hother =>
        exact .received hkind hamount (Keyed.mem_map_append hmem) hother
    · refine .received hkind hamount ?_ fun hmem => ?_
      · simp [hi]
      · obtain ⟨e, he, heq⟩ := List.mem_map.1 hmem
        exact h.fresh (heq ▸ hs.transaction_expenditure e he)

theorem Orderly.after (ho : L.Orderly) {s : Store} (h : s.Holds L)
    (steps : List (Command × Occasion)) : (L.after steps).Orderly := by
  induction steps generalizing s L with
  | nil => exact ho
  | cons step steps ih =>
    exact ih ((run_deed h.sound step.1 step.2).orderly h.sound ho) (h.run step.1 step.2)

section Rows

variable {xs : List α} {f : α → ρ} {key : α → Uuid} {column : ρ → String} {id : Uuid}

theorem count_texts_of_mem (h : ∀ x, column (f x) = (key x).text) (hn : (xs.map key).Nodup)
    (hid : id ∈ xs.map key) : ((xs.map f).map column).count id.text = 1 :=
  List.count_eq_one_of_mem (nodup_texts f column h hn) ((mem_texts_iff f column h).2 hid)

theorem count_texts_of_not_mem (h : ∀ x, column (f x) = (key x).text) (hid : id ∉ xs.map key) :
    ((xs.map f).map column).count id.text = 0 :=
  List.count_eq_zero.2 ((mem_texts_iff f column h).not.2 hid)

theorem Link.row_injective {l m : Link} (h : l.row = m.row) : l = m := by
  obtain ⟨ht, htag⟩ := LinkRow.mk.inj h
  cases l
  exact congrArg₂ Link.mk (Uuid.text_injective ht) (Uuid.text_injective htag)

end Rows

theorem wellFormed_books (hs : L.Sound) (ho : L.Orderly)
    (hc : ∀ t ∈ L.transactions, t.status = .completed) : L.books.WellFormed where
  nodup_ids := by
    simp only [List.forall_mem_cons]
    exact ⟨nodup_texts Member.row _ (fun _ => rfl) hs.nodup_members,
      nodup_texts Account.row _ (fun _ => rfl) hs.nodup_accounts,
      nodup_texts Category.row _ (fun _ => rfl) hs.nodup_categories,
      nodup_texts Tag.row _ (fun _ => rfl) hs.nodup_tags,
      nodup_texts Transaction.row _ (fun _ => rfl) hs.nodup_transactions,
      nodup_texts Expenditure.row _ (fun _ => rfl) hs.nodup_expenditures,
      nodup_texts Ingress.row _ (fun _ => rfl) hs.nodup_ingresses, nofun⟩
  owner := List.forall_mem_map.2 fun a ha m hm => by
    obtain ⟨id, hid, rfl⟩ := Option.map_eq_some_iff.1 hm
    exact (mem_texts_iff Member.row _ fun _ => rfl).2 (hs.owner_account a ha id hid)
  known := List.forall_mem_map.2 hs.currency_account
  explained := List.forall_mem_map.2 fun t ht => by
    cases ho.explained t ht with
    | spent hkind hamount hmem hother =>
      exact .inl ⟨congrArg TransactionKind.code hkind,
        count_texts_of_mem (fun _ => rfl) hs.nodup_spent hmem,
        count_texts_of_not_mem (fun _ => rfl) hother⟩
    | received hkind hamount hmem hother =>
      exact .inr ⟨congrArg TransactionKind.code hkind,
        count_texts_of_not_mem (fun _ => rfl) hother,
        count_texts_of_mem (fun _ => rfl) hs.nodup_received hmem⟩
  completed := List.forall_mem_map.2 fun t ht => congrArg TransactionStatus.code (hc t ht)
  account := List.forall_mem_map.2 fun t ht => by
    obtain ⟨a, ha, hid⟩ := List.mem_map.1 (hs.account_transaction t ht)
    exact ⟨a.row, List.mem_map_of_mem ha, congrArg Uuid.text hid,
      congrArg Currency.code (ho.currency t ht a ha hid)⟩
  expenditure := List.forall_mem_map.2 fun e he => by
    obtain ⟨t, ht, hid⟩ := List.mem_map.1 (hs.transaction_expenditure e he)
    refine ⟨(mem_texts_iff Category.row _ fun _ => rfl).2 (hs.category_expenditure e he), t.row,
      List.mem_map_of_mem ht, congrArg Uuid.text hid, ?_⟩
    cases ho.explained t ht with
    | spent _ hamount _ _ => exact hamount
    | received _ _ _ hother => exact absurd (hid ▸ List.mem_map_of_mem he) hother
  ingress := List.forall_mem_map.2 fun i hi => by
    obtain ⟨t, ht, hid⟩ := List.mem_map.1 (hs.transaction_ingress i hi)
    refine ⟨(mem_texts_iff Category.row _ fun _ => rfl).2 (hs.category_ingress i hi), t.row,
      List.mem_map_of_mem ht, congrArg Uuid.text hid, ?_⟩
    cases ho.explained t ht with
    | spent _ _ _ hother => exact absurd (hid ▸ List.mem_map_of_mem hi) hother
    | received _ hamount _ _ => exact hamount
  expenditureTag := List.forall_mem_map.2 fun l hl => by
    obtain ⟨t, ht, hid⟩ := List.mem_map.1 (hs.tag_expenditureTag l hl)
    exact ⟨(mem_texts_iff Expenditure.row _ fun _ => rfl).2 (hs.target_expenditureTag l hl), t.row,
      List.mem_map_of_mem ht, congrArg Uuid.text hid,
      congrArg TagKind.code (ho.expenditureTag l hl t ht hid)⟩
  ingressTag := List.forall_mem_map.2 fun l hl => by
    obtain ⟨t, ht, hid⟩ := List.mem_map.1 (hs.tag_ingressTag l hl)
    exact ⟨(mem_texts_iff Ingress.row _ fun _ => rfl).2 (hs.target_ingressTag l hl), t.row,
      List.mem_map_of_mem ht, congrArg Uuid.text hid,
      congrArg TagKind.code (ho.ingressTag l hl t ht hid)⟩
  nodup_expenditureTags := hs.nodup_expenditureTags.map fun _ _ => Link.row_injective
  nodup_ingressTags := hs.nodup_ingressTags.map fun _ _ => Link.row_injective

theorem findExpenditure_of_mem (hs : L.Sound) {e : Expenditure} (he : e ∈ L.expenditures) :
    ∃ d, findExpenditure e.id L = .ok d ∧ d.record = e := by
  obtain ⟨t, ht, hid⟩ := List.mem_map.1 (hs.transaction_expenditure e he)
  obtain ⟨c, hc, hcid⟩ := List.mem_map.1 (hs.category_expenditure e he)
  refine ⟨_, Query.bind_ok.2 ⟨e, Query.notFoundAs_ok.2 (Query.find_of_mem hs.nodup_expenditures he),
    Query.bind_ok.2 ⟨t, Query.notFoundAs_ok.2 ?_, Query.bind_ok.2 ⟨c, Query.notFoundAs_ok.2 ?_,
      Query.bind_ok.2 ⟨_, rfl, rfl⟩⟩⟩⟩, rfl⟩
  · exact hid ▸ Query.find_of_mem hs.nodup_transactions ht
  · exact hcid ▸ Query.find_of_mem hs.nodup_categories hc

theorem findIngress_of_mem (hs : L.Sound) {i : Ingress} (hi : i ∈ L.ingresses) :
    ∃ d, findIngress i.id L = .ok d ∧ d.record = i := by
  obtain ⟨t, ht, hid⟩ := List.mem_map.1 (hs.transaction_ingress i hi)
  obtain ⟨c, hc, hcid⟩ := List.mem_map.1 (hs.category_ingress i hi)
  refine ⟨_, Query.bind_ok.2 ⟨i, Query.notFoundAs_ok.2 (Query.find_of_mem hs.nodup_ingresses hi),
    Query.bind_ok.2 ⟨t, Query.notFoundAs_ok.2 ?_, Query.bind_ok.2 ⟨c, Query.notFoundAs_ok.2 ?_,
      Query.bind_ok.2 ⟨_, rfl, rfl⟩⟩⟩⟩, rfl⟩
  · exact hid ▸ Query.find_of_mem hs.nodup_transactions ht
  · exact hcid ▸ Query.find_of_mem hs.nodup_categories hc

end Ledger

namespace Store

/-- After any commands the books are well formed, and every record in them can be looked up. -/
theorem wellFormed_after (steps : List (Command × Occasion)) :
    let s := fresh.after steps
    s.books.WellFormed ∧
      (∀ e ∈ s.books.expenditures, ∃ id d, id.text = e.id ∧
        UseCase.findExpenditure id s = (.ok d, s) ∧ d.record.row = e) ∧
      ∀ i ∈ s.books.ingresses, ∃ id d, id.text = i.id ∧
        UseCase.findIngress id s = (.ok d, s) ∧ d.record.row = i := by
  intro s
  have h := holds_fresh.after steps
  have ho := Ledger.orderly_fresh.after holds_fresh steps
  have hb := holds_fresh.balanced_after Ledger.balanced_fresh steps
  generalize Ledger.fresh.after steps = L at h ho hb
  rw [h.books]
  refine ⟨Ledger.wellFormed_books h.sound ho hb.completed, List.forall_mem_map.2 fun e he => ?_,
    List.forall_mem_map.2 fun i hi => ?_⟩
  · obtain ⟨d, hd, hrecord⟩ := Ledger.findExpenditure_of_mem h.sound he
    have hanswer := answers_findExpenditure e.id s L h.ready h.sound h.books
    exact ⟨e.id, d, rfl, hd ▸ hanswer, congrArg Expenditure.row hrecord⟩
  · obtain ⟨d, hd, hrecord⟩ := Ledger.findIngress_of_mem h.sound hi
    have hanswer := answers_findIngress i.id s L h.ready h.sound h.books
    exact ⟨i.id, d, rfl, hd ▸ hanswer, congrArg Ingress.row hrecord⟩

end Store

end Bookkeeping

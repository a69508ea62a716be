import Bookkeeping.Proofs.Ledger.Chronology

namespace Bookkeeping

namespace Instant

theorem byTexts_stamps (date entered : α → Instant) {x y : α} (hx : (date x).HasFourDigitYear)
    (hy : (date y).HasFourDigitYear)
    (h : Register.byTexts (fun z => (date z).stamp) (fun z => (entered z).stamp) x y = true) :
    date x < date y ∨ date x = date y ∧ ((entered x).HasFourDigitYear →
      (entered y).HasFourDigitYear → entered x ≤ entered y) := by
  rw [Register.byTexts_iff, stamp_lt_stamp hx hy, stamp_inj hx hy] at h
  exact h.imp_right (And.imp_right fun hle hx' hy' => (stamp_le_stamp hx' hy').1 hle)

end Instant

structure Books.Paid (b : Books) (e : ExpenditureRow) (t : TransactionRow) : Prop where
  expenditure : e ∈ b.expenditures
  transaction : t ∈ b.transactions
  same : t.id = e.transaction

namespace ExpenditureFilter

structure Admits (f : ExpenditureFilter) (e : ExpenditureRow) (t : TransactionRow) : Prop where
  account : ∀ id ∈ f.account, id.text = t.account
  category : ∀ id ∈ f.category, id.text = e.category
  since : ∀ d ∈ f.since, d ≤ t.date
  before : ∀ d ∈ f.before, t.date < d
  declared : ∀ b ∈ f.declared, b = e.declared
  planned : ∀ b ∈ f.planned, b = e.planned

structure Bounds (P : Instant → Prop) (f : ExpenditureFilter) : Prop where
  since : ∀ d ∈ f.since, P d
  before : ∀ d ∈ f.before, P d

theorem passes_iff {f : ExpenditureFilter} (hf : f.Bounds Instant.HasFourDigitYear)
    {x : Expenditures.Entry} (hx : x.transaction.date.HasFourDigitYear) :
    Expenditures.passes f x = true ↔ f.Admits x.expenditure x.transaction := by
  have hsince : f.since.all (·.stamp ≤ x.transaction.date.stamp) = true ↔
      ∀ d ∈ f.since, d ≤ x.transaction.date := by
    rw [Option.all_eq_true]
    apply forall₂_congr
    intro d hd
    rw [decide_eq_true_eq, Instant.stamp_le_stamp (hf.since d hd) hx]
  have hbefore : f.before.all (x.transaction.date.stamp < ·.stamp) = true ↔
      ∀ d ∈ f.before, x.transaction.date < d := by
    rw [Option.all_eq_true]
    apply forall₂_congr
    intro d hd
    rw [decide_eq_true_eq, Instant.stamp_lt_stamp hx (hf.before d hd)]
  simp only [Expenditures.passes, Bool.and_eq_true, hsince, hbefore]
  simp only [Option.all_eq_true, beq_iff_eq]
  constructor
  · rintro ⟨⟨⟨⟨⟨ha, hc⟩, hs⟩, hb⟩, hd⟩, hp⟩
    exact ⟨ha, hc, hs, hb, hd, hp⟩
  · rintro ⟨ha, hc, hs, hb, hd, hp⟩
    exact ⟨⟨⟨⟨⟨ha, hc⟩, hs⟩, hb⟩, hd⟩, hp⟩

end ExpenditureFilter

namespace Ledger

variable {L : Ledger} {e : ExpenditureRow} {t t' : TransactionRow}

theorem mem_entries {x : Entry} : x ∈ L.entries ↔ x.expenditure ∈ L.expenditures ∧
    x.transaction ∈ L.transactions ∧ x.transaction.id = x.expenditure.transaction := by
  simp only [entries, List.mem_flatMap, List.mem_map, List.mem_filter, beq_iff_eq]
  constructor
  · rintro ⟨e, he, t, ⟨ht, hid⟩, rfl⟩
    exact ⟨he, ht, hid⟩
  · rintro ⟨he, ht, hid⟩
    exact ⟨x.expenditure, he, x.transaction, ⟨ht, hid⟩, rfl⟩

theorem paid_of_mem {x : Entry} (h : x ∈ L.entries) :
    L.books.Paid x.expenditure.row x.transaction.row := by
  obtain ⟨he, ht, hid⟩ := mem_entries.1 h
  exact ⟨List.mem_map_of_mem he, List.mem_map_of_mem ht, congrArg Uuid.text hid⟩

theorem paid_iff : L.books.Paid e t ↔
    ∃ x ∈ L.entries, x.expenditure.row = e ∧ x.transaction.row = t := by
  constructor
  · rintro ⟨he, ht, hid⟩
    obtain ⟨e, hmem, rfl⟩ := List.mem_map.1 he
    obtain ⟨t, hmem', rfl⟩ := List.mem_map.1 ht
    exact ⟨⟨e, t⟩, mem_entries.2 ⟨hmem, hmem', Uuid.text_inj.1 hid⟩, rfl, rfl⟩
  · rintro ⟨x, hx, rfl, rfl⟩
    exact paid_of_mem hx

theorem paid_unique (hs : L.Sound) (h : L.books.Paid e t) (h' : L.books.Paid e t') : t = t' := by
  obtain ⟨x, hx, rfl, rfl⟩ := paid_iff.1 h
  obtain ⟨u, hu, rfl⟩ := List.mem_map.1 h'.transaction
  have hid : u.id = x.transaction.id := Uuid.text_inj.1 (h'.same.trans h.same.symm)
  rw [List.inj_on_of_nodup_map hs.nodup_transactions hu (mem_entries.1 hx).2.1 hid]

section Find

variable {f : ExpenditureFilter}

def found (f : ExpenditureFilter) (L : Ledger) : List Entry :=
  (L.entries.filter (·.passes f)).mergeSort Entry.newestFirst

theorem mem_found {x : Entry} : x ∈ L.found f ↔ x ∈ L.entries ∧ x.passes f = true := by
  rw [found, List.mem_mergeSort, List.mem_filter]

theorem nodup_found (hs : L.Sound) (f : ExpenditureFilter) :
    (((L.found f).map (·.expenditure)).map (·.id)).Nodup := by
  have hperm : (L.found f).Perm (L.entries.filter (·.passes f)) := List.mergeSort_perm _ _
  rw [((hperm.map _).map _).nodup_iff]
  refine List.Nodup.sublist ?_ hs.nodup_expenditures
  rw [expenditureIds]
  rw [← map_entries hs]
  exact (List.filter_sublist.map _).map _

theorem pairwise_found (hdates : ∀ x ∈ L.entries, x.transaction.date.HasFourDigitYear) :
    (L.found f).Pairwise fun x y =>
      y.transaction.date < x.transaction.date ∨
        y.transaction.date = x.transaction.date ∧
          (y.expenditure.createdAt.HasFourDigitYear → x.expenditure.createdAt.HasFourDigitYear →
            y.expenditure.createdAt ≤ x.expenditure.createdAt) := by
  have hsorted : (L.found f).Pairwise fun x y => Entry.newestFirst x y = true := by
    apply List.pairwise_mergeSort
    · intro x y z hxy hyz
      exact Register.byTexts_trans hyz hxy
    · intro x y
      exact Register.byTexts_total y x
  refine hsorted.imp_of_mem ?_
  intro x y hx hy hxy
  exact Instant.byTexts_stamps (fun z : Entry => z.transaction.date) (·.expenditure.createdAt)
    (hdates y (mem_found.1 hy).1) (hdates x (mem_found.1 hx).1) hxy

end Find

end Ledger

namespace Store

variable {s : Store} {L : Ledger}

/-- The answer to a filter: all that it admits, each once, in the order of time. Of two dates the
later one comes first, and of one date the later entry, as far as the clock showed years with four
digits. -/
structure Finds (s : Store) (f : ExpenditureFilter) (es : List Expenditure) : Prop where
  once : (es.map (·.id)).Nodup
  all : ∀ e, e ∈ es.map Expenditure.row ↔ ∃ t, s.books.Paid e t ∧ f.Admits e t
  ordered : (es.map Expenditure.row).Pairwise fun e e' => ∀ t t',
    s.books.Paid e t → s.books.Paid e' t' →
      t'.date < t.date ∨ t'.date = t.date ∧ (e'.createdAt.HasFourDigitYear →
        e.createdAt.HasFourDigitYear → e'.createdAt ≤ e.createdAt)

theorem Holds.find (h : s.Holds L) (f : ExpenditureFilter) (o : Occasion) :
    (Command.findExpenditures f).run o s =
      (.ok (.expenditures ((L.found f).map (·.expenditure))), s) :=
  h.answers ((answers_findExpenditures f).map Reply.expenditures)

theorem Holds.finds (h : s.Holds L)
    (hdates : ∀ t ∈ s.books.transactions, t.date.HasFourDigitYear) {f : ExpenditureFilter}
    (hf : f.Bounds Instant.HasFourDigitYear) : s.Finds f ((L.found f).map (·.expenditure)) := by
  have hdate (x : Ledger.Entry) (hx : x ∈ L.entries) : x.transaction.date.HasFourDigitYear :=
    hdates x.transaction.row (h.books ▸ (Ledger.paid_of_mem hx).transaction)
  have hpasses (x : Ledger.Entry) (hx : x ∈ L.entries) :
      x.passes f = true ↔ f.Admits x.expenditure.row x.transaction.row := by
    rw [← Ledger.Entry.passes_row]
    exact ExpenditureFilter.passes_iff hf (hdate x hx)
  constructor
  case once => exact Ledger.nodup_found h.sound f
  case all =>
    intro e
    rw [h.books, List.map_map, List.mem_map]
    constructor
    · rintro ⟨x, hx, rfl⟩
      obtain ⟨hx, hpass⟩ := Ledger.mem_found.1 hx
      exact ⟨x.transaction.row, Ledger.paid_of_mem hx, (hpasses x hx).1 hpass⟩
    · rintro ⟨t, hpaid, hadmits⟩
      obtain ⟨x, hx, rfl, rfl⟩ := Ledger.paid_iff.1 hpaid
      exact ⟨x, Ledger.mem_found.2 ⟨hx, (hpasses x hx).2 hadmits⟩, rfl⟩
  case ordered =>
    rw [h.books, List.map_map, List.pairwise_map]
    refine (Ledger.pairwise_found hdate).imp_of_mem ?_
    intro x y hx hy hxy t t' ht ht'
    have hx := Ledger.paid_of_mem (Ledger.mem_found.1 hx).1
    have hy := Ledger.paid_of_mem (Ledger.mem_found.1 hy).1
    obtain rfl := Ledger.paid_unique h.sound hx ht
    obtain rfl := Ledger.paid_unique h.sound hy ht'
    exact hxy

/-- As long as dates and bounds have years with four digits, all expenditures that meet the criteria
are found, each once, the newest first. Their times of entry are the clock's. -/
theorem found_newest_first (steps : List (Command × Occasion)) (f : ExpenditureFilter)
    (hdates : ∀ t ∈ (fresh.after steps).books.transactions, t.date.HasFourDigitYear)
    (hf : f.Bounds Instant.HasFourDigitYear) (o : Occasion) :
    let s := fresh.after steps
    ∃ es, (Command.findExpenditures f).run o s = (.ok (.expenditures es), s) ∧ s.Finds f es ∧
      ∀ e ∈ es, ∃ step ∈ steps, step.2.now = e.createdAt := by
  have h := holds_fresh.after steps
  refine ⟨_, h.find f o, h.finds hdates hf, ?_⟩
  intro e he
  obtain ⟨x, hx, rfl⟩ := List.mem_map.1 he
  have hentry := Ledger.mem_entries.1 (Ledger.mem_found.1 hx).1
  exact (Ledger.entered_after steps).expenditure _ hentry.1

theorem fractions_newest_first :
    let o (id : Nat) : Occasion := ⟨.ofNat id, .ofNat (id + 1), .ofSeconds id, .ofSeconds (id + 1)⟩
    let spend (date : Instant) : Command := .createExpenditure
      ⟨⟨.ofNat 1, .ofNat 3, ⟨100, by decide⟩, .euro, date, none, []⟩, true, false⟩
    let steps : List (Command × Occasion) := [
      (.createAccount ⟨"Wallet", .cash, .euro, ⟨1000, by decide⟩, none, true⟩, o 1),
      (.createCategory ⟨"Food", .expenditure, ⟨none, none, none⟩⟩, o 3),
      (spend ⟨60, 5, by decide⟩, o 5), (spend ⟨60, 250000000, by decide⟩, o 7),
      (spend ⟨61, 0, by decide⟩, o 9)]
    let f : ExpenditureFilter :=
      { ExpenditureFilter.all with since := some ⟨60, 250000000, by decide⟩ }
    let s := fresh.after steps
    s.books.transactions.length = 3 ∧
      ∃ es, (Command.findExpenditures f).run (o 11) s = (.ok (.expenditures es), s) ∧
        s.Finds f es ∧ (∀ e ∈ es, ∃ step ∈ steps, step.2.now = e.createdAt) ∧ es.length = 2 := by
  intro o spend steps f s
  have h := holds_fresh.after steps
  have hdates : ∀ t ∈ (fresh.after steps).books.transactions, t.date.HasFourDigitYear := by
    rw [h.books]
    decide +kernel
  have hlength : ((Ledger.fresh.after steps).entries.filter (·.passes f)).length = 2 := by
    decide +kernel
  obtain ⟨es, hrun, hfinds, hclock⟩ := found_newest_first steps f hdates
    ⟨by decide +kernel, nofun⟩ (o 11)
  have hes := congrArg Prod.fst (hrun.symm.trans (h.find f (o 11)))
  refine ⟨?_, es, hrun, hfinds, hclock, ?_⟩
  · rw [h.books]
    decide +kernel
  · rw [Reply.expenditures.inj (Except.ok.inj hes), List.length_map, Ledger.found,
      List.length_mergeSort, hlength]

end Store

end Bookkeeping

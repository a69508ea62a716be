import Bookkeeping.Proofs.Spending.Conditions

namespace Bookkeeping

open Ledger (Query Step)
open Ledger.Step (Checks)

theorem Currency.code_inj {c d : Currency} : c.code = d.code ↔ c = d := by
  cases c
  cases d
  simp

section Lookup

variable {key : α → Uuid} {rowId : ρ → String} {as : List α} {a : α}

theorem any_row_of_mem (f : α → ρ) (hrow : ∀ a, rowId (f a) = (key a).text)
    (hn : (as.map key).Nodup) (ha : a ∈ as) (p : ρ → Bool) :
    (as.map f).any (fun r => rowId r == (key a).text && p r) = p (f a) := by
  rw [Bool.eq_iff_iff, List.any_eq_true]
  constructor
  · rintro ⟨r, hr, hp⟩
    obtain ⟨b, hb, rfl⟩ := List.mem_map.1 hr
    obtain ⟨hid, hp⟩ := Bool.and_eq_true_iff.1 hp
    rw [hrow, Uuid.text_beq_text, beq_iff_eq] at hid
    rwa [← List.inj_on_of_nodup_map hn hb ha hid]
  · intro hp
    exact ⟨f a, List.mem_map_of_mem ha, by simp [hrow, hp]⟩

end Lookup

namespace Ledger

variable {L : Ledger}

namespace Query

theorem find_of_mem {xs : Ledger → List α} {key : α → Uuid} {a : α} (hn : ((xs L).map key).Nodup)
    (ha : a ∈ xs L) : find xs key (key a) L = .ok a := by
  rw [find, (Keyed.find?_eq_some_iff hn).2 ⟨ha, rfl⟩]

theorem find_of_not_mem {xs : Ledger → List α} {key : α → Uuid} {id : Uuid}
    (h : id ∉ (xs L).map key) : find xs key id L = .error (.domain .recordNotFound) := by
  have hf : (xs L).find? (key · == id) = none := by simpa using h
  rw [find, hf]

end Query

namespace Step

theorem ask_bind_eq (q : Query α) (f : α → Query β) :
    ask (q >>= f) = ask q >>= fun a => ask (f a) := by
  funext L
  rw [ask_bind]
  show Except.map _ ((q L).bind fun a => f a L) = _
  cases q L <;> rfl

namespace Checks

theorem find {xs : Ledger → List α} {key : α → Uuid} {f : α → ρ} {rowId : ρ → String}
    (hrow : ∀ a, rowId (f a) = (key a).text) (hn : ((xs L).map key).Nodup) (id : Uuid)
    (e : DomainError) :
    Checks (ask ((Query.find xs key id).notFoundAs e))
      [⟨((xs L).map f).any (rowId · == id.text), e⟩] L
      fun a L' => L' = L ∧ a ∈ xs L ∧ key a = id := by
  have hany : ((xs L).map f).any (rowId · == id.text) = decide (id ∈ (xs L).map key) := by
    rw [Bool.eq_iff_iff]
    simp [hrow]
  by_cases hin : id ∈ (xs L).map key
  · obtain ⟨a, ha, rfl⟩ := List.mem_map.1 hin
    refine .kept (hany.trans (decide_eq_true hin)) (.done ?_ ⟨rfl, ha, rfl⟩)
    exact ask_ok.2 ⟨Query.notFoundAs_ok.2 (Query.find_of_mem hn ha), rfl⟩
  · refine .broken (hany.trans (decide_eq_false hin)) ?_
    rw [ask, Query.notFoundAs, Query.mapError, Query.find_of_not_mem hin]
    rfl

theorem ensure {p : Prop} [Decidable p] {c : Condition} (hc : c.holds = decide p) (a : α) :
    Checks (ask (if p then pure a else Query.refuse c.error)) [c] L
      fun a' L' => L' = L ∧ a' = a ∧ p := by
  by_cases hp : p
  · rw [if_pos hp]
    exact .kept (hc.trans (decide_eq_true hp)) (.done rfl ⟨rfl, rfl, hp⟩)
  · rw [if_neg hp]
    exact .broken (hc.trans (decide_eq_false hp)) rfl

theorem activeAccount (hs : L.Sound) (id : Uuid) : Checks (ask (Ledger.activeAccount id))
    [⟨L.books.accounts.any (·.id == id.text), .accountNotFound⟩,
      ⟨L.books.accounts.any fun a => a.id == id.text && a.active, .accountInactive⟩] L
    fun a L' => L' = L ∧ a ∈ L.accounts ∧ a.id = id := by
  rw [Ledger.activeAccount, ask_bind_eq]
  refine (find (f := Account.row) (fun _ => rfl) hs.nodup_accounts id _).bind ?_
  rintro a _ ⟨rfl, ha, rfl⟩
  refine (ensure ?_ a).imp fun _ _ ⟨hL, ha', _⟩ => ⟨hL, ha' ▸ ha, ha' ▸ rfl⟩
  exact (any_row_of_mem Account.row (fun _ => rfl) hs.nodup_accounts ha (·.active)).trans
    a.active.decide_eq_true.symm

theorem activeCategory (hs : L.Sound) (id : Uuid) : Checks (ask (Ledger.activeCategory id))
    [⟨L.books.categories.any (·.id == id.text), .categoryNotFound⟩,
      ⟨L.books.categories.any fun c => c.id == id.text && c.active, .categoryInactive⟩] L
    fun c L' => L' = L ∧ c ∈ L.categories ∧ c.id = id := by
  rw [Ledger.activeCategory, ask_bind_eq]
  refine (find (f := Category.row) (fun _ => rfl) hs.nodup_categories id _).bind ?_
  rintro c _ ⟨rfl, hc, rfl⟩
  refine (ensure ?_ c).imp fun _ _ ⟨hL, hc', _⟩ => ⟨hL, hc' ▸ hc, hc' ▸ rfl⟩
  exact (any_row_of_mem Category.row (fun _ => rfl) hs.nodup_categories hc (·.active)).trans
    c.active.decide_eq_true.symm

theorem ensureCurrency (hs : L.Sound) {a : Account} (ha : a ∈ L.accounts) (currency : Currency) :
    Checks (ask (Ledger.ensureCurrency currency a))
      [⟨L.books.accounts.any fun r => r.id == a.id.text && r.currency == currency.code,
        .currencyMismatch⟩] L
      fun _ L' => L' = L ∧ currency = a.currency := by
  refine (ensure ?_ ()).imp fun _ _ ⟨hL, _, hc⟩ => ⟨hL, hc⟩
  refine (any_row_of_mem Account.row (fun _ => rfl) hs.nodup_accounts ha
    (·.currency == currency.code)).trans ?_
  rw [Bool.eq_iff_iff, beq_iff_eq, decide_eq_true_iff, eq_comm]
  exact Currency.code_inj

end Checks

end Step

end Ledger

end Bookkeeping

import Bookkeeping.Proofs.Guards.Delete
import Bookkeeping.Proofs.Ledger.Update
import Bookkeeping.Proofs.Register.Distinct
import Bookkeeping.Proofs.Row.Decode
import Bookkeeping.Proofs.Store.Work

namespace Bookkeeping

open Enforcement

namespace KeyRule

def Lists (k : ForeignKey) (side : ViolationSide) (e : DomainError) : Prop :=
  ∃ r ∈ registry, r.name = k.name ∧ r.meaning side = some e

variable {k : ForeignKey} {side : ViolationSide} {e : DomainError}

theorem exists_mem_registry (hk : k ∈ ForeignKey.all) : ∃ r ∈ registry, r.name = k.name := by
  have hname : k.name ∈ registry.map name := map_name_registry ▸ List.mem_map_of_mem hk
  exact List.mem_map.1 hname

theorem lists_parentMissing (hk : k ∈ ForeignKey.all) : ∃ e, Lists k .parentMissing e := by
  have hall : ∀ r ∈ registry, r.parentMissing.isSome = true := by decide
  obtain ⟨r, hr, hrk⟩ := exists_mem_registry hk
  obtain ⟨e, he⟩ := Option.isSome_iff_exists.1 (hall r hr)
  exact ⟨e, r, hr, hrk, he⟩

theorem lists_stillReferenced (hk : k ∈ ForeignKey.all) (hd : k.onDelete = .restrict)
    (hp : k.parentTable ≠ Table.name .currencies) : ∃ e, Lists k .stillReferenced e := by
  have hall : ∀ k ∈ ForeignKey.all, k.onDelete = .restrict →
      k.parentTable ≠ Table.name .currencies →
      ∀ r ∈ registry, r.name = k.name → r.stillReferenced.isSome = true := by decide +kernel
  obtain ⟨r, hr, hrk⟩ := exists_mem_registry hk
  obtain ⟨e, he⟩ := Option.isSome_iff_exists.1 (hall k hk hd hp r hr hrk)
  exact ⟨e, r, hr, hrk, he⟩

def unlisted : List DomainError :=
  [.recordNotFound, .duplicateKey, .concurrentUpdate, .tagAlreadyExists, .tagTypeMismatch]

theorem not_lists (he : e ∈ unlisted) : ¬Lists k side e := by
  have hall : ∀ r ∈ registry, ∀ e ∈ unlisted,
      r.parentMissing ≠ some e ∧ r.stillReferenced ≠ some e := by decide
  rintro ⟨r, hr, -, hm⟩
  cases side with
  | parentMissing => exact (hall r hr e he).1 hm
  | stillReferenced => exact (hall r hr e he).2 hm

theorem Lists.diagnose (h : Lists k side e) :
    Diagnosis.diagnose (k.guardFailure side) = .domain e := by
  obtain ⟨r, hr, hk, hm⟩ := h
  cases side with
  | parentMissing => exact Diagnosis.diagnose_childMessage hr hk hm
  | stillReferenced => exact Diagnosis.diagnose_parentMessage hr hk hm

end KeyRule

theorem Books.Broken.listed {b : Books} {written deleted : List Table.Entry} {k : ForeignKey}
    {side : ViolationSide} (h : b.Broken written deleted k side)
    (hd : ∀ e ∈ deleted, e.1 ≠ .currencies) : ∃ e, KeyRule.Lists k side e := by
  have hname : ∀ t : Table, t.name = Table.name .currencies → t = .currencies := by
    intro t
    cases t <;> decide
  cases h with
  | orphaned _ h => exact KeyRule.lists_parentMissing h.mem
  | restrained he h =>
    exact KeyRule.lists_stillReferenced h.mem h.onDelete fun hp =>
      hd _ he (hname _ (h.parent.symm.trans hp))

inductive LedgerError.BlamesKey : LedgerError → Prop
  | listed {k : ForeignKey} {side : ViolationSide} {e : DomainError} (h : KeyRule.Lists k side e) :
    BlamesKey (.domain e)
  | unknown {name : Option String} {f : StorageFailure} :
    BlamesKey (.infra (.unknownConstraint name f))
  | unexpected {name : String} {side : ViolationSide} {f : StorageFailure} :
    BlamesKey (.infra (.unexpectedConstraint name side f))
  | behind {cause : LedgerError} {e : InfraError} (h : BlamesKey cause) :
    BlamesKey (.rollbackFailed cause e)

theorem LedgerError.not_blamesKey_domain {e : DomainError} (he : e ∈ KeyRule.unlisted) :
    ¬(LedgerError.domain e).BlamesKey := by
  rintro (h | _)
  exact KeyRule.not_lists he h

/-- Work fails if its rows break a key, and says which; if none is broken, it blames none. With a
broken key beside it, a row that repeats a unique key may be what is reported. -/
structure Heeds (breaks : ForeignKey → ViolationSide → Prop) (repeats : Prop) (s : Store)
    (r : Except Fault α × Store) : Prop where
  fails : (∃ k side, breaks k side) → ∃ e, r = (.error (.domain e), s) ∧
    ((∃ k side, breaks k side ∧ KeyRule.Lists k side e) ∨ e = .duplicateKey ∧ repeats)
  blameless : (∀ k side, ¬breaks k side) → ∀ e, r.1 = .error (.error e) → ¬e.BlamesKey

namespace Heeds

variable {breaks breaks' : ForeignKey → ViolationSide → Prop} {repeats : Prop} {s : Store}
  {r : Except Fault α × Store} {b : Books} {written deleted : List Table.Entry}

theorem of_unbroken (hn : ∀ k side, ¬breaks k side)
    (hr : ∀ e, r.1 = .error (.error e) → ¬e.BlamesKey) : Heeds breaks repeats s r where
  fails h := by
    obtain ⟨k, side, h⟩ := h
    exact absurd h (hn k side)
  blameless _ := hr

theorem congr (h : Heeds breaks repeats s r) (hiff : ∀ k side, breaks k side ↔ breaks' k side) :
    Heeds breaks' repeats s r := by
  obtain rfl : breaks = breaks' := funext fun k => funext fun side => propext (hiff k side)
  exact h

theorem ok (hn : ∀ k side, ¬breaks k side) (a : α) (s' : Store) :
    Heeds breaks repeats s (.ok a, s') :=
  of_unbroken hn nofun

theorem overflow (hn : ∀ k side, ¬breaks k side) (o : Overflow) (s' : Store) :
    Heeds breaks repeats s ((.error (.overflow o), s') : Except Fault α × Store) :=
  of_unbroken hn nofun

theorem failDomain (hn : ∀ k side, ¬breaks k side) {e : DomainError} (he : e ∈ KeyRule.unlisted) :
    Heeds breaks repeats s ((Work.failDomain e : Work α) s) := by
  refine of_unbroken hn fun e' h => ?_
  cases h
  exact LedgerError.not_blamesKey_domain he

theorem ofDecoded (hn : ∀ k side, ¬breaks k side) {x : Except InfraError α} (hx : Decodes x) :
    Heeds breaks repeats s (Work.ofDecoded x s) := by
  refine of_unbroken hn fun e h => ?_
  cases x with
  | ok a => cases h
  | error d =>
    cases h
    obtain ⟨m, rfl⟩ := hx d rfl
    nofun

theorem then_pure {w : Work β} (h : Heeds breaks repeats s (w s)) (a : α) :
    Heeds breaks repeats s ((w >>= fun _ => pure a) s) := by
  rw [Work.bind_apply]
  generalize w s = r at h
  obtain ⟨f | x, s'⟩ := r
  · refine ⟨fun hb => ?_, fun hn e he => h.blameless hn e (by cases he; rfl)⟩
    obtain ⟨e, he, hl⟩ := h.fails hb
    cases he
    exact ⟨e, rfl, hl⟩
  · refine ⟨fun hb => ?_, fun hn e he => by cases he⟩
    obtain ⟨e, he, -⟩ := h.fails hb
    cases he

theorem duplicateAsExisting {w : Work α} (h : Heeds breaks repeats s (w s))
    (hn : ∀ k side, ¬breaks k side) :
    Heeds breaks repeats s (Tags.duplicateAsExisting w s) := by
  refine of_unbroken hn fun e he => ?_
  have hw := h.blameless hn
  rw [Tags.duplicateAsExisting, Work.mapError_apply] at he
  generalize w s = r at hw he
  obtain ⟨(d | o) | a, s'⟩ := r
  · cases he
    cases d with
    | domain d =>
      rw [LedgerError.reclassify]
      by_cases hd : d = .duplicateKey
      · rw [if_pos hd]
        exact LedgerError.not_blamesKey_domain (by decide)
      · rw [if_neg hd]
        exact hw _ rfl
    | infra d => exact hw _ rfl
    | rollbackFailed c d => exact hw _ rfl
  · cases he
  · cases he

section Ready

variable (hr : s.Ready)

include hr

theorem look (hn : ∀ k side, ¬breaks k side) (query : Books → Option ρ)
    {decode : ρ → Except InfraError α} (hd : ∀ row, Decodes (decode row)) :
    Heeds breaks repeats s (Register.look query decode s) := by
  rw [Register.look, Work.bind_ok (Work.read_apply hr query)]
  cases query s.books with
  | none => exact failDomain hn (by decide)
  | some row => exact ofDecoded hn (hd row)

theorem list (hn : ∀ k side, ¬breaks k side) (query : Books → List ρ)
    {decode : ρ → Except InfraError α} (hd : ∀ row, Decodes (decode row)) :
    Heeds breaks repeats s (Register.list query decode s) := by
  rw [Register.list, Work.bind_ok (Work.read_apply hr query)]
  exact ofDecoded hn (.mapM hd _)

theorem write {statement : Enforcement → Books → Except StorageFailure Books}
    (h : Judged s.books written deleted repeats (statement guarded s.books))
    (hd : ∀ e ∈ deleted, e.1 ≠ .currencies) :
    Heeds (s.books.Broken written deleted) repeats s (Work.write statement s) := by
  rw [Work.write_apply hr]
  generalize statement guarded s.books = r at h
  cases h with
  | @broken k side h =>
    obtain ⟨e, he⟩ := h.listed hd
    simp only [he.diagnose]
    exact ⟨fun _ => ⟨e, rfl, .inl ⟨k, side, h, he⟩⟩, fun hn => absurd h (hn k side)⟩
  | clash h hf =>
    simp only [hf]
    refine ⟨fun ⟨k, side, hk⟩ => ?_, fun _ e he => ?_⟩
    · exact ⟨_, rfl, .inr ⟨rfl, h.resolve_right fun hn => hn k side hk⟩⟩
    · cases he
      exact LedgerError.not_blamesKey_domain (by decide)
  | done h => exact ok h () _

theorem if_any {t : Table} {chosen : t.Row → Bool} {w : Work Unit}
    (hnone : (s.books.rows t).filter chosen = [] → ∀ k side, ¬breaks k side)
    (h : Heeds breaks repeats s (w s)) :
    Heeds breaks repeats s ((do
      if ← Work.read fun b => (b.rows t).any chosen then w
      else Work.failDomain .recordNotFound) s) := by
  rw [Work.bind_ok (Work.read_apply hr _)]
  by_cases hany : (s.books.rows t).any chosen = true
  · rwa [if_pos hany]
  · rw [if_neg hany]
    exact failDomain (hnone (by simpa using hany)) (by decide)

theorem strike {t : Table} {chosen : t.Row → Bool} (ht : t ≠ .currencies)
    (h : Judged s.books [] (((s.books.rows t).filter chosen).map (⟨t, ·⟩)) repeats
      (guarded.delete t chosen s.books)) :
    Heeds (s.books.Broken [] (((s.books.rows t).filter chosen).map (⟨t, ·⟩))) repeats s
      (Register.strike t chosen s) := by
  refine if_any hr (fun hnone => ?_) (write hr h (List.forall_mem_map.2 fun _ _ => ht))
  rw [hnone]
  exact s.books.not_broken_nil

variable (hi : s.books.Intact) {t : Table}

include hi

theorem enter (row : t.Row) :
    Heeds (s.books.Broken [⟨t, row⟩] []) repeats s (Register.enter t row s) :=
  write hr (judged_insert hi row repeats) (List.forall_mem_nil _)

theorem replace {columns : List String} {chosen : t.Row → Bool} {row : t.Row}
    (new : t.Row → t.Row) (hcolumns : ∀ k ∈ t.childKeys, columns.contains k.childColumn = true)
    (hnew : ∀ old, chosen old = true → Register.merged t columns row old = t.record (new old))
    (hsame : ∀ old old' k, s.books.Orphans t (new old) k → s.books.Orphans t (new old') k)
    (hparent : ∀ k ∈ ForeignKey.all, k.parentTable = t.name → ∀ row, chosen row = true →
      t.text? (new row) k.parentColumn = t.text? row k.parentColumn) :
    Heeds (s.books.Broken (((s.books.rows t).filter chosen).map fun old => ⟨t, new old⟩) [])
      repeats s (Register.replace t columns chosen row s) := by
  refine if_any hr (fun hnone => ?_) (write hr
    (judged_update hi hcolumns hnew hsame hparent repeats) (List.forall_mem_nil _))
  rw [hnone]
  exact s.books.not_broken_nil

end Ready

end Heeds

end Bookkeeping

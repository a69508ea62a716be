import Bookkeeping.Proofs.Ledger.Insert
import Bookkeeping.Proofs.Store.Work
import Bookkeeping.Register.Basic
import Bookkeeping.Store.UnitOfWork

namespace Bookkeeping

namespace Ledger

abbrev Query := ReaderT Ledger (Except Fault)

abbrev Step := StateT Ledger (Except Fault)

namespace Query

def ask (f : Ledger → α) : Query α := fun L => .ok (f L)

def refuse (e : DomainError) : Query α := fun _ => .error (.domain e)

def ofDomain (x : Except DomainError α) : Query α := fun _ =>
  match x with
  | .ok a => .ok a
  | .error e => .error (.domain e)

def ofOverflow (x : Except Overflow α) : Query α := fun _ =>
  match x with
  | .ok a => .ok a
  | .error o => .error (.overflow o)

def mapError (f : LedgerError → LedgerError) (q : Query α) : Query α := fun L =>
  match q L with
  | .error (.error e) => .error (.error (f e))
  | r => r

def notFoundAs (e : DomainError) (q : Query α) : Query α := q.mapError (·.notFoundAs e)

def find [BEq κ] (xs : Ledger → List α) (key : α → κ) (k : κ) : Query α := fun L =>
  match (xs L).find? (key · == k) with
  | some a => .ok a
  | none => .error (.domain .recordNotFound)

end Query

namespace Step

def ask (q : Query α) : Step α := fun L => (q L).map (·, L)

def edit (x : Edit) : Step Unit := fun L =>
  match x L with
  | .ok L => .ok ((), L)
  | .error e => .error (.domain e)

def refuse (e : DomainError) : Step α := fun _ => .error (.domain e)

def mapError (f : LedgerError → LedgerError) (m : Step α) : Step α := fun L =>
  match m L with
  | .error (.error e) => .error (.error (f e))
  | r => r

def notFoundAs (e : DomainError) (m : Step α) : Step α := m.mapError (·.notFoundAs e)

theorem bind_apply (m : Step α) (f : α → Step β) (L : Ledger) :
    (m >>= f) L = match m L with
      | .ok (a, L) => f a L
      | .error e => .error e := by
  show (m L).bind (fun (a, L) => f a L) = _
  cases m L <;> rfl

theorem ask_bind (q : Query α) (f : α → Step β) (L : Ledger) :
    (ask q >>= f) L = match q L with
      | .ok a => f a L
      | .error e => .error e := by
  rw [bind_apply, ask]
  cases q L <;> rfl

theorem edit_bind (x : Edit) (f : Unit → Step β) (L : Ledger) :
    (edit x >>= f) L = match x L with
      | .ok L => f () L
      | .error e => .error (.domain e) := by
  rw [bind_apply, edit]
  cases x L <;> rfl

end Step

end Ledger

open Ledger (Query Step Enforced Edit)

def Answers (w : Work α) (q : Query α) : Prop :=
  ∀ s L, s.Ready → L.Sound → s.books = L.books → w s = (q L, s)

/-- Work changes the books of a store as a step changes a ledger. What it leaves when it fails is
not said. -/
def Follows (w : Work α) (m : Step α) (s : Store) (L : Ledger) : Prop :=
  match m L with
  | .ok (a, L') => L'.Sound ∧ w s = (.ok a, { s with books := L'.books })
  | .error e => ∃ b, w s = (.error e, { s with books := b })

def Simulates (w : Work α) (m : Step α) : Prop :=
  ∀ s L, s.Ready → L.Sound → s.books = L.books → Follows w m s L

/-- Work changes the books of a store as a step changes a ledger, or fails and changes nothing. -/
def Matches (w : Work α) (m : Step α) (s : Store) (L : Ledger) : Prop :=
  match m L with
  | .ok (a, L') => L'.Sound ∧ w s = (.ok a, { s with books := L'.books })
  | .error e => w s = (.error e, s)

def Settles (w : Work α) (m : Step α) : Prop :=
  ∀ s L, s.Ready → L.Sound → s.books = L.books → Matches w m s L

def Performs (w : Work α) (m : Step α) : Prop :=
  ∀ s L, s.Ready → s.transaction = none → L.Sound → s.books = L.books → Matches w m s L

theorem mapM_rows {row : α → ρ} {decode : ρ → Except InfraError α}
    (h : ∀ a, decode (row a) = .ok a) (as : List α) : (as.map row).mapM decode = .ok as := by
  induction as with
  | nil => rfl
  | cons a as ih =>
    rw [List.map_cons, List.mapM_cons, h, ih]
    rfl

namespace Answers

theorem pure (a : α) : Answers (Pure.pure a) (Pure.pure a) := fun _ _ _ _ _ => rfl

theorem bind {w : Work α} {q : Query α} {f : α → Work β} {g : α → Query β} (hw : Answers w q)
    (hf : ∀ a, Answers (f a) (g a)) : Answers (w >>= f) (q >>= g) := by
  intro s L hr hs hb
  have h := hw s L hr hs hb
  show _ = ((q L).bind fun a => g a L, s)
  cases hq : q L with
  | ok a =>
    rw [hq] at h
    rw [Work.bind_ok h]
    exact hf a s L hr hs hb
  | error e =>
    rw [hq] at h
    rw [Work.bind_error h]
    rfl

theorem map {w : Work α} {q : Query α} (hw : Answers w q) (f : α → β) :
    Answers (f <$> w) (f <$> q) := by
  rw [map_eq_pure_bind, map_eq_pure_bind]
  exact hw.bind fun a => pure (f a)

theorem ite {p : Prop} [Decidable p] {w w' : Work α} {q q' : Query α} (h : Answers w q)
    (h' : Answers w' q') : Answers (if p then w else w') (if p then q else q') := by
  by_cases hp : p
  · rwa [if_pos hp, if_pos hp]
  · rwa [if_neg hp, if_neg hp]

theorem mapError {w : Work α} {q : Query α} (h : Answers w q) (f : LedgerError → LedgerError) :
    Answers (w.mapError f) (q.mapError f) := by
  intro s L hr hs hb
  rw [Work.mapError_apply, h s L hr hs hb, Query.mapError]
  rcases q L with (_ | _) | _ <;> rfl

theorem notFoundAs {w : Work α} {q : Query α} (h : Answers w q) (e : DomainError) :
    Answers (w.notFoundAs e) (q.notFoundAs e) := h.mapError _

theorem foldlM {f : β → α → Work β} {g : β → α → Query β} (h : ∀ b a, Answers (f b a) (g b a))
    (as : List α) (b : β) : Answers (as.foldlM f b) (as.foldlM g b) := by
  induction as generalizing b with
  | nil => exact pure b
  | cons a as ih =>
    rw [List.foldlM_cons, List.foldlM_cons]
    exact (h b a).bind ih

theorem failDomain (e : DomainError) : Answers (Work.failDomain e : Work α) (Query.refuse e) :=
  fun _ _ _ _ _ => rfl

theorem ofDomain (x : Except DomainError α) : Answers (Work.ofDomain x) (Query.ofDomain x) := by
  intro s L _ _ _
  cases x <;> rfl

theorem ofOverflow (x : Except Overflow α) : Answers (Work.ofOverflow x) (Query.ofOverflow x) := by
  intro s L _ _ _
  cases x <;> rfl

theorem read {query : Books → α} {f : Ledger → α} (h : ∀ L, L.Sound → query L.books = f L) :
    Answers (Work.read query) (Query.ask f) := by
  intro s L hr hs hb
  rw [Work.read_apply hr, hb, h L hs]
  rfl

theorem look (rows : Books → List ρ) (rowId : ρ → String) {xs : Ledger → List α} {id : α → Uuid}
    {row : α → ρ} {decode : ρ → Except InfraError α} (hdecode : ∀ a, decode (row a) = .ok a)
    (hrows : ∀ L, rows L.books = (xs L).map row) (hid : ∀ a, rowId (row a) = (id a).text)
    (u : Uuid) :
    Answers (Register.look (fun b => (rows b).find? (rowId · == u.text)) decode)
      (Query.find xs id u) := by
  intro s L hr hs hb
  have hfind : (rows s.books).find? (rowId · == u.text) =
      ((xs L).find? (id · == u)).map row := by
    have hsame : (rowId · == u.text) ∘ row = (id · == u) := funext fun a => by simp [hid]
    rw [hb, hrows, List.find?_map, hsame]
  rw [Register.look, Work.bind_ok (Work.read_apply hr _), hfind, Query.find]
  cases (xs L).find? (id · == u) with
  | none => rfl
  | some a =>
    simp only [Option.map_some, hdecode]
    rfl

theorem list {query : Books → List ρ} {xs : Ledger → List α} {row : α → ρ}
    {decode : ρ → Except InfraError α} (hdecode : ∀ a, decode (row a) = .ok a)
    (hquery : ∀ L, L.Sound → query L.books = (xs L).map row) :
    Answers (Register.list query decode) (Query.ask xs) := by
  intro s L hr hs hb
  rw [Register.list, Work.bind_ok (Work.read_apply hr _), hb, hquery L hs, mapM_rows hdecode]
  rfl

theorem settles {w : Work α} {q : Query α} (h : Answers w q) : Settles w (Step.ask q) := by
  intro s L hr hs hb
  have h := h s L hr hs hb
  rw [Matches, Step.ask]
  cases hq : q L with
  | ok a => exact ⟨hs, by rw [h, hq, ← hb]⟩
  | error e => exact h.trans (by rw [hq])

end Answers

theorem Follows.bind {w : Work α} {m : Step α} {f : α → Work β} {g : α → Step β} {s : Store}
    {L : Ledger} (hw : Follows w m s L)
    (hf : ∀ a L', L'.Sound → Follows (f a) (g a) { s with books := L'.books } L') :
    Follows (w >>= f) (m >>= g) s L := by
  rw [Follows] at hw ⊢
  rw [Step.bind_apply]
  cases hm : m L with
  | ok r =>
    obtain ⟨a, L'⟩ := r
    rw [hm] at hw
    rw [Work.bind_ok hw.2]
    exact hf a L' hw.1
  | error e =>
    rw [hm] at hw
    obtain ⟨b, hw⟩ := hw
    exact ⟨b, Work.bind_error hw f⟩

theorem Matches.of_ok {w : Work α} {m : Step α} {s : Store} {L L' : Ledger} {a : α}
    (h : Matches w m s L) (hm : m L = .ok (a, L')) :
    L'.Sound ∧ w s = (.ok a, { s with books := L'.books }) := by
  rw [Matches, hm] at h
  exact h

theorem Matches.of_error {w : Work α} {m : Step α} {s : Store} {L : Ledger} {e : Fault}
    (h : Matches w m s L) (hm : m L = .error e) : w s = (.error e, s) := by
  rw [Matches, hm] at h
  exact h

theorem Matches.follows {w : Work α} {m : Step α} {s : Store} {L : Ledger} (h : Matches w m s L) :
    Follows w m s L := by
  rw [Follows]
  cases hm : m L with
  | ok r => exact h.of_ok hm
  | error e => exact ⟨s.books, h.of_error hm⟩

theorem Matches.then_pure {w : Work α} {m : Step α} {s : Store} {L : Ledger} (h : Matches w m s L)
    (b : β) : Matches (w >>= fun _ => pure b) (m >>= fun _ => pure b) s L := by
  rw [Matches] at h ⊢
  rw [Step.bind_apply]
  cases hm : m L with
  | ok r =>
    rw [hm] at h
    exact ⟨h.1, Work.bind_ok h.2 _⟩
  | error e =>
    rw [hm] at h
    exact Work.bind_error h _

namespace Settles

variable {w : Work α} {m : Step α}

theorem simulates (h : Settles w m) : Simulates w m :=
  fun s L hr hs hb => (h s L hr hs hb).follows

theorem performs (h : Settles w m) : Performs w m := fun s L hr _ hs hb => h s L hr hs hb

theorem after {q : Query β} {v : Work β} {f : β → Work α} {g : β → Step α} (hv : Answers v q)
    (hf : ∀ b, Settles (f b) (g b)) : Settles (v >>= f) (Step.ask q >>= g) := by
  intro s L hr hs hb
  have h := hv s L hr hs hb
  rw [Matches, Step.ask_bind]
  cases hq : q L with
  | ok b =>
    rw [hq] at h
    rw [Work.bind_ok h]
    exact hf b s L hr hs hb
  | error e =>
    rw [hq] at h
    exact Work.bind_error h f

theorem write_at {statement : Enforcement → Books → Except StorageFailure Books} {x : Edit}
    {s : Store} {L : Ledger} (hr : s.Ready) (hb : s.books = L.books)
    (h : Enforced (statement .guarded L.books) (x L)) :
    Matches (Work.write statement) (Step.edit x) s L := by
  rw [← hb] at h
  have hw := Work.write_apply hr statement
  rw [Matches, Step.edit]
  cases hx : x L with
  | ok L' =>
    rw [hx] at h
    rw [h.2] at hw
    exact ⟨h.1, hw⟩
  | error e =>
    rw [hx] at h
    obtain ⟨f, hf, he⟩ := h
    rw [hf] at hw
    exact hw.trans (by simp only [he]; rfl)

theorem write {statement : Enforcement → Books → Except StorageFailure Books} {x : Edit}
    (h : ∀ L, L.Sound → Enforced (statement .guarded L.books) (x L)) :
    Settles (Work.write statement) (Step.edit x) :=
  fun _ L hr hs hb => write_at hr hb (h L hs)

theorem write_if {p : Books → Bool}
    {statement : Enforcement → Books → Except StorageFailure Books} {x : Edit}
    (h : ∀ L, L.Sound → p L.books = true → Enforced (statement .guarded L.books) (x L))
    (h' : ∀ L, p L.books = false → x L = .error .recordNotFound) :
    Settles (do if ← Work.read p then Work.write statement else Work.failDomain .recordNotFound)
      (Step.edit x) := by
  intro s L hr hs hb
  have hread := Work.read_apply hr p
  rw [hb] at hread
  rw [Matches, Work.bind_ok hread]
  cases hp : p L.books with
  | true =>
    rw [if_pos rfl]
    exact write_at hr hb (h L hs hp)
  | false =>
    rw [if_neg Bool.false_ne_true, Step.edit, h' L hp]
    rfl

end Settles

theorem Answers.simulates {w : Work α} {q : Query α} (h : Answers w q) :
    Simulates w (Step.ask q) := h.settles.simulates

namespace Simulates

theorem pure (a : α) : Simulates (Pure.pure a) (Pure.pure a) := by
  intro s L _ hs hb
  exact ⟨hs, by rw [← hb]; rfl⟩

theorem bind {w : Work α} {m : Step α} {f : α → Work β} {g : α → Step β} (hw : Simulates w m)
    (hf : ∀ a, Simulates (f a) (g a)) : Simulates (w >>= f) (m >>= g) :=
  fun s L hr hs hb => (hw s L hr hs hb).bind fun a L' hs =>
    hf a { s with books := L'.books } L' (hr.withBooks _) hs rfl

theorem map {w : Work α} {m : Step α} (hw : Simulates w m) (f : α → β) :
    Simulates (f <$> w) (f <$> m) := by
  rw [map_eq_pure_bind, map_eq_pure_bind]
  exact hw.bind fun a => pure (f a)

theorem ite {p : Prop} [Decidable p] {w w' : Work α} {m m' : Step α} (h : Simulates w m)
    (h' : Simulates w' m') : Simulates (if p then w else w') (if p then m else m') := by
  by_cases hp : p
  · rwa [if_pos hp, if_pos hp]
  · rwa [if_neg hp, if_neg hp]

theorem mapError {w : Work α} {m : Step α} (h : Simulates w m) (f : LedgerError → LedgerError) :
    Simulates (w.mapError f) (m.mapError f) := by
  intro s L hr hs hb
  have h := h s L hr hs hb
  rw [Follows] at h ⊢
  rw [Work.mapError_apply, Step.mapError]
  cases hm : m L with
  | ok r =>
    rw [hm] at h
    exact ⟨h.1, by rw [h.2]⟩
  | error e =>
    rw [hm] at h
    obtain ⟨b, h⟩ := h
    rw [h]
    cases e <;> exact ⟨b, rfl⟩

theorem notFoundAs {w : Work α} {m : Step α} (h : Simulates w m) (e : DomainError) :
    Simulates (w.notFoundAs e) (m.notFoundAs e) := h.mapError _

theorem failDomain (e : DomainError) : Simulates (Work.failDomain e : Work α) (Step.refuse e) :=
  fun s _ _ _ _ => ⟨s.books, rfl⟩

end Simulates

namespace Performs

theorem atomically {w : Work α} {m : Step α} (h : Simulates w m) :
    Performs (Bookkeeping.atomically w) m := by
  intro s L hr ht hs hb
  have hbegin : (Store.control .none).begin s =
      (.ok (), { s with transaction := some ⟨s.books, false⟩ }) := by
    simp [Store.control, Refusals.none, Store.begin, hr.isOpen, ht]
  have hready : ({ s with transaction := some ⟨s.books, false⟩ } : Store).Ready :=
    ⟨hr.isOpen, hr.refusals, by simpa [Store.enforcement, ht] using hr.enforcement⟩
  have h := h { s with transaction := some ⟨s.books, false⟩ } L hready hs hb
  rw [Follows] at h
  rw [Matches, Bookkeeping.atomically, hr.refusals, TransactionControl.run, hbegin]
  cases hm : m L with
  | ok r =>
    obtain ⟨a, L'⟩ := r
    rw [hm] at h
    refine ⟨h.1, ?_⟩
    -- a sound ledger is intact, so its commit goes through
    have hcommit : (Store.control .none).commit
        { s with transaction := some ⟨s.books, false⟩, books := L'.books } =
          (.ok (), { s with transaction := none, books := L'.books }) := by
      simp [Store.control, Refusals.none, Store.commit, h.1.intact]
    simp only [h.2, hcommit]
    rw [ht, hr.refusals]
  | error e =>
    rw [hm] at h
    obtain ⟨b, h⟩ := h
    -- a rollback gives the transaction up, and so does an overflow
    have hdiscard :
        Store.discard { s with transaction := some ⟨s.books, false⟩, books := b } = s := by
      rw [Store.discard, ← ht]
    simp only [h]
    cases e with
    | error e => simp only [Store.control, Refusals.none, Store.rollback, hdiscard]
    | overflow o => exact congrArg (Prod.mk _) hdiscard

theorem map {w : Work α} {m : Step α} (h : Performs w m) (f : α → β) :
    Performs (f <$> w) (f <$> m) := by
  intro s L hr ht hs hb
  have h := h s L hr ht hs hb
  rw [Matches, Work.map_apply, map_eq_pure_bind, Step.bind_apply]
  cases hm : m L with
  | ok r =>
    obtain ⟨hs', hw⟩ := h.of_ok hm
    exact ⟨hs', by rw [hw]⟩
  | error e => rw [h.of_error hm]

theorem after {w : Work α} {q : Query α} {f : α → Work β} {g : α → Step β} (hw : Answers w q)
    (hf : ∀ a, Performs (f a) (g a)) : Performs (w >>= f) (Step.ask q >>= g) := by
  intro s L hr ht hs hb
  have h := hw s L hr hs hb
  rw [Matches, Step.ask_bind]
  cases hq : q L with
  | ok a =>
    rw [hq] at h
    rw [Work.bind_ok h]
    exact hf a s L hr ht hs hb
  | error e =>
    rw [hq] at h
    exact Work.bind_error h f

end Performs

end Bookkeeping

import Bookkeeping.Proofs.Text.Identifier
import Bookkeeping.Row.Cell
import Bookkeeping.Row.Decode

/-! What a column of texts is read as, and reading some columns of a record one after the other. -/

namespace Bookkeeping

inductive Form
  | id
  | optionalId
  | named (names : List String) (reads : String → String → Prop) (unknown : DomainError)
  | currency

namespace Form

inductive Reads : Form → Option String → Option String → Prop
  | id {s : String} {u : Uuid} (h : Uuid.Spells s u) : Reads .id (some s) (some u.text)
  | absent : Reads .optionalId none none
  | optionalId {s : String} {u : Uuid} (h : Uuid.Spells s u) :
    Reads .optionalId (some s) (some u.text)
  | named {names : List String} {reads : String → String → Prop} {unknown : DomainError}
    {s name : String} (hname : name ∈ names) (h : reads s name) :
    Reads (.named names reads unknown) (some s) (some name)
  | currency {s : String} {letters : List Char} (h : Text.Pads s letters)
    (hlength : letters.length = 3) (halpha : ∀ c ∈ letters, c.isAlpha = true) :
    Reads .currency (some s) (some (String.ofList (letters.map Char.toUpper)))

def Readable (f : Form) (text : Option String) : Prop := ∃ canonical, f.Reads text canonical

def complaint (s : String) : Form → String
  | .id | .optionalId => s!"invalid id {s}"
  | .named _ _ unknown => unknown.message
  | .currency => DomainError.invalidCurrency.message

/-- A decoder of a form: a value is written in canonical form, and a failure tells the text. -/
structure Decoding (f : Form) (label : String) (text : Option String) (write : α → Option String)
    (x : Except InfraError α) : Prop where
  ok : ∀ a, x = .ok a → f.Reads text (write a)
  error : ∀ e, x = .error e →
    ¬f.Readable text ∧ ∃ s, text = some s ∧ e = .decode s!"{label}: {f.complaint s}"

theorem decodeId_cases (label s : String) :
    (∃ u, Uuid.Spells s u ∧ decodeId label s = .ok u) ∨ (∀ u, ¬Uuid.Spells s u) ∧
      decodeId label s = .error (.decode s!"{label}: {complaint s .id}") := by
  rw [decodeId]
  cases hu : Uuid.parse? s with
  | some u => exact .inl ⟨u, Uuid.parse?_eq_some_iff.1 hu, rfl⟩
  | none =>
    refine .inr ⟨fun u h => ?_, ?_⟩
    · cases hu.symm.trans (Uuid.parse?_eq_some_iff.2 h)
    · have hmark : ": invalid id " = ": " ++ "invalid id " := by decide
      simp only [complaint, toString, hmark, String.append_assoc]

namespace Decoding

variable {f : Form} {label : String} {text : Option String} {write : α → Option String}

theorem of_ok {a : α} (h : f.Reads text (write a)) : Decoding f label text write (.ok a) := by
  constructor
  · intro b hb
    cases hb
    exact h
  · intro e he
    cases he

theorem of_error {s : String} (h : ∀ canonical, ¬f.Reads (some s) canonical) :
    Decoding f label (some s) write (.error (.decode s!"{label}: {f.complaint s}")) := by
  constructor
  · intro b hb
    cases hb
  · intro e he
    cases he
    exact ⟨not_exists.2 h, s, rfl, rfl⟩

end Decoding

theorem decoding_id (label s : String) :
    Decoding .id label (some s) (fun u => some u.text) (decodeId label s) := by
  rcases decodeId_cases label s with ⟨u, hu, h⟩ | ⟨hs, h⟩
  · exact h ▸ .of_ok (.id hu)
  · refine h ▸ .of_error fun canonical hreads => ?_
    cases hreads with
    | id hu => exact hs _ hu

theorem decoding_optionalId (label : String) (text : Option String) :
    Decoding .optionalId label text (·.map Uuid.text) (decodeOptionalId label text) := by
  cases text with
  | none => exact .of_ok .absent
  | some s =>
    rw [decodeOptionalId]
    rcases decodeId_cases label s with ⟨u, hu, h⟩ | ⟨hs, h⟩
    · exact h ▸ .of_ok (.optionalId hu)
    · refine h ▸ .of_error fun canonical hreads => ?_
      cases hreads with
      | optionalId hu => exact hs _ hu

theorem decoding_currency (label s : String) :
    Decoding .currency label (some s) (fun c : Currency => some c.code)
      (decodeColumn label (Currency.parse s)) := by
  rw [Currency.parse]
  cases hc : Currency.parse? s with
  | some c =>
    obtain ⟨letters, hpads, hlength, halpha, hcode⟩ := Currency.parse?_eq_some_iff.1 hc
    exact .of_ok (hcode ▸ .currency hpads hlength halpha)
  | none =>
    refine .of_error fun canonical hreads => ?_
    cases hreads with
    | currency hpads hlength halpha =>
      obtain ⟨c, hcode⟩ := Currency.exists_code_eq hlength halpha
      cases hc.symm.trans (Currency.parse?_eq_some_iff.2 ⟨_, hpads, hlength, halpha, hcode⟩)

structure Knows (names : List String) (reads : String → String → Prop) (unknown : DomainError)
    (code : κ → String) (parse : String → Except DomainError κ) : Prop where
  ok : ∀ {s k}, parse s = .ok k → code k ∈ names ∧ reads s (code k)
  error : ∀ {s e}, parse s = .error e → e = unknown ∧ ∀ name ∈ names, ¬reads s name

theorem Knows.of_find {names : List String} {reads : String → String → Prop}
    {unknown : DomainError} {code : κ → String} {norm : String → String}
    {parse : String → Except DomainError κ} (all : List κ) (hnames : names = all.map code)
    (hreads : ∀ s k, norm s = code k ↔ reads s (code k))
    (hsome : ∀ s k, all.find? (code · == norm s) = some k → parse s = .ok k)
    (hnone : ∀ s, all.find? (code · == norm s) = none → parse s = .error unknown) :
    Knows names reads unknown code parse := by
  subst hnames
  constructor
  · intro s k h
    cases hfind : all.find? (code · == norm s) with
    | none => cases h.symm.trans (hnone s hfind)
    | some k' =>
      cases h.symm.trans (hsome s k' hfind)
      have hcode : code k = norm s := by simpa using List.find?_some hfind
      exact ⟨List.mem_map_of_mem (List.mem_of_find?_eq_some hfind), (hreads s k).1 hcode.symm⟩
  · intro s e h
    cases hfind : all.find? (code · == norm s) with
    | some k => cases h.symm.trans (hsome s k hfind)
    | none =>
      cases h.symm.trans (hnone s hfind)
      refine ⟨rfl, List.forall_mem_map.2 fun k hk hs => ?_⟩
      have hne : code k ≠ norm s := by simpa using List.find?_eq_none.1 hfind k hk
      exact hne ((hreads s k).2 hs).symm

theorem decoding_named {names : List String} {reads : String → String → Prop}
    {unknown : DomainError} {code : κ → String} {parse : String → Except DomainError κ}
    (hparse : Knows names reads unknown code parse) (label s : String) :
    Decoding (.named names reads unknown) label (some s) (fun k => some (code k))
      (decodeColumn label (parse s)) := by
  cases hs : parse s with
  | ok k =>
    obtain ⟨hname, hreads⟩ := hparse.ok hs
    exact .of_ok (.named hname hreads)
  | error e =>
    obtain ⟨rfl, hnone⟩ := hparse.error hs
    refine .of_error fun canonical hreads => ?_
    cases hreads with
    | named hname hreads => exact hnone _ hname hreads

end Form

structure Field where
  column : String
  form : Form

/-- A decoder that reads some columns in their order: it comes to a value of which `P` holds, or
stops at the first column that does not read. -/
inductive Read (table : String) (r : Record) (P : α → Prop) :
    List Field → Except InfraError α → Prop
  | done {a : α} (h : P a) : Read table r P [] (.ok a)
  | next {f : Field} {fields : List Field} {x : Except InfraError α}
    (hreads : f.form.Readable (r.text? f.column)) (h : Read table r P fields x) :
    Read table r P (f :: fields) x
  | stop {f : Field} {fields : List Field} {s : String} (htext : r.text? f.column = some s)
    (hreads : ¬f.form.Readable (some s)) :
    Read table r P (f :: fields)
      (.error (.decode s!"{table}.{f.column}: {f.form.complaint s}"))

namespace Read

variable {table : String} {r : Record} {P : β → Prop} {fields : List Field}

theorem bind {f : Field} {text : Option String} {write : α → Option String}
    {x : Except InfraError α} {k : α → Except InfraError β} {label : String}
    (h : f.form.Decoding label text write x) (hlabel : label = s!"{table}.{f.column}")
    (htext : r.text? f.column = text)
    (hk : ∀ a, f.form.Reads text (write a) → Read table r P fields (k a)) :
    Read table r P (f :: fields) (x >>= k) := by
  subst hlabel
  cases x with
  | ok a => exact .next ⟨write a, htext ▸ h.ok a rfl⟩ (hk a (h.ok a rfl))
  | error e =>
    obtain ⟨hreads, s, rfl, rfl⟩ := h.error e rfl
    exact .stop htext hreads

theorem ok_iff {x : Except InfraError β} (h : Read table r P fields x) :
    (∃ b, x = .ok b) ↔ ∀ f ∈ fields, f.form.Readable (r.text? f.column) := by
  induction h with
  | done => simp
  | next hreads _ ih => rw [ih, List.forall_mem_cons, and_iff_right hreads]
  | stop htext hreads => simp [htext, hreads]

theorem of_ok {x : Except InfraError β} (h : Read table r P fields x) {b : β} (hx : x = .ok b) :
    P b := by
  induction h with
  | done hb =>
    cases hx
    exact hb
  | next _ _ ih => exact ih hx
  | stop => cases hx

theorem of_error {x : Except InfraError β} (h : Read table r P fields x) {e : InfraError}
    (hx : x = .error e) :
    ∃ before f after s, fields = before ++ f :: after ∧
      (∀ g ∈ before, g.form.Readable (r.text? g.column)) ∧
      r.text? f.column = some s ∧ ¬f.form.Readable (some s) ∧
      e = .decode s!"{table}.{f.column}: {f.form.complaint s}" := by
  induction h with
  | done => cases hx
  | @next g _ _ hreads _ ih =>
    obtain ⟨before, f, after, s, rfl, hbefore, hf⟩ := ih hx
    exact ⟨g :: before, f, after, s, rfl, List.forall_mem_cons.2 ⟨hreads, hbefore⟩, hf⟩
  | @stop f fields s htext hreads =>
    cases hx
    exact ⟨[], f, fields, s, rfl, List.forall_mem_nil _, htext, hreads, rfl⟩

end Read

end Bookkeeping

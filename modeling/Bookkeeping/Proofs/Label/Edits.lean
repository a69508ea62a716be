import Bookkeeping.Proofs.InPlace.Basic
import Bookkeeping.Proofs.Label.TagNames

namespace Bookkeeping

open InPlace (ofDomain update)

namespace Changes

/-- Both edits in one: where the later one sets a field, it counts. -/
def andThen (first later : Changes) : Changes where
  name := later.name.or first.name
  look := {
    description := later.look.description.or first.look.description
    color := later.look.color.or first.look.color
    backgroundColor := later.look.backgroundColor.or first.look.backgroundColor }

structure Repeats (changes own : Changes) : Prop where
  name : ∀ text ∈ changes.name, own.name = some text
  description : ∀ text ∈ changes.look.description, own.look.description = some text
  color : ∀ text ∈ changes.look.color, own.look.color = some text
  backgroundColor : ∀ text ∈ changes.look.backgroundColor, own.look.backgroundColor = some text

end Changes

namespace Look

variable {l : Look} {old change : Option String}

theorem editField_editField (old first later : Option String) :
    editField (editField old first) later = editField old (later.or first) := by
  cases later <;> rfl

theorem tidyOption_tidyOption (text : Option String) :
    Text.tidyOption (Text.tidyOption text) = Text.tidyOption text := by
  cases text with
  | none => rfl
  | some text =>
    show (Text.tidy? text).bind Text.tidy? = Text.tidy? text
    cases h : Text.tidy? text with
    | none => rfl
    | some tidied => exact Text.tidy?_idem h

theorem tidyOption_editField (h : Text.tidyOption old = old) (change : Option String) :
    Text.tidyOption (editField old change) = editField old change := by
  cases change with
  | none => exact h
  | some text => exact tidyOption_tidyOption (some text)

theorem editField_of_repeats (h : Text.tidyOption old = old)
    (hchange : ∀ text ∈ change, old = some text) : editField old change = old := by
  cases change with
  | none => rfl
  | some text =>
    rw [hchange text rfl] at h ⊢
    exact h

theorem tidy_tidy (l : Look) : l.tidy.tidy = l.tidy := by
  simp only [tidy, tidyOption_tidyOption]

theorem tidy_edit (h : l.tidy = l) (changes : Look) : (l.edit changes).tidy = l.edit changes := by
  have hdescription := tidyOption_editField (congrArg description h) changes.description
  have hcolor := tidyOption_editField (congrArg color h) changes.color
  have hbackground := tidyOption_editField (congrArg backgroundColor h) changes.backgroundColor
  simp only [tidy, edit, hdescription, hcolor, hbackground]

theorem edit_edit (l : Look) (first later : Changes) :
    (l.edit first.look).edit later.look = l.edit (first.andThen later).look := by
  simp only [edit, Changes.andThen, editField_editField]

theorem edit_repeats (h : l.tidy = l) {name : Option String} {changes : Changes}
    (hchanges : changes.Repeats ⟨name, l⟩) : l.edit changes.look = l := by
  have hdescription := editField_of_repeats (congrArg description h) hchanges.description
  have hcolor := editField_of_repeats (congrArg color h) hchanges.color
  have hbackground := editField_of_repeats (congrArg backgroundColor h) hchanges.backgroundColor
  rw [edit, hdescription, hcolor, hbackground]

def editInPlace (changes : Look) : InPlace Look Unit := do
  if let some text := changes.description then
    modify ({ · with description := Text.tidyOption (some text) })
  if let some text := changes.color then
    modify ({ · with color := Text.tidyOption (some text) })
  if let some text := changes.backgroundColor then
    modify ({ · with backgroundColor := Text.tidyOption (some text) })

theorem editInPlace_eq (changes : Look) :
    editInPlace changes = update fun l => .ok (l.edit changes) := by
  obtain ⟨description, color, background⟩ := changes
  cases description <;> cases color <;> cases background <;> rfl

end Look

structure Naming (ν : Type) where
  parse : String → Except DomainError ν
  spell : ν → String
  empty : DomainError
  parse_spell : ∀ text name, parse text = .ok name → parse (spell name) = .ok name
  parse_blank : ∀ text, (∀ c ∈ text.toList, Text.isBlank c = true) → parse text = .error empty

structure Caption (ν : Type) where
  name : ν
  look : Look
  updatedAt : Instant

namespace Caption

def lookPart (ν : Type) : Part (Caption ν) Look where
  get c := c.look
  set l c := { c with look := l }
  get_set _ _ := rfl
  set_get _ := rfl
  set_set _ _ _ := rfl

variable (naming : Naming ν)

def editInPlace (changes : Changes) (now : Instant) : InPlace (Caption ν) Unit := do
  if let some text := changes.name then
    let name ← ofDomain (naming.parse text)
    modify ({ · with name })
  (lookPart ν).on (Look.editInPlace changes.look)
  modify ({ · with updatedAt := now })

def renamed (old : ν) : Option String → Except DomainError ν
  | none => .ok old
  | some text => naming.parse text

def edit (changes : Changes) (now : Instant) (c : Caption ν) : Except DomainError (Caption ν) :=
  (renamed naming c.name changes.name).map fun name =>
    ⟨name, c.look.edit changes.look, now⟩

theorem editInPlace_eq (changes : Changes) (now : Instant) :
    editInPlace naming changes now =
      update fun c => (edit naming changes now c).mapError .domain := by
  funext c
  obtain ⟨name, look⟩ := changes
  rw [editInPlace, Look.editInPlace_eq, Part.on_update]
  cases name with
  | none => rfl
  | some text =>
    rw [update, edit, renamed]
    dsimp only
    cases naming.parse text <;> rfl

variable {naming} {changes first : Changes} {now : Instant} {c c' d : Caption ν}

theorem edit_ok : edit naming changes now c = .ok c' ↔
    ∃ name, renamed naming c.name changes.name = .ok name ∧
      ⟨name, c.look.edit changes.look, now⟩ = c' := by
  rw [edit]
  cases renamed naming c.name changes.name <;> simp [Except.map]

theorem edit_of_edit (h : edit naming changes now c = .ok d) (now' : Instant) (c' : Caption ν) :
    ∃ d', edit naming changes now' c' = .ok d' := by
  obtain ⟨name, hname, -⟩ := edit_ok.1 h
  cases hchange : changes.name with
  | none => exact ⟨_, edit_ok.2 ⟨c'.name, by rw [hchange, renamed], rfl⟩⟩
  | some text =>
    rw [hchange] at hname
    exact ⟨_, edit_ok.2 ⟨name, by rwa [hchange], rfl⟩⟩

theorem edit_edit (h : edit naming first now c = .ok c') (later : Changes) (now' : Instant) :
    edit naming later now' c' = edit naming (first.andThen later) now' c := by
  obtain ⟨name, hname, rfl⟩ := edit_ok.1 h
  have hrenamed : renamed naming name later.name =
      renamed naming c.name (first.andThen later).name := by
    rw [Changes.andThen]
    cases later.name with
    | none => exact hname.symm
    | some text => rfl
  rw [edit, edit, hrenamed, Look.edit_edit]

theorem edit_blank {text : String} (hname : text ∈ changes.name)
    (hblank : ∀ c ∈ text.toList, Text.isBlank c = true) :
    edit naming changes now c = .error naming.empty := by
  rw [edit, show changes.name = some text from hname, renamed, naming.parse_blank text hblank]
  rfl

variable (naming) in
structure Proper (c : Caption ν) : Prop where
  name : naming.parse (naming.spell c.name) = .ok c.name
  look : c.look.tidy = c.look

theorem Proper.edit (hc : Proper naming c) (h : edit naming changes now c = .ok c') :
    Proper naming c' := by
  obtain ⟨name, hname, rfl⟩ := edit_ok.1 h
  refine ⟨?_, Look.tidy_edit hc.look changes.look⟩
  cases hchange : changes.name with
  | none =>
    rw [hchange] at hname
    cases hname
    exact hc.name
  | some text =>
    rw [hchange] at hname
    exact naming.parse_spell text name hname

theorem Proper.edit_repeats (hc : Proper naming c)
    (h : changes.Repeats ⟨some (naming.spell c.name), c.look⟩) (now : Instant) :
    Caption.edit naming changes now c = .ok { c with updatedAt := now } := by
  refine edit_ok.2 ⟨c.name, ?_, ?_⟩
  · cases hchange : changes.name with
    | none => rfl
    | some text =>
      cases h.name text hchange
      exact hc.name
  · rw [Look.edit_repeats hc.look h]

end Caption

section Laws

variable {σ : Type} (new : σ → Prop) (edit : Changes → Instant → InPlace σ Unit)

/-- What comes of something new by edits that succeed. -/
inductive Built : σ → Prop
  | new {e : σ} (h : new e) : Built e
  | edited {e e' : σ} (h : Built e) {changes : Changes} {now : Instant}
    (he : edit changes now e = (.ok (), e')) : Built e'

structure EditLaws (apply : σ → Changes → Instant → Except DomainError σ) (own : σ → Changes)
    (touch : Instant → σ → σ) (empty : DomainError) : Prop where
  agrees : ∀ changes now, edit changes now = update fun e => (apply e changes now).mapError .domain
  accepts : ∀ e e' changes now now', (edit changes now e).1 = .ok () →
    (edit changes now' e').1 = .ok ()
  twice : ∀ e first now e₁, edit first now e = (.ok (), e₁) → ∀ later now' e₂,
    edit later now' e₁ = (.ok (), e₂) ↔ edit (first.andThen later) now' e = (.ok (), e₂)
  repeated : ∀ e, Built new edit e → ∀ changes now, changes.Repeats (own e) →
    edit changes now e = (.ok (), touch now e)
  blank : ∀ e changes now, ∀ text ∈ changes.name, (∀ c ∈ text.toList, Text.isBlank c = true) →
    edit changes now e = (.error (.domain empty), e)

end Laws

namespace Part

variable {σ ν : Type} (caption : Part σ (Caption ν)) (naming : Naming ν)

def edit (changes : Changes) (now : Instant) : InPlace σ Unit :=
  caption.on (Caption.editInPlace naming changes now)

theorem edit_eq (changes : Changes) (now : Instant) : caption.edit naming changes now =
    update fun e => ((Caption.edit naming changes now (caption.get e)).map
      (caption.set · e)).mapError .domain := by
  rw [edit, Caption.editInPlace_eq, on_update]
  congr 1
  funext e
  cases Caption.edit naming changes now (caption.get e) <;> rfl

variable {caption naming} {changes : Changes} {now : Instant} {e e' : σ}

theorem edit_ok : caption.edit naming changes now e = (.ok (), e') ↔
    ∃ c, Caption.edit naming changes now (caption.get e) = .ok c ∧ caption.set c e = e' := by
  rw [edit_eq, InPlace.update_ok]
  cases Caption.edit naming changes now (caption.get e) <;> simp [Except.map, Except.mapError]

theorem proper_of_built {new : σ → Prop}
    (hnew : ∀ e, new e → Caption.Proper naming (caption.get e))
    (h : Built new (caption.edit naming) e) : Caption.Proper naming (caption.get e) := by
  induction h with
  | new h => exact hnew _ h
  | edited _ he ih =>
    obtain ⟨c, hc, rfl⟩ := edit_ok.1 he
    rw [caption.get_set]
    exact ih.edit hc

theorem editLaws {new : σ → Prop} {apply : σ → Changes → Instant → Except DomainError σ}
    (hnew : ∀ e, new e → Caption.Proper naming (caption.get e))
    (happly : ∀ e changes now, apply e changes now =
      (Caption.edit naming changes now (caption.get e)).map (caption.set · e)) :
    EditLaws new (caption.edit naming) apply
      (fun e => ⟨some (naming.spell (caption.get e).name), (caption.get e).look⟩)
      (fun now e => caption.set { caption.get e with updatedAt := now } e) naming.empty where
  agrees changes now := by
    rw [edit_eq]
    congr 1
    funext e
    rw [happly]
  accepts e e' changes now now' h := by
    obtain ⟨c, hc, -⟩ := edit_ok.1 (Prod.ext h rfl)
    obtain ⟨c', hc'⟩ := Caption.edit_of_edit hc now' (caption.get e')
    rw [edit_ok.2 ⟨c', hc', rfl⟩]
  twice e first now e₁ h later now' e₂ := by
    obtain ⟨c, hc, rfl⟩ := edit_ok.1 h
    rw [edit_ok, edit_ok, caption.get_set, Caption.edit_edit hc]
    simp only [caption.set_set]
  repeated e he changes now h :=
    edit_ok.2 ⟨_, (proper_of_built hnew he).edit_repeats h now, rfl⟩
  blank e changes now text hname hblank := by
    rw [edit_eq, update, Caption.edit_blank hname hblank]
    rfl

end Part

namespace Category

def parseName (text : String) : Except DomainError String :=
  match Text.tidy? text with
  | none => .error .categoryNameEmpty
  | some name => .ok name

theorem parseName_ok {text name : String} :
    parseName text = .ok name ↔ Text.tidy? text = some name := by
  rw [parseName]
  cases Text.tidy? text <;> simp

def naming : Naming String where
  parse := parseName
  spell name := name
  empty := .categoryNameEmpty
  parse_spell text name h := parseName_ok.2 (Text.tidy?_idem (parseName_ok.1 h))
  parse_blank text h := by rw [parseName, (Text.tidy?_eq_none_iff text).2 h]

def caption : Part Category (Caption String) where
  get c := ⟨c.name, c.look, c.updatedAt⟩
  set p c := { c with name := p.name, look := p.look, updatedAt := p.updatedAt }
  get_set _ _ := rfl
  set_get _ := rfl
  set_set _ _ _ := rfl

def editInPlace : Changes → Instant → InPlace Category Unit := caption.edit naming

theorem proper_of_new {cmd : NewCategory} {id : Uuid} {now : Instant} {c : Category}
    (h : new cmd id now = .ok c) : Caption.Proper naming (caption.get c) := by
  rw [new] at h
  split at h
  · cases h
  · rename_i name hname
    cases h
    exact ⟨naming.parse_spell cmd.name name (parseName_ok.2 hname), Look.tidy_tidy cmd.look⟩

theorem apply_eq (c : Category) (changes : Changes) (now : Instant) : c.apply changes now =
    (Caption.edit naming changes now (caption.get c)).map (caption.set · c) := by
  rw [apply, Caption.edit]
  cases changes.name with
  | none => rfl
  | some text =>
    rw [Caption.renamed, naming]
    dsimp only
    rw [parseName]
    cases Text.tidy? text <;> rfl

end Category

namespace Tag

def naming : Naming TagName where
  parse := TagName.parse
  spell n := n.display
  empty := .tagNameEmpty
  parse_spell text name h := by
    have hproper := TagName.isProper_of_parse h
    exact TagName.parse_ok.2 ⟨name.display, hproper.display, by rw [← hproper.key]⟩
  parse_blank text h := by rw [TagName.parse, (Text.tidy?_eq_none_iff text).2 h]

def caption : Part Tag (Caption TagName) where
  get t := ⟨t.name, t.look, t.updatedAt⟩
  set p t := { t with name := p.name, look := p.look, updatedAt := p.updatedAt }
  get_set _ _ := rfl
  set_get _ := rfl
  set_set _ _ _ := rfl

def editInPlace : Changes → Instant → InPlace Tag Unit := caption.edit naming

theorem look_of_new {cmd : NewTag} {id : Uuid} {now : Instant} {t : Tag}
    (h : new cmd id now = .ok t) : t.look = cmd.look.tidy := by
  obtain ⟨-, hname, hkind⟩ := new_ok h
  rw [new, hname, hkind] at h
  exact (congrArg look (Except.ok.inj h)).symm

theorem proper_of_new {cmd : NewTag} {id : Uuid} {now : Instant} {t : Tag}
    (h : new cmd id now = .ok t) : Caption.Proper naming (caption.get t) where
  name := naming.parse_spell cmd.name t.name (new_ok h).2.1
  look := by
    show t.look.tidy = t.look
    rw [look_of_new h, Look.tidy_tidy]

theorem apply_eq (t : Tag) (changes : Changes) (now : Instant) : t.apply changes now =
    (Caption.edit naming changes now (caption.get t)).map (caption.set · t) := by
  rw [apply, Caption.edit]
  cases changes.name with
  | none => rfl
  | some text =>
    rw [Caption.renamed, naming]
    dsimp only
    cases TagName.parse text <;> rfl

end Tag

/-- Categories and tags take two edits as one, in which the later one counts where it sets a field.
What they say already can be written back without a change, and a blank name is refused without a
trace, whatever else is to be set. -/
theorem edits_of_labels :
    EditLaws (fun c => ∃ cmd id now, Category.new cmd id now = .ok c) Category.editInPlace
      Category.apply (fun c => ⟨some c.name, c.look⟩) (fun now c => { c with updatedAt := now })
      .categoryNameEmpty ∧
    EditLaws (fun t => ∃ cmd id now, Tag.new cmd id now = .ok t) Tag.editInPlace
      Tag.apply (fun t => ⟨some t.name.display, t.look⟩) (fun now t => { t with updatedAt := now })
      .tagNameEmpty := by
  constructor
  · refine Part.editLaws ?_ Category.apply_eq
    rintro c ⟨cmd, id, now, h⟩
    exact Category.proper_of_new h
  · refine Part.editLaws ?_ Tag.apply_eq
    rintro t ⟨cmd, id, now, h⟩
    exact Tag.proper_of_new h

end Bookkeeping

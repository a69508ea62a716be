import Bookkeeping.Proofs.Diagnosis.Naming

namespace Bookkeeping.Diagnosis

open Text

section Places

variable {cs name : List Char}

theorem not_announces_nil : ¬Announces [] name := by
  intro h
  have hnone := announcedName?_eq_some_iff.2 h
  cases hnone

theorem announces_unique {other : List Char} (h : Announces cs name) (h' : Announces cs other) :
    name = other := by
  have hsame := (announcedName?_eq_some_iff.2 h).symm.trans (announcedName?_eq_some_iff.2 h')
  exact Option.some.inj hsame

theorem names_iff : Names cs name ↔ ∃ before rest, cs = before ++ rest ∧ Announces rest name ∧
    ∀ before' rest' other, cs = before' ++ rest' → Announces rest' other →
      before.length ≤ before'.length := by
  constructor
  · intro h
    induction h with
    | here h => exact ⟨[], _, rfl, h, fun _ _ _ _ _ => Nat.zero_le _⟩
    | @later c cs name hc _ ih =>
      obtain ⟨before, rest, rfl, hrest, hfirst⟩ := ih
      refine ⟨c :: before, rest, rfl, hrest, fun before' rest' other hsplit hother => ?_⟩
      cases before' with
      | nil =>
        obtain rfl : c :: (before ++ rest) = rest' := hsplit
        exact absurd hother (hc other)
      | cons d before' =>
        exact Nat.succ_le_succ (hfirst before' rest' other (List.cons.inj hsplit).2 hother)
  · rintro ⟨before, rest, rfl, hrest, hfirst⟩
    induction before with
    | nil => exact .here hrest
    | cons c before ih =>
      refine .later (fun other hother => ?_) (ih fun before' rest' other hsplit hother => ?_)
      · exact absurd (hfirst [] _ other rfl hother) (Nat.not_succ_le_zero _)
      · exact Nat.le_of_succ_le_succ
          (hfirst (c :: before') rest' other (congrArg (c :: ·) hsplit) hother)

theorem findName?_eq_none_iff : findName? cs = none ↔
    ∀ before rest name, cs = before ++ rest → ¬Announces rest name := by
  induction cs with
  | nil =>
    refine iff_of_true rfl fun before rest name hsplit => ?_
    rw [(List.append_eq_nil_iff.1 hsplit.symm).2]
    exact not_announces_nil
  | cons c cs ih =>
    rw [findName?]
    constructor
    · intro h before rest name hsplit hname
      cases hc : announcedName? (c :: cs) with
      | some other =>
        rw [hc] at h
        cases h
      | none =>
        rw [hc] at h
        cases before with
        | nil =>
          obtain rfl : c :: cs = rest := hsplit
          rw [announcedName?_eq_some_iff.2 hname] at hc
          cases hc
        | cons d before => exact ih.1 h before rest name (List.cons.inj hsplit).2 hname
    · intro h
      have hc : announcedName? (c :: cs) = none :=
        Option.eq_none_iff_forall_ne_some.2 fun name hname =>
          h [] (c :: cs) name rfl (announcedName?_eq_some_iff.1 hname)
      rw [hc]
      exact ih.2 fun before rest name hsplit =>
        h (c :: before) rest name (congrArg (c :: ·) hsplit)

end Places

/-- A place where a message announces a name: the keyword, white space, and the name between quotes,
which need not be of one kind. -/
structure Announcement (message : String) where
  before : List Char
  blanks : List Char
  opening : Char
  name : List Char
  closing : Char
  rest : List Char
  whole : message.toList =
    before ++ ("CONSTRAINT".toList ++ (blanks ++ opening :: (name ++ closing :: rest)))
  blanks_ne_nil : blanks ≠ []
  isBlank_of_mem_blanks : ∀ c ∈ blanks, isBlank c = true
  isQuote_opening : isQuote opening = true
  isQuote_closing : isQuote closing = true
  name_ne_nil : name ≠ []
  not_isQuote_of_mem_name : ∀ c ∈ name, isQuote c = false

namespace Announcement

variable {message : String}

theorem announces (a : Announcement message) :
    ∃ rest, message.toList = a.before ++ rest ∧ Announces rest a.name :=
  ⟨_, a.whole, .mk ⟨a.blanks_ne_nil, a.isBlank_of_mem_blanks⟩
    ⟨a.name_ne_nil, a.not_isQuote_of_mem_name⟩ a.isQuote_opening a.isQuote_closing⟩

theorem exists_of_announces {before rest name : List Char}
    (hwhole : message.toList = before ++ rest) (h : Announces rest name) :
    ∃ a : Announcement message, a.before = before ∧ a.name = name := by
  obtain ⟨hblanks, hname, hopening, hclosing⟩ := h
  exact ⟨⟨before, _, _, name, _, _, hwhole, hblanks.1, hblanks.2, hopening, hclosing, hname.1,
    hname.2⟩, rfl, rfl⟩

def IsFirst (a : Announcement message) : Prop :=
  ∀ b : Announcement message, a.before.length ≤ b.before.length

theorem name_unique {a b : Announcement message} (h : a.before.length = b.before.length) :
    a.name = b.name := by
  obtain ⟨rest, hwhole, hname⟩ := a.announces
  obtain ⟨rest', hwhole', hname'⟩ := b.announces
  obtain ⟨-, rfl⟩ := List.append_inj (hwhole.symm.trans hwhole') h
  exact announces_unique hname hname'

theorem constraintName?_eq_some_iff_first {name : String} : constraintName? message = some name ↔
    ∃ a : Announcement message, a.IsFirst ∧ a.name = name.toList := by
  rw [constraintName?_eq_some_iff, names_iff]
  constructor
  · rintro ⟨before, rest, hwhole, hname, hfirst⟩
    obtain ⟨a, rfl, hname⟩ := exists_of_announces hwhole hname
    refine ⟨a, fun b => ?_, hname⟩
    obtain ⟨rest', hwhole', hname'⟩ := b.announces
    exact hfirst b.before rest' b.name hwhole' hname'
  · rintro ⟨a, hfirst, hname⟩
    obtain ⟨rest, hwhole, hannounces⟩ := a.announces
    refine ⟨a.before, rest, hwhole, hname ▸ hannounces, ?_⟩
    intro before' rest' other hwhole' hother
    obtain ⟨b, rfl, -⟩ := exists_of_announces hwhole' hother
    exact hfirst b

theorem constraintName?_eq_none_iff :
    constraintName? message = none ↔ IsEmpty (Announcement message) := by
  rw [constraintName?, Option.map_eq_none_iff, findName?_eq_none_iff, isEmpty_iff]
  constructor
  · intro h a
    obtain ⟨rest, hwhole, hname⟩ := a.announces
    exact h a.before rest a.name hwhole hname
  · intro h before rest name hwhole hname
    obtain ⟨a, -⟩ := exists_of_announces hwhole hname
    exact h a

end Announcement

/-- The name read off a message is the one that it announces first, and there is none exactly if the
message announces nothing. One place announces one name. -/
theorem first_announced_name (message : String) :
    (∀ name : String, constraintName? message = some name ↔
      ∃ a : Announcement message, a.IsFirst ∧ a.name = name.toList) ∧
    (∀ a b : Announcement message, a.before.length = b.before.length → a.name = b.name) ∧
    (constraintName? message = none ↔ IsEmpty (Announcement message)) :=
  ⟨fun _ => Announcement.constraintName?_eq_some_iff_first, fun _ _ => Announcement.name_unique,
    Announcement.constraintName?_eq_none_iff⟩

example : constraintName? "CONSTRAINT `` CONSTRAINT x 'CONSTRAINT'CONSTRAINT \"fk_x` ..." =
    some "fk_x" := by
  decide +kernel

end Bookkeeping.Diagnosis

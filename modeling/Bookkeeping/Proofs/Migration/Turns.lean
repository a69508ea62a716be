import Bookkeeping.Proofs.Guards.Naming

/-! Guards come and go. The statements that create the triggers of a key and the names by which its
triggers are dropped are written apart, and agree: after any turns up and down the guards are all
there or all gone, as the last turn has it, and nothing else has changed. -/

namespace Bookkeeping

open Schema (sameName)

namespace Schema

theorem sameName_iff {a b : String} :
    sameName a b = true ↔ a.toList.map Char.toLower = b.toList.map Char.toLower := beq_iff_eq

@[simp] theorem sameName_self (a : String) : sameName a a = true := sameName_iff.2 rfl

theorem sameName_comm (a b : String) : sameName a b = sameName b a := Bool.beq_comm

end Schema

namespace ForeignKey

variable {k k' : ForeignKey} {e e' : GuardEvent} {keys : List ForeignKey}

def guardNames (keys : List ForeignKey) : List String := keys.flatMap (·.triggerNames)

def guardStatements (keys : List ForeignKey) : List String := keys.flatMap (·.createTriggers)

/-- Keys whose names can be written in statements, and are told apart in any letter case. -/
structure Distinct (keys : List ForeignKey) : Prop where
  identifiers : ∀ k ∈ keys, isIdentifier k.name = true
  apart : (keys.map (·.name)).Pairwise fun a b => sameName a b = false

/-- All suffixes are of one length, so that a name and a suffix can be read off what they make. -/
theorem sameName_triggerName : sameName (k.triggerName e) (k'.triggerName e') = true ↔
    sameName k.name k'.name = true ∧ e = e' := by
  have hlength (e : GuardEvent) : (('_' :: e.label.toList).map Char.toLower).length = 7 := by
    cases e <;> decide +kernel
  have hlabel : ('_' :: e.label.toList).map Char.toLower =
      ('_' :: e'.label.toList).map Char.toLower ↔ e = e' := by
    cases e <;> cases e' <;> decide +kernel
  rw [Schema.sameName_iff, Schema.sameName_iff, toList_triggerName, toList_triggerName]
  simp only [List.map_append, List.append_cancel_left_eq]
  rw [← hlabel]
  constructor
  · exact fun h => List.append_inj' h ((hlength e).trans (hlength e').symm)
  · rintro ⟨hname, hlabel⟩
    rw [hname, hlabel]

theorem map_triggerOf?_createTriggers (h : isIdentifier k.name = true) :
    k.createTriggers.map (fun statement => (Schema.triggerOf? statement).map (·.name)) =
      k.triggerNames.map some := by
  rw [createTriggers_eq, triggerNames_eq, List.map_map, List.map_map]
  refine List.map_congr_left fun e _ => ?_
  obtain ⟨table, htrigger⟩ := triggerOf?_createTrigger e h
  simp only [Function.comp_apply, htrigger, Option.map_some]

theorem Distinct.guardNames (h : Distinct keys) :
    (guardNames keys).Pairwise fun a b => sameName a b = false := by
  refine List.pairwise_flatMap.2 ⟨fun k _ => ?_, ?_⟩
  · have hevents : k.guardEvents.Pairwise (· ≠ ·) := by
      rw [guardEvents]
      split <;> decide
    rw [triggerNames_eq]
    refine List.pairwise_map.2 (hevents.imp fun hne => ?_)
    rw [← Bool.not_eq_true, sameName_triggerName]
    exact fun hsame => hne hsame.2
  · refine (List.pairwise_map.1 h.apart).imp fun hne a ha b hb => ?_
    rw [triggerNames_eq] at ha hb
    obtain ⟨e, -, rfl⟩ := List.mem_map.1 ha
    obtain ⟨e', -, rfl⟩ := List.mem_map.1 hb
    rw [← Bool.not_eq_true, sameName_triggerName, hne]
    exact fun hsame => Bool.false_ne_true hsame.1

end ForeignKey

namespace Schema

open ForeignKey (guardNames guardStatements Distinct)

variable {keys : List ForeignKey} {s : Schema}

def created (statements : List String) : List Attachment := statements.filterMap triggerOf?

theorem map_name_created (h : ∀ k ∈ keys, isIdentifier k.name = true) :
    (created (guardStatements keys)).map (·.name) = guardNames keys := by
  have hkey : ∀ k ∈ keys, k.createTriggers.filterMap (fun statement =>
      (triggerOf? statement).map (·.name)) = k.triggerNames := fun k hk => by
    have hnames := congrArg (List.filterMap id) (ForeignKey.map_triggerOf?_createTriggers (h k hk))
    rwa [List.filterMap_map, List.filterMap_map, Function.id_comp, Function.id_comp,
      List.filterMap_some] at hnames
  rw [created, guardStatements, guardNames, List.map_filterMap, List.filterMap_flatMap]
  exact List.flatMap_congr hkey

def attachAll (new present : List Attachment) : List Attachment :=
  new.foldl (fun present a => attach a present) present

theorem createTriggers_eq (statements : List String) (s : Schema) :
    statements.foldl createTrigger s =
      { s with triggers := attachAll (created statements) s.triggers } := by
  induction statements generalizing s with
  | nil => rfl
  | cons statement statements ih =>
    rw [List.foldl_cons, ih, created, created, createTrigger]
    cases htrigger : triggerOf? statement with
    | none => rw [List.filterMap_cons_none htrigger]
    | some trigger =>
      rw [List.filterMap_cons_some htrigger]
      rfl

section Attach

variable {new present : List Attachment}

theorem attachAll_of_present (h : ∀ a ∈ new, present.any (sameName a.name ·.name) = true) :
    attachAll new present = present := by
  induction new with
  | nil => rfl
  | cons a new ih =>
    obtain ⟨ha, hnew⟩ := List.forall_mem_cons.1 h
    have hkept : attach a present = present := by rw [attach, if_pos ha]
    rw [attachAll, List.foldl_cons, hkept]
    exact ih hnew

theorem attachAll_of_absent (hapart : (new.map (·.name)).Pairwise fun a b => sameName a b = false)
    (habsent : ∀ name ∈ new.map (·.name), present.any (sameName name ·.name) = false) :
    attachAll new present = present ++ new := by
  induction new generalizing present with
  | nil => exact (List.append_nil present).symm
  | cons a new ih =>
    rw [List.map_cons] at hapart habsent
    obtain ⟨ha, hapart⟩ := List.pairwise_cons.1 hapart
    obtain ⟨htaken, habsent⟩ := List.forall_mem_cons.1 habsent
    have hattach : attach a present = present ++ [a] := by
      rw [attach, htaken]
      rfl
    have hrest : ∀ name ∈ new.map (·.name),
        (present ++ [a]).any (sameName name ·.name) = false := fun name hname => by
      rw [List.any_append, habsent name hname, Bool.false_or, List.any_cons, List.any_nil,
        Bool.or_false, sameName_comm]
      exact ha name hname
    rw [attachAll, List.foldl_cons, hattach]
    exact (ih hapart hrest).trans (by simp)

theorem filter_attachAll {p : Attachment → Bool} (h : ∀ a ∈ new, p a = false) :
    (attachAll new present).filter p = present.filter p := by
  induction new generalizing present with
  | nil => rfl
  | cons a new ih =>
    obtain ⟨ha, hnew⟩ := List.forall_mem_cons.1 h
    have hattach : (attach a present).filter p = present.filter p := by
      rw [attach]
      split
      · rfl
      · simp [ha]
    exact (ih hnew).trans hattach

end Attach

def Full (keys : List ForeignKey) (s : Schema) : Prop :=
  ∀ name ∈ guardNames keys, s.triggers.any (sameName name ·.name) = true

def Bare (keys : List ForeignKey) (s : Schema) : Prop :=
  ∀ name ∈ guardNames keys, s.triggers.any (sameName name ·.name) = false

def missing (keys : List ForeignKey) (s : Schema) : List String :=
  (guardNames keys).filter fun name => !(s.triggers.map (·.name)).contains name

section Up

theorem createGuards_eq (keys : List ForeignKey) (s : Schema) : createGuards keys s =
    { s with triggers := attachAll (created (guardStatements keys)) s.triggers } :=
  createTriggers_eq (guardStatements keys) s

theorem present_createGuards {a : Attachment} (ha : a ∈ created (guardStatements keys))
    (s : Schema) : (createGuards keys s).triggers.any (sameName a.name ·.name) = true := by
  obtain ⟨statement, hmem, htrigger⟩ := List.mem_filterMap.1 ha
  exact any_createTriggers_of_mem hmem htrigger s

theorem createGuards_createGuards (keys : List ForeignKey) (s : Schema) :
    createGuards keys (createGuards keys s) = createGuards keys s := by
  rw [createGuards_eq keys (createGuards keys s),
    attachAll_of_present fun a ha => present_createGuards ha s]

theorem createGuards_of_bare (hkeys : Distinct keys) (hbare : Bare keys s) :
    createGuards keys s =
      { s with triggers := s.triggers ++ created (guardStatements keys) } := by
  have hnames := map_name_created hkeys.identifiers
  rw [createGuards_eq, attachAll_of_absent (hnames ▸ hkeys.guardNames) (hnames ▸ hbare)]

theorem full_createGuards (h : ∀ k ∈ keys, isIdentifier k.name = true) (s : Schema) :
    Full keys (createGuards keys s) := by
  intro name hname
  rw [← map_name_created h] at hname
  obtain ⟨a, ha, rfl⟩ := List.mem_map.1 hname
  exact present_createGuards ha s

theorem missing_createGuards (hkeys : Distinct keys) (hbare : Bare keys s) :
    missing keys (createGuards keys s) = [] := by
  refine List.filter_eq_nil_iff.2 fun name hname => ?_
  rw [Bool.not_eq_true', Bool.not_eq_false, List.contains_iff_mem,
    createGuards_of_bare hkeys hbare, List.map_append, map_name_created hkeys.identifiers]
  exact List.mem_append_right _ hname

end Up

section Down

def others (keys : List ForeignKey) (s : Schema) : List Attachment :=
  s.triggers.filter fun a => !(guardNames keys).any (sameName · a.name)

section Named

variable (h : ∀ k ∈ keys, isIdentifier k.name = true)

include h

theorem dropGuards_eq (s : Schema) : dropGuards keys s = { s with triggers := others keys s } :=
  foldl_dropTrigger (isIdentifier_of_mem h) s

theorem bare_dropGuards (s : Schema) : Bare keys (dropGuards keys s) := by
  rw [dropGuards_eq h]
  refine fun name hname => List.any_eq_false.2 fun a ha hsame => ?_
  have hkept := (List.mem_filter.1 ha).2
  rw [Bool.not_eq_true', List.any_eq_false] at hkept
  exact hkept name hname hsame

theorem dropGuards_of_bare (hbare : Bare keys s) : dropGuards keys s = s := by
  have hkept : others keys s = s.triggers := by
    refine List.filter_eq_self.2 fun a ha => ?_
    rw [Bool.not_eq_true', List.any_eq_false]
    exact fun name hname hsame => List.any_eq_false.1 (hbare name hname) a ha hsame
  rw [dropGuards_eq h, hkept]

theorem dropGuards_createGuards (s : Schema) :
    dropGuards keys (createGuards keys s) = dropGuards keys s := by
  have hothers : others keys (createGuards keys s) = others keys s := by
    rw [createGuards_eq]
    refine filter_attachAll fun a ha => ?_
    have hname : a.name ∈ guardNames keys := by
      rw [← map_name_created h]
      exact List.mem_map_of_mem ha
    rw [Bool.not_eq_false', List.any_eq_true]
    exact ⟨a.name, hname, sameName_self a.name⟩
  rw [dropGuards_eq h, hothers, dropGuards_eq h, createGuards_eq]

end Named

theorem missing_of_bare (hbare : Bare keys s) : missing keys s = guardNames keys := by
  refine List.filter_eq_self.2 fun name hname => ?_
  rw [Bool.not_eq_true', ← Bool.not_eq_true, List.contains_iff_mem]
  intro hmem
  obtain ⟨a, ha, rfl⟩ := List.mem_map.1 hmem
  exact List.any_eq_false.1 (hbare a.name hname) a ha (sameName_self a.name)

end Down

section Turns

inductive Turn
  | up
  | down
  deriving DecidableEq, Repr

def turn (keys : List ForeignKey) (s : Schema) : Turn → Schema
  | .up => createGuards keys s
  | .down => dropGuards keys s

def turns (keys : List ForeignKey) (s : Schema) (ts : List Turn) : Schema :=
  ts.foldl (turn keys) s

theorem turns_concat (keys : List ForeignKey) (s : Schema) (ts : List Turn) (t : Turn) :
    turns keys s (ts ++ [t]) = turn keys (turns keys s ts) t := by
  rw [turns, List.foldl_append]
  rfl

theorem dropGuards_turn (h : ∀ k ∈ keys, isIdentifier k.name = true) (s : Schema) (t : Turn) :
    dropGuards keys (turn keys s t) = dropGuards keys s := by
  cases t with
  | up => exact dropGuards_createGuards h s
  | down => exact dropGuards_of_bare h (bare_dropGuards h s)

theorem dropGuards_turns (h : ∀ k ∈ keys, isIdentifier k.name = true) (s : Schema)
    (ts : List Turn) : dropGuards keys (turns keys s ts) = dropGuards keys s := by
  induction ts using List.reverseRecOn with
  | nil => rfl
  | append_singleton ts t ih => rw [turns_concat, dropGuards_turn h, ih]

variable (hkeys : Distinct keys) (hbare : Bare keys s)

include hkeys hbare

theorem turn_turn (t t' : Turn) : turn keys (turn keys s t) t' = turn keys s t' := by
  cases t with
  | up =>
    cases t' with
    | up => exact createGuards_createGuards keys s
    | down => exact dropGuards_createGuards hkeys.identifiers s
  | down => rw [turn, dropGuards_of_bare hkeys.identifiers hbare]

theorem turns_last (ts : List Turn) (t : Turn) : turns keys s (ts ++ [t]) = turn keys s t := by
  induction ts using List.reverseRecOn generalizing t with
  | nil => rfl
  | append_singleton ts t' ih => rw [turns_concat, ih, turn_turn hkeys hbare]

theorem turns_eq (ts : List Turn) : turns keys s ts =
    match ts.getLast? with
    | some .up => createGuards keys s
    | some .down | none => s := by
  induction ts using List.reverseRecOn with
  | nil => rfl
  | append_singleton ts t =>
    rw [turns_last hkeys hbare, List.getLast?_concat]
    cases t with
    | up => rfl
    | down => exact dropGuards_of_bare hkeys.identifiers hbare

end Turns

/-- Guards come and go. The triggers that the statements create are called as the keys list them, no
two alike. Turns of either kind leave them all there or all gone, as the last turn has it, and
everything else alone; a second turn up changes nothing. Where none of them was there, up brings
these and nothing else, and down leaves what was there before. -/
theorem guards_come_and_go (hkeys : Distinct keys) :
    (∀ k ∈ keys, k.createTriggers.map (fun statement => (triggerOf? statement).map (·.name)) =
      k.triggerNames.map some) ∧
    (guardNames keys).Pairwise (fun a b => sameName a b = false) ∧
    (∀ s, createGuards keys (createGuards keys s) = createGuards keys s ∧
      dropGuards keys s = { s with triggers := others keys s } ∧
      ∀ ts, dropGuards keys (turns keys s ts) = dropGuards keys s ∧
        Full keys (turns keys s (ts ++ [.up])) ∧ Bare keys (turns keys s (ts ++ [.down])) ∧
        ∀ store : Store, (store.under (turns keys s ts)).books = store.books) ∧
    ∀ s, Bare keys s →
      (∃ new : List Attachment, new.map (·.name) = guardNames keys ∧
        createGuards keys s = { s with triggers := s.triggers ++ new }) ∧
      missing keys s = guardNames keys ∧
      missing keys (createGuards keys s) = [] ∧
      dropGuards keys (createGuards keys s) = s ∧
      ∀ ts, turns keys s ts =
        match ts.getLast? with
        | some .up => createGuards keys s
        | some .down | none => s := by
  have hnames := hkeys.identifiers
  refine ⟨fun k hk => ForeignKey.map_triggerOf?_createTriggers (hnames k hk), hkeys.guardNames,
    fun s => ⟨createGuards_createGuards keys s, dropGuards_eq hnames s, fun ts =>
      ⟨dropGuards_turns hnames s ts, ?full, ?bare, fun _ => rfl⟩⟩,
    fun s hbare => ⟨?new, missing_of_bare hbare, missing_createGuards hkeys hbare, ?back,
      turns_eq hkeys hbare⟩⟩
  case full =>
    rw [turns_concat]
    exact full_createGuards hnames _
  case bare =>
    rw [turns_concat]
    exact bare_dropGuards hnames _
  case new => exact ⟨_, map_name_created hnames, createGuards_of_bare hkeys hbare⟩
  case back => rw [dropGuards_createGuards hnames, dropGuards_of_bare hnames hbare]

theorem guards_of_the_books_come_and_go :
    let s : Schema := { Migration.init.up .empty with triggers := [⟨"Audit", "accounts"⟩] }
    Distinct ForeignKey.all ∧ Bare ForeignKey.all s ∧
      (Migration.guards.up s).triggers.map (·.name) = "Audit" :: guardNames ForeignKey.all ∧
      turns ForeignKey.all s [.up, .up, .down, .up, .down] = s := by
  intro s
  have hkeys : Distinct ForeignKey.all := ⟨by decide +kernel, by decide +kernel⟩
  have hbare : Bare ForeignKey.all s := by
    intro name hname
    obtain ⟨k, -, hname⟩ := List.mem_flatMap.1 hname
    rw [k.triggerNames_eq] at hname
    obtain ⟨e, -, rfl⟩ := List.mem_map.1 hname
    refine List.any_eq_false.2 (List.forall_mem_singleton.2 fun hsame => ?_)
    have hguard : "guard_".toList = 'g' :: "uard_".toList := rfl
    have hfirst := congrArg List.head? (sameName_iff.1 hsame)
    rw [ForeignKey.toList_triggerName, hguard] at hfirst
    exact absurd (Option.some.inj hfirst) (show 'g' ≠ 'a' by decide)
  obtain ⟨-, -, -, h⟩ := guards_come_and_go hkeys
  obtain ⟨⟨new, hnames, hup⟩, -, -, -, hturns⟩ := h s hbare
  refine ⟨hkeys, hbare, ?_, hturns _⟩
  have hguards : Migration.guards.up s = createGuards ForeignKey.all s := by rw [Migration.guards]
  rw [hguards, hup, List.map_append, hnames]
  rfl

end Schema

end Bookkeeping

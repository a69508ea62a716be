import Bookkeeping.Proofs.Ledger.Effect
import Bookkeeping.Proofs.Ledger.Solvency
import Mathlib.Data.List.Induction

namespace Bookkeeping

inductive Account.Turned (c : Command) (o : Occasion) (a : Account) : Account → Prop
  | kept (hc : c.updated ≠ some a.id) : Turned c o a a
  | released {m : Uuid} (hc : c = .deleteMember m) (ho : a.owner = some m) :
    Turned c o a { a with owner := none }
  | changed {change : Account → Except DomainError Account} {b : Account}
      (hc : c.accountChange o = some (a.id, change)) (hb : change a = .ok b) :
    Turned c o a (b.saved o.savedAt)
  | moved {p : Payment} {balance : Money} (hc : c = p.command) (ha : p.movement.account = a.id) :
    Turned c o a (Account.saved { a with currentBalance := balance } o.savedAt)

namespace Command

theorem updated_of_accountChange {c : Command} {o : Occasion} {id : Uuid}
    {change : Account → Except DomainError Account} (h : c.accountChange o = some (id, change)) :
    c.updated = some id := by
  cases c <;> cases h <;> rfl

theorem updated_of_looks {c : Command} (h : c.looks = true) : c.updated = none := by
  cases c <;> first | rfl | cases h

theorem updated_of_memberChange {c : Command} {o : Occasion} {id : Uuid}
    {change : Member → Except DomainError Member} (h : c.memberChange o = some (id, change)) :
    c.updated = none := by
  cases c <;> first | rfl | cases h

theorem updated_of_categoryChange {c : Command} {o : Occasion} {id : Uuid}
    {change : Category → Except DomainError Category} (h : c.categoryChange o = some (id, change)) :
    c.updated = none := by
  cases c <;> first | rfl | cases h

theorem updated_payment (p : Payment) : p.command.updated = some p.movement.account := by
  cases p <;> rfl

end Command

namespace Ledger

variable {L L' : Ledger} {c : Command} {o : Occasion} {r : Reply} {old new : Account}

theorem turned_replace {b : Account} (hn : L.accountIds.Nodup) (hold : old ∈ L.accounts)
    (hnew : new ∈ Keyed.replace (·.id) b L.accounts) (hid : new.id = old.id)
    (hb : old.id = b.id → Account.Turned c o old b)
    (hc : old.id ≠ b.id → c.updated ≠ some old.id) : Account.Turned c o old new := by
  rcases Keyed.mem_replace hnew with rfl | ⟨hmem, hne⟩
  · exact hb hid.symm
  · obtain rfl := List.inj_on_of_nodup_map hn hmem hold hid
    exact .kept (hc hne)

theorem Effect.turned (hs : L.Sound) (h : Effect L o c r L') (hold : old ∈ L.accounts)
    (hnew : new ∈ L'.accounts) (hid : new.id = old.id) : Account.Turned c o old new := by
  have hsame (hmem : new ∈ L.accounts) (hc : c.updated = none) : Account.Turned c o old new := by
    obtain rfl := List.inj_on_of_nodup_map hs.nodup_accounts hmem hold hid
    exact .kept fun h => by cases hc.symm.trans h
  cases h with
  | looked hc => exact hsame hnew (Command.updated_of_looks hc)
  | memberChanged hc => exact hsame hnew (Command.updated_of_memberChange hc)
  | categoryChanged hc => exact hsame hnew (Command.updated_of_categoryChange hc)
  | memberCreated | categoryCreated | categoryDeleted | tagCreated | tagChanged | tagDeleted =>
    exact hsame hnew rfl
  | accountCreated _ hfresh =>
    rcases List.mem_append.1 hnew with hnew | hnew
    · exact hsame hnew rfl
    · cases List.mem_singleton.1 hnew
      exact absurd (hid ▸ List.mem_map_of_mem hold) hfresh
  | accountDeleted => exact hsame (List.mem_of_mem_filter hnew) rfl
  | @memberDeleted m =>
    obtain ⟨a, ha, rfl⟩ := List.mem_map.1 hnew
    rw [Account.release_id] at hid
    obtain rfl := List.inj_on_of_nodup_map hs.nodup_accounts ha hold hid
    rw [Account.release]
    split
    · exact .released rfl ‹_›
    · exact .kept fun h => by cases h
  | @accountChanged _ change a b hc ha hb =>
    have hkept := accountChange_ok hc hb
    have hbid : b.id = a.id := by rw [← hkept]
    refine turned_replace hs.nodup_accounts hold hnew hid (fun h => ?_) fun h hu => h ?_
    · have h : old.id = a.id := h.trans hbid
      obtain rfl := List.inj_on_of_nodup_map hs.nodup_accounts hold ha h
      exact .changed hc hb
    · rw [Command.updated_of_accountChange hc] at hu
      exact (Option.some.inj hu).symm.trans hbid.symm
  | @paid p _ b hplan =>
    obtain ⟨a, k, balance, amount, tags, h⟩ := Payment.plan_ok hplan
    rw [Ledger.book_accounts, h.booking] at hnew
    refine turned_replace hs.nodup_accounts hold hnew hid (fun hb => ?_) fun hne hu => hne ?_
    · obtain rfl := List.inj_on_of_nodup_map hs.nodup_accounts hold h.mem hb
      exact .moved rfl h.account.symm
    · rw [Command.updated_payment] at hu
      exact (Option.some.inj hu).symm.trans h.account.symm

end Ledger

/-- How the row of an account may differ once a command is through, and succeeded if `done`. -/
structure AccountRow.Becomes (c : Command) (done : Bool) (old new : AccountRow) : Prop where
  id : new.id = old.id
  kind : new.kind = old.kind
  currency : new.currency = old.currency
  initialBalance : new.initialBalance = old.initialBalance
  createdAt : new.createdAt = old.createdAt
  currentBalance : new.currentBalance ≠ old.currentBalance → done = true ∧
    ((∃ cmd, c = .createExpenditure cmd ∧ cmd.account.text = old.id) ∨
      ∃ cmd, c = .createIngress cmd ∧ cmd.account.text = old.id)
  name : new.name ≠ old.name →
    done = true ∧ ∃ id name, c = .renameAccount id name ∧ id.text = old.id
  active : new.active ≠ old.active → done = true ∧
    ∃ id, (c = .activateAccount id ∨ c = .deactivateAccount id) ∧ id.text = old.id
  owner : new.owner ≠ old.owner → done = true ∧ new.owner = none ∧
    ∃ m, c = .deleteMember m ∧ old.owner = some m.text
  version : new.version = old.version +
    if done = true ∧ c.updated.map Uuid.text = some old.id then 1 else 0
  updatedAt : new.updatedAt ≠ old.updatedAt → done = true ∧ c.updated.map Uuid.text = some old.id

namespace Account

variable {c : Command} {o : Occasion} {a b : Account}

theorem becomes_refl {done : Bool} (h : ¬(done = true ∧ c.updated.map Uuid.text = some a.row.id)) :
    a.row.Becomes c done a.row where
  id := rfl
  kind := rfl
  currency := rfl
  initialBalance := rfl
  createdAt := rfl
  currentBalance hne := absurd rfl hne
  name hne := absurd rfl hne
  active hne := absurd rfl hne
  owner hne := absurd rfl hne
  version := by rw [if_neg h, Int.add_zero]
  updatedAt hne := absurd rfl hne

theorem map_updated : c.updated.map Uuid.text = some a.row.id ↔ c.updated = some a.id := by
  rw [show a.row.id = a.id.text from rfl]
  cases c.updated <;> simp

theorem becomes_saved (hc : c.updated = some a.id) (hkept : { a with
      name := b.name
      currentBalance := b.currentBalance
      active := b.active
      updatedAt := b.updatedAt } = b)
    (hbalance : b.currentBalance ≠ a.currentBalance → ∃ p : Payment, c = p.command)
    (hname : b.name ≠ a.name → ∃ id name, c = .renameAccount id name)
    (hactive : b.active ≠ a.active → ∃ id, c = .activateAccount id ∨ c = .deactivateAccount id)
    (savedAt : Instant) : a.row.Becomes c true (b.saved savedAt).row := by
  rw [← hkept]
  refine {
    id := rfl
    kind := rfl
    currency := rfl
    initialBalance := rfl
    createdAt := rfl
    currentBalance := fun hne => ⟨rfl, ?_⟩
    name := fun hne => ⟨rfl, ?_⟩
    active := fun hne => ⟨rfl, ?_⟩
    owner := fun hne => absurd rfl hne
    version := ?_
    updatedAt := fun _ => ⟨rfl, map_updated.2 hc⟩ }
  · obtain ⟨p, rfl⟩ := hbalance hne
    rw [Command.updated_payment] at hc
    have hid : p.movement.account.text = a.row.id := congrArg Uuid.text (Option.some.inj hc)
    cases p with
    | spend cmd => exact .inl ⟨cmd, rfl, hid⟩
    | receive cmd => exact .inr ⟨cmd, rfl, hid⟩
  · obtain ⟨id, name, rfl⟩ := hname hne
    exact ⟨id, name, rfl, congrArg Uuid.text (Option.some.inj hc)⟩
  · obtain ⟨id, rfl | rfl⟩ := hactive hne
    · exact ⟨id, .inl rfl, congrArg Uuid.text (Option.some.inj hc)⟩
    · exact ⟨id, .inr rfl, congrArg Uuid.text (Option.some.inj hc)⟩
  · rw [if_pos ⟨rfl, map_updated.2 hc⟩]
    rfl

theorem name_of_accountChange {id : Uuid} {change : Account → Except DomainError Account}
    (hc : c.accountChange o = some (id, change)) (h : change a = .ok b) (hne : b.name ≠ a.name) :
    ∃ id name, c = .renameAccount id name := by
  cases c <;> cases hc
  case renameAccount => exact ⟨_, _, rfl⟩
  case activateAccount =>
    obtain ⟨-, rfl⟩ := Ledger.activate_ok.1 h
    exact absurd rfl hne
  case deactivateAccount =>
    obtain ⟨-, rfl⟩ := Ledger.deactivate_ok.1 h
    exact absurd rfl hne

theorem active_of_accountChange {id : Uuid} {change : Account → Except DomainError Account}
    (hc : c.accountChange o = some (id, change)) (h : change a = .ok b)
    (hne : b.active ≠ a.active) :
    ∃ id, c = .activateAccount id ∨ c = .deactivateAccount id := by
  cases c <;> cases hc
  case activateAccount => exact ⟨_, .inl rfl⟩
  case deactivateAccount => exact ⟨_, .inr rfl⟩
  case renameAccount =>
    obtain ⟨_, -, rfl⟩ := Ledger.rename_ok.1 h
    exact absurd rfl hne

theorem Turned.becomes (h : Turned c o a b) : a.row.Becomes c true b.row := by
  cases h with
  | kept hc => exact becomes_refl fun h => hc (map_updated.1 h.2)
  | @released m hc ho =>
    subst hc
    have hkept : a.row.Becomes (.deleteMember m) true a.row := becomes_refl fun h => nomatch h.2
    exact { hkept with
      owner := fun _ => ⟨rfl, rfl, m, rfl, congrArg (Option.map Uuid.text) ho⟩ }
  | changed hc hb =>
    have hkept := Ledger.accountChange_ok hc hb
    exact becomes_saved (Command.updated_of_accountChange hc) (by rw [← hkept])
      (fun hne => absurd (by rw [← hkept]) hne) (name_of_accountChange hc hb)
      (active_of_accountChange hc hb) _
  | @moved p balance hc ha =>
    subst hc
    exact becomes_saved (b := { a with currentBalance := balance })
      (ha ▸ Command.updated_payment p) rfl (fun _ => ⟨p, rfl⟩) (fun hne => absurd rfl hne)
      (fun hne => absurd rfl hne) _

end Account

namespace Ledger

variable {L L' : Ledger} {c : Command} {o : Occasion} {r : Reply} {a : Account}

theorem Effect.replaced (h : Effect L o c r L') {id : Uuid} (hc : c.updated = some id) :
    ∃ b : Account, b.id = id ∧ L'.accounts = Keyed.replace (·.id) b L.accounts := by
  cases h with
  | looked hlooks => exact nomatch hc.symm.trans (Command.updated_of_looks hlooks)
  | memberChanged hchange => exact nomatch hc.symm.trans (Command.updated_of_memberChange hchange)
  | categoryChanged hchange =>
    exact nomatch hc.symm.trans (Command.updated_of_categoryChange hchange)
  | accountChanged hchange hold hnew =>
    have hkept := accountChange_ok hchange hnew
    refine ⟨_, ?_, rfl⟩
    rw [← hkept]
    exact Option.some.inj ((Command.updated_of_accountChange hchange).symm.trans hc)
  | paid hplan =>
    obtain ⟨a, k, balance, amount, tags, h⟩ := Payment.plan_ok hplan
    rw [Command.updated_payment] at hc
    refine ⟨_, ?_, book_accounts _ _⟩
    rw [h.booking]
    exact h.account.trans (Option.some.inj hc)
  | _ => cases hc

theorem Effect.opened (h : Effect L o c r L') (ha : a ∈ L'.accounts) (hnew : a.id ∉ L.accountIds) :
    ∃ cmd, c = .createAccount cmd ∧ o.id = a.id ∧ a.version = 0 := by
  have hsame (hids : a.id ∈ L.accountIds) : ∃ cmd, c = .createAccount cmd ∧ o.id = a.id ∧
      a.version = 0 := absurd hids hnew
  have hreplace {b : Account} (ha : a ∈ Keyed.replace (·.id) b L.accounts) :
      a.id ∈ L.accountIds := by
    have hmem := List.mem_map_of_mem (f := Account.id) ha
    rwa [Keyed.map_key_replace] at hmem
  cases h with
  | looked | memberChanged | categoryChanged | memberCreated | categoryCreated | categoryDeleted
  | tagCreated | tagChanged | tagDeleted => exact hsame (List.mem_map_of_mem ha)
  | accountDeleted => exact hsame (List.mem_map_of_mem (List.mem_of_mem_filter ha))
  | memberDeleted =>
    obtain ⟨b, hb, rfl⟩ := List.mem_map.1 ha
    exact hsame (b.release_id _ ▸ List.mem_map_of_mem hb)
  | accountChanged => exact hsame (hreplace ha)
  | paid => exact hsame (hreplace (Ledger.book_accounts _ _ ▸ ha))
  | accountCreated hcreated _ =>
    rcases List.mem_append.1 ha with ha | ha
    · exact hsame (List.mem_map_of_mem ha)
    · cases List.mem_singleton.1 ha
      rw [Account.new] at hcreated
      split at hcreated
      · cases hcreated
      · cases hcreated
        exact ⟨_, rfl, rfl, rfl⟩

end Ledger

namespace Store

namespace Holds

variable {s : Store} {L : Ledger}

theorem becomes (h : s.Holds L) (c : Command) (o : Occasion) : ∀ old ∈ s.books.accounts,
    ∀ new ∈ (c.run o s).2.books.accounts, new.id = old.id →
      old.Becomes c (c.run o s).1.isOk new := by
  rw [h.books]
  refine List.forall_mem_map.2 fun old hold => ?_
  cases hp : Ledger.perform c o L with
  | ok r =>
    rw [(h.run_of_ok hp).2]
    refine List.forall_mem_map.2 fun new hnew hid => ?_
    have heffect := Ledger.perform_effect h.sound hp
    exact (heffect.turned h.sound hold hnew (Uuid.text_inj.1 hid)).becomes
  | error e =>
    rw [h.run_of_error hp, h.books]
    refine List.forall_mem_map.2 fun new hnew hid => ?_
    obtain rfl := List.inj_on_of_nodup_map h.sound.nodup_accounts hnew hold (Uuid.text_inj.1 hid)
    exact Account.becomes_refl fun h => nomatch h.1

theorem others (h : s.Holds L) (c : Command) (o : Occasion) {id : Uuid}
    (hc : c.updated = some id) : (c.run o s).2.books.accounts.filter (·.id != id.text) =
      s.books.accounts.filter (·.id != id.text) := by
  cases hp : Ledger.perform c o L with
  | ok r =>
    obtain ⟨b, rfl, hreplaced⟩ := (Ledger.perform_effect h.sound hp).replaced hc
    have hrow (a : Account) : (a.row.id != b.id.text) = (a.id != b.id) :=
      congrArg (!·) (Uuid.text_beq_text a.id b.id)
    rw [(h.run_of_ok hp).2, h.books]
    show (r.2.accounts.map Account.row).filter _ = (L.accounts.map Account.row).filter _
    rw [filter_rows (p := fun r : AccountRow => r.id != b.id.text) hrow,
      filter_rows (p := fun r : AccountRow => r.id != b.id.text) hrow, hreplaced,
      Keyed.filter_replace]
  | error e => rw [h.run_of_error hp]

theorem opened (h : s.Holds L) (c : Command) (o : Occasion) :
    ∀ new ∈ (c.run o s).2.books.accounts, new.id ∉ s.books.accounts.map (·.id) →
      ∃ cmd, c = .createAccount cmd ∧ (c.run o s).1.isOk = true ∧ o.id.text = new.id ∧
        new.version = 0 := by
  cases hp : Ledger.perform c o L with
  | ok r =>
    rw [(h.run_of_ok hp).2, h.books]
    refine List.forall_mem_map.2 fun new hnew hid => ?_
    have hid : new.id ∉ L.accountIds := fun hmem => hid (by
      obtain ⟨a, ha, heq⟩ := List.mem_map.1 hmem
      exact List.mem_map.2 ⟨a.row, List.mem_map_of_mem ha, congrArg Uuid.text heq⟩)
    obtain ⟨cmd, hc, ho, hv⟩ := (Ledger.perform_effect h.sound hp).opened hnew hid
    exact ⟨cmd, hc, rfl, congrArg Uuid.text ho, hv⟩
  | error e =>
    rw [h.run_of_error hp]
    exact fun new hnew hid => absurd (List.mem_map_of_mem hnew) hid

end Holds

/-- The run in which an account was opened and has been there ever since. -/
structure Opened (steps earlier : List (Command × Occasion)) (cmd : NewAccount) (o : Occasion)
    (later : List (Command × Occasion)) : Prop where
  steps : steps = earlier ++ (.createAccount cmd, o) :: later
  done : ((Command.createAccount cmd).run o (fresh.after earlier)).1.isOk = true
  since : ∀ mid, mid <+: later → o.id.text ∈
    (fresh.after (earlier ++ (.createAccount cmd, o) :: mid)).books.accounts.map (·.id)

theorem Opened.concat {steps earlier later : List (Command × Occasion)} {cmd : NewAccount}
    {o : Occasion} (h : Opened steps earlier cmd o later) {step : Command × Occasion}
    (hstays : o.id.text ∈ (fresh.after (steps ++ [step])).books.accounts.map (·.id)) :
    Opened (steps ++ [step]) earlier cmd o (later ++ [step]) where
  steps := by rw [h.steps, List.append_assoc, List.cons_append]
  done := h.done
  since mid hmid := by
    rcases List.prefix_concat_iff.1 hmid with rfl | hmid
    · rwa [h.steps, List.append_assoc, List.cons_append] at hstays
    · exact h.since mid hmid

theorem Opened.after {steps earlier later : List (Command × Occasion)} {cmd : NewAccount}
    {o : Occasion} (h : Opened steps earlier cmd o later) :
    (fresh.after (earlier ++ [(.createAccount cmd, o)])).after later = fresh.after steps := by
  rw [h.steps, ← after_append, List.append_assoc, List.singleton_append]

/-- A command changes an account only in what it is for. A command for one account leaves all others
as they are, and the version of an account is the number of times it was changed since it was
opened. -/
theorem accounts_change_for_cause (steps : List (Command × Occasion)) :
    (∀ c o, ∀ old ∈ (fresh.after steps).books.accounts,
      ∀ new ∈ (c.run o (fresh.after steps)).2.books.accounts, new.id = old.id →
        old.Becomes c (c.run o (fresh.after steps)).1.isOk new) ∧
    (∀ (c : Command) (o : Occasion) (id : Uuid), c.updated = some id →
      (c.run o (fresh.after steps)).2.books.accounts.filter (·.id != id.text) =
        (fresh.after steps).books.accounts.filter (·.id != id.text)) ∧
    ∀ a ∈ (fresh.after steps).books.accounts, ∃ earlier cmd o later,
      Opened steps earlier cmd o later ∧ o.id.text = a.id ∧
      a.version =
        ((fresh.after (earlier ++ [(.createAccount cmd, o)])).updates o.id later : Nat) := by
  have h := holds_fresh.after steps
  refine ⟨h.becomes, fun c o id hc => h.others c o hc, ?_⟩
  clear h
  induction steps using List.reverseRecOn with
  | nil => exact fun _ h => nomatch h
  | append_singleton steps step ih =>
    obtain ⟨c, o⟩ := step
    have h := holds_fresh.after steps
    have hrun : fresh.after (steps ++ [(c, o)]) = (c.run o (fresh.after steps)).2 :=
      after_append fresh steps [(c, o)]
    intro new hnew
    have hmem := List.mem_map_of_mem (f := AccountRow.id) hnew
    rw [hrun] at hnew
    by_cases hold : new.id ∈ (fresh.after steps).books.accounts.map (·.id)
    · obtain ⟨old, hold, hid⟩ := List.mem_map.1 hold
      obtain ⟨earlier, cmd, o₀, later, hopened, hold_id, hv⟩ := ih old hold
      have hbecomes := h.becomes c o old hold new hnew hid.symm
      refine ⟨earlier, cmd, o₀, later ++ [(c, o)], hopened.concat ?_, hold_id.trans hid, ?_⟩
      · exact hold_id.trans hid ▸ hmem
      · have hupdated : c.updated.map Uuid.text = some old.id ↔ c.updated = some o₀.id := by
          rw [← hold_id]
          cases c.updated <;> simp
        rw [updates_concat, hopened.after, hbecomes.version, hv, Command.updates, Int.natCast_add]
        simp only [hupdated, and_comm]
        split <;> rfl
    · obtain ⟨cmd, rfl, hdone, hid, hv⟩ := h.opened c o new hnew hold
      refine ⟨steps, cmd, o, [], ⟨rfl, hdone, fun mid hmid => ?_⟩, hid, hv⟩
      rw [List.prefix_nil.1 hmid]
      exact hid ▸ hmem

end Store

end Bookkeeping

import Bookkeeping.Proofs.Clients.Changes
import Bookkeeping.Proofs.Ledger.Command

namespace Bookkeeping

namespace Scene

def OwnedFrom (L : Ledger) (first owner : Option Uuid) : Prop :=
  owner = first ∨ owner = none ∧ ∃ m ∈ first, m ∉ L.memberIds

/-- A stored account is what the accepted updates made of the one that was stored at first. -/
structure Descends (L₀ L : Ledger) (us : List Update) (first a : Account) : Prop where
  mem : first ∈ L₀.accounts
  id : first.id = a.id
  version : a.version = first.version + (Update.on us a.id).length
  replay : ∃ b, Change.replay? ((Update.on us a.id).flatMap (·.changes)) first = some b ∧ b.Agrees a
  owner : OwnedFrom L first.owner a.owner

structure Stands (L₀ L : Ledger) (us : List Update) (copy : Copy) : Prop where
  since : copy.since ≤ us.length
  owner : ∃ first ∈ L₀.accounts, first.id = copy.account.id ∧
    OwnedFrom L first.owner copy.account.owner
  version : ∀ a ∈ L.accounts, a.id = copy.account.id →
    a.version = copy.account.version + (Update.on (us.drop copy.since) copy.account.id).length
  replay : ∀ a ∈ L.accounts, a.id = copy.account.id →
    Update.on (us.drop copy.since) copy.account.id = [] →
      ∃ b, Change.replay? copy.changes a = some b ∧ b.Agrees copy.account

structure Inv {κ : Type} (L₀ : Ledger) (sc : Scene κ) (L : Ledger) : Prop where
  holds : sc.store.Holds L
  stored : ∀ a ∈ L.accounts, ∃ first, Descends L₀ L sc.accepted first a
  copies : ∀ client copy, sc.copies client = some copy → Stands L₀ L sc.accepted copy

variable {κ : Type} {L₀ L L' : Ledger} {sc : Scene κ} {us : List Update} {a : Account}
  {copy : Copy} {client : κ}

theorem inv_start {s : Store} (h : s.Holds L) : (start s : Scene κ).Inv L L where
  holds := h
  stored a ha := ⟨a, ha, rfl, by simp [start, Update.on], ⟨a, rfl, .refl a⟩, .inl rfl⟩
  copies client copy hcopy := by simp [start] at hcopy

theorem Stands.of_read {first : Account} (ha : a ∈ L.accounts) (hs : L.Sound)
    (hd : Descends L₀ L us first a) : Stands L₀ L us ⟨a, [], us.length⟩ where
  since := Nat.le_refl _
  owner := ⟨first, hd.mem, hd.id, hd.owner⟩
  version b hb hid := by
    rw [List.inj_on_of_nodup_map hs.nodup_accounts hb ha hid]
    simp [Update.on]
  replay b hb hid _ := by
    rw [List.inj_on_of_nodup_map hs.nodup_accounts hb ha hid]
    exact ⟨a, rfl, .refl a⟩

theorem Stands.change (h : Stands L₀ L us copy) (c : Change) : Stands L₀ L us (copy.change c) := by
  rw [Copy.change]
  cases ha : c.result? copy.account with
  | none => exact h
  | some a =>
    obtain ⟨hid, -, -, hv, ho⟩ := Change.result?_keeps ha
    refine ⟨h.since, ?_, ?_, ?_⟩
    · simpa only [hid, ho] using h.owner
    · simpa only [hid, hv] using h.version
    · simp only [hid]
      intro b hb hbid hnone
      obtain ⟨b₁, hb₁, hagrees⟩ := h.replay b hb hbid hnone
      obtain ⟨b₂, hb₂, hagrees₂⟩ := Change.result?_agrees hagrees.symm ha
      refine ⟨b₂, ?_, hagrees₂.symm⟩
      rw [Change.replay?_append, hb₁]
      show Change.replay? [c] b₁ = some b₂
      rw [Change.replay?, List.foldlM_cons, hb₂]
      rfl

theorem Stands.version_eq_iff (h : Stands L₀ L us copy) (ha : a ∈ L.accounts)
    (hid : a.id = copy.account.id) :
    a.version = copy.account.version ↔ Update.on (us.drop copy.since) copy.account.id = [] := by
  rw [h.version a ha hid, ← List.length_eq_zero_iff]
  omega

theorem Stands.currency_isKnown (h : Stands L₀ L us copy) (hs : L.Sound) (ha : a ∈ L.accounts)
    (hid : a.id = copy.account.id) (hnone : Update.on (us.drop copy.since) copy.account.id = []) :
    copy.account.currency.IsKnown := by
  obtain ⟨b, hb, hagrees⟩ := h.replay a ha hid hnone
  rw [← hagrees.currency, (Change.replay?_keeps hb).1]
  exact hs.currency_account a ha

theorem Inv.verdict (h : sc.Inv L₀ L) (hcopy : sc.copies client = some copy)
    (hv : copy.account.version < greatestWord) (savedAt : Instant) :
    (Ledger.saveAccount copy.account savedAt L).map (·.1) = sc.verdict copy savedAt := by
  have hstands := h.copies client copy hcopy
  have hs := h.holds.sound
  have hids : copy.account.id.text ∈ sc.store.books.accounts.map (·.id) ↔
      copy.account.id ∈ L.accountIds := by
    rw [h.holds.books]
    simp [Ledger.books, Ledger.accountIds, Account.row]
  have howners : (∃ m ∈ copy.account.owner, m.text ∉ sc.store.books.members.map (·.id)) ↔
      ¬∀ m ∈ copy.account.owner, m ∈ L.memberIds := by
    rw [h.holds.books]
    simp [Ledger.books, Ledger.memberIds, Member.row]
  rw [Ledger.saveAccount_apply (by omega), Scene.verdict]
  by_cases hin : copy.account.id ∈ L.accountIds
  · obtain ⟨old, hold, hid⟩ := List.mem_map.1 hin
    rw [if_neg (not_not_intro (hids.2 hin)),
      Ledger.storeAccount_of_mem (a := copy.account.saved savedAt) hs hold hid]
    by_cases hnone : Update.on (sc.accepted.drop copy.since) copy.account.id = []
    · have hk : (copy.account.saved savedAt).currency.IsKnown :=
        hstands.currency_isKnown hs hold hid hnone
      rw [if_neg (not_not_intro hnone), if_pos ((hstands.version_eq_iff hold hid).2 hnone),
        Ledger.replaceAccount, if_neg (not_not_intro hk)]
      by_cases ho : ∀ m ∈ (copy.account.saved savedAt).owner, m ∈ L.memberIds
      · rw [if_neg (howners.not.2 (not_not_intro ho)), if_neg (not_not_intro ho)]
        rfl
      · rw [if_pos (howners.2 ho), if_pos ho]
        rfl
    · rw [if_pos hnone, if_neg ((hstands.version_eq_iff hold hid).not.2 hnone)]
      rfl
  · rw [if_pos (hids.not.2 hin),
      Ledger.storeAccount_of_not_mem (a := copy.account.saved savedAt) hin]
    rfl

theorem OwnedFrom.mono {first owner : Option Uuid} (h : OwnedFrom L first owner)
    (hm : ∀ m ∈ L'.memberIds, m ∈ L.memberIds) : OwnedFrom L' first owner :=
  h.imp_right fun ⟨ho, m, hfirst, hgone⟩ => ⟨ho, m, hfirst, fun h => hgone (hm m h)⟩

structure Accepts (L L' : Ledger) (copy : Copy) (savedAt : Instant) (old : Account) : Prop where
  mem : old ∈ L.accounts
  id : old.id = copy.account.id
  version : old.version = copy.account.version
  members : L'.memberIds = L.memberIds
  accounts : L'.accounts = Keyed.replace (·.id) (copy.account.saved savedAt) L.accounts

section Accepts

variable {savedAt : Instant} {old first : Account} {copy' : Copy}

theorem on_concat_self (us : List Update) (u : Update) :
    Update.on (us ++ [u]) u.account = Update.on us u.account ++ [u] := by
  simp [Update.on]

theorem on_concat_of_ne (us : List Update) {u : Update} {id : Uuid} (h : u.account ≠ id) :
    Update.on (us ++ [u]) id = Update.on us id := by
  simp [Update.on, h]

theorem Stands.accepts (h : Stands L₀ L us copy)
    (hsave : Ledger.saveAccount copy.account savedAt L = .ok (a, L')) :
    copy.account.saved savedAt = a ∧ ∃ old, Accepts L L' copy savedAt old := by
  obtain ⟨old, hold, hid, hv, ha, -, rfl⟩ := Ledger.saveAccount_spec hsave
  obtain ⟨b, hb, hagrees⟩ := h.replay old hold hid ((h.version_eq_iff hold hid).1 hv)
  -- the store keeps its own opening time, and that is the copy's as well
  have hopened : old.createdAt = copy.account.createdAt :=
    (Change.replay?_keeps hb).2.symm.trans hagrees.createdAt
  have hover : copy.account.over old savedAt = copy.account.saved savedAt := by
    rw [Account.over, hopened]
    rfl
  exact ⟨ha, old, hold, hid, hv, rfl, congrArg (Keyed.replace (·.id) · L.accounts) hover⟩

theorem Accepts.descends (h : Accepts L L' copy savedAt old) (hs : L₀.Sound)
    (hstands : Stands L₀ L us copy) (hd : Descends L₀ L us first old) :
    Descends L₀ L' (us ++ [copy.update]) first (copy.account.saved savedAt) := by
  have hid : first.id = copy.account.id := hd.id.trans h.id
  have hon : Update.on (us ++ [copy.update]) copy.account.id =
      Update.on us copy.account.id ++ [copy.update] := on_concat_self us copy.update
  refine ⟨hd.mem, hid, ?_, ?_, ?_⟩
  · show copy.account.version + 1 = first.version + (Update.on _ copy.account.id).length
    rw [hon, ← h.version, hd.version, h.id, List.length_append]
    simp [Int.add_assoc]
  · show ∃ b, Change.replay? ((Update.on _ copy.account.id).flatMap (·.changes)) first = some b ∧ _
    obtain ⟨b, hb, hagrees⟩ := hd.replay
    obtain ⟨c, hc, hsaved⟩ := hstands.replay old h.mem h.id
      ((hstands.version_eq_iff h.mem h.id).1 h.version)
    obtain ⟨d, hd, hagrees'⟩ := Change.replay?_agrees hagrees.symm hc
    refine ⟨d, ?_, hagrees'.symm.trans { hsaved with createdAt := hsaved.createdAt }⟩
    rw [h.id] at hb
    rw [hon, List.flatMap_append, Change.replay?_append, hb]
    simpa [Copy.update] using hd
  · obtain ⟨first', hfirst', hid', howner⟩ := hstands.owner
    rw [List.inj_on_of_nodup_map hs.nodup_accounts hd.mem hfirst' (hid.trans hid'.symm)]
    exact howner.mono (h.members ▸ fun _ hm => hm)

theorem Accepts.spares (h : Accepts L L' copy savedAt old) (hne : a.id ≠ copy.account.id)
    (hd : Descends L₀ L us first a) : Descends L₀ L' (us ++ [copy.update]) first a := by
  have hon : Update.on (us ++ [copy.update]) a.id = Update.on us a.id :=
    on_concat_of_ne us (Ne.symm hne)
  exact ⟨hd.mem, hd.id, hon ▸ hd.version, hon ▸ hd.replay,
    hd.owner.mono (h.members ▸ fun _ hm => hm)⟩

theorem Accepts.stored (h : Accepts L L' copy savedAt old) (us : List Update)
    (ha : a ∈ L'.accounts) :
    a = copy.account.saved savedAt ∧
        Update.on (us ++ [copy.update]) a.id = Update.on us a.id ++ [copy.update] ∨
      a ∈ L.accounts ∧ Update.on (us ++ [copy.update]) a.id = Update.on us a.id := by
  rw [h.accounts] at ha
  rcases Keyed.mem_replace ha with rfl | ⟨ha, hne⟩
  · exact .inl ⟨rfl, on_concat_self us copy.update⟩
  · exact .inr ⟨ha, on_concat_of_ne us (Ne.symm hne)⟩

theorem Accepts.stands (h : Accepts L L' copy savedAt old) (hstands : Stands L₀ L us copy') :
    Stands L₀ L' (us ++ [copy.update]) copy' := by
  have hdrop : (us ++ [copy.update]).drop copy'.since = us.drop copy'.since ++ [copy.update] :=
    List.drop_append_of_le_length hstands.since
  obtain ⟨first, hfirst, hid, howner⟩ := hstands.owner
  refine ⟨?_, ⟨first, hfirst, hid, howner.mono (h.members ▸ fun _ hm => hm)⟩, ?_, ?_⟩
  · exact Nat.le_trans hstands.since (by simp)
  · rw [hdrop]
    intro a ha haid
    rw [← haid]
    rcases h.stored (us.drop copy'.since) ha with ⟨rfl, hon⟩ | ⟨ha, hon⟩
    · rw [hon, haid, List.length_append, Int.natCast_add, ← Int.add_assoc,
        ← hstands.version old h.mem (h.id.trans haid), h.version]
      rfl
    · rw [hon, haid]
      exact hstands.version a ha haid
  · rw [hdrop]
    intro a ha haid
    rw [← haid]
    rcases h.stored (us.drop copy'.since) ha with ⟨rfl, hon⟩ | ⟨ha, hon⟩
    · -- the copy is outdated, so nothing is asked of it
      simp [hon]
    · rw [hon, haid]
      exact hstands.replay a ha haid

end Accepts

structure Sheds (L L' : Ledger) : Prop where
  members : ∀ m ∈ L'.memberIds, m ∈ L.memberIds
  accounts : ∀ a ∈ L'.accounts, ∃ b ∈ L.accounts,
    b.Agrees a ∧ b.version = a.version ∧ OwnedFrom L' b.owner a.owner

theorem sheds_deleteAccount {id : Uuid} (h : Ledger.deleteAccount id L = .ok ((), L')) :
    Sheds L L' := by
  obtain ⟨-, rfl⟩ := Ledger.deleteAccount_ok h
  exact ⟨fun _ hm => hm, fun a ha => ⟨a, List.mem_of_mem_filter ha, .refl a, rfl, .inl rfl⟩⟩

theorem sheds_deleteMember {id : Uuid} (h : Ledger.deleteMember id L = .ok ((), L')) :
    Sheds L L' := by
  obtain ⟨-, rfl⟩ := Ledger.deleteMember_ok h
  refine ⟨?_, ?_⟩
  · intro m hm
    obtain ⟨x, hx, rfl⟩ := List.mem_map.1 hm
    exact List.mem_map_of_mem (List.mem_of_mem_filter hx)
  · intro a ha
    obtain ⟨b, hb, rfl⟩ := List.mem_map.1 ha
    refine ⟨b, hb, (Account.Agrees.release id b).symm, (b.release_version id).symm, ?_⟩
    rw [Account.release]
    split
    · rename_i howner
      refine .inr ⟨rfl, id, by simpa using howner, ?_⟩
      simp [Ledger.memberIds]
    · exact .inl rfl

namespace Sheds

theorem owner {first mid owner : Option Uuid} (h : Sheds L L') (ho : OwnedFrom L first mid)
    (ho' : OwnedFrom L' mid owner) : OwnedFrom L' first owner := by
  rcases ho' with rfl | ⟨rfl, m, hm, hgone⟩
  · exact ho.mono h.members
  · rcases ho with rfl | ⟨rfl, -⟩
    · exact .inr ⟨rfl, m, hm, hgone⟩
    · cases hm

theorem descends (h : Sheds L L')
    (hd : ∀ b ∈ L.accounts, ∃ first, Descends L₀ L us first b) (ha : a ∈ L'.accounts) :
    ∃ first, Descends L₀ L' us first a := by
  obtain ⟨b, hb, hagrees, hv, howner⟩ := h.accounts a ha
  obtain ⟨first, hfirst⟩ := hd b hb
  obtain ⟨c, hc, hagrees'⟩ := hfirst.replay
  refine ⟨first, hfirst.mem, hfirst.id.trans hagrees.id, ?_, ⟨c, ?_, hagrees'.trans hagrees⟩,
    h.owner hfirst.owner howner⟩
  · rw [← hv, ← hagrees.id]
    exact hfirst.version
  · rw [← hagrees.id]
    exact hc

theorem stands (h : Sheds L L') (hstands : Stands L₀ L us copy) : Stands L₀ L' us copy := by
  obtain ⟨first, hfirst, hid, howner⟩ := hstands.owner
  refine ⟨hstands.since, ⟨first, hfirst, hid, howner.mono h.members⟩, ?_, ?_⟩
  · intro a ha haid
    obtain ⟨b, hb, hagrees, hv, -⟩ := h.accounts a ha
    rw [← hv]
    exact hstands.version b hb (hagrees.id.trans haid)
  · intro a ha haid hnone
    obtain ⟨b, hb, hagrees, -, -⟩ := h.accounts a ha
    obtain ⟨c, hc, hagrees'⟩ := hstands.replay b hb (hagrees.id.trans haid) hnone
    obtain ⟨d, hd, hagrees''⟩ := Change.replay?_agrees hagrees hc
    exact ⟨d, hd, hagrees''.symm.trans hagrees'⟩

end Sheds

namespace Inv

theorem delete {w : Work Unit} {m : Ledger.Step Unit} (h : sc.Inv L₀ L) (hw : Performs w m)
    (hm : ∀ {L'}, m L = .ok ((), L') → Sheds L L') :
    ∃ L', ({ sc with store := (w sc.store).2 } : Scene κ).Inv L₀ L' := by
  have hmatches := hw sc.store L h.holds.ready h.holds.transaction h.holds.sound h.holds.books
  cases hL : m L with
  | error e =>
    rw [hmatches.of_error hL]
    exact ⟨L, h⟩
  | ok r =>
    obtain ⟨hs, hrun⟩ := hmatches.of_ok hL
    rw [hrun]
    exact ⟨r.2, h.holds.withBooks hs, fun a => (hm hL).descends h.stored,
      fun client copy hcopy => (hm hL).stands (h.copies client copy hcopy)⟩

variable [DecidableEq κ]

theorem setCopy (h : sc.Inv L₀ L) (client : κ) {copy : Option Copy}
    (hcopy : ∀ c ∈ copy, Stands L₀ L sc.accepted c) :
    ({ sc with copies := Function.update sc.copies client copy } : Scene κ).Inv L₀ L := by
  refine ⟨h.holds, h.stored, fun k c hc => ?_⟩
  by_cases hk : k = client
  · subst hk
    exact hcopy c (by simpa using hc)
  · exact h.copies k c (by simpa [hk] using hc)

theorem read (h : sc.Inv L₀ L) (client : κ) (id : Uuid) : (sc.read client id).Inv L₀ L := by
  have hget : Accounts.get id sc.store =
      (Ledger.Query.find Ledger.accounts (·.id) id L, sc.store) :=
    Answers.look Books.accounts AccountRow.id Account.ofRow_row (fun _ => rfl) (fun _ => rfl) id
      sc.store L h.holds.ready h.holds.sound h.holds.books
  rw [Scene.read, hget]
  cases hfind : Ledger.Query.find Ledger.accounts (·.id) id L with
  | error e => exact h
  | ok a =>
    obtain ⟨ha, -⟩ := Ledger.Query.find_ok hfind
    obtain ⟨first, hd⟩ := h.stored a ha
    refine h.setCopy client fun c hc => ?_
    cases hc
    exact .of_read ha h.holds.sound hd

theorem save (h₀ : L₀.Sound) (h : sc.Inv L₀ L) (hcopy : sc.copies client = some copy)
    (savedAt : Instant) (goesOn : Bool) :
    ∃ L', (sc.save client copy savedAt goesOn).Inv L₀ L' := by
  have hmatches := settles_saveAccount copy.account savedAt sc.store L h.holds.ready h.holds.sound
    h.holds.books
  rw [Scene.save]
  cases hL : Ledger.saveAccount copy.account savedAt L with
  | error e =>
    rw [hmatches.of_error hL]
    exact ⟨L, h⟩
  | ok r =>
    obtain ⟨a, L'⟩ := r
    obtain ⟨hs, hrun⟩ := hmatches.of_ok hL
    rw [hrun]
    have hstands := h.copies client copy hcopy
    obtain ⟨rfl, old, hacc⟩ := hstands.accepts hL
    obtain ⟨first, hold⟩ := h.stored old hacc.mem
    have hd := hacc.descends h₀ hstands hold
    -- the copies of others stand as before, or one more update behind
    have hsaved : (⟨{ sc.store with books := L'.books }, sc.copies,
        sc.accepted ++ [copy.update]⟩ : Scene κ).Inv L₀ L' := by
      refine ⟨h.holds.withBooks hs, ?_, fun k c hc => hacc.stands (h.copies k c hc)⟩
      rw [hacc.accounts]
      intro b hb
      rcases Keyed.mem_replace hb with rfl | ⟨hb, hne⟩
      · exact ⟨first, hd⟩
      · obtain ⟨first', hd'⟩ := h.stored b hb
        exact ⟨first', hacc.spares hne hd'⟩
    refine ⟨L', ?_⟩
    cases goesOn with
    | false => exact hsaved
    | true =>
      refine hsaved.setCopy client fun c hc => ?_
      cases hc
      have hmem : copy.account.saved savedAt ∈ L'.accounts := by
        rw [hacc.accounts]
        exact List.mem_map.2 ⟨old, hacc.mem, if_pos hacc.id⟩
      simpa using Stands.of_read hmem hs hd

theorem move (h₀ : L₀.Sound) (h : sc.Inv L₀ L) (m : Move κ) : ∃ L', (sc.move m).Inv L₀ L' := by
  cases m with
  | read client id => exact ⟨L, h.read client id⟩
  | change client c =>
    refine ⟨L, h.setCopy client fun copy hcopy => ?_⟩
    obtain ⟨old, hold, rfl⟩ := Option.map_eq_some_iff.1 hcopy
    exact (h.copies client old hold).change c
  | save client savedAt goesOn =>
    rw [Scene.move]
    cases hcopy : sc.copies client with
    | none => exact ⟨L, h⟩
    | some copy => exact h.save h₀ hcopy savedAt goesOn
  | deleteAccount id => exact h.delete (performs_deleteAccount id) sheds_deleteAccount
  | deleteMember id => exact h.delete (performs_deleteMember id) sheds_deleteMember

theorem play (h₀ : L₀.Sound) (h : sc.Inv L₀ L) (moves : List (Move κ)) :
    ∃ L', (sc.play moves).Inv L₀ L' := by
  induction moves generalizing sc L with
  | nil => exact ⟨L, h⟩
  | cons m moves ih =>
    obtain ⟨L₁, h₁⟩ := h.move h₀ m
    exact ih h₁

end Inv

/-- Whatever the clients do, and in whatever order: a copy is saved only if no update of its account
was accepted since, a refused one changes nothing, and what is stored is what the accepted updates
made of what was there at first. -/
theorem saves_lose_no_update [DecidableEq κ] (steps : List (Command × Occasion))
    (moves : List (Move κ)) :
    let s := Store.fresh.after steps
    let sc := (start s : Scene κ).play moves
    (∀ client copy, sc.copies client = some copy → copy.account.version < greatestWord →
      ∀ savedAt, (Accounts.save copy.account savedAt sc.store).1 = sc.verdict copy savedAt ∧
        ∀ e, sc.verdict copy savedAt = .error e →
          (Accounts.save copy.account savedAt sc.store).2 = sc.store) ∧
    ∀ r ∈ sc.store.books.accounts, ∃ first last : Account,
      first.row ∈ s.books.accounts ∧ last.row = r ∧ last.id = first.id ∧
      last.version = first.version + (Update.on sc.accepted last.id).length ∧
      (∃ a, Change.replay? ((Update.on sc.accepted last.id).flatMap (·.changes)) first = some a ∧
        a.Agrees last) ∧
      (last.owner = first.owner ∨
        last.owner = none ∧ ∃ m ∈ first.owner, m.text ∉ sc.store.books.members.map (·.id)) := by
  intro s sc
  have h₀ := Store.holds_fresh.after steps
  obtain ⟨L, h⟩ := Inv.play h₀.sound (inv_start h₀) moves
  refine ⟨?_, ?_⟩
  · intro client copy hcopy hv savedAt
    have hverdict := h.verdict hcopy hv savedAt
    have hmatches := settles_saveAccount copy.account savedAt sc.store L h.holds.ready
      h.holds.sound h.holds.books
    rw [← hverdict]
    cases hL : Ledger.saveAccount copy.account savedAt L with
    | ok r =>
      obtain ⟨-, hrun⟩ := hmatches.of_ok hL
      rw [hrun]
      exact ⟨rfl, fun e he => by cases he⟩
    | error e =>
      rw [hmatches.of_error hL]
      exact ⟨rfl, fun _ _ => rfl⟩
  · rw [h.holds.books, h₀.books]
    intro r hr
    obtain ⟨last, hlast, rfl⟩ := List.mem_map.1 hr
    obtain ⟨first, hd⟩ := h.stored last hlast
    refine ⟨first, last, List.mem_map_of_mem hd.mem, rfl, hd.id.symm, hd.version, hd.replay, ?_⟩
    simpa [OwnedFrom, Ledger.books, Ledger.memberIds, Member.row] using hd.owner

theorem second_save_is_refused :
    let sc := (start (Store.fresh.after [
        (.createAccount ⟨"Wallet", .cash, .euro, .zero, none, true⟩,
          ⟨.ofNat 1, .ofNat 2, .ofSeconds 0, .ofSeconds 1⟩)])).play
      [.read true (.ofNat 1), .read false (.ofNat 1), .change true (.credit ⟨5, by decide⟩),
        .save true (.ofSeconds 1) false, .change false (.credit ⟨7, by decide⟩)]
    ∃ copy, sc.copies false = some copy ∧ copy.account.version < greatestWord ∧
      Accounts.save copy.account (.ofSeconds 2) sc.store =
        (.error (.domain .concurrentUpdate), sc.store) := by
  intro sc
  obtain ⟨copy, hcopy⟩ := Option.isSome_iff_exists.1
    (by decide +kernel : (sc.copies false).isSome = true)
  have hv : copy.account.version < greatestWord := by
    have h : ∀ c ∈ sc.copies false, c.account.version < greatestWord := by decide +kernel
    exact h copy hcopy
  have hverdict : sc.verdict copy (.ofSeconds 2) = .error (.domain .concurrentUpdate) := by
    have h : ∀ c ∈ sc.copies false, c.account.id.text ∈ sc.store.books.accounts.map (·.id) ∧
        (Update.on (sc.accepted.drop c.since) c.account.id).length ≠ 0 := by decide +kernel
    obtain ⟨hin, hmoved⟩ := h copy hcopy
    rw [verdict, if_neg (not_not_intro hin), if_pos fun h => hmoved (by rw [h]; rfl)]
  obtain ⟨hanswer, hkeeps⟩ := (saves_lose_no_update _ _).1 false copy hcopy hv (.ofSeconds 2)
  exact ⟨copy, hcopy, hv, Prod.ext (hanswer.trans hverdict) (hkeeps _ hverdict)⟩

end Scene

end Bookkeeping

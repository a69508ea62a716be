import Bookkeeping.Proofs.Failure.Entities
import Bookkeeping.Proofs.Ledger.Listing
import Bookkeeping.Proofs.Payment.Commute

namespace Bookkeeping

open Ledger (Query Step Resolved)

def Tags.ordered (ts : List Tag) : List Tag := ts.mergeSort (Register.byText (·.name.key))

def Reply.sorted : Reply → Reply
  | .expenditure d => .expenditure { d with tags := Tags.ordered d.tags }
  | .ingress d => .ingress { d with tags := Tags.ordered d.tags }
  | r => r

def Command.lookup (o : Occasion) : Command → Option Command
  | .createMember _ => some (.member o.id)
  | .activateMember id | .deactivateMember id => some (.member id)
  | .createAccount _ => some (.account o.id)
  | .activateAccount id | .deactivateAccount id | .renameAccount id _ => some (.account id)
  | .createCategory _ => some (.category o.id)
  | .updateCategory id _ | .activateCategory id | .deactivateCategory id => some (.category id)
  | .createTag _ => some (.tag o.id)
  | .updateTag id _ => some (.tag id)
  | .createExpenditure _ => some (.expenditure o.id)
  | .createIngress _ => some (.ingress o.id)
  | _ => none

namespace Reason

def links : Reason → Ledger → List Link
  | .expenditure _ => Ledger.expenditureTags
  | .ingress _ => Ledger.ingressTags

def look : Reason → Command
  | .expenditure e => .expenditure e.id
  | .ingress i => .ingress i.id

end Reason

namespace Ledger

variable {L L' : Ledger}

section Tags

theorem pairwise_ordered (ts : List Tag) :
    (Tags.ordered ts).Pairwise fun t u => t.name.key ≤ u.name.key := by
  have hsorted : (Tags.ordered ts).Pairwise fun t u => Register.byText (·.name.key) t u = true := by
    refine List.pairwise_mergeSort (fun t u v htu huv => ?_) (fun t u => ?_) ts
    · exact decide_eq_true (String.le_trans (of_decide_eq_true htu) (of_decide_eq_true huv))
    · simp only [Register.byText, Bool.or_eq_true, decide_eq_true_eq]
      exact String.le_total ..
  exact hsorted.imp of_decide_eq_true

theorem ordered_eq_of_perm (hn : L.tagKeys.Nodup) {kind : TagKind} {ts us : List Tag}
    (h : ∀ t ∈ ts, t ∈ L.tags ∧ t.kind = kind) (hp : us.Perm ts) :
    Tags.ordered us = Tags.ordered ts := by
  have hperm (vs : List Tag) : (Tags.ordered vs).Perm vs := List.mergeSort_perm vs _
  refine List.Perm.eq_of_pairwise (fun t u ht hu htu hut => ?_) (pairwise_ordered us)
    (pairwise_ordered ts) ((hperm us).trans (hp.trans (hperm ts).symm))
  obtain ⟨ht, htk⟩ := h t (hp.mem_iff.1 ((hperm us).mem_iff.1 ht))
  obtain ⟨hu, huk⟩ := h u ((hperm ts).mem_iff.1 hu)
  have hkey : (t.name.key, t.kind) = (u.name.key, u.kind) :=
    Prod.ext (String.le_antisymm htu hut) (htk.trans huk.symm)
  exact List.inj_on_of_nodup_map hn ht hu hkey

theorem ordered_pair {t u : Tag} (h : ¬t.name.key ≤ u.name.key) : Tags.ordered [t, u] = [u, t] := by
  simp [Tags.ordered, List.mergeSort, Register.byText, h]

end Tags

theorem attached_eq (links : Ledger → List Link) (target : Uuid) (L : Ledger) :
    attached links target L =
      .ok (Tags.ordered (L.tags.filter fun t => (links L).contains ⟨target, t.id⟩)) := rfl

structure Records (L : Ledger) (r : Reason) (t : Transaction) (c : Category) (tags : List Tag) :
    Prop where
  expenditure : ∀ e ∈ r.expenditures, e ∈ L.expenditures
  ingress : ∀ i ∈ r.ingresses, i ∈ L.ingresses
  transaction : t ∈ L.transactions ∧ t.id = r.transaction
  category : c ∈ L.categories ∧ c.id = r.category
  tags : attached r.links r.id L = .ok (Tags.ordered tags)

section Reads

theorem find_notFoundAs {xs : Ledger → List α} {key : α → Uuid} {a : α}
    (hn : ((xs L).map key).Nodup) (ha : a ∈ xs L) {id : Uuid} (hid : key a = id) (e : DomainError) :
    (Query.find xs key id).notFoundAs e L = .ok a :=
  hid ▸ Query.notFoundAs_ok.2 (Query.find_of_mem hn ha)

theorem ask_map {q : Query α} {a : α} (h : q L = .ok a) (f : α → Reply) :
    Step.ask (f <$> q) L = .ok (f a, L) :=
  Step.ask_ok.2 ⟨Query.map_ok.2 ⟨a, h, rfl⟩, rfl⟩

theorem read_member (hs : L.Sound) {m : Member} (h : m ∈ L.members) {id : Uuid} (hid : m.id = id)
    (o : Occasion) : perform (.member id) o L = .ok (.member m, L) :=
  ask_map (find_notFoundAs hs.nodup_members h hid _) _

theorem read_account (hs : L.Sound) {a : Account} (h : a ∈ L.accounts) {id : Uuid} (hid : a.id = id)
    (o : Occasion) : perform (.account id) o L = .ok (.account a, L) :=
  ask_map (find_notFoundAs hs.nodup_accounts h hid _) _

theorem read_category (hs : L.Sound) {c : Category} (h : c ∈ L.categories) {id : Uuid}
    (hid : c.id = id) (o : Occasion) : perform (.category id) o L = .ok (.category c, L) :=
  ask_map (find_notFoundAs hs.nodup_categories h hid _) _

theorem read_tag (hs : L.Sound) {t : Tag} (h : t ∈ L.tags) {id : Uuid} (hid : t.id = id)
    (o : Occasion) : perform (.tag id) o L = .ok (.tag t, L) :=
  ask_map (find_notFoundAs hs.nodup_tags h hid _) _

theorem read_record (hs : L.Sound) {r : Reason} {t : Transaction} {c : Category} {tags : List Tag}
    (h : L.Records r t c tags) (o : Occasion) :
    perform r.look o L = .ok ((r.reply t c tags).sorted, L) := by
  have ht : findTransaction r.transaction L = .ok t :=
    find_notFoundAs hs.nodup_transactions h.transaction.1 h.transaction.2 _
  have hc : findCategory r.category L = .ok c :=
    find_notFoundAs hs.nodup_categories h.category.1 h.category.2 _
  cases r with
  | expenditure e =>
    have he := h.expenditure e List.mem_cons_self
    exact ask_map (Query.bind_ok.2 ⟨e, find_notFoundAs hs.nodup_expenditures he rfl _,
      Query.bind_ok.2 ⟨t, ht, Query.bind_ok.2 ⟨c, hc, Query.bind_ok.2 ⟨_, h.tags, rfl⟩⟩⟩⟩) _
  | ingress i =>
    have hi := h.ingress i List.mem_cons_self
    exact ask_map (Query.bind_ok.2 ⟨i, find_notFoundAs hs.nodup_ingresses hi rfl _,
      Query.bind_ok.2 ⟨t, ht, Query.bind_ok.2 ⟨c, hc, Query.bind_ok.2 ⟨_, h.tags, rfl⟩⟩⟩⟩) _

end Reads

section Writes

variable {o : Occasion} {c : Command} {r : Reply}

theorem mem_links_book (hs : L.Sound) {b : Booking} (hid : b.reason.id ∉ b.reason.ids L)
    (tag : Uuid) : (⟨b.reason.id, tag⟩ : Link) ∈ b.reason.links (L.book b) ↔ tag ∈ b.tags := by
  cases hr : b.reason with
  | expenditure e =>
    rw [hr] at hid
    have hold : (⟨e.id, tag⟩ : Link) ∉ L.expenditureTags := fun h =>
      hid (hs.target_expenditureTag _ h)
    simp [Reason.links, Reason.id, Booking.expenditureTags, hr, Reason.expenditures, hold]
  | ingress i =>
    rw [hr] at hid
    have hold : (⟨i.id, tag⟩ : Link) ∉ L.ingressTags := fun h => hid (hs.target_ingressTag _ h)
    simp [Reason.links, Reason.id, Booking.ingressTags, hr, Reason.ingresses, hold]

theorem attached_book (hs : L.Sound) {b : Booking} (hid : b.reason.id ∉ b.reason.ids L)
    {kind : TagKind} {ids : List Uuid} {tags : List Tag} (h : Resolved L kind ids tags)
    (hb : b.tags = Tags.distinct (tags.map (·.id))) :
    attached b.reason.links b.reason.id (L.book b) = .ok (Tags.ordered tags) := by
  rw [attached_eq, book_tags]
  refine congrArg _ (ordered_eq_of_perm hs.nodup_tagKeys h.mem ?_)
  refine (List.perm_ext_iff_of_nodup (hs.nodup_tags.of_map.filter _) h.nodup.of_map).2 fun t => ?_
  rw [List.mem_filter, List.contains_iff_mem, mem_links_book hs hid, hb, Tags.mem_distinct]
  constructor
  · rintro ⟨ht, hmem⟩
    obtain ⟨u, hu, hut⟩ := List.mem_map.1 hmem
    rwa [← List.inj_on_of_nodup_map hs.nodup_tags (h.mem u hu).1 ht hut]
  · intro ht
    exact ⟨(h.mem t ht).1, List.mem_map_of_mem ht⟩

theorem records_book (hs : L.Sound) {p : Payment} {b : Booking} {a : Account} {k : Category}
    {balance amount : Money} {tags : List Tag}
    (h : Payment.Planned p o L r b a k balance amount tags) :
    (L.book b).Records (p.reason o k) b.transaction k tags := by
  obtain rfl := h.booking
  have hposted : (p.reason o k).transaction = o.transactionId := by cases p <;> rfl
  have hfiled : (p.reason o k).category = k.id := by cases p <;> rfl
  have hresolved := resolveTags_ok hs.nodup_tags h.resolved
  refine ⟨fun e he => ?_, fun i hi => ?_, ⟨?_, hposted.symm⟩, ⟨?_, hfiled.symm⟩, ?_⟩
  · rw [book_expenditures]
    exact List.mem_append_right _ he
  · rw [book_ingresses]
    exact List.mem_append_right _ hi
  · rw [book_transactions]
    exact List.mem_append_right _ List.mem_cons_self
  · rw [book_categories]
    exact h.category.1
  · exact attached_book (b := ⟨_, _, p.reason o k, _⟩) hs h.unrecorded hresolved rfl

theorem lookup_of_memberChange {id : Uuid} {change : Member → Except DomainError Member}
    (hc : c.memberChange o = some (id, change)) {m n : Member} (h : change m = .ok n) :
    c.lookup o = some (.member id) ∧ n.id = m.id := by
  cases c <;> cases hc <;> refine ⟨rfl, ?_⟩
  case activateMember => exact (m.ruled_activate o.now).of_ok h
  case deactivateMember => exact (m.ruled_deactivate o.now).of_ok h

theorem lookup_of_accountChange {id : Uuid} {change : Account → Except DomainError Account}
    (hc : c.accountChange o = some (id, change)) {a b : Account} (h : change a = .ok b) :
    c.lookup o = some (.account id) ∧ b.id = a.id := by
  refine ⟨?_, by rw [← accountChange_ok hc h]⟩
  cases c <;> cases hc <;> rfl

theorem lookup_of_categoryChange {id : Uuid} {change : Category → Except DomainError Category}
    (hc : c.categoryChange o = some (id, change)) {k l : Category} (h : change k = .ok l) :
    c.lookup o = some (.category id) ∧ l.id = k.id := by
  cases c <;> cases hc <;> refine ⟨rfl, ?_⟩
  case updateCategory changes => exact (k.ruled_apply changes o.now).of_ok h
  case activateCategory => exact (k.ruled_activate o.now).of_ok h
  case deactivateCategory => exact (k.ruled_deactivate o.now).of_ok h

theorem lookup_payment (p : Payment) (o : Occasion) (k : Category) :
    p.command.lookup o = some (p.reason o k).look := by
  cases p <;> rfl

theorem Effect.read (hs : L.Sound) (hs' : L'.Sound) (h : Effect L o c r L') {look : Command}
    (hlook : c.lookup o = some look) (o' : Occasion) :
    perform look o' L' = .ok (r.sorted, L') := by
  cases h with
  | looked hlooks => cases c <;> cases hlooks <;> cases hlook
  | memberDeleted | accountDeleted | categoryDeleted | tagDeleted => cases hlook
  | @memberCreated cmd _ hnew =>
    cases hlook
    have hid := (Member.ruled_new cmd o.id o.now).of_ok hnew
    exact read_member hs' (List.mem_append_right _ List.mem_cons_self) hid o'
  | @accountCreated cmd _ hnew =>
    cases hlook
    have hid := (Account.ruled_new cmd o.id o.now).of_ok hnew
    exact read_account hs' (List.mem_append_right _ List.mem_cons_self) hid.1 o'
  | @categoryCreated cmd _ hnew =>
    cases hlook
    have hid := (Category.ruled_new cmd o.id o.now).of_ok hnew
    exact read_category hs' (List.mem_append_right _ List.mem_cons_self) hid o'
  | @tagCreated cmd _ hnew =>
    cases hlook
    have hid := (Tag.ruled_new cmd o.id o.now).of_ok hnew
    exact read_tag hs' (List.mem_append_right _ List.mem_cons_self) hid o'
  | memberChanged hchange hold hnew =>
    obtain ⟨hread, hid⟩ := lookup_of_memberChange hchange hnew
    cases hread.symm.trans hlook
    exact read_member hs' (Keyed.mem_replace_self hold hid) hid o'
  | @accountChanged _ _ _ new hchange hold hnew =>
    obtain ⟨hread, hid⟩ := lookup_of_accountChange hchange hnew
    cases hread.symm.trans hlook
    exact read_account hs' (Keyed.mem_replace_self (a := new.saved o.savedAt) hold hid) hid o'
  | categoryChanged hchange hold hnew =>
    obtain ⟨hread, hid⟩ := lookup_of_categoryChange hchange hnew
    cases hread.symm.trans hlook
    exact read_category hs' (Keyed.mem_replace_self hold hid) hid o'
  | tagChanged hold hnew =>
    cases hlook
    have hid := (Tag.apply_ok hnew).1
    exact read_tag hs' (Keyed.mem_replace_self hold hid) hid o'
  | @paid p _ b hplan =>
    obtain ⟨a, k, balance, amount, tags, h⟩ := Payment.plan_ok hplan
    cases (lookup_payment p o k).symm.trans hlook
    rw [h.reply, read_record hs' (records_book hs h) o', h.booking]

end Writes

end Ledger

namespace Store

theorem Holds.reads_back {s : Store} {L : Ledger} (h : s.Holds L) {c look : Command}
    {o : Occasion} {r : Reply} (hrun : (c.run o s).1 = .ok r) (hlook : c.lookup o = some look)
    (o' : Occasion) : look.run o' (c.run o s).2 = (.ok r.sorted, (c.run o s).2) := by
  cases hl : Ledger.perform c o L with
  | error e =>
    rw [h.run_of_error hl] at hrun
    cases hrun
  | ok out =>
    obtain ⟨r', L'⟩ := out
    obtain ⟨hs, hrun'⟩ := h.run_of_ok hl
    rw [hrun'] at hrun ⊢
    cases hrun
    have hread := (Ledger.perform_effect h.sound hl).read h.sound hs hlook o'
    exact ((h.withBooks hs).run_of_ok hread).2

/-- What a command answers of what it creates or changes is read by its identifier right after, with
the tags of a record in the order of their keys. What is listed and what is read by identifier are
the same entities, and what is listed for each group is together all there is. -/
theorem reads_agree (steps : List (Command × Occasion)) :
    let s := fresh.after steps
    (∀ (c look : Command) (o o' : Occasion) (r : Reply), (c.run o s).1 = .ok r →
      c.lookup o = some look → look.run o' (c.run o s).2 = (.ok r.sorted, (c.run o s).2)) ∧
    s.Agrees :=
  have h := holds_fresh.after steps
  ⟨fun _ _ _ o' _ hrun hlook => h.reads_back hrun hlook o', h.agrees⟩

theorem tags_read_in_order :
    let o (id : Nat) : Occasion := ⟨.ofNat id, .ofNat (id + 1), .ofSeconds id, .ofSeconds (id + 1)⟩
    let steps : List (Command × Occasion) := [
      (.createAccount ⟨"Wallet", .cash, .euro, ⟨1000, by decide⟩, none, true⟩, o 1),
      (.createCategory ⟨"Food", .expenditure, ⟨none, none, none⟩⟩, o 3),
      (.createTag ⟨"weekly", "expenditure", ⟨none, none, none⟩⟩, o 5),
      (.createTag ⟨"Bread", "expenditure", ⟨none, none, none⟩⟩, o 7)]
    let p : Payment := .spend ⟨⟨.ofNat 1, .ofNat 3, ⟨300, by decide⟩, .euro, .ofSeconds 0, none,
      [.ofNat 5, .ofNat 7]⟩, true, false⟩
    let s := fresh.after steps
    let s' := (p.command.run (o 9) s).2
    ∃ d, (p.command.run (o 9) s).1 = .ok (.expenditure d) ∧
      d.tags.map (·.name.key) = ["weekly", "bread"] ∧
      (Command.expenditure (.ofNat 9)).run (o 11) s' =
        (.ok (.expenditure { d with tags := d.tags.reverse }), s') ∧
      s.Agrees := by
  intro o steps p s s'
  obtain ⟨hread, hagrees⟩ := reads_agree steps
  have hok : (p.plan (o 9) (Ledger.fresh.after steps)).isOk = true := by decide +kernel
  have hresolved : (Ledger.resolveTags .expenditure p.movement.tags (Ledger.fresh.after steps)).map
      (·.map (·.name.key)) = .ok ["weekly", "bread"] := by decide +kernel
  cases hp : p.plan (o 9) (Ledger.fresh.after steps) with
  | error e =>
    rw [hp] at hok
    cases hok
  | ok told =>
    obtain ⟨r, b⟩ := told
    obtain ⟨a, k, balance, amount, tags, h⟩ := Payment.plan_ok hp
    have htags : Ledger.resolveTags .expenditure p.movement.tags (Ledger.fresh.after steps) =
        .ok tags := h.resolved
    rw [htags] at hresolved
    have hkeys : tags.map (·.name.key) = ["weekly", "bread"] := Except.ok.inj hresolved
    have hordered : Tags.ordered tags = tags.reverse := by
      simp only [List.map_eq_cons_iff, List.map_eq_nil_iff] at hkeys
      obtain ⟨t, _, rfl, ht, u, _, rfl, hu, rfl⟩ := hkeys
      exact Ledger.ordered_pair (by rw [ht, hu]; decide)
    have hrun := congrArg Prod.fst ((holds_fresh.after steps).pay_ok hp).1
    rw [h.reply] at hrun
    have hback := hread p.command _ (o 9) (o 11) _ hrun rfl
    rw [Payment.reason, Reason.reply, Reply.sorted, hordered] at hback
    exact ⟨_, hrun, hkeys, hback, hagrees⟩

end Store

end Bookkeeping

import Bookkeeping.Proofs.Ledger.Failure
import Bookkeeping.Proofs.Spending.Tags

namespace Bookkeeping

variable {clash : Prop}

namespace Member

theorem ruled_new (cmd : NewMember) (id : Uuid) (now : Instant) :
    Ruled clash (·.id = id) (Member.new cmd id now) := by
  rw [Member.new]
  split
  · exact .named rfl
  · rfl

theorem ruled_activate (now : Instant) (m : Member) :
    Ruled clash (·.id = m.id) (m.activate now) := .ite (fun _ => .named rfl) fun _ => rfl

theorem ruled_deactivate (now : Instant) (m : Member) :
    Ruled clash (·.id = m.id) (m.deactivate now) := .ite (fun _ => rfl) fun _ => .named rfl

end Member

namespace Account

def Follows (a b : Account) : Prop := b.id = a.id ∧ b.version = a.version

theorem ruled_new (cmd : NewAccount) (id : Uuid) (now : Instant) :
    Ruled clash (fun a => a.id = id ∧ a.version = 0) (Account.new cmd id now) := by
  rw [Account.new]
  split
  · exact .named rfl
  · exact ⟨rfl, rfl⟩

theorem ruled_activate (now : Instant) (a : Account) : Ruled clash a.Follows (a.activate now) :=
  .ite (fun _ => .named rfl) fun _ => ⟨rfl, rfl⟩

theorem ruled_deactivate (now : Instant) (a : Account) : Ruled clash a.Follows (a.deactivate now) :=
  .ite (fun _ => ⟨rfl, rfl⟩) fun _ => .named rfl

theorem ruled_rename (name : String) (now : Instant) (a : Account) :
    Ruled clash a.Follows (a.rename name now) := by
  rw [Account.rename]
  split
  · exact .named rfl
  · exact ⟨rfl, rfl⟩

theorem ruled_credit (amount : Money) (a : Account) :
    Ruled clash a.Follows (a.credit amount) := by
  rw [Account.credit]
  split
  · exact ⟨rfl, rfl⟩
  · exact .named rfl

end Account

namespace Category

theorem ruled_new (cmd : NewCategory) (id : Uuid) (now : Instant) :
    Ruled clash (·.id = id) (Category.new cmd id now) := by
  rw [Category.new]
  split
  · exact .named rfl
  · rfl

theorem ruled_apply (changes : Changes) (now : Instant) (c : Category) :
    Ruled clash (·.id = c.id) (c.apply changes now) := by
  rw [Category.apply]
  split
  · rfl
  · split
    · exact .named rfl
    · rfl

theorem ruled_activate (now : Instant) (c : Category) :
    Ruled clash (·.id = c.id) (c.activate now) := .ite (fun _ => .named rfl) fun _ => rfl

theorem ruled_deactivate (now : Instant) (c : Category) :
    Ruled clash (·.id = c.id) (c.deactivate now) := .ite (fun _ => rfl) fun _ => .named rfl

end Category

namespace Tag

theorem ruled_parse (raw : String) : Ruled clash (fun _ => True) (TagName.parse raw) := by
  rw [TagName.parse]
  split
  · exact .named rfl
  · trivial

theorem ruled_new (cmd : NewTag) (id : Uuid) (now : Instant) :
    Ruled clash (·.id = id) (Tag.new cmd id now) := by
  have hkind : Ruled clash (fun _ => True) (TagKind.parse cmd.kind) := by
    rw [TagKind.parse]
    split
    · trivial
    · exact .named rfl
  exact (ruled_parse cmd.name).bind fun _ _ => hkind.bind fun _ _ => rfl

theorem ruled_apply (changes : Changes) (now : Instant) (t : Tag) :
    Ruled clash (·.id = t.id) (t.apply changes now) := by
  rw [Tag.apply]
  split
  · rfl
  · exact (ruled_parse _).bind fun _ _ => rfl

theorem ruled_ensureKind (kind : TagKind) (t : Tag) :
    Ruled clash (fun _ => True) (t.ensureKind kind) :=
  .ite (fun _ => trivial) fun _ => .named rfl

end Tag

namespace Ledger

variable {L : Ledger}

theorem ruled_enterMember {m : Member} (h : m.id ∈ L.memberIds → clash) :
    Ruled clash (· = { L with members := L.members ++ [m] }) (enterMember m L) :=
  .ite (fun hid _ => h hid) fun _ => rfl

theorem ruled_enterAccount {a : Account} (h : a.id ∈ L.accountIds → clash) :
    Ruled clash (· = { L with accounts := L.accounts ++ [a] }) (enterAccount a L) :=
  .ite (fun _ => .named rfl) fun _ => .ite (fun _ => .named rfl) fun _ =>
    .ite (fun hid _ => h hid) fun _ => rfl

theorem ruled_enterCategory {c : Category} (h : c.id ∈ L.categoryIds → clash) :
    Ruled clash (· = { L with categories := L.categories ++ [c] }) (enterCategory c L) :=
  .ite (fun hid _ => h hid) fun _ => rfl

theorem ruled_enterTransaction {t : Transaction} (h : t.id ∈ L.transactionIds → clash) :
    Ruled clash (· = { L with transactions := L.transactions ++ [t] }) (enterTransaction t L) :=
  .ite (fun _ => .named rfl) fun _ => .ite (fun _ => .named rfl) fun _ =>
    .ite (fun hid _ => h hid) fun _ => rfl

theorem ruled_enterExpenditure {e : Expenditure}
    (h : e.id ∈ L.expenditureIds ∨ e.transaction ∈ L.expenditures.map (·.transaction) → clash) :
    Ruled clash (· = { L with expenditures := L.expenditures ++ [e] }) (enterExpenditure e L) :=
  .ite (fun _ => .named rfl) fun _ => .ite (fun _ => .named rfl) fun _ =>
    .ite (fun hid _ => h hid) fun _ => rfl

theorem ruled_enterIngress {i : Ingress}
    (h : i.id ∈ L.ingressIds ∨ i.transaction ∈ L.ingresses.map (·.transaction) → clash) :
    Ruled clash (· = { L with ingresses := L.ingresses ++ [i] }) (enterIngress i L) :=
  .ite (fun _ => .named rfl) fun _ => .ite (fun _ => .named rfl) fun _ =>
    .ite (fun hid _ => h hid) fun _ => rfl

theorem ruled_enterExpenditureTag (l : Link) (L : Ledger) : Ruled (l ∈ L.expenditureTags)
    (· = { L with expenditureTags := L.expenditureTags ++ [l] }) (enterExpenditureTag l L) :=
  .ite (fun _ => .named rfl) fun _ => .ite (fun _ => .named rfl) fun _ =>
    .ite (fun hl _ => hl) fun _ => rfl

theorem ruled_enterIngressTag (l : Link) (L : Ledger) : Ruled (l ∈ L.ingressTags)
    (· = { L with ingressTags := L.ingressTags ++ [l] }) (enterIngressTag l L) :=
  .ite (fun _ => .named rfl) fun _ => .ite (fun _ => .named rfl) fun _ =>
    .ite (fun hl _ => hl) fun _ => rfl

theorem ruled_replaceMember {m : Member} (h : m.id ∈ L.memberIds) :
    Ruled clash (· = { L with members := Keyed.replace (·.id) m L.members }) (replaceMember m L) :=
  .ite (fun _ => rfl) fun hid => absurd h hid

theorem ruled_replaceCategory {c : Category} (h : c.id ∈ L.categoryIds) :
    Ruled clash (· = { L with categories := Keyed.replace (·.id) c L.categories })
      (replaceCategory c L) :=
  .ite (fun _ => rfl) fun hid => absurd h hid

theorem ruled_storeAccount (hn : L.accountIds.Nodup) {old a : Account} (hold : old ∈ L.accounts)
    (hid : old.id = a.id) :
    Ruled clash (· = { L with
      accounts := Keyed.replace (·.id) { a with createdAt := old.createdAt } L.accounts })
      (storeAccount old.version a L) := by
  rw [storeAccount, (Keyed.find?_eq_some_iff hn).2 ⟨hold, hid⟩]
  exact .ite (fun _ => .ite (fun _ => .named rfl) fun _ => .ite (fun _ => .named rfl) fun _ => rfl)
    fun hv => absurd rfl hv

theorem ruled_linkEach {enter : Link → Edit} {links : Ledger → List Link}
    (henter : ∀ l L, Ruled (l ∈ links L) (fun L' => links L' = links L ++ [l]) (enter l L))
    {target : Uuid} {tags : List Uuid} (hn : tags.Nodup)
    (hnew : ∀ tag ∈ tags, ⟨target, tag⟩ ∈ links L → clash) :
    Ruled clash (fun _ => True) (tags.foldlM (fun L tag => enter ⟨target, tag⟩ L) L) := by
  induction tags generalizing L with
  | nil => trivial
  | cons tag tags ih =>
    obtain ⟨hne, hn⟩ := List.nodup_cons.1 hn
    obtain ⟨htag, hnew⟩ := List.forall_mem_cons.1 hnew
    rw [List.foldlM_cons]
    refine ((henter ⟨target, tag⟩ L).imp htag fun _ h => h).bind fun L' hlinks => ?_
    refine ih hn fun i hi hmem => ?_
    rw [hlinks, List.mem_append, List.mem_singleton] at hmem
    rcases hmem with hmem | heq
    · exact hnew i hi hmem
    · cases heq
      exact absurd hi hne

end Ledger

end Bookkeeping

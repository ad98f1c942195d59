import Mathlib.Tactic.ByContra
import ProxyFleet.Proofs.Session.Mirror
import ProxyFleet.Proofs.Session.Parts
import ProxyFleet.Proofs.Store.Difference

/-!
# What both modes keep

The control plane has a set of resources of each kind, and it changes them set by set: a history of
`Edition`s. In the complete mode each edition is told as it is. In the incremental mode a response
brings what is new or not the same as before, perhaps more of the edition, and names what is gone.

A session that keeps what it hears keeps the current resources of the history in either mode, up to
what is held to be the same (`Ledger.Holds`): one replaces all resources of a kind, the other puts
and takes away one by one. So of two sessions that were told the same history, each in its own mode,
one keeps under every name what the other keeps, or the same.

That is not to say that they keep the same. A resource that is not the same as itself, like a
cluster with a threshold that is no number, is not the same in two stores either, and just then the
stores differ (`modes_keep_the_same_iff`).
-/

open scoped List

namespace ProxyFleet

/-! ## Histories -/

/-- All resources that there are of a kind from some moment on, no two of one name. -/
structure Edition where
  kind : ResourceKind
  resources : List Resource
  /-- A name belongs to one resource. -/
  unique : (resources.map (·.name)).Nodup

namespace Edition

/-- The resources of a kind after a history: those of its last edition, and none before any. -/
def current (history : List Edition) (k : ResourceKind) : List Resource :=
  ((history.filter (·.kind = k)).getLast?.map (·.resources)).getD []

variable (history : List Edition) (e : Edition) (k : ResourceKind)

theorem current_concat : current (history ++ [e]) k =
    if e.kind = k then e.resources else current history k := by
  rw [current, getLast?_filter_concat, current]
  by_cases h : e.kind = k
  · rw [if_pos h, if_pos (decide_eq_true h)]
    rfl
  · rw [if_neg h, if_neg (ne_true_of_eq_false (decide_eq_false h))]

theorem unique_current : ((current history k).map (·.name)).Nodup := by
  induction history using List.reverseRecOn with
  | nil => exact List.nodup_nil
  | append_singleton history e ih =>
    rw [current_concat]
    split
    · exact e.unique
    · exact ih

variable {history e k}

def named? (history : List Edition) (k : ResourceKind) (name : String) : Option Resource :=
  (current history k).find? (·.name = name)

theorem named?_eq_some_iff {name : String} {x : Resource} :
    named? history k name = some x ↔ x ∈ current history k ∧ x.name = name := by
  constructor
  · intro h
    exact ⟨List.mem_of_find?_eq_some h, by simpa using List.find?_some h⟩
  · rintro ⟨hx, rfl⟩
    rcases h : named? history k x.name with _ | y
    · exact absurd (decide_eq_true rfl) (List.find?_eq_none.mp h x hx)
    · have hname : y.name = x.name := by simpa using List.find?_some h
      rw [List.inj_on_of_nodup_map (unique_current history k) (List.mem_of_find?_eq_some h) hx hname]

theorem named?_concat_of_ne {name : String} (h : e.kind ≠ k) :
    named? (history ++ [e]) k name = named? history k name := by
  rw [named?, current_concat, if_neg h, named?]

theorem named?_eq_none_iff {name : String} :
    named? history k name = none ↔ ∀ x ∈ current history k, x.name ≠ name := by
  rw [named?, List.find?_eq_none]
  simp

end Edition

/-- What the responses of a session say, each after what was said before: a history. -/
inductive Chronicle (tells : List Edition → Response → Edition → Prop) :
    List Edition → List Response → Prop
  | nil : Chronicle tells [] []
  | concat {past : List Edition} {rs : List Response} {r : Response} {e : Edition} :
    Chronicle tells past rs → tells past r e → Chronicle tells (past ++ [e]) (rs ++ [r])

namespace Chronicle

variable {tells : List Edition → Response → Edition → Prop}
variable {history : List Edition} {rs more : List Response} {r : Response}

theorem eq_nil (h : Chronicle tells history []) : history = [] := by
  generalize hrs : ([] : List Response) = rs at h
  cases h with
  | nil => rfl
  | concat => simp at hrs

theorem of_concat (h : Chronicle tells history (rs ++ [r])) :
    ∃ past e, history = past ++ [e] ∧ Chronicle tells past rs ∧ tells past r e := by
  generalize hrs : rs ++ [r] = all at h
  cases h with
  | nil => simp at hrs
  | concat hpast htells =>
    obtain ⟨rfl, hr⟩ := List.append_inj' hrs rfl
    obtain rfl := List.singleton_inj.mp hr
    exact ⟨_, _, rfl, hpast, htells⟩

theorem length_eq (h : Chronicle tells history rs) : history.length = rs.length := by
  induction h with
  | nil => rfl
  | concat _ _ ih => rw [List.length_append, List.length_append, ih]; rfl

theorem take (h : Chronicle tells history (rs ++ more)) :
    Chronicle tells (history.take rs.length) rs := by
  induction more using List.reverseRecOn generalizing history with
  | nil =>
    rw [List.append_nil] at h
    rw [← h.length_eq, List.take_length]
    exact h
  | append_singleton more r ih =>
    rw [← List.append_assoc] at h
    obtain ⟨past, e, rfl, hpast, -⟩ := h.of_concat
    have hlong : rs.length ≤ past.length := by
      rw [hpast.length_eq, List.length_append]
      exact Nat.le_add_right ..
    rw [List.take_append_of_le_length hlong]
    exact ih hpast

end Chronicle

namespace Comparison

variable {c : Comparison} {x y z : Resource} {found found' known : Option Resource}

/-- Two resources are equal, or held to be the same. -/
def Alike (c : Comparison) (x y : Resource) : Prop := x = y ∨ c.same x y = true

theorem Alike.trans (h : c.Alike x y) (h' : c.Alike y z) : c.Alike x z := by
  rcases h with rfl | h
  · exact h'
  · rcases h' with rfl | h'
    · exact .inr h
    · exact .inr (c.trans h h')

theorem rel_alike_rfl : Option.Rel c.Alike found found := by
  rcases found with _ | x
  · exact .none
  · exact .some (.inl rfl)

theorem rel_alike_trans (h : Option.Rel c.Alike found found')
    (h' : Option.Rel c.Alike found' known) : Option.Rel c.Alike found known := by
  cases h with
  | some hfirst =>
    cases h' with
    | some hsecond => exact .some (hfirst.trans hsecond)
  | none => exact h'

/-- Of two resources that are like a third, one is the same as the other just if the third is the
same as itself. -/
theorem same_iff_of_alike (hx : c.Alike x z) (hy : c.Alike y z) :
    c.same x y = true ↔ c.same z z = true := by
  rcases hx with rfl | hx
  · rcases hy with rfl | hy
    · rfl
    · exact ⟨fun h ↦ c.trans h hy, fun _ ↦ c.symm hy⟩
  · have hself : c.same z z = true := c.trans (c.symm hx) hx
    rcases hy with rfl | hy
    · exact iff_of_true hx hself
    · exact iff_of_true (c.trans hx (c.symm hy)) hself

theorem agree_iff_of_alike (h : Option.Rel c.Alike found known)
    (h' : Option.Rel c.Alike found' known) :
    c.Agree found found' ↔ ∀ x ∈ known, c.same x x = true := by
  cases h with
  | some hx =>
    cases h' with
    | some hy =>
      rw [agree_some_some, same_iff_of_alike hx hy]
      simp
  | none =>
    cases h' with
    | none => simp

end Comparison

namespace Profile

variable (p : Profile) {past : List Edition} {r : Response} {e : Edition}

/-- A response that lists an edition. -/
structure Lists (r : Response) (e : Edition) : Prop where
  typeUrl : r.typeUrl = e.kind.typeUrl
  brings : p.decoded r = e.resources

/-- A response that says what an edition changes. -/
structure Amends (c : Comparison) (past : List Edition) (r : Response) (e : Edition) : Prop where
  typeUrl : r.typeUrl = e.kind.typeUrl
  /-- It brings nothing else than the edition has. -/
  brings : ∀ x ∈ p.decoded r, x ∈ e.resources
  /-- It brings what was not there before, or was not the same. -/
  news : ∀ x ∈ e.resources,
    (∀ y ∈ Edition.current past e.kind, y.name = x.name → ¬c.Alike y x) → x ∈ p.decoded r
  /-- The names that it says are gone are those of resources that the edition no longer has. -/
  gone : ∀ name, name ∈ r.removed ↔
    (∃ x ∈ Edition.current past e.kind, x.name = name) ∧ ∀ x ∈ e.resources, x.name ≠ name

variable {p} {c : Comparison} {name : String} {x y : Resource}

/-- No other names need to be looked at than those that are said to be gone and those there were. -/
theorem Amends.of_names (typeUrl : r.typeUrl = e.kind.typeUrl)
    (brings : ∀ x ∈ p.decoded r, x ∈ e.resources)
    (news : ∀ x ∈ e.resources, x ∉ Edition.current past e.kind → x ∈ p.decoded r)
    (gone : ∀ name ∈ r.removed,
      (∃ x ∈ Edition.current past e.kind, x.name = name) ∧ ∀ x ∈ e.resources, x.name ≠ name)
    (left : ∀ x ∈ Edition.current past e.kind,
      (∀ y ∈ e.resources, y.name ≠ x.name) → x.name ∈ r.removed) : p.Amends c past r e where
  typeUrl := typeUrl
  brings := brings
  news x hx hnew := news x hx fun hold ↦ hnew x hold rfl (.inl rfl)
  gone name := by
    refine ⟨gone name, ?_⟩
    rintro ⟨⟨x, hx, rfl⟩, hnone⟩
    exact left x hx hnone

theorem Lists.kind_eq (h : p.Lists r e) : ResourceKind.ofTypeUrl? r.typeUrl = some e.kind :=
  ResourceKind.ofTypeUrl?_eq_some_iff.mpr h.typeUrl

namespace Amends

variable (h : p.Amends c past r e)

include h

theorem kind_eq : ResourceKind.ofTypeUrl? r.typeUrl = some e.kind :=
  ResourceKind.ofTypeUrl?_eq_some_iff.mpr h.typeUrl

theorem of_find?_eq_some (hlast : ((p.decoded r).reverse.find? fun y ↦
    e.kind = y.kind ∧ name = y.name) = some y) : y ∈ e.resources ∧ y.name = name := by
  have hsame : e.kind = y.kind ∧ name = y.name := by simpa using List.find?_some hlast
  have hin : y ∈ p.decoded r := List.mem_reverse.mp (List.mem_of_find?_eq_some hlast)
  exact ⟨h.brings y hin, hsame.2.symm⟩

/-- Under a name that nothing comes in under and that is not gone, the edition has what there was,
or the same. -/
theorem alike_named? (hlast : ((p.decoded r).reverse.find? fun y ↦
    e.kind = y.kind ∧ name = y.name) = none) (hkept : name ∉ r.removed) :
    Option.Rel c.Alike (Edition.named? past e.kind name)
      (Edition.named? (past ++ [e]) e.kind name) := by
  have hcurrent : Edition.current (past ++ [e]) e.kind = e.resources := by
    rw [Edition.current_concat, if_pos rfl]
  rcases hnow : Edition.named? (past ++ [e]) e.kind name with _ | x
  · rcases hold : Edition.named? past e.kind name with _ | y
    · exact .none
    · rw [Edition.named?_eq_none_iff, hcurrent] at hnow
      obtain ⟨hy, rfl⟩ := Edition.named?_eq_some_iff.mp hold
      exact absurd ((h.gone y.name).mpr ⟨⟨y, hy, rfl⟩, hnow⟩) hkept
  · obtain ⟨hx, rfl⟩ := Edition.named?_eq_some_iff.mp hnow
    rw [hcurrent] at hx
    obtain ⟨y, hy, hname, halike⟩ :
        ∃ y ∈ Edition.current past e.kind, y.name = x.name ∧ c.Alike y x := by
      by_contra hnone
      have hin : x ∈ p.decoded r :=
        h.news x hx fun y hy hname halike ↦ hnone ⟨y, hy, hname, halike⟩
      have hother := List.find?_eq_none.mp hlast x (List.mem_reverse.mpr hin)
      exact hother (decide_eq_true ⟨(Ledger.kind_of_mem_decoded h.kind_eq hin).symm, rfl⟩)
    rw [Edition.named?_eq_some_iff.mpr ⟨hy, hname⟩]
    exact .some halike

end Amends

end Profile

/-! ## One response -/

namespace Ledger

/-- A ledger keeps the current resources of a history, or the same, each under its name, and no
others. -/
structure Holds (c : Comparison) (l : Ledger) (history : List Edition) : Prop where
  keepsStore : l.store.isSome
  stored : ∀ k name, Option.Rel c.Alike (l.stored? k name) (Edition.named? history k name)

variable {c : Comparison} {l : Ledger} {p : Profile} {past : List Edition} {r : Response}
variable {e : Edition}

theorem holds_new : (new true).Holds c [] where
  keepsStore := rfl
  stored k name := by
    rw [stored?_new]
    exact .none

theorem Holds.lists (h : l.Holds c past) (hp : p.mode = .complete) (hr : p.Lists r e) :
    (l.reply p r).1.Holds c (past ++ [e]) := by
  obtain ⟨s, hs⟩ := Option.isSome_iff_exists.mp h.keepsStore
  have hstore : (l.reply p r).1.store = some (s.replace e.kind e.resources) := by
    rw [reply_of_some _ hr.kind_eq, hp, hr.brings]
    exact congrArg (Option.map _) hs
  refine ⟨by rw [hstore]; rfl, fun k name ↦ ?_⟩
  rw [stored?, hstore, Option.bind_some, Store.find?_replace]
  by_cases hkind : k = e.kind
  · subst hkind
    have hlisted : (Store.byName e.resources).find? name =
        Edition.named? (past ++ [e]) e.kind name := by
      ext x
      rw [Store.find?_byName_eq_some_iff e.unique, Edition.named?_eq_some_iff,
        Edition.current_concat, if_pos rfl]
    rw [if_pos rfl, hlisted]
    exact Comparison.rel_alike_rfl
  · rw [if_neg hkind, Edition.named?_concat_of_ne (Ne.symm hkind)]
    have hkept := h.stored k name
    rw [stored?, hs, Option.bind_some] at hkept
    exact hkept

/-- What is kept after a response of the incremental mode: what it brings last under a name, else
what was kept, unless it says that it is gone. -/
theorem stored?_reply_incremental (hp : p.mode = .incremental) {k j : ResourceKind}
    (hk : ResourceKind.ofTypeUrl? r.typeUrl = some k) (hstore : l.store.isSome) (name : String) :
    (l.reply p r).1.stored? j name =
      if j = k ∧ name ∈ r.removed then none
      else ((p.decoded r).reverse.find? fun x ↦ j = x.kind ∧ name = x.name).or
        (l.stored? j name) := by
  rw [reply_incremental l hp hk]
  refine (stored?_forgetAll (l := (p.decoded r).foldl storeOne l) r.removed).trans ?_
  rw [stored?_foldl_storeOne hstore]

theorem Holds.amends (h : l.Holds c past) (hp : p.mode = .incremental) (hr : p.Amends c past r e) :
    (l.reply p r).1.Holds c (past ++ [e]) := by
  have hstore : (l.reply p r).1.store.isSome = l.store.isSome := by
    rw [reply_incremental l hp hr.kind_eq]
    exact (isSome_store_forgetAll r.removed).trans (isSome_store_foldl_storeOne (p.decoded r))
  refine ⟨hstore.trans h.keepsStore, fun k name ↦ ?_⟩
  rw [stored?_reply_incremental hp hr.kind_eq h.keepsStore]
  by_cases hkind : k = e.kind
  · subst hkind
    have hcurrent : Edition.current (past ++ [e]) e.kind = e.resources := by
      rw [Edition.current_concat, if_pos rfl]
    cases hlast : (p.decoded r).reverse.find? fun y ↦ e.kind = y.kind ∧ name = y.name with
    | none =>
      rw [Option.none_or]
      by_cases hgone : name ∈ r.removed
      · have hnone : Edition.named? (past ++ [e]) e.kind name = none := by
          rw [Edition.named?_eq_none_iff, hcurrent]
          exact ((hr.gone name).mp hgone).2
        rw [if_pos ⟨rfl, hgone⟩, hnone]
        exact .none
      · rw [if_neg fun hand ↦ hgone hand.2]
        exact Comparison.rel_alike_trans (h.stored e.kind name) (hr.alike_named? hlast hgone)
    | some y =>
      obtain ⟨hy, rfl⟩ := hr.of_find?_eq_some hlast
      -- What comes in under a name is the resource of the edition that has it, so it is not gone.
      have hkept : ¬(e.kind = e.kind ∧ y.name ∈ r.removed) := by
        rintro ⟨-, hgone⟩
        exact ((hr.gone y.name).mp hgone).2 y hy rfl
      have hnow : Edition.named? (past ++ [e]) e.kind y.name = some y := by
        rw [Edition.named?_eq_some_iff, hcurrent]
        exact ⟨hy, rfl⟩
      rw [if_neg hkept, Option.some_or, hnow]
      exact Comparison.rel_alike_rfl
  · have hlast : ((p.decoded r).reverse.find? fun y ↦ k = y.kind ∧ name = y.name) = none := by
      refine List.find?_eq_none.mpr fun y hy hsame ↦ hkind ?_
      exact (of_decide_eq_true hsame).1.trans
        (kind_of_mem_decoded hr.kind_eq (List.mem_reverse.mp hy))
    rw [if_neg fun hand ↦ hkind hand.1, hlast, Option.none_or,
      Edition.named?_concat_of_ne (Ne.symm hkind)]
    exact h.stored k name

/-- Ledgers that keep the resources of one history differ just if one of these is not the same as
itself. -/
theorem Holds.isEmpty_diff {l' : Ledger} {history : List Edition} (h : l.Holds c history)
    (h' : l'.Holds c history) : (l.responses.diff c l'.responses).isEmpty = true ↔
      ∀ k, ∀ x ∈ Edition.current history k, c.same x x = true := by
  rw [Store.isEmpty_diff]
  refine forall_congr' fun k ↦ ?_
  simp only [← stored?_eq_find?_responses,
    Comparison.agree_iff_of_alike (h.stored k _) (h'.stored k _)]
  constructor
  · intro hnamed x hx
    exact hnamed x.name x (Edition.named?_eq_some_iff.mpr ⟨hx, rfl⟩)
  · intro hcurrent name x hx
    exact hcurrent x (Edition.named?_eq_some_iff.mp hx).1

end Ledger

/-! ## Sessions -/

namespace Session

variable {s t : Session} {p q : Profile} {history : List Edition} {moves : List Move}

/-- Responses are all taken in if the receiver comes to rest in between. -/
theorem heard_map_respond {rs : List Response}
    (hidle : ∀ before ∈ rs.inits, (s.play (before.map .respond)).receiver = .idle) :
    s.heard (rs.map .respond) = rs := by
  induction rs generalizing s with
  | nil => rfl
  | cons r rest ih =>
    have hfirst : s.receiver = .idle := hidle [] (List.mem_cons_self ..)
    have hmove : s.move (.respond r) = s.respond r := if_pos hfirst
    rw [List.map_cons, heard_respond_cons hfirst, ih]
    intro before hbefore
    rw [← hmove]
    exact hidle (r :: before) (List.mem_cons_of_mem _ (List.mem_map_of_mem hbefore))

theorem Start.holds {c : Comparison} (hs : Start p true s)
    {tells : List Edition → Response → Edition → Prop}
    (hreply : ∀ past (l : Ledger) r e, tells past r e → l.Holds c past →
      (l.reply p r).1.Holds c (past ++ [e]))
    (hopen : (s.play moves).isClosed = false) (h : Chronicle tells history (s.heard moves)) :
    (s.play moves).ledger.Holds c history := by
  refine hs.ledger_induction
    (P := fun rs l ↦ ∀ history, Chronicle tells history rs → l.Holds c history)
    (fun history h ↦ ?_) (fun rs l ih history h ↦ ?_) (fun rs l r ih history h ↦ ?_) moves hopen
    history h
  · rw [h.eq_nil]
    exact Ledger.holds_new
  · exact ⟨(ih history h).keepsStore, (ih history h).stored⟩
  · obtain ⟨past, e, rfl, hpast, htells⟩ := h.of_concat
    exact hreply past l r e htells (ih past hpast)

/-- Two sessions that keep what they hear, one in each mode, are told the same history: the one by
responses that list the editions, the other by responses that say what they change. As long as both
are open, whenever they have heard of as many editions they keep the same, if and only if every
current resource is the same as itself. This is so for every comparison of resources, and of
decoders there may be any. -/
theorem modes_keep_the_same_iff (c : Comparison) (hs : Start p true s) (ht : Start q true t)
    (hp : p.mode = .complete) (hq : q.mode = .incremental) (history : List Edition)
    (moves moves' : List Move) (hlists : Chronicle (fun _ ↦ p.Lists) history (s.heard moves))
    (hamends : Chronicle (q.Amends c) history (t.heard moves')) :
    ∀ before before', before <+: moves → before' <+: moves' →
      (s.play before).isClosed = false → (t.play before').isClosed = false →
      (s.heard before).length = (t.heard before').length →
      (((s.play before).ledger.responses.diff c (t.play before').ledger.responses).isEmpty = true ↔
        ∀ k, ∀ x ∈ Edition.current (history.take (s.heard before).length) k, c.same x x = true) ∧
      (((t.play before').ledger.responses.diff c (s.play before).ledger.responses).isEmpty = true ↔
        ∀ k, ∀ x ∈ Edition.current (history.take (s.heard before).length) k,
          c.same x x = true) := by
  rintro before before' ⟨after, rfl⟩ ⟨after', rfl⟩ hopen hopen' hlength
  rw [heard_append] at hlists hamends
  have hcomplete : (s.play before).ledger.Holds c (history.take (s.heard before).length) :=
    hs.holds (fun _ _ _ _ hr h ↦ h.lists hp hr) hopen hlists.take
  have hsecond := hamends.take
  rw [← hlength] at hsecond
  have hincremental : (t.play before').ledger.Holds c (history.take (s.heard before).length) :=
    ht.holds (fun _ _ _ _ hr h ↦ h.amends hq hr) hopen' hsecond
  exact ⟨hcomplete.isEmpty_diff hincremental, hincremental.isEmpty_diff hcomplete⟩

end Session

def sharer (name : String) : Resource :=
  .cluster ⟨name, some ⟨"s"⟩, 0, "", some (.standard 3), none⟩

def Edition.pair : Edition := ⟨.cluster, [sharer "a", sharer "b"], by decide⟩

/-- One of them. -/
def Edition.single : Edition := ⟨.cluster, [sharer "b"], by decide⟩

/-- No listeners. -/
def Edition.bare : Edition := ⟨.listener, [], by decide⟩

def noListeners : Response :=
  { clusterPush "d" [] [] with typeUrl := ResourceKind.listener.typeUrl }

/-- A cluster goes and comes back, and then it turns out that there are no listeners. All of it is
told. -/
def listed : List Response :=
  [clusterPush "a" [0x61, 0x62] [], clusterPush "b" [0x62] [], clusterPush "c" [0x61, 0x62] [],
    noListeners]

/-- The same is told by what changes. -/
def amended : List Response :=
  [clusterPush "a" [0x61, 0x62] [], clusterPush "b" [] ["a"], clusterPush "c" [0x61] [],
    noListeners]

theorem chronicle_listed :
    Chronicle (fun _ ↦ (Profile.plain .complete).Lists) [.pair, .single, .pair, .bare] listed := by
  have hpair : (Profile.plain .complete).Lists (clusterPush "a" [0x61, 0x62] []) .pair :=
    ⟨rfl, by decide +kernel⟩
  have hsingle : (Profile.plain .complete).Lists (clusterPush "b" [0x62] []) .single :=
    ⟨rfl, by decide +kernel⟩
  have hback : (Profile.plain .complete).Lists (clusterPush "c" [0x61, 0x62] []) .pair :=
    ⟨rfl, by decide +kernel⟩
  have hbare : (Profile.plain .complete).Lists noListeners .bare := ⟨rfl, by decide +kernel⟩
  have hnothing : Chronicle (fun _ ↦ (Profile.plain .complete).Lists) [] [] := .nil
  exact (((hnothing.concat hpair).concat hsingle).concat hback).concat hbare

theorem chronicle_amended : Chronicle ((Profile.plain .incremental).Amends .ofMessages)
    [.pair, .single, .pair, .bare] amended := by
  have hpair : (Profile.plain .incremental).Amends .ofMessages []
      (clusterPush "a" [0x61, 0x62] []) .pair :=
    .of_names rfl (by decide +kernel) (by decide +kernel) (by decide +kernel) (by decide +kernel)
  have hsingle : (Profile.plain .incremental).Amends .ofMessages [.pair]
      (clusterPush "b" [] ["a"]) .single :=
    .of_names rfl (by decide +kernel) (by decide +kernel) (by decide +kernel) (by decide +kernel)
  have hback : (Profile.plain .incremental).Amends .ofMessages [.pair, .single]
      (clusterPush "c" [0x61] []) .pair :=
    .of_names rfl (by decide +kernel) (by decide +kernel) (by decide +kernel) (by decide +kernel)
  have hbare : (Profile.plain .incremental).Amends .ofMessages [.pair, .single, .pair]
      noListeners .bare :=
    .of_names rfl (by decide +kernel) (by decide +kernel) (by decide +kernel) (by decide +kernel)
  have hnothing : Chronicle ((Profile.plain .incremental).Amends .ofMessages) [] [] := .nil
  exact (((hnothing.concat hpair).concat hsingle).concat hback).concat hbare

namespace Session

theorem modes_keep_the_same_iff_listed :
    (((plain .complete).play (listed.map .respond)).ledger.responses.diff .ofMessages
      ((plain .incremental).play (amended.map .respond)).ledger.responses).isEmpty = true ∧
    (((plain .incremental).play (amended.map .respond)).ledger.responses.diff .ofMessages
      ((plain .complete).play (listed.map .respond)).ledger.responses).isEmpty = true := by
  have hlisted : (plain .complete).heard (listed.map .respond) = listed :=
    heard_map_respond (by decide +kernel)
  have hamended : (plain .incremental).heard (amended.map .respond) = amended :=
    heard_map_respond (by decide +kernel)
  have hlength : ((plain .complete).heard (listed.map .respond)).length =
      ((plain .incremental).heard (amended.map .respond)).length := by
    rw [hlisted, hamended]
    rfl
  have hkeep := modes_keep_the_same_iff .ofMessages (.plain .complete) (.plain .incremental) rfl rfl
    [.pair, .single, .pair, .bare] (listed.map .respond) (amended.map .respond)
    (hlisted ▸ chronicle_listed) (hamended ▸ chronicle_amended) _ _ (List.prefix_refl _)
    (List.prefix_refl _) (by decide +kernel) (by decide +kernel) hlength
  have hself : ∀ k, ∀ x ∈ Edition.current ([.pair, .single, .pair, .bare].take listed.length) k,
      Comparison.ofMessages.same x x = true := by
    intro k
    cases k <;> decide +kernel
  rw [hlisted] at hkeep
  exact ⟨hkeep.1.mpr hself, hkeep.2.mpr hself⟩

end Session

/-- A cluster with a threshold that is no number. -/
def oddCluster : Resource :=
  .cluster ⟨"a", none, 0, "", none, some ⟨some ⟨⟨0x7ff8000000000000⟩⟩⟩⟩

/-- A response with it. -/
def oddPush : Response where
  typeUrl := ResourceKind.cluster.typeUrl
  version := "1"
  nonce := "o"
  resources := [some ⟨ResourceKind.cluster.typeUrl,
    [0x0a, 1, 0x61, 0xda, 1, 11, 0x0a, 9, 9, 0, 0, 0, 0, 0, 0, 0xf8, 0x7f]⟩]

/-- That it is all there is. -/
def Edition.odd : Edition := ⟨.cluster, [oddCluster], by decide⟩

namespace Session

/-- Two sessions that heard of nothing else differ all the same. -/
theorem not_always_keep_the_same :
    ¬ ∀ (p q : Profile) (s t : Session) (history : List Edition) (moves moves' : List Move),
      Start p true s → Start q true t → p.mode = .complete → q.mode = .incremental →
      Chronicle (fun _ ↦ p.Lists) history (s.heard moves) →
      Chronicle (q.Amends .ofMessages) history (t.heard moves') →
      ∀ before before', before <+: moves → before' <+: moves' →
        (s.play before).isClosed = false → (t.play before').isClosed = false →
        (s.heard before).length = (t.heard before').length →
        ((s.play before).ledger.responses.diff .ofMessages
          (t.play before').ledger.responses).isEmpty = true ∧
        ((t.play before').ledger.responses.diff .ofMessages
          (s.play before).ledger.responses).isEmpty = true := by
  intro h
  have hheard : ∀ mode, (plain mode).heard [.respond oddPush] = [oddPush] := by
    intro mode
    exact heard_respond_cons rfl
  have hlists : Chronicle (fun _ ↦ (Profile.plain .complete).Lists) [.odd] [oddPush] :=
    Chronicle.nil.concat ⟨rfl, by decide +kernel⟩
  have hamends : Chronicle ((Profile.plain .incremental).Amends .ofMessages) [.odd] [oddPush] :=
    Chronicle.nil.concat (.of_names rfl (by decide +kernel) (by decide +kernel) (by decide +kernel)
      (by decide +kernel))
  have hsame := h (.plain .complete) (.plain .incremental) (plain .complete) (plain .incremental)
    [.odd] [.respond oddPush] [.respond oddPush] (.plain .complete) (.plain .incremental) rfl rfl
    (by rw [hheard]; exact hlists) (by rw [hheard]; exact hamends) _ _ (List.prefix_refl _)
    (List.prefix_refl _) (by decide +kernel) (by decide +kernel) (by rw [hheard, hheard])
  revert hsame
  decide +kernel

end Session

end ProxyFleet

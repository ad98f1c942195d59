import ProxyFleet.Proofs.Session.Complete

/-!
# Both sides agree on every subscription

In the complete mode a control plane knows of a subscription only what the last request for its kind
said. That is the entry of the kind: `Agrees` relates a table and the requests so far, kind by kind,
in the view in which a missing entry is not an empty one.

Requests and changes of the table come in pairs, in the same order, so the relation is carried
through a reply one request after the other. What makes the pairs match is that the names of a
request are read off the table at the place in which it stands: there is no request about a kind
between a change of the kind and the request that tells of it.
-/

namespace ProxyFleet

/-- The names of the last request for a kind, if there was one. -/
def asked? (drafts : List Draft) (k : ResourceKind) : Option NameSet :=
  (drafts.filter (·.typeUrl = k.typeUrl)).getLast?.map (·.names)

theorem asked?_concat (drafts : List Draft) (d : Draft) (k : ResourceKind) :
    asked? (drafts ++ [d]) k = if d.typeUrl = k.typeUrl then some d.names else asked? drafts k := by
  rw [asked?, getLast?_filter_concat, asked?]
  simp only [decide_eq_true_eq]
  split <;> rfl

/-- The entries of a table are what the last requests said. -/
def Agrees (t : WatchTable) (drafts : List Draft) : Prop := ∀ k, asked? drafts k = t.wanted? k

namespace Agrees

variable {t : WatchTable} {drafts : List Draft} {d : Draft} {k : ResourceKind}

theorem empty : Agrees .empty [] := fun k ↦ (WatchTable.wanted?_empty k).symm

theorem concat {t' : WatchTable} (h : Agrees t drafts) (hurl : d.typeUrl = k.typeUrl)
    (hk : t'.wanted? k = some d.names) (hother : ∀ j, j ≠ k → t'.wanted? j = t.wanted? j) :
    Agrees t' (drafts ++ [d]) := by
  intro j
  rw [asked?_concat]
  by_cases hj : j = k
  · rw [hj, if_pos hurl, hk]
  · have hne : d.typeUrl ≠ j.typeUrl := by
      rw [hurl, Ne, ResourceKind.typeUrl_inj]
      exact Ne.symm hj
    rw [if_neg hne, hother j hj, h j]

theorem update (h : Agrees t drafts) {names : List String} (hurl : d.typeUrl = k.typeUrl)
    (hnames : d.names = .ofList names) : Agrees (t.update k names) (drafts ++ [d]) := by
  refine h.concat hurl ?_ fun j hj ↦ ?_
  · rw [WatchTable.wanted?_update, if_pos rfl, hnames]
  · rw [WatchTable.wanted?_update, if_neg hj]

theorem recordAck (h : Agrees t drafts) {nonce version : String} (hurl : d.typeUrl = k.typeUrl)
    (hnames : d.names = t.names k) : Agrees (t.recordAck k nonce version) (drafts ++ [d]) := by
  refine h.concat hurl ?_ fun j hj ↦ ?_
  · rw [WatchTable.wanted?_recordAck, if_pos rfl, hnames]
  · rw [WatchTable.wanted?_recordAck, if_neg hj]

theorem other (h : Agrees t drafts) (hurl : ResourceKind.ofTypeUrl? d.typeUrl = none) :
    Agrees t (drafts ++ [d]) := by
  intro j
  rw [asked?_concat, if_neg, h j]
  intro hj
  rw [hj, ResourceKind.ofTypeUrl?_typeUrl] at hurl
  cases hurl

theorem updateAll (h : Agrees t drafts) (changes : List (ResourceKind × NameSet)) :
    Agrees (t.updateAll changes)
      (drafts ++ changes.map fun c ↦ { typeUrl := c.1.typeUrl, names := c.2 }) := by
  induction changes generalizing t drafts with
  | nil => exact (List.append_nil drafts).symm ▸ h
  | cons c rest ih =>
    rw [List.map_cons, List.append_cons, WatchTable.updateAll, List.foldl_cons,
      ← WatchTable.updateAll]
    exact ih (h.update rfl (NameSet.ofList_toList c.2).symm)

end Agrees

/-- Both sides agree, and what nothing needs by name is wanted as a whole. -/
structure InStep (l : Ledger) (drafts : List Draft) : Prop where
  /-- Every entry is what the last request for its kind said. -/
  agrees : Agrees l.watches drafts
  /-- All clusters and all listeners are wanted. -/
  unnamed : ∀ k ∉ ResourceKind.everNeeded, l.watches.names k = .empty
  /-- No request for clusters or for listeners names any. -/
  wildcards : ∀ d ∈ drafts, ∀ k ∉ ResourceKind.everNeeded, d.typeUrl = k.typeUrl → d.names = .empty

namespace InStep

variable {l : Ledger} {p : Profile} {drafts : List Draft}

theorem new (keepsStore : Bool) : InStep (.new keepsStore) [] where
  agrees := .empty
  unnamed k _ := WatchTable.names_empty k
  wildcards _ h := absurd h List.not_mem_nil

theorem beginWatch (h : InStep l drafts) (hp : p.mode = .complete) :
    InStep (l.beginWatch p.mode) (drafts ++ p.mode.opening) := by
  rw [hp]
  refine ⟨h.agrees.update rfl rfl, fun k hk ↦ ?_, fun d hd k hk hurl ↦ ?_⟩
  · refine (WatchTable.names_update ..).trans ?_
    split
    · rfl
    · exact h.unnamed k hk
  · rcases List.mem_append.mp hd with hd | hd
    · exact h.wildcards d hd k hk hurl
    · rw [List.mem_singleton.mp hd]

theorem unnamed_digestComplete (h : InStep l drafts) (r : Response) (k : ResourceKind)
    (resources : List Resource) :
    ∀ j ∉ ResourceKind.everNeeded, (l.digestComplete r k resources).1.watches.names j = .empty := by
  intro j hj
  have hneeded : j ∉ k.needed := fun h ↦ hj (ResourceKind.mem_everNeeded h)
  by_cases hl : j = .listener
  · subst hl
    rw [Ledger.watches_digestComplete]
    split
    · rw [WatchTable.names_update, if_pos rfl]
      rfl
    · rw [WatchTable.names_recordAck, Ledger.names_updateAll_of_not_mem _ _ _ hneeded]
      exact h.unnamed _ hj
  · rw [Ledger.names_digestComplete_of_not_mem _ _ _ _ hneeded hl]
    exact h.unnamed j hj

theorem agrees_digestComplete (h : InStep l drafts) {r : Response} {k : ResourceKind}
    (hk : r.typeUrl = k.typeUrl) (resources : List Resource) :
    Agrees (l.digestComplete r k resources).1.watches
      (drafts ++ (l.digestComplete r k resources).2) := by
  have hsubscribed := h.agrees.updateAll (l.changedSubscriptions k resources)
  by_cases hfirst : k = .cluster ∧ ¬ l.clustersSeen
  · have hnames : (l.digestComplete r k resources).1.watches.names k =
        (l.watches.updateAll (l.changedSubscriptions k resources)).names k :=
      Ledger.names_digestComplete _ _ _ _ (by rw [hfirst.1]; decide)
    rw [Ledger.digestComplete_snd, ← Ledger.changedSubscriptions_eq_resubscriptions, hnames,
      Ledger.watches_digestComplete, if_pos hfirst, if_pos hfirst, ← List.append_assoc,
      ← List.append_assoc]
    exact (hsubscribed.recordAck hk rfl).update rfl rfl
  · have hnames : (l.digestComplete r k resources).1.watches.names k =
        (l.watches.updateAll (l.changedSubscriptions k resources)).names k := by
      rw [Ledger.watches_digestComplete, if_neg hfirst, WatchTable.names_recordAck]
    rw [Ledger.digestComplete_snd, ← Ledger.changedSubscriptions_eq_resubscriptions, hnames,
      Ledger.watches_digestComplete, if_neg hfirst, if_neg hfirst, List.append_nil,
      ← List.append_assoc]
    exact hsubscribed.recordAck hk rfl

theorem reply (h : InStep l drafts) (hp : p.mode = .complete) (r : Response) :
    InStep (l.reply p r).1 (drafts ++ (l.reply p r).2) := by
  cases hk : ResourceKind.ofTypeUrl? r.typeUrl with
  | none =>
    rw [Ledger.reply_of_none _ hk, hp]
    refine ⟨h.agrees.other hk, h.unnamed, fun d hd k hwild hurl ↦ ?_⟩
    rcases List.mem_append.mp hd with hd | hd
    · exact h.wildcards d hd k hwild hurl
    · rw [List.mem_singleton.mp hd]
      rfl
  | some k =>
    have hurl := ResourceKind.ofTypeUrl?_eq_some_iff.mp hk
    have hunnamed := h.unnamed_digestComplete r k (p.decoded r)
    rw [Ledger.reply_of_some _ hk, hp]
    refine ⟨h.agrees_digestComplete hurl (p.decoded r), hunnamed, fun d hd j hwild hj ↦ ?_⟩
    rcases List.mem_append.mp hd with hd | hd
    · exact h.wildcards d hd j hwild hj
    change d ∈ (l.digestComplete r k (p.decoded r)).2 at hd
    rw [Ledger.digestComplete_snd, List.mem_append, List.mem_append] at hd
    rcases hd with (hd | hd) | hd
    · -- Requests for changed names are about kinds that something needs.
      obtain ⟨k', hk', rfl⟩ := List.mem_map.mp hd
      rw [ResourceKind.typeUrl_inj] at hj
      exact absurd (List.mem_filter.mp hk').1 (hj ▸ hwild)
    · rw [List.mem_singleton.mp hd] at hj ⊢
      rw [← ResourceKind.typeUrl_inj.mp (hurl.symm.trans hj)] at hwild
      exact hunnamed k hwild
    · split at hd
      · rw [List.mem_singleton.mp hd]
      · cases hd

end InStep

/-! ## On every play -/

namespace Session

variable {s : Session} {p : Profile} {keepsStore : Bool}

/-- In every open session of the complete mode whose requests were all accepted, there is a
subscription to a kind if and only if some request was about it, the last such request lists just
the names of the subscription, in increasing order, and no request for clusters or for listeners
lists any. -/
theorem subscriptions_agreed (hs : Start p keepsStore s) (hp : p.mode = .complete)
    (moves : List Move) (hopen : (s.play moves).isClosed = false) (h : s.AllAccepted moves) :
    (∀ k, ((s.play moves).ledger.watches.find? k).isSome ↔
      ∃ d ∈ (s.play moves).wire, d.typeUrl = k.typeUrl) ∧
    (∀ k w, (s.play moves).ledger.watches.find? k = some w →
      ∃ d, ((s.play moves).wire.filter (·.typeUrl = k.typeUrl)).getLast? = some d ∧
        d.names.toList = w.names.toList ∧ d.names.toList.Pairwise (· < ·)) ∧
    ∀ d ∈ (s.play moves).wire, d.typeUrl = ResourceKind.cluster.typeUrl ∨
      d.typeUrl = ResourceKind.listener.typeUrl → d.names = .empty := by
  have hstep : InStep (s.play moves).ledger (s.play moves).wire :=
    hs.trace_induction (P := fun _ ds l ↦ InStep l ds) (.new keepsStore)
      (fun _ _ _ h ↦ h.beginWatch hp) (fun _ _ _ r h ↦ h.reply hp r) moves hopen h
  refine ⟨fun k ↦ ?_, fun k w hw ↦ ?_, fun d hd hwild ↦ ?_⟩
  · have hk := congrArg Option.isSome (hstep.agrees k)
    rw [asked?, WatchTable.wanted?, Option.isSome_map, Option.isSome_map] at hk
    rw [← hk, List.getLast?_isSome, Ne, List.filter_eq_nil_iff]
    simp
  · have hk := hstep.agrees k
    rw [asked?, WatchTable.wanted?, hw, Option.map_some, Option.map_eq_some_iff] at hk
    obtain ⟨d, hd, hnames⟩ := hk
    exact ⟨d, hd, congrArg NameSet.toList hnames, d.names.increasing⟩
  · rcases hwild with hwild | hwild
    · exact hstep.wildcards d hd .cluster (by decide) hwild
    · exact hstep.wildcards d hd .listener (by decide) hwild

/-- The last request for endpoint assignments asks for the one that both clusters need. -/
theorem subscriptions_agreed_pushTwice :
    (plain .complete).AllAccepted pushTwice ∧ ∃ d,
      (((plain .complete).play pushTwice).wire.filter
        (·.typeUrl = ResourceKind.endpoint.typeUrl)).getLast? = some d ∧
      d.names.toList = ["s"] := by
  have hagreed := subscriptions_agreed (.plain .complete) rfl pushTwice (open_pushTwice .complete)
    (allAccepted_pushTwice .complete)
  have hwatch : ((plain .complete).play pushTwice).ledger.watches.find? .endpoint =
      some { names := .ofList ["s"] } := by decide +kernel
  obtain ⟨d, hd, hnames, -⟩ := hagreed.2.1 .endpoint _ hwatch
  exact ⟨allAccepted_pushTwice .complete, d, hd, hnames⟩

end Session

end ProxyFleet

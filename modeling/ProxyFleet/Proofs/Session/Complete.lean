import Mathlib.Data.List.Nodup
import ProxyFleet.Proofs.Session.Course
import ProxyFleet.Proofs.Watch.Wanted

/-!
# Replies in the complete mode

A response in the complete mode replaces what its resources need, kind by kind, but only where that
differs from before. Seen through the names alone the condition is invisible: after the response a
subscription *is* what the batch needs, and the requests that go out are those for the kinds whose
names differ before and after. `Ledger.reply_snd` says so, without a word about how the ledger finds
out.

The condition is visible through the entries: a kind that needs nothing and has no entry gets none.
-/

namespace ProxyFleet

universe u

theorem getLast?_filter_concat {α : Type u} (p : α → Bool) (l : List α) (a : α) :
    ((l ++ [a]).filter p).getLast? = if p a then some a else (l.filter p).getLast? := by
  rw [List.filter_append]
  by_cases h : p a = true
  · rw [if_pos h, List.filter_cons_of_pos h, List.filter_nil, List.getLast?_concat]
  · rw [if_neg h, List.filter_cons_of_neg h, List.filter_nil, List.append_nil]

theorem ResourceKind.typeUrl_inj {j k : ResourceKind} : j.typeUrl = k.typeUrl ↔ j = k := by
  refine ⟨fun h ↦ ?_, congrArg typeUrl⟩
  have hk := ofTypeUrl?_typeUrl k
  rw [← h, ofTypeUrl?_typeUrl] at hk
  exact Option.some_inj.mp hk

theorem ResourceKind.ofTypeUrl?_eq_some_iff {url : String} {k : ResourceKind} :
    ofTypeUrl? url = some k ↔ url = k.typeUrl := by
  refine ⟨fun h ↦ (typeUrl_of_ofTypeUrl? h).symm, ?_⟩
  rintro rfl
  exact ofTypeUrl?_typeUrl k

/-! ## What a batch needs -/

/-- The kinds of which resources of a kind can need some. -/
def ResourceKind.needed : ResourceKind → List ResourceKind
  | cluster => [endpoint]
  | listener => [route, secret, extension]
  | _ => []

theorem ResourceKind.not_mem_needed_self (k : ResourceKind) : k ∉ k.needed := by
  cases k <;> decide

theorem ResourceKind.listener_not_mem_needed (k : ResourceKind) : .listener ∉ k.needed := by
  cases k <;> decide

theorem ResourceKind.eq_of_mem_needed {j k k' : ResourceKind} (h : j ∈ k.needed)
    (h' : j ∈ k'.needed) : k = k' := by
  cases k <;> cases k' <;> first | rfl | cases j <;> simp [needed] at h h'

/-- The kinds of which any resource can need some, in the order in which requests ask for them. -/
def ResourceKind.everNeeded : List ResourceKind := [endpoint, route, secret, extension]

theorem ResourceKind.filter_everNeeded (k : ResourceKind) :
    everNeeded.filter (· ∈ k.needed) = k.needed := by cases k <;> decide

theorem ResourceKind.mem_everNeeded {j k : ResourceKind} (h : j ∈ k.needed) : j ∈ everNeeded := by
  rw [← k.filter_everNeeded] at h
  exact (List.mem_filter.mp h).1

theorem ResourceKind.exists_mem_needed : ∀ j ∈ everNeeded, ∃ k ∈ all, j ∈ k.needed := by decide

theorem map_fst_derivedSubscriptions (k : ResourceKind) (resources : List Resource) :
    (derivedSubscriptions k resources).map (·.1) = k.needed := by cases k <;> rfl

theorem nodup_derivedSubscriptions (k : ResourceKind) (resources : List Resource) :
    ((derivedSubscriptions k resources).map (·.1)).Nodup := by
  rw [map_fst_derivedSubscriptions]
  cases k <;> decide

theorem mem_needed_of_mem_derivedSubscriptions {j k : ResourceKind} {names : NameSet}
    {resources : List Resource} (h : (j, names) ∈ derivedSubscriptions k resources) :
    j ∈ k.needed := by
  rw [← map_fst_derivedSubscriptions k resources]
  exact List.mem_map_of_mem h

theorem eq_of_mem_derivedSubscriptions {j k : ResourceKind} {names names' : NameSet}
    {resources : List Resource} (h : (j, names) ∈ derivedSubscriptions k resources)
    (h' : (j, names') ∈ derivedSubscriptions k resources) : names = names' :=
  congrArg Prod.snd (List.inj_on_of_nodup_map (nodup_derivedSubscriptions k resources) h h' rfl)

namespace WatchTable

/-- The table after changes to the wanted names of several kinds. -/
def updateAll (t : WatchTable) (changes : List (ResourceKind × NameSet)) : WatchTable :=
  changes.foldl (fun w (kind, names) ↦ w.update kind names.toList) t

/-- The requests for the kinds whose names are not what they were. Clusters and listeners are not
among them: of these a session always wants all. -/
def resubscriptions (before after : WatchTable) : List Draft :=
  (ResourceKind.everNeeded.filter fun k ↦ after.names k ≠ before.names k).map
    fun k ↦ { typeUrl := k.typeUrl, names := after.names k }

variable (t : WatchTable) {j : ResourceKind} {changes : List (ResourceKind × NameSet)}

theorem wanted?_updateAll_of_not_mem (h : j ∉ changes.map (·.1)) :
    (t.updateAll changes).wanted? j = t.wanted? j := by
  induction changes generalizing t with
  | nil => rfl
  | cons c rest ih =>
    rw [List.map_cons, List.mem_cons, not_or] at h
    rw [updateAll, List.foldl_cons, ← updateAll, ih _ h.2, wanted?_update, if_neg h.1]

theorem wanted?_updateAll_of_mem (hd : (changes.map (·.1)).Nodup) {names : NameSet}
    (h : (j, names) ∈ changes) : (t.updateAll changes).wanted? j = some names := by
  induction changes generalizing t with
  | nil => cases h
  | cons c rest ih =>
    obtain ⟨hc, hrest⟩ := List.nodup_cons.mp hd
    rw [updateAll, List.foldl_cons, ← updateAll]
    rcases List.mem_cons.mp h with rfl | h
    · rw [wanted?_updateAll_of_not_mem _ hc, wanted?_update, if_pos rfl, NameSet.ofList_toList]
    · exact ih _ hrest h

end WatchTable

namespace Ledger

variable (l : Ledger) (r : Response) (k : ResourceKind) (resources : List Resource)
variable {j : ResourceKind} {names : NameSet}

/-! ## Which subscriptions change -/

theorem mem_changedSubscriptions : (j, names) ∈ l.changedSubscriptions k resources ↔
    (j, names) ∈ derivedSubscriptions k resources ∧ names ≠ l.watches.names j := by
  rw [changedSubscriptions, List.mem_filter]
  exact and_congr_right' ((WatchTable.differs_eq_true_iff ..).trans (by rw [NameSet.ofList_toList]))

theorem nodup_changedSubscriptions : ((l.changedSubscriptions k resources).map (·.1)).Nodup := by
  rw [changedSubscriptions]
  exact (List.filter_sublist.map _).nodup (nodup_derivedSubscriptions k resources)

theorem names_updateAll_of_mem (h : (j, names) ∈ derivedSubscriptions k resources) :
    (l.watches.updateAll (l.changedSubscriptions k resources)).names j = names := by
  rw [WatchTable.names_eq_getD]
  by_cases hn : names = l.watches.names j
  -- If nothing differs, no change is about the kind, since a batch has one set of names for each.
  · have hj : j ∉ (l.changedSubscriptions k resources).map (·.1) := by
      intro hj
      obtain ⟨⟨_, names'⟩, hmem, rfl⟩ := List.mem_map.mp hj
      obtain ⟨hmem, hdiffers⟩ := (l.mem_changedSubscriptions k resources).mp hmem
      rw [eq_of_mem_derivedSubscriptions hmem h] at hdiffers
      exact hdiffers hn
    rw [WatchTable.wanted?_updateAll_of_not_mem _ hj, ← WatchTable.names_eq_getD, hn]
  · rw [WatchTable.wanted?_updateAll_of_mem _ (l.nodup_changedSubscriptions k resources)
      ((l.mem_changedSubscriptions k resources).mpr ⟨h, hn⟩)]
    rfl

theorem names_updateAll_of_not_mem (h : j ∉ k.needed) :
    (l.watches.updateAll (l.changedSubscriptions k resources)).names j = l.watches.names j := by
  have hj : j ∉ (l.changedSubscriptions k resources).map (·.1) := by
    rw [changedSubscriptions]
    exact fun hj ↦ h (map_fst_derivedSubscriptions k resources ▸ (List.filter_sublist.map _).mem hj)
  rw [WatchTable.names_eq_getD, WatchTable.wanted?_updateAll_of_not_mem _ hj,
    ← WatchTable.names_eq_getD]

/-! ## After a response -/

/-- The ledger's table after a response, operation by operation. -/
theorem watches_digestComplete : (l.digestComplete r k resources).1.watches =
    if k = .cluster ∧ ¬ l.clustersSeen then
      ((l.watches.updateAll (l.changedSubscriptions k resources)).recordAck k r.nonce
        r.version).update .listener []
    else (l.watches.updateAll (l.changedSubscriptions k resources)).recordAck k r.nonce r.version :=
  rfl

theorem names_digestComplete (h : j ≠ .listener) :
    (l.digestComplete r k resources).1.watches.names j =
      (l.watches.updateAll (l.changedSubscriptions k resources)).names j := by
  rw [watches_digestComplete]
  split
  · rw [WatchTable.names_update, if_neg h, WatchTable.names_recordAck]
  · rw [WatchTable.names_recordAck]

theorem names_digestComplete_of_mem (h : (j, names) ∈ derivedSubscriptions k resources) :
    (l.digestComplete r k resources).1.watches.names j = names := by
  have hj : j ≠ .listener := by
    rintro rfl
    exact k.listener_not_mem_needed (mem_needed_of_mem_derivedSubscriptions h)
  rw [names_digestComplete _ _ _ _ hj, names_updateAll_of_mem _ _ _ h]

theorem names_digestComplete_of_not_mem (h : j ∉ k.needed) (hj : j ≠ .listener) :
    (l.digestComplete r k resources).1.watches.names j = l.watches.names j := by
  rw [names_digestComplete _ _ _ _ hj, names_updateAll_of_not_mem _ _ _ h]

/-- The subscriptions that change are those whose names are not what they were. -/
theorem changedSubscriptions_eq_resubscriptions :
    (l.changedSubscriptions k resources).map
        (fun c ↦ ({ typeUrl := c.1.typeUrl, names := c.2 } : Draft)) =
      l.watches.resubscriptions (l.digestComplete r k resources).1.watches := by
  generalize hafter : (l.digestComplete r k resources).1.watches = after
  have hsame : ∀ j, j ∉ k.needed → j ∈ ResourceKind.everNeeded →
      after.names j = l.watches.names j := by
    intro j hj hever
    rw [← hafter, names_digestComplete_of_not_mem _ _ _ _ hj]
    rintro rfl
    revert hever
    decide
  have hnew : ∀ c ∈ derivedSubscriptions k resources, after.names c.1 = c.2 := by
    intro c hc
    rw [← hafter, names_digestComplete_of_mem _ _ _ _ hc]
  -- Kinds that the batch cannot need drop out of the list because their names are as before.
  have hkinds : (ResourceKind.everNeeded.filter fun j ↦ after.names j ≠ l.watches.names j) =
      k.needed.filter fun j ↦ after.names j ≠ l.watches.names j := by
    rw [← k.filter_everNeeded, List.filter_filter]
    refine List.filter_congr fun j hj ↦ ?_
    by_cases hk : j ∈ k.needed
    · simp [hk]
    · simp [hk, hsame j hk hj]
  rw [WatchTable.resubscriptions, hkinds, ← map_fst_derivedSubscriptions k resources,
    List.filter_map, List.map_map, changedSubscriptions]
  -- On those that it can need, the test against the table before is the test against the one after.
  have hchanged : (derivedSubscriptions k resources).filter
        (fun (kind, names) ↦ l.watches.differs kind names.toList) =
      (derivedSubscriptions k resources).filter
        ((fun j ↦ decide (after.names j ≠ l.watches.names j)) ∘ (·.1)) := by
    refine List.filter_congr fun c hc ↦ ?_
    change l.watches.differs c.1 c.2.toList = _
    rw [WatchTable.differs_eq, NameSet.ofList_toList, ← hnew c hc]
    rfl
  rw [hchanged]
  refine List.map_congr_left fun c hc ↦ ?_
  rw [Function.comp_apply, hnew c (List.mem_filter.mp hc).1]

/-- The requests that follow from a response: those for the kinds whose names change, the
acknowledgement with the names as they are then, and after the first clusters that for listeners. -/
theorem digestComplete_snd : (l.digestComplete r k resources).2 =
    l.watches.resubscriptions (l.digestComplete r k resources).1.watches ++
      [{ typeUrl := r.typeUrl, version := r.version, nonce := r.nonce
         names := (l.digestComplete r k resources).1.watches.names k }] ++
      if k = .cluster ∧ ¬ l.clustersSeen then
        [{ typeUrl := ResourceKind.listener.typeUrl }]
      else [] := by
  rw [← changedSubscriptions_eq_resubscriptions]
  rfl

end Ledger

/-! ## Any response -/

/-- Whether a response is one of clusters. -/
def Response.bringsClusters (r : Response) : Bool :=
  ResourceKind.ofTypeUrl? r.typeUrl = some .cluster

/-- The wanted names of the kind that a type URL belongs to. -/
def WatchTable.namesUnder (t : WatchTable) (typeUrl : String) : NameSet :=
  match ResourceKind.ofTypeUrl? typeUrl with
  | some k => t.names k
  | none => .empty

/-- The answer to a response in the complete mode, given what was heard before: requests for the
kinds whose names change, the acknowledgement with the names as they are then, and after the first
clusters a request for all listeners. -/
def answer (past : List Response) (r : Response) (before after : WatchTable) : List Draft :=
  before.resubscriptions after ++
    [{ typeUrl := r.typeUrl, version := r.version, nonce := r.nonce
       names := after.namesUnder r.typeUrl }] ++
    if r.bringsClusters ∧ ¬ past.any Response.bringsClusters then
      [{ typeUrl := ResourceKind.listener.typeUrl }]
    else []

namespace Ledger

variable (l : Ledger) {p : Profile} (r : Response)

theorem clustersSeen_reply (hp : p.mode = .complete) :
    (l.reply p r).1.clustersSeen = (l.clustersSeen || r.bringsClusters) := by
  cases hk : ResourceKind.ofTypeUrl? r.typeUrl with
  | none =>
    rw [reply_of_none _ hk, Response.bringsClusters, hk]
    exact (Bool.or_false _).symm
  | some k =>
    rw [reply_of_some _ hk, Response.bringsClusters, hk, hp]
    change (l.clustersSeen || decide (k = .cluster)) = _
    simp

theorem reply_snd (hp : p.mode = .complete) {past : List Response}
    (hseen : l.clustersSeen = past.any Response.bringsClusters) :
    (l.reply p r).2 = answer past r l.watches (l.reply p r).1.watches := by
  cases hk : ResourceKind.ofTypeUrl? r.typeUrl with
  | none =>
    have hsame : l.watches.resubscriptions l.watches = [] := by
      simp [WatchTable.resubscriptions]
    rw [reply_of_none _ hk, answer, WatchTable.namesUnder, hk, hsame, Response.bringsClusters, hk,
      hp]
    rfl
  | some k =>
    have hfirst : (r.bringsClusters = true ∧ ¬ past.any Response.bringsClusters = true) ↔
        (k = .cluster ∧ ¬ l.clustersSeen = true) := by
      rw [Response.bringsClusters, hk, hseen]
      simp
    rw [reply_of_some _ hk, hp]
    change (l.digestComplete r k (p.decoded r)).2 = _
    rw [digestComplete_snd, answer, WatchTable.namesUnder, hk, if_congr hfirst rfl rfl]
    rfl

end Ledger

/-! ## On the stream -/

namespace Session.Start

variable {s : Session} {p : Profile} {keepsStore : Bool} (hs : Start p keepsStore s)
variable (hp : p.mode = .complete) {moves : List Move} {r : Response}

include hs hp

theorem clustersSeen_play (hopen : (s.play moves).isClosed = false) :
    (s.play moves).ledger.clustersSeen = (s.heard moves).any Response.bringsClusters := by
  refine hs.ledger_induction (P := fun rs l ↦ l.clustersSeen = rs.any Response.bringsClusters)
    rfl (fun rs l h ↦ h) (fun rs l r h ↦ ?_) moves hopen
  rw [Ledger.clustersSeen_reply _ _ hp, h, List.any_append, List.any_cons, List.any_nil,
    Bool.or_false]

theorem asks_respond (hidle : (s.play moves).receiver = .idle)
    (hopen : (s.play (moves ++ [.respond r])).isClosed = false) :
    (s.play moves).asks (.respond r) = answer (s.heard moves) r (s.play moves).ledger.watches
      (s.play (moves ++ [.respond r])).ledger.watches := by
  have hbefore := hs.open_of_append hopen
  rw [asks, if_pos hidle, hs.ledger_concat_respond hidle hopen, hs.profile_play]
  exact Ledger.reply_snd _ r hp (hs.clustersSeen_play hp hbefore)

end Session.Start

end ProxyFleet

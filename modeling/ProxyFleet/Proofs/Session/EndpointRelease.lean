import ProxyFleet.Proofs.Session.Incremental
import ProxyFleet.Proofs.Store.Lookup

/-!
# Endpoint assignments that are given up

In the incremental mode a session subscribes to the endpoint assignment of a cluster when the
cluster comes in, and gives it up when the cluster goes. What to give up is read off the cluster
that goes, and not compared with what others need: two clusters can share an assignment, a cluster
that was never kept gives up the assignment of its own name, and within one response giving up comes
last.

So a kept cluster need not have its assignment. All kept clusters have theirs just when it never
stayed lost: whenever a response gave up what one of them needs, a later one brought a cluster that
needs it. `Session.Regained` is that condition for one name.
-/

namespace ProxyFleet

namespace Ledger

/-- Every kept cluster that needs an endpoint assignment has it among the wanted ones. -/
def CoversClusters (l : Ledger) : Prop :=
  ∀ name c needed, l.stored? .cluster name = some (.cluster c) → c.endpointName? = some needed →
    needed ∈ l.watches.names .endpoint

/-! ## One response -/

variable {l : Ledger} {j k : ResourceKind} {name : String} {x : Resource}

theorem stored?_of_forgetAll {gone : List String}
    (h : (l.forgetAll k gone).1.stored? j name = some x) : l.stored? j name = some x := by
  induction gone generalizing l with
  | nil => exact h
  | cons gone rest ih =>
    have h := ih h
    rw [stored?_forget] at h
    split at h
    · cases h
    · exact h

theorem mem_or_stored?_of_foldl_storeOne {resources : List Resource}
    (h : (resources.foldl storeOne l).stored? j name = some x) :
    (x ∈ resources ∧ x.kind = j ∧ x.name = name) ∨ l.stored? j name = some x := by
  induction resources generalizing l with
  | nil => exact .inr h
  | cons y rest ih =>
    rcases ih h with ⟨hx, hsame⟩ | h
    · exact .inl ⟨List.mem_cons_of_mem _ hx, hsame⟩
    · refine (eq_or_stored?_of_storeOne h).imp_left ?_
      rintro ⟨rfl, hsame⟩
      exact ⟨List.mem_cons_self, hsame⟩

theorem names_endpoint_beginWatch (l : Ledger) {m : Mode} (hm : m = .incremental) :
    (l.beginWatch m).watches.names .endpoint = l.watches.names .endpoint := by
  subst hm
  refine (WatchTable.names_update ..).trans ?_
  rw [if_neg (by decide), WatchTable.names_update, if_neg (by decide)]

variable {p : Profile} (r : Response)

/-- What is wanted after a response was wanted before or is needed by what it brings, and it was not
given up by it. -/
theorem mem_names_endpoint_reply (hp : p.mode = .incremental) {needed : String} :
    needed ∈ (l.reply p r).1.watches.names .endpoint ↔
      (needed ∈ l.watches.names .endpoint ∨ needed ∈ p.endpointsWanted r) ∧
        needed ∉ l.released p r := by
  rw [mem_names_reply_incremental l hp]
  simp

theorem stored?_of_reply (hp : p.mode = .incremental)
    (h : (l.reply p r).1.stored? j name = some x) :
    (x ∈ p.decoded r ∧ x.kind = j ∧ x.name = name) ∨ l.stored? j name = some x := by
  cases hk : ResourceKind.ofTypeUrl? r.typeUrl with
  | none =>
    rw [reply_of_none _ hk] at h
    exact .inr h
  | some k =>
    rw [reply_of_some _ hk, hp] at h
    exact mem_or_stored?_of_foldl_storeOne (stored?_of_forgetAll h)

end Ledger

/-! ## On every play -/

namespace Session

/-- Whenever a response gave up an endpoint assignment, a later one brought a cluster that needs it.
-/
def Regained (s : Session) (moves : List Move) (needed : String) : Prop :=
  ∀ before r after, moves = before ++ .respond r :: after → (s.play before).receiver = .idle →
    needed ∈ (s.play before).ledger.released s.profile r →
    ∃ q ∈ (s.play (before ++ [.respond r])).heard after, needed ∈ s.profile.endpointsWanted q

variable (s : Session)

theorem eq_of_mem_hears {m : Move} {r : Response} (h : r ∈ s.hears m) :
    m = .respond r ∧ s.receiver = .idle := by
  cases m with
  | respond q =>
    rw [hears] at h
    split at h
    · next hidle => exact ⟨congrArg Move.respond (List.mem_singleton.mp h).symm, hidle⟩
    · cases h
  | _ => cases h

theorem heard_split_concat (before : List Move) (r : Response) (after : List Move) (m : Move) :
    (s.play (before ++ [.respond r])).heard (after ++ [m]) =
      (s.play (before ++ [.respond r])).heard after ++
        (s.play (before ++ .respond r :: after)).hears m := by
  rw [heard_concat, ← play_append, ← List.append_cons]

theorem regained_concat (moves : List Move) (m : Move) (needed : String) :
    s.Regained (moves ++ [m]) needed ↔
      (s.Regained moves needed ∨
        ∃ q ∈ (s.play moves).hears m, needed ∈ s.profile.endpointsWanted q) ∧
      ∀ r ∈ (s.play moves).hears m, needed ∉ (s.play moves).ledger.released s.profile r := by
  constructor
  · intro h
    refine ⟨?_, fun r hr hreleased ↦ ?_⟩
    · by_cases hm : ∃ q ∈ (s.play moves).hears m, needed ∈ s.profile.endpointsWanted q
      · exact .inr hm
      · refine .inl fun before r after hmoves hidle hreleased ↦ ?_
        subst hmoves
        obtain ⟨q, hq, hneeded⟩ := h before r (after ++ [m])
          (by rw [List.append_assoc, List.cons_append]) hidle hreleased
        rw [heard_split_concat, List.mem_append] at hq
        rcases hq with hq | hq
        · exact ⟨q, hq, hneeded⟩
        · exact absurd ⟨q, hq, hneeded⟩ hm
    · obtain ⟨rfl, hidle⟩ := (s.play moves).eq_of_mem_hears hr
      obtain ⟨q, hq, -⟩ := h moves r [] rfl hidle hreleased
      cases hq
  · rintro ⟨hregained, hkept⟩ before r after hmoves hidle hreleased
    rcases List.eq_nil_or_concat after with rfl | ⟨after, m', rfl⟩
    · -- The last move is the one that gives the name up.
      obtain ⟨rfl, hm⟩ := List.append_inj' hmoves rfl
      rw [List.singleton_inj.mp hm] at hkept
      refine absurd hreleased (hkept r ?_)
      rw [hears, if_pos hidle]
      exact List.mem_singleton_self r
    · rw [List.concat_eq_append] at hmoves ⊢
      rw [← List.cons_append, ← List.append_assoc] at hmoves
      obtain ⟨rfl, hm⟩ := List.append_inj' hmoves rfl
      rw [← List.singleton_inj.mp hm, heard_split_concat]
      rcases hregained with hregained | ⟨q, hq, hneeded⟩
      · obtain ⟨q, hq, hneeded⟩ := hregained before r after rfl hidle hreleased
        exact ⟨q, List.mem_append_left _ hq, hneeded⟩
      · exact ⟨q, List.mem_append_right _ hq, hneeded⟩

theorem mem_endpointsWanted {p : Profile} {r : Response} {c : Cluster} {needed : String}
    (hc : .cluster c ∈ p.decoded r) (hneeded : c.endpointName? = some needed) :
    needed ∈ p.endpointsWanted r := by
  rw [Profile.endpointsWanted, Ledger.endpointsWanted, List.mem_filterMap]
  exact ⟨c, List.mem_filterMap.mpr ⟨_, hc, rfl⟩, hneeded⟩

section

variable {s} {p : Profile} {keepsStore : Bool} (hs : Start p keepsStore s)
variable (hp : p.mode = .incremental) {moves : List Move}

include hs hp

/-- A name is wanted if some response needed it and it was not given up since for good. -/
theorem mem_names_endpoint_play (hopen : (s.play moves).isClosed = false) (needed : String) :
    needed ∈ (s.play moves).ledger.watches.names .endpoint ↔
      (∃ q ∈ s.heard moves, needed ∈ p.endpointsWanted q) ∧ s.Regained moves needed := by
  have hprofile : s.profile = p := hs.profile_play []
  induction moves using List.reverseRecOn with
  | nil =>
    have hnothing : s.ledger.watches.names .endpoint = .empty := by
      cases hs with
      | onStream => exact WatchTable.names_empty _
      | connected => exact (Ledger.names_endpoint_beginWatch _ hp).trans (WatchTable.names_empty _)
    rw [play_nil, hnothing]
    simp [heard, NameSet.not_mem_empty]
  | append_singleton moves m ih =>
    have hbefore : needed ∈ (s.play moves).ledger.watches.names .endpoint ↔
        (∃ q ∈ s.heard moves, needed ∈ p.endpointsWanted q) ∧ s.Regained moves needed :=
      ih (hs.open_of_append hopen)
    rw [isClosed, hs.latched, play_concat] at hopen
    -- What was needed at some time only grows, so a move matters by what it gives up and regains.
    rw [regained_concat, heard_concat, play_concat, hprofile]
    rcases move_cases (hs.latched moves) m hopen with
      ⟨hheard, -, -, hledger⟩ | ⟨hheard, -, -, hledger⟩ | ⟨r, hheard, -, -, hledger⟩
    · rw [hheard, hledger, hbefore]
      simp
    · rw [hheard, hledger, hs.profile_play, Ledger.names_endpoint_beginWatch _ hp, hbefore]
      simp
    · rw [hheard, hledger, hs.profile_play, Ledger.mem_names_endpoint_reply r hp, hbefore]
      have hneeded : (∃ q ∈ s.heard moves ++ [r], needed ∈ p.endpointsWanted q) ↔
          (∃ q ∈ s.heard moves, needed ∈ p.endpointsWanted q) ∨ needed ∈ p.endpointsWanted r := by
        simp [or_and_right, exists_or]
      have hback : (∃ q ∈ [r], needed ∈ p.endpointsWanted q) ↔ needed ∈ p.endpointsWanted r := by
        simp
      have hkept : (∀ q ∈ [r], needed ∉ (s.play moves).ledger.released p q) ↔
          needed ∉ (s.play moves).ledger.released p r := by simp
      rw [hneeded, hback, hkept, and_or_right, and_assoc]

theorem exists_heard_of_stored? (hopen : (s.play moves).isClosed = false) {k : ResourceKind}
    {name : String} {x : Resource} (h : (s.play moves).ledger.stored? k name = some x) :
    ∃ r ∈ s.heard moves, x ∈ p.decoded r := by
  refine hs.ledger_induction
    (P := fun rs l ↦ l.stored? k name = some x → ∃ r ∈ rs, x ∈ p.decoded r)
    (fun h ↦ ?_) (fun rs l ih h ↦ ih h) (fun rs l r ih h ↦ ?_) moves hopen h
  · rw [Ledger.stored?_new] at h
    cases h
  · rcases Ledger.stored?_of_reply r hp h with ⟨h, -⟩ | h
    · exact ⟨r, List.mem_append_right _ (List.mem_singleton_self r), h⟩
    · obtain ⟨q, hq, hx⟩ := ih h
      exact ⟨q, List.mem_append_left _ hq, hx⟩

/-- In every open session of the incremental mode all kept clusters have their endpoint assignments
if and only if each that was ever given up came back. -/
theorem endpoints_covered_iff (moves : List Move) (hopen : (s.play moves).isClosed = false) :
    (s.play moves).ledger.CoversClusters ↔
      ∀ name c needed, (s.play moves).ledger.stored? .cluster name = some (.cluster c) →
        c.endpointName? = some needed → s.Regained moves needed := by
  constructor
  · intro h name c needed hc hneeded
    exact ((mem_names_endpoint_play hs hp hopen needed).mp (h name c needed hc hneeded)).2
  · intro h name c needed hc hneeded
    obtain ⟨r, hr, hmem⟩ := exists_heard_of_stored? hs hp hopen hc
    exact (mem_names_endpoint_play hs hp hopen needed).mpr
      ⟨⟨r, hr, mem_endpointsWanted hmem hneeded⟩, h name c needed hc hneeded⟩

end

/-- Two clusters share an assignment, and one of them goes. -/
def sharedRemoval : List Move :=
  [.respond (clusterPush "a" [0x61, 0x62] []), .respond (clusterPush "b" [] ["a"])]

theorem endpoints_covered_iff_sharedRemoval :
    ((plain .incremental).play sharedRemoval).isClosed = false ∧
      (((plain .incremental).play sharedRemoval).ledger.CoversClusters ↔
        ∀ name c needed,
          ((plain .incremental).play sharedRemoval).ledger.stored? .cluster name =
            some (.cluster c) →
          c.endpointName? = some needed → (plain .incremental).Regained sharedRemoval needed) := by
  have hopen : ((plain .incremental).play sharedRemoval).isClosed = false := by decide +kernel
  exact ⟨hopen, endpoints_covered_iff (.plain .incremental) rfl sharedRemoval hopen⟩

/-- The cluster that stays then has lost its assignment. -/
theorem not_always_covers_clusters :
    ¬ ∀ (p : Profile) (s : Session) (moves : List Move), Start p true s → p.mode = .incremental →
      (s.play moves).isClosed = false → (s.play moves).ledger.CoversClusters := by
  intro h
  have hkept := h (.plain .incremental) (plain .incremental) sharedRemoval (.plain .incremental) rfl
    (by decide +kernel) "b" ⟨"b", some ⟨"s"⟩, 0, "", some (.standard 3), none⟩ "s"
    (by decide +kernel)
    (by decide +kernel)
  revert hkept
  decide +kernel

end Session

end ProxyFleet

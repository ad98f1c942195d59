import ProxyFleet.Proofs.Session.EndpointRelease
import ProxyFleet.Proofs.Session.Interleaving

/-!
# Keeping responses changes nothing else

A session that keeps what it hears does on the stream what one does that keeps nothing. In the
complete mode nobody ever looks at what is kept. In the incremental mode somebody does, when a
cluster goes: what is kept says which endpoint assignment is given up, and without it the name of
the cluster has to do.

Both come to the same as long as every cluster that finds its endpoints by discovery needs the
assignment of its own name, and no name belongs at one time to such a cluster and at another to one
that finds them otherwise (`Profile.Unambiguous`). What ties the two together is that all that is
kept and wanted came in (`Ledger.Accounted`): a wanted name is that of a cluster that uses
discovery, so whatever is kept under it uses discovery too.
-/

open scoped List

namespace ProxyFleet

/-! ## What is given up -/

namespace Ledger

variable {l : Ledger} {p : Profile} {r : Response}

/-- If nothing kept gives up another name than its own, then only names that are gone are given up,
and all of them whose clusters do give them up. -/
theorem mem_of_forgetAll (gone : List String)
    (h : ∀ name y, releasedEndpoint? name (l.stored? .cluster name) = some y → y = name) :
    (∀ x ∈ (l.forgetAll .cluster gone).2, x ∈ gone) ∧
      ∀ x ∈ gone, releasedEndpoint? x (l.stored? .cluster x) = some x →
        x ∈ (l.forgetAll .cluster gone).2 := by
  induction gone generalizing l with
  | nil => exact ⟨fun x hx ↦ hx, fun x hx _ ↦ hx⟩
  | cons name rest ih =>
    have hforgotten : ∀ other y,
        releasedEndpoint? other ((l.forget .cluster name).stored? .cluster other) = some y →
          y = other := by
      intro other y hy
      rw [stored?_forget] at hy
      split at hy
      · exact (Option.some_inj.mp hy).symm
      · exact h other y hy
    obtain ⟨hgone, hreleased⟩ := ih hforgotten
    rw [forgetAll, if_pos rfl]
    refine ⟨fun x hx ↦ ?_, fun x hx hself ↦ ?_⟩
    · rcases List.mem_append.mp hx with hx | hx
      · rw [h name x (Option.mem_toList.mp hx)]
        exact List.mem_cons_self
      · exact List.mem_cons_of_mem _ (hgone x hx)
    · by_cases hname : x = name
      · subst hname
        exact List.mem_append_left _ (Option.mem_toList.mpr hself)
      · have hrest : x ∈ rest := List.mem_of_ne_of_mem hname hx
        refine List.mem_append_right _ (hreleased x hrest ?_)
        rw [stored?_forget, if_neg fun hand ↦ hname hand.2]
        exact hself

/-! ## Without a store -/

/-- The ledger without its store. -/
def storeless (l : Ledger) : Ledger := { l with store := none }

variable (l) (k : ResourceKind)

theorem foldl_storeOne_storeless (resources : List Resource) :
    resources.foldl storeOne l.storeless = (resources.foldl storeOne l).storeless := by
  induction resources generalizing l with
  | nil => rfl
  | cons x rest ih => exact ih (l.storeOne x)

theorem forgetAll_fst_storeless (gone : List String) :
    (l.storeless.forgetAll k gone).1 = (l.forgetAll k gone).1.storeless := by
  induction gone generalizing l with
  | nil => rfl
  | cons name rest ih => exact ih (l.forget k name)

/-- Where nothing is kept, all names that are gone are given up. -/
theorem forgetAll_snd_storeless (gone : List String) :
    (l.storeless.forgetAll .cluster gone).2 = gone := by
  induction gone generalizing l with
  | nil => rfl
  | cons name rest ih => exact congrArg (name :: ·) (ih (l.forget .cluster name))

theorem kept_storeless (p : Profile) (r : Response) :
    l.storeless.kept k p r = (l.kept k p r).storeless := by
  rw [kept, kept, foldl_storeOne_storeless, forgetAll_fst_storeless]

variable {l}

theorem released_storeless (hk : ResourceKind.ofTypeUrl? r.typeUrl = some .cluster) :
    l.storeless.released p r = r.removed := by
  rw [released, hk]
  dsimp only
  rw [foldl_storeOne_storeless, forgetAll_snd_storeless]

/-- In the complete mode nobody looks at what is kept. -/
theorem reply_storeless_complete (l : Ledger) (r : Response) (hp : p.mode = .complete) :
    l.storeless.reply p r = ((l.reply p r).1.storeless, (l.reply p r).2) := by
  cases hk : ResourceKind.ofTypeUrl? r.typeUrl with
  | none => rw [reply_of_none _ hk, reply_of_none _ hk]
  | some k =>
    rw [reply_of_some _ hk, reply_of_some _ hk, hp]
    rfl

/-- In the incremental mode it is looked at only for what is given up. -/
theorem reply_storeless_incremental (hp : p.mode = .incremental)
    (hsame : ∀ k, ResourceKind.ofTypeUrl? r.typeUrl = some k →
      ∀ x ∈ (l.withRoutes k p r).names .endpoint,
        x ∈ l.released p r ↔ x ∈ l.storeless.released p r) :
    l.storeless.reply p r = ((l.reply p r).1.storeless, (l.reply p r).2) := by
  cases hk : ResourceKind.ofTypeUrl? r.typeUrl with
  | none => rw [reply_of_none _ hk, reply_of_none _ hk]
  | some k =>
    have hdropped : (l.storeless.withRoutes k p r).unsubscribe .endpoint (l.storeless.released p r) =
        (l.withRoutes k p r).unsubscribe .endpoint (l.released p r) :=
      WatchTable.unsubscribe_congr fun x hx ↦ (hsame k hk x hx).symm
    rw [reply_incremental _ hp hk, reply_incremental _ hp hk, hdropped, kept_storeless]
    rfl

end Ledger

/-! ## When nothing depends on what is kept -/

/-- Clusters that find their endpoints by discovery need the assignment of their own name, and a
name always belongs to clusters that do so or always to others. -/
structure Profile.Unambiguous (p : Profile) (rs : List Response) : Prop where
  unnamed : ∀ r ∈ rs, ∀ c, .cluster c ∈ p.decoded r → c.usesEndpointService = true →
    ∀ source, c.endpointSource = some source → source.serviceName = ""
  settled : ∀ r ∈ rs, ∀ q ∈ rs, ∀ c d, .cluster c ∈ p.decoded r → .cluster d ∈ p.decoded q →
    c.name = d.name → c.usesEndpointService = d.usesEndpointService

namespace Profile.Unambiguous

variable {p : Profile} {rs more : List Response} {r q : Response} {c d : Cluster}

theorem of_append (h : p.Unambiguous (rs ++ more)) : p.Unambiguous rs where
  unnamed r hr := h.unnamed r (List.mem_append_left _ hr)
  settled r hr q hq := h.settled r (List.mem_append_left _ hr) q (List.mem_append_left _ hq)

theorem endpointName?_eq (h : p.Unambiguous rs) (hr : r ∈ rs) (hc : .cluster c ∈ p.decoded r) :
    c.endpointName? = if c.usesEndpointService then some c.name else none := by
  rw [Cluster.endpointName?]
  by_cases hservice : c.usesEndpointService = true
  · rw [if_pos hservice, if_pos hservice]
    cases hsource : c.endpointSource with
    | none => rfl
    | some source => exact congrArg some (if_pos (h.unnamed r hr c hc hservice source hsource))
  · rw [if_neg hservice, if_neg hservice]

theorem exists_of_mem_endpointsWanted (h : p.Unambiguous rs) (hr : r ∈ rs) {x : String}
    (hx : x ∈ p.endpointsWanted r) :
    ∃ c, .cluster c ∈ p.decoded r ∧ c.name = x ∧ c.usesEndpointService = true := by
  obtain ⟨c, hc, hneeded⟩ := List.mem_filterMap.mp hx
  obtain ⟨y, hy, hcluster⟩ := List.mem_filterMap.mp hc
  cases y with
  | cluster d =>
    obtain rfl := Option.some_inj.mp hcluster
    rw [h.endpointName?_eq hr hy] at hneeded
    split at hneeded
    · next hservice => exact ⟨d, hy, Option.some_inj.mp hneeded, hservice⟩
    · cases hneeded
  | _ => cases hcluster

end Profile.Unambiguous

namespace Ledger

/-- All that is kept of clusters and wanted of endpoint assignments came in with responses. -/
structure Accounted (l : Ledger) (p : Profile) (rs : List Response) : Prop where
  kept : ∀ name x, l.stored? .cluster name = some x →
    ∃ r ∈ rs, ∃ c, .cluster c ∈ p.decoded r ∧ x = .cluster c ∧ c.name = name
  wanted : ∀ x ∈ l.watches.names .endpoint, ∃ r ∈ rs, x ∈ p.endpointsWanted r

namespace Accounted

variable {l : Ledger} {p : Profile} {r : Response} {rs : List Response}

theorem new (keepsStore : Bool) : (Ledger.new keepsStore).Accounted p [] where
  kept name x hx := by
    rw [stored?_new] at hx
    cases hx
  wanted x hx := by
    have hnothing : (Ledger.new keepsStore).watches.names .endpoint = .empty :=
      WatchTable.names_empty _
    rw [hnothing] at hx
    exact absurd hx (NameSet.not_mem_empty x)

theorem beginWatch (h : l.Accounted p rs) (hp : p.mode = .incremental) :
    (l.beginWatch p.mode).Accounted p rs where
  kept := h.kept
  wanted := by
    have hnames : (l.beginWatch p.mode).watches.names .endpoint = l.watches.names .endpoint := by
      rw [hp]
      refine (WatchTable.names_update ..).trans ?_
      rw [if_neg (by decide), WatchTable.names_update, if_neg (by decide)]
    rw [hnames]
    exact h.wanted

theorem kept_foldl_storeOne (h : l.Accounted p rs) {name : String} {x : Resource}
    (hx : ((p.decoded r).foldl storeOne l).stored? .cluster name = some x) :
    ∃ q ∈ rs ++ [r], ∃ c, .cluster c ∈ p.decoded q ∧ x = .cluster c ∧ c.name = name := by
  rcases mem_or_stored?_of_foldl_storeOne hx with ⟨hin, hkind, hname⟩ | hx
  · cases x with
    | cluster c =>
      exact ⟨r, List.mem_append_right _ (List.mem_singleton_self r), c, hin, rfl, hname⟩
    | _ => cases hkind
  · obtain ⟨q, hq, hc⟩ := h.kept name x hx
    exact ⟨q, List.mem_append_left _ hq, hc⟩

theorem wanted_withRoutes (h : l.Accounted p rs) {k : ResourceKind} {x : String}
    (hx : x ∈ (l.withRoutes k p r).names .endpoint) : ∃ q ∈ rs ++ [r], x ∈ p.endpointsWanted q := by
  rw [withRoutes, WatchTable.mem_names_subscribe, withEndpoints, WatchTable.mem_names_subscribe,
    noted, WatchTable.names_recordAck] at hx
  rcases hx with (hx | ⟨-, hx⟩) | ⟨hne, -⟩
  · obtain ⟨q, hq, hneeded⟩ := h.wanted x hx
    exact ⟨q, List.mem_append_left _ hq, hneeded⟩
  · exact ⟨r, List.mem_append_right _ (List.mem_singleton_self r), hx⟩
  · cases hne

theorem reply (h : l.Accounted p rs) (hp : p.mode = .incremental) :
    (l.reply p r).1.Accounted p (rs ++ [r]) := by
  cases hk : ResourceKind.ofTypeUrl? r.typeUrl with
  | none =>
    rw [reply_of_none _ hk]
    refine ⟨fun name x hx ↦ ?_, fun x hx ↦ ?_⟩
    · obtain ⟨q, hq, hc⟩ := h.kept name x hx
      exact ⟨q, List.mem_append_left _ hq, hc⟩
    · obtain ⟨q, hq, hneeded⟩ := h.wanted x hx
      exact ⟨q, List.mem_append_left _ hq, hneeded⟩
  | some k =>
    refine ⟨fun name x hx ↦ ?_, fun x hx ↦ ?_⟩
    · rw [reply_incremental _ hp hk] at hx
      exact h.kept_foldl_storeOne (stored?_of_forgetAll hx)
    · rw [watches_reply_incremental _ hp hk, WatchTable.mem_names_unsubscribe] at hx
      exact h.wanted_withRoutes hx.1

/-- Of the wanted names those are given up that are gone, whether anything is kept or not. -/
theorem mem_released_iff (h : l.Accounted p rs) (hclear : p.Unambiguous (rs ++ [r]))
    (hk : ResourceKind.ofTypeUrl? r.typeUrl = some .cluster) {x : String}
    (hx : x ∈ (l.withRoutes .cluster p r).names .endpoint) :
    x ∈ l.released p r ↔ x ∈ r.removed := by
  have hown : ∀ name y, releasedEndpoint? name
      (((p.decoded r).foldl storeOne l).stored? .cluster name) = some y → y = name := by
    intro name y hy
    cases hkept : ((p.decoded r).foldl storeOne l).stored? .cluster name with
    | none =>
      rw [hkept] at hy
      exact (Option.some_inj.mp hy).symm
    | some z =>
      obtain ⟨q, hq, c, hc, rfl, rfl⟩ := h.kept_foldl_storeOne hkept
      rw [hkept, releasedEndpoint?, hclear.endpointName?_eq hq hc] at hy
      split at hy
      · exact (Option.some_inj.mp hy).symm
      · cases hy
  obtain ⟨hgone, hreleased⟩ := mem_of_forgetAll r.removed hown
  rw [released, hk]
  refine ⟨hgone x, fun hmem ↦ hreleased x hmem ?_⟩
  -- The name is wanted, so it is that of a cluster that uses discovery, and so does the kept one.
  obtain ⟨q, hq, hneeded⟩ := h.wanted_withRoutes hx
  obtain ⟨d, hd, rfl, hservice⟩ := hclear.exists_of_mem_endpointsWanted hq hneeded
  cases hkept : ((p.decoded r).foldl storeOne l).stored? .cluster d.name with
  | none => rfl
  | some z =>
    obtain ⟨q', hq', c, hc, rfl, hname⟩ := h.kept_foldl_storeOne hkept
    have hsame := hclear.settled q' hq' q hq c d hc hd hname
    rw [releasedEndpoint?, hclear.endpointName?_eq hq' hc, hsame, if_pos hservice, hname]

theorem reply_storeless (h : l.Accounted p rs) (hp : p.mode = .incremental)
    (hclear : p.Unambiguous (rs ++ [r])) :
    l.storeless.reply p r = ((l.reply p r).1.storeless, (l.reply p r).2) := by
  refine reply_storeless_incremental hp fun k hk x hx ↦ ?_
  by_cases hcluster : k = .cluster
  · subst hcluster
    rw [h.mem_released_iff hclear hk hx, released_storeless hk]
  · rw [released, hk, released, hk]
    dsimp only
    rw [forgetAll_snd_of_ne_cluster _ hcluster, forgetAll_snd_of_ne_cluster _ hcluster]

end Accounted

end Ledger

/-! ## Sessions -/

namespace Session

/-- The session without its store. -/
def storeless (s : Session) : Session := { s with ledger := s.ledger.storeless }

variable (s : Session)

theorem send_storeless (who : String) (draft : Draft) :
    s.storeless.send who draft = ((s.send who draft).1, (s.send who draft).2.storeless) := by
  unfold send
  dsimp only [makeRequest, storeless]
  generalize s.transport.send who draft.typeUrl _ = result
  match result with
  | (some (.error e), t) => rfl
  | (some (.ok u), t) => rfl
  | (none, t) => rfl

theorem run_storeless (steps : List Step) : s.storeless.run steps = (s.run steps).storeless := by
  induction steps generalizing s with
  | nil => rfl
  | cons step rest ih =>
    cases step with
    | publish kind => exact ih { s with events := (s.events.publish kind).2 }
    | send draft =>
      rw [run_send, run_send, send_storeless]
      cases (s.send receiverName draft).1 with
      | some outcome => exact ih (s.send receiverName draft).2
      | none => rfl

theorem sendAll_storeless (drafts : List Draft) :
    s.storeless.sendAll drafts = ((s.sendAll drafts).1, (s.sendAll drafts).2.storeless) := by
  induction drafts generalizing s with
  | nil => rfl
  | cons draft rest ih =>
    rw [sendAll_cons, sendAll_cons, send_storeless]
    cases (s.send callerName draft).1 with
    | none => rfl
    | some outcome =>
      cases outcome with
      | ok u => exact ih (s.send callerName draft).2
      | error e => rfl

theorem teardown_storeless (reason : Option Failure) :
    s.storeless.teardown reason = (s.teardown reason).storeless := by
  rw [teardown, teardown, latchClose_eq, latchClose_eq]
  dsimp only [storeless, closeTransport, clearWatches]
  split <;> rfl

theorem decodeBatch_storeless (kind : ResourceKind) (payloads : List Payload) :
    s.storeless.decodeBatch kind payloads =
      ((s.decodeBatch kind payloads).1, (s.decodeBatch kind payloads).2.storeless) := by
  induction payloads generalizing s with
  | nil => rfl
  | cons payload rest ih =>
    have hended : (if s.profile.decoders.endsSession payload then s.storeless.close
        else s.storeless) =
        (if s.profile.decoders.endsSession payload then s.close else s).storeless := by
      split
      · exact s.teardown_storeless none
      · rfl
    have hprofile : s.storeless.profile = s.profile := rfl
    rw [decodeBatch, decodeBatch, hprofile, hended]
    generalize (if s.profile.decoders.endsSession payload then s.close else s) = t
    have hdecoders : t.storeless.profile = t.profile := rfl
    dsimp only
    rw [hdecoders]
    cases t.profile.decoders.decode payload with
    | error e => exact ih (t.warn (.undecodable e))
    | ok resource =>
      dsimp only
      by_cases hkind : resource.kind = kind
      · rw [if_pos hkind, if_pos hkind, ih t]
      · rw [if_neg hkind, if_neg hkind]
        exact ih (t.warn .unexpectedKind)

theorem resume_storeless (outcome : Except Failure Unit) :
    s.storeless.resume outcome = (s.resume outcome).storeless := by
  cases hreceiver : s.receiver with
  | sending url rest =>
    have hreceiver' : s.storeless.receiver = .sending url rest := hreceiver
    cases outcome with
    | ok u =>
      rw [resume_of_sending hreceiver, resume_of_sending hreceiver']
      exact s.run_storeless rest
    | error e =>
      rw [resume_of_unsent hreceiver, resume_of_unsent hreceiver']
      exact (s.warn (.unsent e)).run_storeless rest
  | _ =>
    have hreceiver' : s.storeless.receiver = _ := hreceiver
    unfold resume
    rw [hreceiver', hreceiver]

theorem withOutbound_storeless (o : Outbound Request) :
    s.storeless.withOutbound o = (s.withOutbound o).storeless := rfl

theorem makeRoom_storeless : s.storeless.makeRoom = s.makeRoom.storeless := by
  have htransport : s.storeless.transport = s.transport := rfl
  rw [makeRoom, makeRoom, htransport, withOutbound_storeless]
  by_cases hmem : receiverName ∈ s.transport.outbound.readAll.1
  · rw [if_pos hmem, if_pos hmem]
    exact resume_storeless ..
  · rw [if_neg hmem, if_neg hmem]

theorem refuseRequests_storeless : s.storeless.refuseRequests = s.refuseRequests.storeless := by
  have htransport : s.storeless.transport = s.transport := rfl
  have hreceiver : s.storeless.receiver = s.receiver := rfl
  rw [refuseRequests_eq, refuseRequests_eq, htransport, hreceiver, withOutbound_storeless]
  cases s.receiver with
  | sending url rest =>
    dsimp only
    by_cases hmem : receiverName ∈ s.transport.outbound.stop.1
    · rw [if_pos hmem, if_pos hmem]
      exact resume_storeless ..
    · rw [if_neg hmem, if_neg hmem]
  | _ => rfl

theorem watch_storeless : s.storeless.watch = (s.watch.1, s.watch.2.storeless) := by
  have hclosed : s.storeless.isClosed = s.isClosed := rfl
  have hbegun : s.storeless.watchBegun = s.watchBegun := rfl
  rw [watch, watch, hclosed, claimWatch, claimWatch, hbegun]
  cases s.isClosed with
  | true => rfl
  | false =>
    cases s.watchBegun with
    | true => rfl
    | false => exact sendAll_storeless { s with watchBegun := true }.beginWatch s.profile.mode.opening

variable {s} {r : Response}

/-- A response that is answered in the same way is taken in in the same way. A session that is
closed meanwhile does not answer it. -/
theorem absorb_storeless (h : s.transport.closed = false →
    s.ledger.storeless.reply s.profile r =
      ((s.ledger.reply s.profile r).1.storeless, (s.ledger.reply s.profile r).2)) :
    s.storeless.absorb r = ((s.absorb r).1, (s.absorb r).2.storeless) := by
  cases hk : ResourceKind.ofTypeUrl? r.typeUrl with
  | none =>
    rw [absorb_of_none _ hk, absorb_of_none _ hk]
    rfl
  | some k =>
    have hquiet := s.quiet_decodeBatch k r.payloads
    have hprofile : s.storeless.profile.decoded r = s.profile.decoded r := rfl
    rw [absorb_of_some _ hk, absorb_of_some _ hk, decodeBatch_storeless, hprofile]
    generalize (s.decodeBatch k r.payloads).2 = t at hquiet
    have hsame : t.storeless.transport.closed = t.transport.closed := rfl
    rw [apply, apply, hsame]
    cases hclosed : t.transport.closed with
    | true => rfl
    | false =>
      have hreply := h (hquiet.opened hclosed)
      rw [Ledger.reply_of_some _ hk, Ledger.reply_of_some _ hk, ← hquiet.ledger hclosed,
        ← hquiet.profile] at hreply
      have hdigest : t.storeless.ledger.digest t.storeless.profile.mode r k (s.profile.decoded r) =
          ((t.ledger.digest t.profile.mode r k (s.profile.decoded r)).1.storeless,
            (t.ledger.digest t.profile.mode r k (s.profile.decoded r)).2) := by
        rw [← hquiet.profile]
        exact hreply
      rw [if_neg Bool.false_ne_true, if_neg Bool.false_ne_true, hdigest]
      rfl

theorem respond_storeless (h : s.transport.closed = false →
    s.ledger.storeless.reply s.profile r =
      ((s.ledger.reply s.profile r).1.storeless, (s.ledger.reply s.profile r).2)) :
    s.storeless.respond r = (s.respond r).storeless := by
  have habsorbed : ({ s with receiver := .working } : Session).storeless.absorb r =
      (({ s with receiver := .working }.absorb r).1,
        ({ s with receiver := .working }.absorb r).2.storeless) := absorb_storeless h
  have hworking : { s.storeless with receiver := .working } =
      ({ s with receiver := .working } : Session).storeless := rfl
  rw [respond, respond, hworking, habsorbed]
  exact run_storeless _ _

/-- A move leaves behind the same, apart from what is kept, if the response that it brings is
answered in the same way. -/
theorem move_storeless (m : Move) (h : ∀ r, m = .respond r → s.receiver = .idle →
    s.transport.closed = false → s.ledger.storeless.reply s.profile r =
      ((s.ledger.reply s.profile r).1.storeless, (s.ledger.reply s.profile r).2)) :
    s.storeless.move m = (s.move m).storeless := by
  have hreceiver : s.storeless.receiver = s.receiver := rfl
  cases m with
  | watch => exact congrArg Prod.snd s.watch_storeless
  | close => exact s.teardown_storeless none
  | respond r =>
    rw [move, move, hreceiver]
    by_cases hidle : s.receiver = .idle
    · rw [if_pos hidle, if_pos hidle]
      exact respond_storeless (h r rfl hidle)
    · rw [if_neg hidle, if_neg hidle]
  | fail e =>
    rw [move, move, hreceiver]
    by_cases hidle : s.receiver = .idle
    · rw [if_pos hidle, if_pos hidle, fail, fail]
      have hended := teardown_storeless { s with receiver := .ended } (some e)
      exact congrArg (fun t : Session ↦ { t with receiver := .ended }) hended
    · rw [if_neg hidle, if_neg hidle]
  | read => exact s.makeRoom_storeless
  | refuse => exact s.refuseRequests_storeless
  | inbound i => rfl
  | wait want millis => rfl
  | clear => rfl

namespace Start

variable {p : Profile} {keepsStore : Bool}

theorem storeless (hs : Start p keepsStore s) : Start p false s.storeless := by
  cases hs with
  | onStream eventBuffer capacity => exact .onStream eventBuffer capacity
  | connected eventBuffer =>
    have hledger : ((Ledger.new keepsStore).beginWatch p.mode).storeless =
        (Ledger.new false).beginWatch p.mode := rfl
    rw [Session.storeless, Session.connected, hledger]
    exact .connected eventBuffer

theorem accounted (hs : Start p keepsStore s) (hp : p.mode = .incremental) {moves : List Move}
    (hopen : (s.play moves).isClosed = false) :
    (s.play moves).ledger.Accounted p (s.heard moves) :=
  hs.ledger_induction (P := fun rs l ↦ l.Accounted p rs) (.new keepsStore)
    (fun _ _ h ↦ h.beginWatch hp) (fun _ _ _ h ↦ h.reply hp) moves hopen

theorem play_storeless (hs : Start p keepsStore s) (moves : List Move)
    (hclear : p.mode = .incremental → p.Unambiguous (s.heard moves)) :
    s.storeless.play moves = (s.play moves).storeless := by
  induction moves using List.reverseRecOn with
  | nil => rfl
  | append_singleton moves m ih =>
    rw [heard_concat] at hclear
    rw [play_concat, play_concat, ih fun hp ↦ (hclear hp).of_append]
    refine move_storeless m fun r hm hidle hopen ↦ ?_
    rw [hs.profile_play]
    cases hp : p.mode with
    | complete => exact Ledger.reply_storeless_complete _ r hp
    | incremental =>
      have hlatched : (s.play moves).isClosed = false := (hs.latched moves).trans hopen
      have hheard : (s.play moves).hears m = [r] := by rw [hm, hears, if_pos hidle]
      have hsofar := hclear hp
      rw [hheard] at hsofar
      exact (hs.accounted hp hlatched).reply_storeless hp hsofar

end Start

/-- A session that keeps what it hears and one that keeps nothing begin in the same way and live
through the same moves. At any moment both have made the same requests, have the same events for
those who wait, are subscribed to the same, and tell the same to a caller who begins the
subscriptions. In the incremental mode this takes clusters that are unambiguous. -/
theorem storing_changes_nothing {p : Profile} (hs : Start p true s) (moves : List Move)
    (hclear : p.mode = .incremental → p.Unambiguous (s.heard moves)) :
    Start p false s.storeless ∧ ∀ before, before <+: moves →
      (s.storeless.play before).transport = (s.play before).transport ∧
      (s.storeless.play before).requested = (s.play before).requested ∧
      (s.storeless.play before).events = (s.play before).events ∧
      (s.storeless.play before).ledger.watches = (s.play before).ledger.watches ∧
      (s.storeless.play before).watch.1 = (s.play before).watch.1 ∧
      s.storeless.play before = (s.play before).storeless := by
  refine ⟨hs.storeless, ?_⟩
  rintro before ⟨after, rfl⟩
  rw [heard_append] at hclear
  rw [hs.play_storeless before fun hp ↦ (hclear hp).of_append]
  refine ⟨rfl, rfl, rfl, rfl, ?_, rfl⟩
  rw [watch_storeless]

end Session

/-- A cluster of a one-letter name that uses discovery and has no service name. -/
def discoveredCluster (letter : UInt8) : Payload :=
  ⟨ResourceKind.cluster.typeUrl, [0x0a, 1, letter, 0x10, 3]⟩

/-- Two such clusters come in, and then one goes. -/
def discovery : List Response :=
  [{ clusterPush "a" [] [] with
      resources := [some (discoveredCluster 0x61), some (discoveredCluster 0x62)] },
    clusterPush "b" [] ["a"]]

theorem unambiguous_discovery : (Profile.plain .incremental).Unambiguous discovery := by
  have hbrought : ∀ r ∈ discovery, ∀ x ∈ (Profile.plain .incremental).decoded r,
      x ∈ ["a", "b"].map fun name ↦
        Resource.cluster ⟨name, none, 0, "", some (.standard 3), none⟩ := by decide +kernel
  have hcluster : ∀ r ∈ discovery, ∀ c, .cluster c ∈ (Profile.plain .incremental).decoded r →
      c.usesEndpointService = true ∧ c.endpointSource = none := by
    intro r hr c hc
    obtain ⟨name, -, hname⟩ := List.mem_map.mp (hbrought r hr _ hc)
    cases hname
    exact ⟨rfl, rfl⟩
  refine ⟨fun r hr c hc _ source hsource ↦ ?_, fun r hr q hq c d hc hd _ ↦ ?_⟩
  · rw [(hcluster r hr c hc).2] at hsource
    cases hsource
  · rw [(hcluster r hr c hc).1, (hcluster q hq d hd).1]

namespace Session

theorem storing_changes_nothing_discovery :
    ((plain .incremental).storeless.play (discovery.map .respond)).requested =
        ((plain .incremental).play (discovery.map .respond)).requested ∧
      ((plain .incremental).storeless.play (discovery.map .respond)).ledger.watches =
        ((plain .incremental).play (discovery.map .respond)).ledger.watches := by
  have hheard : (plain .incremental).heard (discovery.map .respond) = discovery :=
    heard_pair rfl (by decide +kernel)
  obtain ⟨-, hsame⟩ := storing_changes_nothing (.plain .incremental) (discovery.map .respond)
    fun _ ↦ hheard ▸ unambiguous_discovery
  obtain ⟨-, hrequested, -, hwatches, -⟩ := hsame _ (List.prefix_refl _)
  exact ⟨hrequested, hwatches⟩

/-- Clusters with a service name are not unambiguous, and one session gives it up, the other not. -/
example : ((plain .incremental).storeless.play sharedRemoval).ledger.watches ≠
    ((plain .incremental).play sharedRemoval).ledger.watches := by decide +kernel

end Session

end ProxyFleet

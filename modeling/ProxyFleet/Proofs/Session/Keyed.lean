import ProxyFleet.Proofs.Session.Closed
import ProxyFleet.Proofs.Session.Race
import ProxyFleet.Proofs.Store.Keyed

/-!
# What a session keeps is its own

Decoders may be registered under any type URL, so a payload in a response may turn out to be of
another kind than the response. A session takes in only what is of that kind, and so everything that
it keeps is filed under its own kind and name. This is true in every state of a session: between two
moves, of an open session and of a closed one, and while responses race with those who close it
(`Session.Remembers`).

What is kept changes at one place, where a response is taken in while the transport is open. That
place is the step (`store_move`); the run is the induction over the moves. A race is told by the
responses that it applied.
-/

namespace ProxyFleet

theorem Ledger.WellKeyed.reply {l : Ledger} (h : l.WellKeyed) (p : Profile) (r : Response) :
    (l.reply p r).1.WellKeyed := by
  cases hk : ResourceKind.ofTypeUrl? r.typeUrl with
  | none =>
    rw [Ledger.reply_of_none l hk]
    exact h
  | some k =>
    rw [Ledger.reply_of_some l hk]
    exact h.digest p.mode r fun x hx ↦ kind_of_mem_decoded hk hx

theorem Ledger.isSome_store_reply (l : Ledger) (p : Profile) (r : Response) :
    (l.reply p r).1.store.isSome = l.store.isSome := by
  cases hk : ResourceKind.ofTypeUrl? r.typeUrl with
  | none => rw [reply_of_none l hk]
  | some k =>
    rw [reply_of_some l hk]
    cases p.mode with
    | complete => exact Option.isSome_map
    | incremental => exact (isSome_store_forgetAll _).trans (isSome_store_foldl_storeOne _)

namespace Session

variable (s : Session)

/-! ## Where something is kept -/

theorem ledger_send (who : String) (draft : Draft) :
    (s.send who draft).2.ledger = s.ledger := by
  have hsession := congrArg Session.ledger (s.send_spec who draft).2
  exact hsession

theorem ledger_run (steps : List Step) : (s.run steps).ledger = s.ledger := by
  induction steps generalizing s with
  | nil => rfl
  | cons step rest ih =>
    cases step with
    | publish kind => exact ih { s with events := (s.events.publish kind).2 }
    | send draft =>
      have hsent := s.ledger_send receiverName draft
      rw [run_send]
      split
      · exact (ih _).trans hsent
      · exact hsent

theorem ledger_sendAll (drafts : List Draft) : (s.sendAll drafts).2.ledger = s.ledger := by
  induction drafts generalizing s with
  | nil => rfl
  | cons draft rest ih =>
    have hsent := s.ledger_send callerName draft
    rw [sendAll_cons]
    split
    · exact (ih _).trans hsent
    · exact hsent
    · exact hsent

theorem ledger_resume (outcome : Except Failure Unit) : (s.resume outcome).ledger = s.ledger := by
  unfold resume
  split
  · cases outcome with
    | ok _ => exact ledger_run ..
    | error e => exact ledger_run ..
  · rfl

theorem ledger_makeRoom : s.makeRoom.ledger = s.ledger := by
  rw [makeRoom]
  split
  · exact ledger_resume ..
  · rfl

theorem ledger_refuseRequests : s.refuseRequests.ledger = s.ledger := by
  rw [refuseRequests_eq]
  split
  · split
    · exact ledger_resume ..
    · rfl
  · rfl

theorem store_teardown (reason : Option Failure) :
    (s.teardown reason).ledger.store = s.ledger.store := by
  rw [(s.teardown_parts reason).2]
  rfl

theorem store_watch : s.watch.2.ledger.store = s.ledger.store := by
  rw [watch]
  split
  · rfl
  · rw [claimWatch]
    cases s.watchBegun with
    | true => rfl
    | false =>
      have hsent := ledger_sendAll { s with watchBegun := true }.beginWatch s.profile.mode.opening
      have hstore := congrArg Ledger.store hsent
      exact hstore

/-- A response changes what is kept as it demands, or not at all. -/
theorem store_absorb (r : Response) : (s.absorb r).2.ledger.store = s.ledger.store ∨
    (s.absorb r).2.ledger.store = (s.ledger.reply s.profile r).1.store := by
  cases hk : ResourceKind.ofTypeUrl? r.typeUrl with
  | none =>
    rw [absorb_of_none _ hk]
    exact .inl rfl
  | some k =>
    have haside := s.aside_decodeBatch k r.payloads
    rw [absorb_of_some _ hk, apply]
    by_cases hclosed : (s.decodeBatch k r.payloads).2.transport.closed
    · rw [if_pos hclosed]
      exact .inl haside.store
    · rw [if_neg hclosed, haside.ledger (Bool.eq_false_iff.mpr hclosed), haside.profile,
        Ledger.reply_of_some _ hk]
      exact .inr rfl

theorem store_respond (r : Response) : (s.respond r).ledger.store = s.ledger.store ∨
    (s.respond r).ledger.store = (s.ledger.reply s.profile r).1.store := by
  have hrun : (s.respond r).ledger = ({ s with receiver := .working }.absorb r).2.ledger :=
    ledger_run ..
  rw [hrun]
  exact store_absorb { s with receiver := .working } r

theorem store_move (m : Move) : (s.move m).ledger.store = s.ledger.store ∨
    ∃ r, m = .respond r ∧ (s.move m).ledger.store = (s.ledger.reply s.profile r).1.store := by
  cases m with
  | watch => exact .inl s.store_watch
  | close => exact .inl (store_teardown ..)
  | respond r =>
    rw [move]
    by_cases hidle : s.receiver = .idle
    · rw [if_pos hidle]
      exact (s.store_respond r).imp_right fun hstore ↦ ⟨r, rfl, hstore⟩
    · rw [if_neg hidle]
      exact .inl rfl
  | fail e =>
    rw [move]
    split
    · exact .inl (store_teardown ..)
    · exact .inl rfl
  | read => exact .inl (congrArg Ledger.store s.ledger_makeRoom)
  | refuse => exact .inl (congrArg Ledger.store s.ledger_refuseRequests)
  | _ => exact .inl rfl

/-! ## In every state -/

/-- What a session remembers in one of its states: between two moves, or while responses race with
others who close the session. -/
inductive Remembers (s : Session) : Ledger → Prop
  /-- Between two moves. -/
  | play (moves : List Move) : Remembers s (s.play moves).ledger
  /-- Between two turns. -/
  | race (moves : List Move) (hopen : (s.play moves).isClosed = false)
      (hidle : (s.play moves).receiver = .idle) (responses : List Response)
      (reasons : List (Option Failure)) (turns : List Turn) :
      Remembers s (((s.play moves).race responses reasons).run turns).session.ledger

variable {s} {p : Profile} {keepsStore : Bool} {l : Ledger}

/-- What is true of what is kept at the beginning, and stays true whatever response comes in, is
true in every state. -/
theorem Remembers.induction (hs : Start p keepsStore s) {P : Ledger → Prop}
    (hnew : P (.new keepsStore)) (hstore : ∀ l l' : Ledger, l'.store = l.store → P l → P l')
    (hreply : ∀ l r, P l → P (l.reply p r).1) (h : s.Remembers l) : P l := by
  have hplay : ∀ moves, P (s.play moves).ledger := by
    intro moves
    induction moves using List.reverseRecOn with
    | nil =>
      refine hstore _ _ ?_ hnew
      cases hs <;> rfl
    | append_singleton before m ih =>
      rw [play_concat]
      rcases store_move (s.play before) m with hsame | ⟨r, -, hchanged⟩
      · exact hstore _ _ hsame ih
      · rw [hs.profile_play] at hchanged
        exact hstore _ _ hchanged (hreply _ r ih)
  have hall : ∀ moves rs, P ((s.play moves).ledger.replyAll p rs) := by
    intro moves rs
    induction rs using List.reverseRecOn with
    | nil => exact hplay moves
    | append_singleton before r ih =>
      rw [Ledger.replyAll_concat]
      exact hreply _ r ih
  cases h with
  | play moves => exact hplay moves
  | race moves hopen hidle responses reasons turns =>
    have hclosed : (s.play moves).transport.closed = false := (hs.latched moves).symm.trans hopen
    have hsound := (Race.Sound.race (s.play moves) responses reasons
      (orderly_play hs.orderly moves) hidle hclosed).run turns
    obtain ⟨done, -, -, hkept, -⟩ := hsound.kept
    rw [hs.profile_play] at hkept
    exact hstore _ _ hkept (hall moves done)

theorem Remembers.wellKeyed (hs : Start p keepsStore s) (h : s.Remembers l) : l.WellKeyed :=
  h.induction hs (Ledger.wellKeyed_new keepsStore) (fun _ _ hstore hkeyed ↦ hkeyed.of_store_eq hstore)
    fun _ r hkeyed ↦ hkeyed.reply p r

theorem Remembers.isSome_store (hs : Start p true s) (h : s.Remembers l) : l.store.isSome :=
  h.induction hs (P := fun l ↦ l.store.isSome) rfl
    (fun _ _ hstore hsome ↦ (congrArg _ hstore).trans hsome)
    fun l r hsome ↦ (l.isSome_store_reply p r).trans hsome

/-- **What is kept is its own.** Take any state of a session that keeps a store, in either mode and
with any decoders. What is found under a kind and a name is of that kind and has that name, and to
forget it touches nothing else. Where a response says of clusters that they are gone, the endpoint
assignments to give up follow from what is found of each cluster before it is forgotten, and that is
nothing or a cluster of that name. In the complete mode a response that an open session takes in
leaves of its kind exactly the resources that it brings, of each name the last one. -/
theorem kept_under_own_names (hs : Start p true s) :
    (∀ l, s.Remembers l →
      (∀ k name x, l.stored? k name = some x → x.kind = k ∧ x.name = name) ∧
      (∀ k name j other x, (l.forget k name).stored? j other = some x ↔
        l.stored? j other = some x ∧ ¬ (x.kind = k ∧ x.name = name)) ∧
      ∀ r, ResourceKind.ofTypeUrl? r.typeUrl = some .cluster →
        l.released p r = (((p.decoded r).foldl Ledger.storeOne l).met .cluster r.removed).flatMap
          (fun (name, found) ↦ (Ledger.releasedEndpoint? name found).toList) ∧
        ∀ name found,
          (name, found) ∈ ((p.decoded r).foldl Ledger.storeOne l).met .cluster r.removed →
          found = none ∨ ∃ c : Cluster, found = some (.cluster c) ∧ c.name = name) ∧
    ∀ moves r k, p.mode = .complete → ResourceKind.ofTypeUrl? r.typeUrl = some k →
      (s.play moves).receiver = .idle → (s.play (moves ++ [.respond r])).isClosed = false →
      ∀ name, (s.play (moves ++ [.respond r])).ledger.stored? k name =
        (p.decoded r).reverse.find? (·.name = name) := by
  refine ⟨fun l hl ↦ ?_, fun moves r k hmode hk hidle hopen name ↦ ?_⟩
  · have hkeyed : l.WellKeyed := hl.wellKeyed hs
    refine ⟨hkeyed, fun k name j other x ↦ hkeyed.stored?_forget_eq_some_iff, fun r hk ↦ ⟨?_, ?_⟩⟩
    · rw [Ledger.released, hk]
      exact Ledger.forgetAll_snd_eq_met ..
    · intro name found hmet
      exact (hkeyed.foldl_storeOne (p.decoded r)).met_cluster hmet
  · have hstore := (Remembers.play moves).isSome_store hs
    rw [hs.ledger_concat_respond hidle hopen, Ledger.reply_of_some _ hk, hmode]
    exact Ledger.stored?_storeAll_self hstore k (p.decoded r) name

/-- A profile whose decoders take what comes under the type URL of listeners for clusters. -/
def crossedProfile (mode : Mode) : Profile := { Profile.plain mode with
  decoders := DecoderTable.standard.register ResourceKind.listener.typeUrl { kind := .cluster } }

/-- Two clusters of one name, and one that comes under the type URL of listeners. -/
def crossedPush (typeUrl nonce : String) : Response where
  typeUrl := typeUrl
  version := "1"
  nonce := nonce
  resources := [some (sharingCluster 0x61), some ⟨ResourceKind.cluster.typeUrl, [0x0a, 1, 0x61]⟩,
    some ⟨ResourceKind.listener.typeUrl, [0x0a, 1, 0x62]⟩]

/-- The same payloads come in twice: under the type of clusters, and under that of listeners. -/
def crossedMoves : List Move :=
  [.respond (crossedPush ResourceKind.cluster.typeUrl "1"),
    .respond (crossedPush ResourceKind.listener.typeUrl "2")]

/-- As clusters the last one of each name is kept, as listeners none is. In the incremental mode
too, what is kept is its own. -/
theorem kept_under_own_names_crossed :
    ((connected (crossedProfile .complete) true 4).play (crossedMoves.take 1)).ledger.stored?
      .cluster "a" = some (.cluster ⟨"a", none, 0, "", none, none⟩) ∧
    ((connected (crossedProfile .complete) true 4).play crossedMoves).ledger.stored?
      .listener "b" = none ∧
    ∀ x, ((connected (crossedProfile .incremental) true 4).play crossedMoves).ledger.stored?
      .cluster "b" = some x → x.kind = .cluster ∧ x.name = "b" := by
  have hcomplete := kept_under_own_names (p := crossedProfile .complete) (.connected 4)
  have hincremental := kept_under_own_names (p := crossedProfile .incremental) (.connected 4)
  refine ⟨?_, ?_, ?_⟩
  · refine (hcomplete.2 [] (crossedPush ResourceKind.cluster.typeUrl "1") .cluster rfl rfl rfl
      (by decide +kernel) "a").trans ?_
    decide +kernel
  · refine (hcomplete.2 (crossedMoves.take 1) (crossedPush ResourceKind.listener.typeUrl "2")
      .listener rfl rfl (by decide +kernel) (by decide +kernel) "b").trans ?_
    decide +kernel
  · exact (hincremental.1 _ (.play crossedMoves)).1 .cluster "b"

end Session

end ProxyFleet

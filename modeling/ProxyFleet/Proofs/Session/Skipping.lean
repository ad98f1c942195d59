import ProxyFleet.Proofs.Session.Parts

/-!
# Resources that cannot be used

A resource is of no use if it comes without its body, if it cannot be decoded, or if it is of
another kind than its response. Such a resource is passed over: all that becomes of it is a warning.
Leaving it out of the response makes no other difference to the session, whatever state that is in,
however many of them there are, and wherever they are.

A table may hold a decoder that ends the session. What such a decoder does it also does to a payload
that it then refuses, so the general statement, `Session.respond_sound`, compares with a session
that was `closedBy` those payloads before. No decoder of the standard table does so.
-/

namespace ProxyFleet

/-! ## Responses without what is of no use -/

namespace DecoderTable

/-- Whether a payload decodes to a resource of the kind that travels under a type URL. -/
def fits (table : DecoderTable) (typeUrl : String) (payload : Payload) : Bool :=
  (table.decode payload).toOption.any (·.kind.typeUrl = typeUrl)

theorem batch_filter_fits (table : DecoderTable) (k : ResourceKind) (payloads : List Payload) :
    table.batch k (payloads.filter (table.fits k.typeUrl)) = table.batch k payloads := by
  rw [DecoderTable.batch, DecoderTable.batch, List.filterMap_filter]
  refine List.filterMap_congr fun payload _ ↦ ?_
  rw [DecoderTable.fits]
  cases (table.decode payload).toOption with
  | none => rfl
  | some x =>
    by_cases hx : x.kind = k
    · simp [hx]
    · have hskipped : (some x).filter (fun x ↦ decide (x.kind = k)) = none :=
        Option.filter_some_neg (decide_eq_false hx)
      rw [hskipped, ite_self]

theorem endsSession_standard (payload : Payload) :
    standard.endsSession payload = false := by
  have hnone : ∀ entry ∈ standard.decoders, entry.2.endsSession = false := by decide
  rw [endsSession]
  split
  · next decoder heq =>
    cases hbody : unwrap payload with
    | error e => rw [hbody] at heq; cases heq
    | ok body =>
      rw [hbody] at heq
      have hdecoder : standard.decoderOf body = .ok decoder := heq
      rw [decoderOf] at hdecoder
      cases hfound : standard.find? body.typeUrl with
      | none => rw [hfound] at hdecoder; cases hdecoder
      | some found =>
        rw [hfound] at hdecoder
        cases hdecoder
        obtain ⟨entry, hentry, rfl⟩ := Option.map_eq_some_iff.mp hfound
        exact hnone entry (List.mem_of_find?_eq_some hentry)
  · rfl

end DecoderTable

namespace Profile

variable (p : Profile) (r : Response)

/-- The response without the resources that are of no use. -/
def sound : Response :=
  { r with resources := r.resources.filter fun entry ↦ entry.any (p.decoders.fits r.typeUrl) }

/-- The payloads that are decoded in vain; under an unknown type nothing is decoded. -/
def skipped : List Payload :=
  match ResourceKind.ofTypeUrl? r.typeUrl with
  | none => []
  | some _ => r.payloads.filter fun payload ↦ !p.decoders.fits r.typeUrl payload

theorem payloads_sound :
    (p.sound r).payloads = r.payloads.filter (p.decoders.fits r.typeUrl) := by
  rw [Response.payloads, Response.payloads, sound, List.filterMap_filter, List.filter_filterMap]
  refine List.filterMap_congr fun entry _ ↦ ?_
  cases entry with
  | none => rfl
  | some payload => rfl

theorem decoded_sound : p.decoded (p.sound r) = p.decoded r := by
  cases hk : ResourceKind.ofTypeUrl? r.typeUrl with
  | none =>
    have hk' : ResourceKind.ofTypeUrl? (p.sound r).typeUrl = none := hk
    rw [decoded, decoded, hk, hk']
  | some k =>
    have hk' : ResourceKind.ofTypeUrl? (p.sound r).typeUrl = some k := hk
    rw [decoded, decoded, hk, hk', payloads_sound, ResourceKind.ofTypeUrl?_eq_some_iff.mp hk]
    exact p.decoders.batch_filter_fits k r.payloads

theorem ack_sound (names : NameSet) : p.mode.ack (p.sound r) names = p.mode.ack r names := by
  cases p.mode <;> rfl

end Profile

/-! ## The acknowledgement among the answers -/

/-- A request acknowledges a response: it repeats the type and the nonce, and in the complete mode
also the version with all names of the type that are wanted. -/
def Draft.Acknowledges (d : Draft) (m : Mode) (r : Response) (wanted : WatchTable) : Prop :=
  match m with
  | .complete =>
    d = { typeUrl := r.typeUrl, version := r.version, nonce := r.nonce
          names := wanted.namesUnder r.typeUrl }
  | .incremental => d = { typeUrl := r.typeUrl, nonce := r.nonce }

/-- A request is none that acknowledges a response: it is blank and about another type. -/
def Draft.Beside (d : Draft) (r : Response) : Prop :=
  d.version = "" ∧ d.nonce = "" ∧ d.typeUrl ≠ r.typeUrl

theorem NameSet.exists_mem_of_not_isEmpty {names : NameSet} (h : ¬ names.isEmpty = true) :
    ∃ x, x ∈ names := by
  by_contra hnone
  refine h (isEmpty_iff.mpr ?_)
  ext x
  exact iff_of_false (fun hx ↦ hnone ⟨x, hx⟩) (not_mem_empty x)

namespace Ledger

variable {k : ResourceKind} {names : NameSet} {d : Draft}

theorem eq_of_mem_subscription (hd : d ∈ subscription k names) :
    d = { typeUrl := k.typeUrl, names := names } ∧ ∃ x, x ∈ names := by
  rw [subscription] at hd
  split at hd
  · cases hd
  · next hsome => exact ⟨List.mem_singleton.mp hd, NameSet.exists_mem_of_not_isEmpty hsome⟩

theorem eq_of_mem_unsubscription (hd : d ∈ unsubscription k names) :
    d = { typeUrl := k.typeUrl, dropped := names } ∧ ∃ x, x ∈ names := by
  rw [unsubscription] at hd
  split at hd
  · cases hd
  · next hsome => exact ⟨List.mem_singleton.mp hd, NameSet.exists_mem_of_not_isEmpty hsome⟩

variable (l : Ledger) {p : Profile} {r : Response}

theorem acknowledges_complete (hp : p.mode = .complete)
    (hk : ResourceKind.ofTypeUrl? r.typeUrl = some k) :
    ∃ before ack after, (l.reply p r).2 = before ++ ack :: after ∧
      ack.Acknowledges .complete r (l.reply p r).1.watches ∧ ∀ d ∈ before ++ after, d.Beside r := by
  have hurl : ∀ j : ResourceKind, j ≠ k → j.typeUrl ≠ r.typeUrl := by
    intro j hj hsame
    rw [ResourceKind.ofTypeUrl?_eq_some_iff.mp hk, ResourceKind.typeUrl_inj] at hsame
    exact hj hsame
  have hnames : ∀ t : WatchTable, t.namesUnder r.typeUrl = t.names k := by
    intro t
    rw [WatchTable.namesUnder, hk]
  have hreply : l.reply p r = l.digestComplete r k (p.decoded r) := by
    rw [reply_of_some _ hk, hp]
    rfl
  rw [hreply, digestComplete_snd, ← changedSubscriptions_eq_resubscriptions, ← hnames]
  refine ⟨_, _, _, List.append_assoc .., rfl, fun d hd ↦ ?_⟩
  rcases List.mem_append.mp hd with hd | hd
  · obtain ⟨c, hc, rfl⟩ := List.mem_map.mp hd
    have hneeded : c.1 ∈ k.needed :=
      mem_needed_of_mem_derivedSubscriptions (List.mem_filter.mp hc).1
    refine ⟨rfl, rfl, hurl c.1 ?_⟩
    intro hself
    rw [hself] at hneeded
    exact k.not_mem_needed_self hneeded
  · split at hd
    · next hfirst =>
      rw [List.mem_singleton.mp hd]
      refine ⟨rfl, rfl, hurl .listener ?_⟩
      rw [hfirst.1]
      decide
    · cases hd

theorem acknowledges_incremental (hp : p.mode = .incremental)
    (hk : ResourceKind.ofTypeUrl? r.typeUrl = some k) :
    ∃ before ack after, (l.reply p r).2 = before ++ ack :: after ∧
      ack.Acknowledges .incremental r (l.reply p r).1.watches ∧
      ∀ d ∈ before ++ after, d.Beside r := by
  -- A request for other kinds is made only if the kind of the response governs these.
  obtain ⟨hendpoints, hroutes⟩ := nothing_of_not_governed (p := p) l hk
  have hendpoint : .endpoint ∈ k.governed → ResourceKind.endpoint.typeUrl ≠ r.typeUrl := by
    intro hgoverned
    have hcluster : .endpoint ∈ ResourceKind.cluster.governed := by decide
    rw [ResourceKind.ofTypeUrl?_eq_some_iff.mp hk,
      ResourceKind.eq_of_mem_governed hgoverned hcluster]
    decide
  have hroute : .route ∈ k.governed → ResourceKind.route.typeUrl ≠ r.typeUrl := by
    intro hgoverned
    have hlistener : .route ∈ ResourceKind.listener.governed := by decide
    rw [ResourceKind.ofTypeUrl?_eq_some_iff.mp hk,
      ResourceKind.eq_of_mem_governed hgoverned hlistener]
    decide
  rw [reply_incremental l hp hk]
  refine ⟨_, _, [], rfl, rfl, fun d hd ↦ ?_⟩
  rw [List.append_nil, List.mem_append, List.mem_append] at hd
  rcases hd with (hd | hd) | hd
  · obtain ⟨rfl, x, hx⟩ := eq_of_mem_subscription hd
    refine ⟨rfl, rfl, hendpoint ?_⟩
    by_contra hnot
    rw [WatchTable.mem_subscribe_fst, (hendpoints hnot).1] at hx
    cases hx.1
  · obtain ⟨rfl, x, hx⟩ := eq_of_mem_subscription hd
    refine ⟨rfl, rfl, hroute ?_⟩
    by_contra hnot
    rw [WatchTable.mem_subscribe_fst, hroutes hnot] at hx
    cases hx.1
  · obtain ⟨rfl, x, hx⟩ := eq_of_mem_unsubscription hd
    refine ⟨rfl, rfl, hendpoint ?_⟩
    by_contra hnot
    rw [WatchTable.mem_unsubscribe_fst, (hendpoints hnot).2] at hx
    cases hx.1

/-- One of the requests that follow from a response acknowledges it, and no other one does. -/
theorem reply_acknowledges (p : Profile) (r : Response) :
    ∃ before ack after, (l.reply p r).2 = before ++ ack :: after ∧
      ack.Acknowledges p.mode r (l.reply p r).1.watches ∧ ∀ d ∈ before ++ after, d.Beside r := by
  cases hk : ResourceKind.ofTypeUrl? r.typeUrl with
  | none =>
    rw [reply_of_none _ hk]
    refine ⟨[], _, [], rfl, ?_, fun d hd ↦ by cases hd⟩
    have hnames : l.watches.namesUnder r.typeUrl = .empty := by rw [WatchTable.namesUnder, hk]
    cases p.mode with
    | complete => rw [Draft.Acknowledges.eq_def, hnames]; rfl
    | incremental => rfl
  | some k =>
    cases hp : p.mode with
    | complete => exact l.acknowledges_complete hp hk
    | incremental => exact l.acknowledges_incremental hp hk

end Ledger

/-! ## Sessions apart from their warnings -/

namespace Session

/-- The session, with its warnings forgotten. -/
def unwarned (s : Session) : Session := { s with warnings := [] }

variable (s : Session) {t : Session}

theorem close_close : s.close.close = s.close := by
  have htransport : ∀ (t : Transport Request Response) (beingRead : Bool),
      (t.close beingRead).close beingRead = t.close beingRead := by
    intro t beingRead
    cases beingRead <;> rfl
  rw [close_eq, close_eq]
  dsimp only
  rw [htransport]
  rfl

theorem send_spec (who : String) (draft : Draft) :
    (s.send who draft).1 =
      (s.transport.send who draft.typeUrl (s.makeRequest draft).1).1 ∧
    (s.send who draft).2.unwarned = { s.unwarned with
      transport := (s.transport.send who draft.typeUrl (s.makeRequest draft).1).2
      nodeTold := true } := by
  unfold send
  dsimp only [makeRequest]
  split
  · next heq => rw [heq]; exact ⟨rfl, rfl⟩
  · next heq => rw [heq]; exact ⟨rfl, rfl⟩

theorem send_unwarned (who : String) (draft : Draft) :
    (s.unwarned.send who draft).1 = (s.send who draft).1 ∧
      (s.unwarned.send who draft).2.unwarned = (s.send who draft).2.unwarned := by
  obtain ⟨houtcome, hsession⟩ := s.send_spec who draft
  obtain ⟨houtcome', hsession'⟩ := s.unwarned.send_spec who draft
  exact ⟨houtcome'.trans houtcome.symm, hsession'.trans hsession.symm⟩

/-- Nobody reads the warnings: the receiver takes the same steps with them and without. -/
theorem run_unwarned (steps : List Step) :
    (s.unwarned.run steps).unwarned = (s.run steps).unwarned := by
  induction steps generalizing s with
  | nil => rfl
  | cons step rest ih =>
    cases step with
    | publish kind => exact ih { s with events := (s.events.publish kind).2 }
    | send draft =>
      obtain ⟨houtcome, hsession⟩ := s.send_unwarned receiverName draft
      rw [run_send, run_send, houtcome]
      cases (s.send receiverName draft).1 with
      | some outcome =>
        calc ((s.unwarned.send receiverName draft).2.run rest).unwarned
            = ((s.unwarned.send receiverName draft).2.unwarned.run rest).unwarned := (ih _).symm
          _ = ((s.send receiverName draft).2.unwarned.run rest).unwarned := by rw [hsession]
          _ = ((s.send receiverName draft).2.run rest).unwarned := ih _
      | none =>
        exact congrArg (fun t ↦ { t with receiver := .sending draft.typeUrl rest }) hsession

variable {s}

theorem run_congr (steps : List Step) (h : s.unwarned = t.unwarned) :
    (s.run steps).unwarned = (t.run steps).unwarned := by
  rw [← s.run_unwarned, h, t.run_unwarned]

theorem apply_congr (r : Response) (k : ResourceKind) (resources : List Resource)
    (h : s.unwarned = t.unwarned) :
    (s.apply r k resources).1 = (t.apply r k resources).1 ∧
      (s.apply r k resources).2.unwarned = (t.apply r k resources).2.unwarned := by
  have happly : ∀ s : Session, (s.apply r k resources).1 = (s.unwarned.apply r k resources).1 ∧
      (s.apply r k resources).2.unwarned = (s.unwarned.apply r k resources).2.unwarned := by
    intro s
    rw [apply, apply]
    by_cases hclosed : s.transport.closed = true
    · have hclosed' : s.unwarned.transport.closed = true := hclosed
      rw [if_pos hclosed, if_pos hclosed']
      exact ⟨rfl, rfl⟩
    · have hopen : ¬ s.unwarned.transport.closed = true := hclosed
      rw [if_neg hclosed, if_neg hopen]
      exact ⟨rfl, rfl⟩
  rw [(happly s).1, (happly s).2, (happly t).1, (happly t).2, h]
  exact ⟨rfl, rfl⟩

/-! ## Decoding -/

variable (s)

/-- The session after decoding payloads, apart from warnings. -/
def endedBy (payloads : List Payload) : Session :=
  if payloads.any s.profile.decoders.endsSession then s.close else s

theorem profile_endedBy (payloads : List Payload) : (s.endedBy payloads).profile = s.profile := by
  rw [endedBy]
  split
  · rw [close_eq]
  · rfl

theorem endedBy_endedBy (payloads more : List Payload) :
    (s.endedBy payloads).endedBy more = s.endedBy (payloads ++ more) := by
  rw [endedBy, profile_endedBy, endedBy, endedBy, List.any_append]
  cases payloads.any s.profile.decoders.endsSession with
  | true => simp [close_close]
  | false => simp

theorem decodeBatch_unwarned (k : ResourceKind) (payloads : List Payload) :
    (s.decodeBatch k payloads).2.unwarned = (s.endedBy payloads).unwarned := by
  induction payloads generalizing s with
  | nil => rfl
  | cons payload rest ih =>
    have hfirst : (if s.profile.decoders.endsSession payload then s.close else s) =
        s.endedBy [payload] := by simp [endedBy]
    -- A warning changes nothing in what the rest of the batch does.
    have hwarned : ∀ (t : Session) (w : Warning),
        ((t.warn w).endedBy rest).unwarned = (t.endedBy rest).unwarned := by
      intro t w
      rw [endedBy, endedBy, close_eq, close_eq]
      change Session.unwarned (if rest.any t.profile.decoders.endsSession then _ else _) = _
      split <;> rfl
    rw [← List.singleton_append, ← endedBy_endedBy, List.singleton_append, decodeBatch, hfirst]
    split
    · split
      · exact ih _
      · rw [ih, hwarned]
    · rw [ih, hwarned]

/-- Payloads can be sorted: it makes no difference which of them come first. -/
theorem endedBy_filter (f : Payload → Bool) (payloads : List Payload) :
    (s.endedBy (payloads.filter fun x ↦ !f x)).endedBy (payloads.filter f) =
      s.endedBy payloads := by
  have hany : (payloads.filter (fun x ↦ !f x) ++ payloads.filter f).any
      s.profile.decoders.endsSession = payloads.any s.profile.decoders.endsSession := by
    rw [Bool.eq_iff_iff, List.any_eq_true, List.any_eq_true]
    refine exists_congr fun x ↦ and_congr_left' ?_
    rw [List.mem_append, List.mem_filter, List.mem_filter, ← and_or_left]
    cases f x <;> simp
  rw [endedBy_endedBy, endedBy, endedBy, hany]

/-! ## One response -/

variable (r : Response)

theorem absorb_sound :
    (s.absorb r).1 = ((s.endedBy (s.profile.skipped r)).absorb (s.profile.sound r)).1 ∧
      (s.absorb r).2.unwarned =
        ((s.endedBy (s.profile.skipped r)).absorb (s.profile.sound r)).2.unwarned := by
  cases hk : ResourceKind.ofTypeUrl? r.typeUrl with
  | none =>
    have hnone : s.endedBy (s.profile.skipped r) = s := by
      rw [Profile.skipped, hk, endedBy]
      rfl
    rw [hnone, absorb_of_none s hk, absorb_of_none s (r := s.profile.sound r) hk,
      s.profile.ack_sound]
    exact ⟨rfl, rfl⟩
  | some k =>
    -- The payloads of either kind have been decoded in the end, and only the warnings differ.
    have hended : (s.decodeBatch k r.payloads).2.unwarned =
        ((s.endedBy (s.profile.skipped r)).decodeBatch k
          (s.profile.sound r).payloads).2.unwarned := by
      rw [decodeBatch_unwarned, decodeBatch_unwarned, Profile.payloads_sound, Profile.skipped, hk,
        endedBy_filter]
    rw [absorb_of_some _ hk, absorb_of_some _ (r := s.profile.sound r) hk, profile_endedBy,
      Profile.decoded_sound]
    exact apply_congr r k (s.profile.decoded r) hended

/-- The session after a receiver at work has decoded payloads, apart from warnings. -/
def closedBy (payloads : List Payload) : Session :=
  { { s with receiver := .working }.endedBy payloads with receiver := s.receiver }

theorem closedBy_eq_self {payloads : List Payload}
    (h : ∀ x ∈ payloads, s.profile.decoders.endsSession x = false) : s.closedBy payloads = s := by
  have hnone : payloads.any s.profile.decoders.endsSession = false := by simpa using h
  rw [closedBy, endedBy, hnone]
  rfl

theorem respond_sound : (s.respond r).unwarned =
    ((s.closedBy (s.profile.skipped r)).respond (s.profile.sound r)).unwarned := by
  have hworking : { s.closedBy (s.profile.skipped r) with receiver := .working } =
      { s with receiver := .working }.endedBy (s.profile.skipped r) := by
    rw [closedBy, endedBy]
    split
    · rw [close_eq]
    · rfl
  obtain ⟨hsteps, hsession⟩ := absorb_sound { s with receiver := .working } r
  rw [respond, respond, hworking]
  dsimp only
  rw [hsteps]
  exact run_congr _ hsession

/-- To take in a response is, apart from warnings, to take in the response without the resources
that are of no use: the same is remembered and kept, the same requests are made in the same order,
and the same is told to those who wait, in every state of a session. Only a decoder that ends the
session can be noticed behind such a resource, and then the session is as if it had ended before.
However many resources are of no use, one of the requests that follow from the response acknowledges
it, and no other one does. -/
theorem unusable_resources_skipped :
    (s.respond r).unwarned =
      ((s.closedBy (s.profile.skipped r)).respond (s.profile.sound r)).unwarned ∧
    ((∀ payload ∈ s.profile.skipped r, s.profile.decoders.endsSession payload = false) →
      (s.respond r).unwarned = (s.respond (s.profile.sound r)).unwarned) ∧
    (s.Orderly → s.receiver = .idle → (s.respond r).transport.closed = false →
      (s.respond r).transport.outbound.accepting = true →
      ∃ before ack after, (s.respond r).requested = s.requested ++ (before ++ ack :: after) ∧
        ack.Acknowledges s.profile.mode r (s.respond r).ledger.watches ∧
        ∀ d ∈ before ++ after, d.Beside r) := by
  refine ⟨s.respond_sound r, fun hends ↦ ?_, fun horderly hidle hopen haccepting ↦ ?_⟩
  · have hsame := s.respond_sound r
    rw [s.closedBy_eq_self hends] at hsame
    exact hsame
  · obtain ⟨before, ack, after, hreply, hack, hbeside⟩ :=
      s.ledger.reply_acknowledges s.profile r
    rw [← ledger_respond hopen] at hack
    refine ⟨before, ack, after, ?_, hack, hbeside⟩
    rw [← hreply]
    exact (respond_spec horderly hidle r).2 hopen haccepting

/-- A cluster among resources that are of no use: one without its body, one that cannot be decoded,
and one of another kind. -/
def mixedPush : Response where
  typeUrl := ResourceKind.cluster.typeUrl
  version := "1"
  nonce := "a"
  resources :=
    [none, some ⟨ResourceKind.cluster.typeUrl, [0xff]⟩, some (sharingCluster 0x61),
      some ⟨ResourceKind.endpoint.typeUrl, [0x0a, 1, 0x73]⟩]

/-- Only the cluster counts, and the response is acknowledged once, behind what the cluster needs.
-/
theorem unusable_resources_skipped_mixedPush :
    ((plain .incremental).respond mixedPush).unwarned =
      ((plain .incremental).respond (clusterPush "a" [0x61] [])).unwarned ∧
    (∃ before ack after, ((plain .incremental).respond mixedPush).requested =
      (plain .incremental).requested ++ (before ++ ack :: after) ∧
      ack = { typeUrl := ResourceKind.cluster.typeUrl, nonce := "a" } ∧
      ∀ d ∈ before ++ after, d.Beside mixedPush) ∧
    ((plain .incremental).respond mixedPush).requested.map (·.nonce) = ["", "", "", "a"] := by
  have hsound : (Profile.plain .incremental).sound mixedPush = clusterPush "a" [0x61] [] := by
    have hresources : ((Profile.plain .incremental).sound mixedPush).resources =
        (clusterPush "a" [0x61] []).resources := by decide +kernel
    exact congrArg (fun rs ↦ { clusterPush "a" [0x61] [] with resources := rs }) hresources
  obtain ⟨-, hsame, hacknowledged⟩ := unusable_resources_skipped (plain .incremental) mixedPush
  refine ⟨?_, hacknowledged rfl rfl (by decide +kernel) (by decide +kernel), by decide +kernel⟩
  rw [← hsound]
  exact hsame fun payload _ ↦ DecoderTable.endsSession_standard payload

end Session

end ProxyFleet

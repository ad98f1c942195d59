import ProxyFleet.Proofs.Session.Complete

/-!
# Acknowledgements in the complete mode

Every response is answered by one acknowledgement, in the order in which they came in, and what else
is asked for on its account has a fixed place before or behind that.

On the stream an acknowledgement is told from another request by its version and nonce, but nothing
keeps a control plane from leaving both blank. So the requests are followed in a journal in which
each has its purpose, written down as it is made, and the purposes are dropped to compare the
journal with the stream. The order of an answer is the order of its entries.
-/

namespace ProxyFleet

/-- Why a request is made. -/
inductive Purpose
  /-- The subscriptions begin. -/
  | opening
  /-- The wanted names of a kind changed. -/
  | subscription
  /-- A response was taken in. -/
  | acknowledgement
  /-- The first clusters came in, and listeners are to follow. -/
  | listeners
deriving DecidableEq

/-- A request and why it is made. -/
structure Entry where
  /-- Why it is made. -/
  purpose : Purpose
  /-- What it says. -/
  draft : Draft

/-- The requests in a journal that are made for a purpose. -/
def madeFor (purpose : Purpose) (journal : List Entry) : List Draft :=
  (journal.filter (·.purpose = purpose)).map (·.draft)

theorem madeFor_append (purpose : Purpose) (journal more : List Entry) :
    madeFor purpose (journal ++ more) = madeFor purpose journal ++ madeFor purpose more := by
  rw [madeFor, List.filter_append, List.map_append, madeFor, madeFor]

theorem madeFor_map_of_ne {purpose other : Purpose} (h : other ≠ purpose) (drafts : List Draft) :
    madeFor purpose (drafts.map (⟨other, ·⟩)) = [] := by
  rw [madeFor, List.map_eq_nil_iff, List.filter_eq_nil_iff]
  intro e he
  obtain ⟨d, -, rfl⟩ := List.mem_map.mp he
  rw [decide_eq_true_iff]
  exact h

/-- What an acknowledgement repeats of a response. -/
def Response.mark (r : Response) : String × String × String := (r.typeUrl, r.version, r.nonce)

/-- What a request says that an acknowledgement repeats. -/
def Draft.mark (d : Draft) : String × String × String := (d.typeUrl, d.version, d.nonce)

/-! ## The journal of one answer -/

/-- The answer to a response with the purpose of each request. -/
def answerEntries (past : List Response) (r : Response) (before after : WatchTable) : List Entry :=
  (before.resubscriptions after).map (⟨.subscription, ·⟩) ++
    [⟨.acknowledgement,
      { typeUrl := r.typeUrl, version := r.version, nonce := r.nonce
        names := after.namesUnder r.typeUrl }⟩] ++
    if r.bringsClusters ∧ ¬ past.any Response.bringsClusters then
      [⟨.listeners, { typeUrl := ResourceKind.listener.typeUrl }⟩]
    else []

section

variable (past : List Response) (r : Response) (before after : WatchTable)

theorem map_draft_answerEntries :
    (answerEntries past r before after).map (·.draft) = answer past r before after := by
  rw [answerEntries, answer, List.map_append, List.map_append, List.map_map, apply_ite (List.map _)]
  exact congrArg (· ++ _ ++ _) (List.map_id _)

theorem madeFor_acknowledgement_answerEntries :
    madeFor .acknowledgement (answerEntries past r before after) =
      [{ typeUrl := r.typeUrl, version := r.version, nonce := r.nonce
         names := after.namesUnder r.typeUrl }] := by
  rw [answerEntries, madeFor_append, madeFor_append, madeFor_map_of_ne (by decide)]
  split <;> rfl

theorem madeFor_listeners_answerEntries :
    madeFor .listeners (answerEntries past r before after) =
      if r.bringsClusters ∧ ¬ past.any Response.bringsClusters then
        [{ typeUrl := ResourceKind.listener.typeUrl }]
      else [] := by
  rw [answerEntries, madeFor_append, madeFor_append, madeFor_map_of_ne (by decide)]
  split <;> rfl

theorem blank_answerEntries {e : Entry} (he : e ∈ answerEntries past r before after)
    (hpurpose : e.purpose ≠ .acknowledgement) : e.draft.version = "" ∧ e.draft.nonce = "" := by
  rw [answerEntries, List.mem_append, List.mem_append] at he
  rcases he with (he | he) | he
  · obtain ⟨d, hd, rfl⟩ := List.mem_map.mp he
    obtain ⟨k, -, rfl⟩ := List.mem_map.mp hd
    exact ⟨rfl, rfl⟩
  · rw [List.mem_singleton.mp he] at hpurpose
    exact absurd rfl hpurpose
  · split at he
    · rw [List.mem_singleton.mp he]
      exact ⟨rfl, rfl⟩
    · cases he

end

/-! ## The journal of a play -/

namespace Session

/-- The acknowledgements that are due for moves: one for each response that is heard, in order. It
repeats the type, version and nonce of the response, and lists all names of that type that are
wanted once the response is taken in. -/
def acknowledgements (s : Session) : List Move → List Draft
  | [] => []
  | m :: rest =>
    ((s.hears m).map fun r ↦
      { typeUrl := r.typeUrl, version := r.version, nonce := r.nonce
        names := (s.move m).ledger.watches.namesUnder r.typeUrl }) ++
      (s.move m).acknowledgements rest

theorem acknowledgements_append (s : Session) (moves more : List Move) :
    s.acknowledgements (moves ++ more) =
      s.acknowledgements moves ++ (s.play moves).acknowledgements more := by
  induction moves generalizing s with
  | nil => rfl
  | cons m rest ih => rw [List.cons_append, acknowledgements, ih, ← List.append_assoc]; rfl

/-- Whatever the names are, one response is acknowledged after the other. -/
theorem map_mark_acknowledgements (s : Session) (moves : List Move) :
    (s.acknowledgements moves).map (·.mark) = (s.heard moves).map (·.mark) := by
  induction moves generalizing s with
  | nil => rfl
  | cons m rest ih =>
    rw [acknowledgements, heard, List.map_append, List.map_append, ih, List.map_map]
    rfl

/-- What a move adds to the journal, given what was heard before. -/
def entries (s : Session) (past : List Response) : Move → List Entry
  | .watch =>
    if s.watchBegun then [] else [⟨.opening, { typeUrl := ResourceKind.cluster.typeUrl }⟩]
  | .respond r =>
    if s.receiver = .idle then
      answerEntries past r s.ledger.watches (s.move (.respond r)).ledger.watches
    else []
  | _ => []

/-- The journal of moves, given what was heard before. -/
def journal (s : Session) (past : List Response) : List Move → List Entry
  | [] => []
  | m :: rest => s.entries past m ++ (s.move m).journal (past ++ s.hears m) rest

theorem journal_concat (s : Session) (past : List Response) (moves : List Move) (m : Move) :
    s.journal past (moves ++ [m]) =
      s.journal past moves ++ (s.play moves).entries (past ++ s.heard moves) m := by
  induction moves generalizing s past with
  | nil => simp [journal, heard]
  | cons n rest ih =>
    rw [List.cons_append, journal, ih, journal, List.append_assoc, heard, List.append_assoc]
    rfl

section

variable (s : Session) (past : List Response) (m : Move)

theorem madeFor_acknowledgement_entries :
    madeFor .acknowledgement (s.entries past m) = s.acknowledgements [m] := by
  rw [acknowledgements, acknowledgements, List.append_nil]
  cases m with
  | watch =>
    rw [entries]
    split <;> rfl
  | respond r =>
    rw [entries, hears]
    split
    · exact madeFor_acknowledgement_answerEntries ..
    · rfl
  | _ => rfl

theorem madeFor_listeners_entries :
    madeFor .listeners (s.entries past m) =
      if (s.hears m).any Response.bringsClusters ∧ ¬ past.any Response.bringsClusters then
        [{ typeUrl := ResourceKind.listener.typeUrl }]
      else [] := by
  cases m with
  | watch =>
    have hnothing : s.hears .watch = [] := rfl
    rw [hnothing, List.any_nil, if_neg (fun h ↦ Bool.noConfusion h.1), entries]
    split <;> rfl
  | respond r =>
    rw [entries, hears]
    split
    · rw [madeFor_listeners_answerEntries, List.any_cons, List.any_nil, Bool.or_false]
    · rw [List.any_nil, if_neg (fun h ↦ Bool.noConfusion h.1)]
      rfl
  | _ => exact (if_neg (fun h ↦ Bool.noConfusion h.1)).symm

theorem blank_entries {e : Entry} (he : e ∈ s.entries past m)
    (hpurpose : e.purpose ≠ .acknowledgement) : e.draft.version = "" ∧ e.draft.nonce = "" := by
  cases m with
  | watch =>
    rw [entries] at he
    split at he
    · cases he
    · rw [List.mem_singleton.mp he]
      exact ⟨rfl, rfl⟩
  | respond r =>
    rw [entries] at he
    split at he
    · exact blank_answerEntries _ _ _ _ he hpurpose
    · cases he
  | _ => cases he

end

theorem madeFor_acknowledgement_journal (s : Session) (moves : List Move) :
    madeFor .acknowledgement (s.journal [] moves) = s.acknowledgements moves := by
  induction moves using List.reverseRecOn with
  | nil => rfl
  | append_singleton moves m ih =>
    rw [journal_concat, madeFor_append, ih, madeFor_acknowledgement_entries,
      acknowledgements_append]

/-- The request for listeners is made when the first clusters come in, and never again. -/
theorem madeFor_listeners_journal (s : Session) (moves : List Move) :
    madeFor .listeners (s.journal [] moves) =
      if (s.heard moves).any Response.bringsClusters then
        [{ typeUrl := ResourceKind.listener.typeUrl }]
      else [] := by
  induction moves using List.reverseRecOn with
  | nil => rfl
  | append_singleton moves m ih =>
    rw [journal_concat, madeFor_append, ih, List.nil_append, madeFor_listeners_entries,
      heard_concat, List.any_append]
    cases (s.heard moves).any Response.bringsClusters with
    | true => simp
    | false => simp

theorem blank_journal (s : Session) (moves : List Move) {e : Entry} (he : e ∈ s.journal [] moves)
    (hpurpose : e.purpose ≠ .acknowledgement) : e.draft.version = "" ∧ e.draft.nonce = "" := by
  induction moves using List.reverseRecOn with
  | nil => cases he
  | append_singleton moves m ih =>
    rw [journal_concat, List.mem_append] at he
    rcases he with he | he
    · exact ih he
    · exact blank_entries _ _ _ he hpurpose

/-! ## The journal and the stream -/

section

variable {s : Session} {p : Profile} {keepsStore : Bool} (hs : Start p keepsStore s)

include hs

theorem ledger_of_unknown {moves : List Move} {r : Response}
    (hopen : (s.play (moves ++ [.respond r])).isClosed = false)
    (hr : ResourceKind.ofTypeUrl? r.typeUrl = none) :
    (s.play (moves ++ [.respond r])).ledger = (s.play moves).ledger := by
  by_cases hidle : (s.play moves).receiver = .idle
  · rw [hs.ledger_concat_respond hidle hopen, Ledger.reply_of_none _ hr]
  · rw [play_concat, move, if_neg hidle]

variable (hp : p.mode = .complete)

include hp

/-- With the purposes dropped, an entry is what a move asks for. -/
theorem map_draft_entries (moves : List Move) (m : Move)
    (hopen : (s.play (moves ++ [m])).isClosed = false) :
    ((s.play moves).entries (s.heard moves) m).map (·.draft) = (s.play moves).asks m := by
  cases m with
  | watch =>
    rw [entries, asks, hs.profile_play, hp]
    split <;> rfl
  | respond r =>
    rw [entries]
    split
    · next hidle =>
      rw [map_draft_answerEntries, hs.asks_respond hp hidle hopen, play_concat]
    · next hidle =>
      rw [asks, if_neg hidle]
      rfl
  | _ => rfl

/-- With the purposes dropped, the journal says what was asked for. -/
theorem requested_eq_journal (moves : List Move) (hopen : (s.play moves).isClosed = false)
    (h : s.Unrefused moves) :
    (s.play moves).requested = s.wire ++ (s.journal [] moves).map (·.draft) := by
  induction moves using List.reverseRecOn with
  | nil =>
    have hidle : s.receiver = .idle := by cases hs <;> rfl
    rw [play_nil, hs.orderly.requested_eq hidle]
    exact (List.append_nil _).symm
  | append_singleton moves m ih =>
    rw [hs.requested_concat hopen h, ih (hs.open_of_append hopen) h.of_concat.1, journal_concat,
      List.map_append, List.nil_append, map_draft_entries hs hp moves m hopen, List.append_assoc]

/-- In every open session of the complete mode whose requests were all accepted, what is on the
stream is what the journal says, move by move: a response that is taken in adds its answer, with the
table before and after it. Acknowledgements are made for the responses that were heard, one for each
and in their order, and each lists all names of its type that are wanted at that moment. All
listeners are asked for once if clusters were heard, and else never; what is no acknowledgement
acknowledges nothing; and responses of an unknown type change nothing. -/
theorem responses_acknowledged_in_order (moves : List Move)
    (hopen : (s.play moves).isClosed = false) (h : s.AllAccepted moves) :
    (s.play moves).wire = s.wire ++ (s.journal [] moves).map (·.draft) ∧
    (∀ before r after, moves = before ++ .respond r :: after → (s.play before).receiver = .idle →
      s.journal [] (before ++ [.respond r]) = s.journal [] before ++
        answerEntries (s.heard before) r (s.play before).ledger.watches
          (s.play (before ++ [.respond r])).ledger.watches) ∧
    madeFor .acknowledgement (s.journal [] moves) = s.acknowledgements moves ∧
    (madeFor .acknowledgement (s.journal [] moves)).map (·.mark) = (s.heard moves).map (·.mark) ∧
    (madeFor .listeners (s.journal [] moves) =
      if (s.heard moves).any Response.bringsClusters then
        [{ typeUrl := ResourceKind.listener.typeUrl }]
      else []) ∧
    (∀ e ∈ s.journal [] moves, e.purpose ≠ .acknowledgement →
      e.draft.version = "" ∧ e.draft.nonce = "") ∧
    ∀ before r after, moves = before ++ .respond r :: after →
      ResourceKind.ofTypeUrl? r.typeUrl = none →
      (s.play (before ++ [.respond r])).ledger = (s.play before).ledger := by
  have hacknowledged := madeFor_acknowledgement_journal s moves
  refine ⟨?_, ?_, hacknowledged, ?_, madeFor_listeners_journal s moves,
    fun e ↦ blank_journal s moves, ?_⟩
  · rw [← (orderly_play hs.orderly moves).requested_eq h.idle]
    exact requested_eq_journal hs hp moves hopen h.toUnrefused
  · rintro before r after - hidle
    rw [journal_concat, entries, if_pos hidle, play_concat, List.nil_append]
  · rw [hacknowledged, map_mark_acknowledgements]
  · rintro before r after rfl hr
    refine ledger_of_unknown hs ?_ hr
    rw [List.append_cons] at hopen
    exact hs.open_of_append hopen

end

/-- Clusters come in, then something unknown, and then an assignment that nobody asked for. -/
def pushUnasked : List Move :=
  [.respond (clusterPush "a" [0x61, 0x62] []),
    .respond { typeUrl := "unknown", version := "2", nonce := "b", resources := [] },
    .respond
      { typeUrl := ResourceKind.endpoint.typeUrl, version := "3", nonce := "c"
        resources := [some ⟨ResourceKind.endpoint.typeUrl, [0x0a, 1, 0x78]⟩] }]

/-- Every response is acknowledged, also the one that is not understood. The last acknowledgement
lists the assignment that is wanted, and not the one that came in. -/
theorem responses_acknowledged_pushUnasked :
    (plain .complete).AllAccepted pushUnasked ∧
      ((plain .complete).play pushUnasked).wire =
        (plain .complete).wire ++
          [{ typeUrl := ResourceKind.endpoint.typeUrl, names := .ofList ["s"] },
            { typeUrl := ResourceKind.cluster.typeUrl, version := "1", nonce := "a" },
            { typeUrl := ResourceKind.listener.typeUrl },
            { typeUrl := "unknown", version := "2", nonce := "b" },
            { typeUrl := ResourceKind.endpoint.typeUrl, version := "3", nonce := "c"
              names := .ofList ["s"] }] ∧
      madeFor .acknowledgement ((plain .complete).journal [] pushUnasked) =
        [{ typeUrl := ResourceKind.cluster.typeUrl, version := "1", nonce := "a" },
          { typeUrl := "unknown", version := "2", nonce := "b" },
          { typeUrl := ResourceKind.endpoint.typeUrl, version := "3", nonce := "c"
            names := .ofList ["s"] }] := by
  have hunwatched : .watch ∉ pushUnasked := by simp [pushUnasked]
  have haccepted : (plain .complete).AllAccepted pushUnasked :=
    ⟨.of_not_mem_watch hunwatched (by decide +kernel), by decide +kernel⟩
  obtain ⟨hwire, -, hacknowledged, -⟩ := responses_acknowledged_in_order (.plain .complete) rfl
    pushUnasked (by decide +kernel) haccepted
  refine ⟨haccepted, hwire.trans ?_, hacknowledged.trans ?_⟩
  · decide +kernel
  · decide +kernel

end Session

end ProxyFleet

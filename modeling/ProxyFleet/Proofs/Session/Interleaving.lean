import ProxyFleet.Proofs.Session.Parts

/-!
# How responses of different types are interleaved

A control plane sends the responses of one type in their order, but nothing orders those of
different types. What a session remembers in the end does not depend on how they come in: two
histories that have the same responses of each type, in the same order type by type, lead to the
same ledger. What is asked for on the way may well differ.

Responses of different kinds can trade places because no kind writes or reads what another one
governs. That any interleaving can be turned into any other by such trades is a fact about lists.
-/

namespace ProxyFleet

universe u v w

/-! ## Lists of steps with keys -/

section Steps

variable {α : Type u} {β : Type v} {κ : Type w} {key : α → κ} {f : β → α → β}
variable (htrade : ∀ b x y, key x ≠ key y → f (f b x) y = f (f b y) x)

include htrade

theorem foldl_append_cons_of_key_ne {x : α} {front : List α} (hfront : ∀ y ∈ front, key y ≠ key x)
    (back : List α) (b : β) :
    (front ++ x :: back).foldl f b = (front ++ back).foldl f (f b x) := by
  induction front generalizing b with
  | nil => rfl
  | cons y rest ih =>
    have hy : key y ≠ key x := hfront y List.mem_cons_self
    have hrest : ∀ z ∈ rest, key z ≠ key x := fun z hz ↦ hfront z (List.mem_cons_of_mem _ hz)
    calc (y :: rest ++ x :: back).foldl f b
        = (rest ++ back).foldl f (f (f b y) x) := ih hrest (f b y)
      _ = (rest ++ back).foldl f (f (f b x) y) := by rw [htrade b y x hy]

/-- Steps lead to the same end if those of each key come in the same order. -/
theorem foldl_eq_of_filter_key_eq [DecidableEq κ] {xs ys : List α}
    (h : ∀ k, xs.filter (key · = k) = ys.filter (key · = k)) (b : β) :
    xs.foldl f b = ys.foldl f b := by
  induction xs generalizing ys b with
  | nil =>
    cases ys with
    | nil => rfl
    | cons y rest =>
      have hy := h (key y)
      rw [List.filter_cons_of_pos (by simp)] at hy
      cases hy
  | cons x rest ih =>
    -- The first step is also the first one of its key in the other list.
    have hx := h (key x)
    rw [List.filter_cons_of_pos (by simp)] at hx
    obtain ⟨front, back, rfl, hfront, -, hback⟩ := List.filter_eq_cons_iff.mp hx.symm
    have hfront : ∀ y ∈ front, key y ≠ key x := by simpa using hfront
    rw [foldl_append_cons_of_key_ne htrade hfront]
    refine ih (fun k ↦ ?_) (f b x)
    rw [List.filter_append]
    by_cases hk : key x = k
    · subst hk
      have hnone : front.filter (key · = key x) = [] := by simpa using hfront
      rw [hnone, List.nil_append, hback]
    · have hk' := h k
      rw [List.filter_cons_of_neg (by simpa using hk), List.filter_append,
        List.filter_cons_of_neg (by simpa using hk)] at hk'
      exact hk'

end Steps

/-! ## Responses -/

namespace Ledger

variable (l : Ledger) {p : Profile} {q r : Response} {j k : ResourceKind}

theorem part_reply_reply (hj : ResourceKind.ofTypeUrl? q.typeUrl = some j)
    (hk : ResourceKind.ofTypeUrl? r.typeUrl = some k) (hne : j ≠ k) :
    ((l.reply p q).1.reply p r).1.part j = ((l.reply p r).1.reply p q).1.part j := by
  have hsame : (l.reply p r).1.part j = l.part j := part_reply_of_ne p hk hne
  rw [part_reply_of_ne p hk hne]
  exact (part_reply_congr p hj hsame).symm

/-- Responses of different kinds can trade places. -/
theorem reply_comm_of_ne (hj : ResourceKind.ofTypeUrl? q.typeUrl = some j)
    (hk : ResourceKind.ofTypeUrl? r.typeUrl = some k) (hne : j ≠ k) :
    ((l.reply p q).1.reply p r).1 = ((l.reply p r).1.reply p q).1 := by
  refine ext_part (fun i ↦ ?_) fun i ↦ ?_
  · -- Neither response changes which subscriptions the other one begins.
    have hq : (l.reply p r).1.Begins p q i ↔ l.Begins p q i :=
      begins_congr p hj (part_reply_of_ne p hk hne)
    have hr : (l.reply p q).1.Begins p r i ↔ l.Begins p r i :=
      begins_congr p hk (part_reply_of_ne p hj hne.symm)
    rw [Bool.eq_iff_iff, begun_reply_iff, begun_reply_iff, begun_reply_iff, begun_reply_iff, hq, hr,
      or_right_comm]
  · by_cases hij : i = j
    · rw [hij]
      exact l.part_reply_reply hj hk hne
    by_cases hik : i = k
    · rw [hik]
      exact (l.part_reply_reply hk hj hne.symm).symm
    rw [part_reply_of_ne p hk hik, part_reply_of_ne p hj hij, part_reply_of_ne p hj hij,
      part_reply_of_ne p hk hik]

theorem reply_comm (h : q.typeUrl ≠ r.typeUrl) :
    ((l.reply p q).1.reply p r).1 = ((l.reply p r).1.reply p q).1 := by
  cases hj : ResourceKind.ofTypeUrl? q.typeUrl with
  | none => rw [reply_of_none _ hj, reply_of_none _ hj]
  | some j =>
    cases hk : ResourceKind.ofTypeUrl? r.typeUrl with
    | none => rw [reply_of_none _ hk, reply_of_none _ hk]
    | some k =>
      refine l.reply_comm_of_ne hj hk ?_
      rintro rfl
      rw [ResourceKind.ofTypeUrl?_eq_some_iff] at hj hk
      exact h (hj.trans hk.symm)

/-- The ledger after responses, one after the other. -/
def replyAll (p : Profile) (rs : List Response) : Ledger :=
  rs.foldl (fun l r ↦ (l.reply p r).1) l

end Ledger

/-! ## On every play -/

namespace Session

variable {s : Session} {p : Profile} {keepsStore : Bool}

/-- A move that leaves the session open, and does not begin the subscriptions, changes what the
session remembers through the response that it takes in, if any. -/
theorem ledger_move {m : Move} (hm : m ≠ .watch) (hopen : (s.move m).transport.closed = false) :
    (s.move m).ledger = s.ledger.replyAll s.profile (s.hears m) := by
  cases m with
  | watch => exact absurd rfl hm
  | respond r =>
    rw [move] at hopen ⊢
    rw [hears]
    by_cases hidle : s.receiver = .idle
    · rw [if_pos hidle] at hopen
      rw [if_pos hidle, if_pos hidle]
      exact ledger_respond hopen
    · rw [if_neg hidle, if_neg hidle]
      rfl
  | _ => exact (s.quiet_move hm fun _ h ↦ by cases h).ledger hopen

theorem Start.ledger_play_append (hs : Start p keepsStore s) (moves : List Move) {more : List Move}
    (hwatch : .watch ∉ more) (hopen : (s.play (moves ++ more)).isClosed = false) :
    (s.play (moves ++ more)).ledger =
      (s.play moves).ledger.replyAll p ((s.play moves).heard more) := by
  induction more using List.reverseRecOn with
  | nil => rw [List.append_nil]; rfl
  | append_singleton more m ih =>
    rw [List.mem_append, List.mem_singleton, not_or] at hwatch
    rw [← List.append_assoc] at hopen ⊢
    have hbefore := ih hwatch.1 (hs.open_of_append hopen)
    rw [isClosed, hs.latched, play_concat] at hopen
    rw [play_concat, ledger_move (Ne.symm hwatch.2) hopen, hbefore, hs.profile_play, heard_concat,
      ← play_append, Ledger.replyAll, Ledger.replyAll, Ledger.replyAll, List.foldl_append]

/-- What an open session remembers does not depend on how the responses of different types are
interleaved: from any state that it can be in, and however the receiver was kept from or got to its
work, two ways to go on in which it takes in the same responses of each type, in the same order type
by type, leave it with the same ledger, that is with the same subscriptions, marks and entries
included, and with the same resources. -/
theorem ledger_eq_of_same_responses (hs : Start p keepsStore s) (moves : List Move)
    {more more' : List Move} (hwatch : .watch ∉ more) (hwatch' : .watch ∉ more')
    (hopen : (s.play (moves ++ more)).isClosed = false)
    (hopen' : (s.play (moves ++ more')).isClosed = false)
    (hsame : ∀ typeUrl, ((s.play moves).heard more).filter (·.typeUrl = typeUrl) =
      ((s.play moves).heard more').filter (·.typeUrl = typeUrl)) :
    (s.play (moves ++ more)).ledger = (s.play (moves ++ more')).ledger := by
  have htrade : ∀ (l : Ledger) (q r : Response), q.typeUrl ≠ r.typeUrl →
      ((l.reply p q).1.reply p r).1 = ((l.reply p r).1.reply p q).1 := fun l _ _ h ↦ l.reply_comm h
  rw [hs.ledger_play_append moves hwatch hopen, hs.ledger_play_append moves hwatch' hopen']
  exact foldl_eq_of_filter_key_eq htrade hsame _

/-- A response with the endpoint assignment that the clusters of `clusterPush` need. -/
def endpointPush : Response where
  typeUrl := ResourceKind.endpoint.typeUrl
  version := "1"
  nonce := "e"
  resources := [some ⟨ResourceKind.endpoint.typeUrl, [0x0a, 1, 0x73]⟩]

/-- The assignment comes in behind the cluster that needs it. -/
def lateEndpoint : List Move := [.respond (clusterPush "a" [0x61] []), .respond endpointPush]

/-- The assignment comes in before the cluster that needs it. -/
def earlyEndpoint : List Move := [.respond endpointPush, .respond (clusterPush "a" [0x61] [])]

theorem heard_pair {q r : Response} (hidle : s.receiver = .idle)
    (hidle' : (s.respond q).receiver = .idle) :
    s.heard [.respond q, .respond r] = [q, r] := by
  rw [heard_respond_cons hidle, heard_respond_cons hidle', heard]

/-- Which of them comes first makes no difference for what is remembered, although it does for what
is asked for. -/
theorem ledger_eq_of_early_endpoint :
    ((plain .complete).play lateEndpoint).ledger = ((plain .complete).play earlyEndpoint).ledger ∧
    ((plain .complete).play lateEndpoint).wire ≠ ((plain .complete).play earlyEndpoint).wire := by
  have hsame : ∀ typeUrl, ((plain .complete).heard lateEndpoint).filter (·.typeUrl = typeUrl) =
      ((plain .complete).heard earlyEndpoint).filter (·.typeUrl = typeUrl) := by
    intro typeUrl
    have hne : (clusterPush "a" [0x61] []).typeUrl ≠ endpointPush.typeUrl := by decide
    rw [lateEndpoint, earlyEndpoint, heard_pair rfl (by decide +kernel),
      heard_pair rfl (by decide +kernel)]
    by_cases h : (clusterPush "a" [0x61] []).typeUrl = typeUrl
    · have h' : endpointPush.typeUrl ≠ typeUrl := fun e ↦ hne (h.trans e.symm)
      simp [h, h']
    · simp [h, List.filter_cons]
  refine ⟨?_, by decide +kernel⟩
  exact ledger_eq_of_same_responses (.plain .complete) [] (by simp) (by simp) (by decide +kernel)
    (by decide +kernel) hsame

end Session

end ProxyFleet

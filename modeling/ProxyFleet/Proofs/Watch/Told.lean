import ProxyFleet.Proofs.Watch.Change

/-!
# What is told of names that come and go

To subscribe and to give up, a table goes through the listed names one after the other, and notes
those that change the set which the names before them have left. A name that is listed again finds
itself settled, so it is noted once, and what is noted is the difference between the wanted names
before and those after, whatever the order of the list (`WatchTable.tells_what_changed`). Whoever is
told the difference can take the change back.
-/

namespace ProxyFleet.WatchTable

variable (t : WatchTable) (j k : ResourceKind) (names : List String)

/-! ## Changes that are taken back -/

/-- Who gives up the names that a subscription tells of wants what was wanted before it. -/
theorem names_unsubscribe_subscribe :
    ((t.subscribe k names).2.unsubscribe k (t.subscribe k names).1.toList).2.names j =
      t.names j := by
  ext x
  rw [mem_names_unsubscribe, mem_names_subscribe, NameSet.mem_toList, mem_subscribe_fst]
  constructor
  · rintro ⟨hx | ⟨rfl, hlisted⟩, hkept⟩
    · exact hx
    · by_contra hnew
      exact hkept ⟨rfl, hlisted, hnew⟩
  · intro hx
    refine ⟨.inl hx, ?_⟩
    rintro ⟨rfl, -, hnew⟩
    exact hnew hx

/-- Who subscribes to the names that giving up tells of wants what was wanted before it. -/
theorem names_subscribe_unsubscribe :
    ((t.unsubscribe k names).2.subscribe k (t.unsubscribe k names).1.toList).2.names j =
      t.names j := by
  ext x
  rw [mem_names_subscribe, mem_names_unsubscribe, NameSet.mem_toList, mem_unsubscribe_fst]
  constructor
  · rintro (⟨hx, -⟩ | ⟨rfl, -, hx⟩)
    · exact hx
    · exact hx
  · intro hx
    by_cases hgone : j = k ∧ x ∈ names
    · obtain ⟨rfl, hlisted⟩ := hgone
      exact .inr ⟨rfl, hlisted, hx⟩
    · exact .inl ⟨hx, hgone⟩

/-! ## What is told, what is changed, and what is not -/

/-- **What is told is what changes.** To subscribe tells, in increasing order and each once, the
listed names that were not wanted, and all listed names are wanted after it besides those that were;
to give up tells the listed names that were wanted, and those that are not listed stay. Either tells
all that it noted on its way through the list, for it notes nothing twice. Neither changes the nonce
or the version of the kind, or anything of another kind. The first begins a subscription where there
is none, the second does not. Each takes back what the other tells of. -/
theorem tells_what_changed :
    ((t.subscribe k names).1.toList.Pairwise (· < ·) ∧
      (∀ x, x ∈ (t.subscribe k names).1.toList ↔ x ∈ names ∧ x ∉ t.names k) ∧
      (t.subscribe k names).1.toList.Perm (NameSet.sift NameSet.add names (t.names k)).1 ∧
      (∀ x, x ∈ (t.subscribe k names).2.names k ↔ x ∈ t.names k ∨ x ∈ names) ∧
      (t.subscribe k names).2.begun k = true ∧
      (t.subscribe k names).2.mark k = t.mark k ∧
      ∀ j ≠ k, (t.subscribe k names).2.find? j = t.find? j) ∧
    ((t.unsubscribe k names).1.toList.Pairwise (· < ·) ∧
      (∀ x, x ∈ (t.unsubscribe k names).1.toList ↔ x ∈ names ∧ x ∈ t.names k) ∧
      (t.unsubscribe k names).1.toList.Perm (NameSet.sift NameSet.remove names (t.names k)).1 ∧
      (∀ x, x ∈ (t.unsubscribe k names).2.names k ↔ x ∈ t.names k ∧ x ∉ names) ∧
      (t.unsubscribe k names).2.begun k = t.begun k ∧
      (t.unsubscribe k names).2.mark k = t.mark k ∧
      ∀ j ≠ k, (t.unsubscribe k names).2.find? j = t.find? j) ∧
    ((t.subscribe k names).2.unsubscribe k (t.subscribe k names).1.toList).2.names k =
      t.names k ∧
    ((t.unsubscribe k names).2.subscribe k (t.unsubscribe k names).1.toList).2.names k =
      t.names k := by
  refine ⟨⟨(t.subscribe k names).1.increasing, ?_, NameSet.settles_add.perm_ofList_sift_fst, ?_, ?_,
    ?_, ?_⟩, ⟨(t.unsubscribe k names).1.increasing, ?_, ?_, ?_, ?_, ?_, ?_⟩,
    t.names_unsubscribe_subscribe k k names, t.names_subscribe_unsubscribe k k names⟩
  · intro x
    rw [NameSet.mem_toList, mem_subscribe_fst]
  · intro x
    rw [mem_names_subscribe, and_iff_right rfl]
  · rw [begun_subscribe, decide_eq_true rfl, Bool.or_true]
  · exact t.mark_subscribe k k names
  · exact fun j hj ↦ find?_subscribe_of_ne hj names
  · intro x
    rw [NameSet.mem_toList, mem_unsubscribe_fst]
  · rw [unsubscribe_fst]
    exact NameSet.settles_remove.perm_ofList_sift_fst
  · intro x
    rw [mem_names_unsubscribe, and_iff_right rfl]
  · exact t.begun_unsubscribe k k names
  · exact t.mark_unsubscribe k k names
  · exact fun j hj ↦ find?_unsubscribe_of_ne hj names

/-- Of five listed names, two of them repeated, two are new and told in order, and one is given up
and told once; the route stays, and either way it is back to the one endpoint that was wanted. -/
theorem tells_what_changed_endpointsAndRoute :
    (endpointsAndRoute.subscribe .endpoint ["c", "a", "b", "a", "c"]).1.toList = ["b", "c"] ∧
    (endpointsAndRoute.unsubscribe .endpoint ["c", "a", "b", "a", "c"]).1.toList = ["a"] ∧
    ResourceKind.route ≠ .endpoint ∧
    (endpointsAndRoute.subscribe .endpoint ["c", "a", "b", "a", "c"]).2.find? .route =
      endpointsAndRoute.find? .route ∧
    (endpointsAndRoute.unsubscribe .endpoint ["c", "a", "b", "a", "c"]).2.find? .route =
      endpointsAndRoute.find? .route ∧
    ((endpointsAndRoute.subscribe .endpoint ["c", "a", "b", "a", "c"]).2.unsubscribe .endpoint
      ["b", "c"]).2.names .endpoint = .ofList ["a"] ∧
    ((endpointsAndRoute.unsubscribe .endpoint ["c", "a", "b", "a", "c"]).2.subscribe .endpoint
      ["a"]).2.names .endpoint = .ofList ["a"] := by
  obtain ⟨⟨haddedIncreasing, hadded, -, -, -, -, haddedOthers⟩,
    ⟨hgoneIncreasing, hgone, -, -, -, -, hgoneOthers⟩, hadd, hgive⟩ :=
    tells_what_changed endpointsAndRoute .endpoint ["c", "a", "b", "a", "c"]
  have hnames : endpointsAndRoute.names .endpoint = .ofList ["a"] := by decide
  have hroute : ResourceKind.route ≠ .endpoint := by decide
  have htold : (endpointsAndRoute.subscribe .endpoint ["c", "a", "b", "a", "c"]).1.toList =
      ["b", "c"] := by
    refine Text.eq_of_mem_iff id haddedIncreasing (by decide) fun x ↦ ?_
    rw [hadded, hnames, NameSet.mem_ofList]
    grind
  have htoldGone : (endpointsAndRoute.unsubscribe .endpoint ["c", "a", "b", "a", "c"]).1.toList =
      ["a"] := by
    refine Text.eq_of_mem_iff id hgoneIncreasing (by decide) fun x ↦ ?_
    rw [hgone, hnames, NameSet.mem_ofList]
    grind
  rw [htold, hnames] at hadd
  rw [htoldGone, hnames] at hgive
  exact ⟨htold, htoldGone, hroute, haddedOthers .route hroute, hgoneOthers .route hroute, hadd,
    hgive⟩

end ProxyFleet.WatchTable

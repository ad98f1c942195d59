import ProxyFleet.Proofs.Watch.Wanted

/-!
# The test for a change of a subscription

`WatchTable.differs` counts names and looks them up. That decides whether two sets are different
because neither side repeats a name, so that of two sets as large as each other none lies properly
within the other (`WatchTable.differs_eq`). Whoever lists the wanted names, in whatever order and
however often, changes nothing.

An update moves the point of comparison of its own kind and of no other.
-/

namespace ProxyFleet.WatchTable

variable (t : WatchTable) (k : ResourceKind)

/-- What is wanted of a kind stands in its entry; without one nothing is wanted. -/
theorem mem_names_iff {x : String} :
    x ∈ t.names k ↔ ∃ w, t.find? k = some w ∧ x ∈ w.names := by
  rw [names]
  rcases t.find? k with _ | w
  · simp [NameSet.not_mem_empty]
  · simp

theorem differs_eq_false_iff (names : List String) :
    t.differs k names = false ↔ ∀ x, x ∈ names ↔ x ∈ t.names k := by
  rw [differs_eq, decide_eq_false_iff_not, not_ne_iff, NameSet.ext_mem_iff]
  simp only [NameSet.mem_ofList]

/-- **The test for a change is that for another set.** It fails exactly on the lists of the names
that the entry of the kind has, and on the empty list if there is no entry. After an update it fails
exactly on the lists of the names of the update; it is as before for all other kinds, and of no kind
is the nonce or the version another one. -/
theorem differs_iff_other_set :
    (∀ names, t.differs k names = false ↔
      ∀ x, x ∈ names ↔ ∃ w, t.find? k = some w ∧ x ∈ w.names) ∧
    ∀ names,
      (∀ others, (t.update k names).differs k others = false ↔ ∀ x, x ∈ others ↔ x ∈ names) ∧
      (∀ j ≠ k, ∀ others, (t.update k names).differs j others = t.differs j others) ∧
      ∀ j, (t.update k names).mark j = t.mark j := by
  refine ⟨?_, ?_⟩
  · intro names
    rw [differs_eq_false_iff]
    simp only [mem_names_iff]
  · intro names
    refine ⟨?_, ?_, ?_⟩
    · intro others
      rw [differs_eq_false_iff, names_update, if_pos rfl]
      simp only [NameSet.mem_ofList]
    · intro j hj others
      rw [differs_eq, differs_eq, names_update, if_neg hj]
    · intro j
      exact t.mark_update j k names

/-- A table with acknowledged endpoints and one route. -/
def endpointsAndRoute : WatchTable :=
  ((empty.update .endpoint ["a"]).recordAck .endpoint "n1" "v1").update .route ["r"]

/-- Names out of order and repeated are no change; as many names of which one is another are. -/
theorem differs_iff_other_set_endpointsAndRoute :
    (endpointsAndRoute.update .endpoint ["b", "a"]).differs .endpoint ["a", "b", "a"] = false ∧
    (endpointsAndRoute.update .endpoint ["b", "a"]).differs .endpoint ["a", "c"] = true ∧
    ResourceKind.route ≠ .endpoint ∧
    (endpointsAndRoute.update .endpoint ["b", "a"]).differs .route ["r", "r"] =
      endpointsAndRoute.differs .route ["r", "r"] ∧
    endpointsAndRoute.differs .route ["r", "r"] = false ∧
    (endpointsAndRoute.update .endpoint ["b", "a"]).mark .endpoint = ("n1", "v1") := by
  obtain ⟨-, hupdate⟩ := differs_iff_other_set endpointsAndRoute .endpoint
  obtain ⟨hsame, hother, hmark⟩ := hupdate ["b", "a"]
  have hroute : ResourceKind.route ≠ .endpoint := by decide
  refine ⟨?_, ?_, hroute, hother .route hroute ["r", "r"], by decide, hmark .endpoint⟩
  · exact (hsame ["a", "b", "a"]).mpr (by simp [or_comm])
  · refine (Bool.not_eq_false _).mp fun hfalse ↦ ?_
    have hc := ((hsame ["a", "c"]).mp hfalse "c").mp (by simp)
    exact absurd hc (by decide)

end ProxyFleet.WatchTable

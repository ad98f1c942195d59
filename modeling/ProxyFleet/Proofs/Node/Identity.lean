import ProxyFleet.Proofs.Fleet.Proxies

/-!
# Which proxies share a node

A node is a text of the form `role~ip~workload.namespace~namespace.svc.cluster.local`, and nothing
in a workload or a namespace is escaped. The role and the address stand in front of separators that
they cannot hold, so a node tells them. Workload and namespace it tells only up to one ambiguity: if
the longer of two namespaces ends in `~` and the shorter one, then what the one proxy has between
the two copies of its namespace may be part of the workload of the other (`Identity.Hides`).

That takes a namespace with both `~` and `.` in it, and no name of a namespace in a cluster has
either.
-/

namespace ProxyFleet.Identity

variable {i j : Identity}

/-- What stands in front of the second copy of the namespace. -/
def inner (i : Identity) : String := i.workload ++ "." ++ i.namespaceName

/-- The namespace of the first proxy is the end of that of the second one, and what the second one
has in front of that end, in both copies of its namespace, is in the workload of the first. -/
def Hides (i j : Identity) : Prop :=
  ∃ front, j.namespaceName = front ++ "~" ++ i.namespaceName ∧
    i.inner = j.inner ++ "~" ++ front

theorem toList_place (i : Identity) : i.place.toList =
    (i.inner.toList ++ '~' :: i.namespaceName.toList) ++ ".svc.cluster.local".toList := by
  simp [place, inner]

theorem Hides.place_eq (h : i.Hides j) : i.place = j.place := by
  obtain ⟨front, hname, hinner⟩ := h
  apply String.toList_inj.mp
  rw [toList_place, toList_place, hinner, hname]
  simp

theorem eq_or_hides {middle : List Char} (hinner : i.inner.toList = j.inner.toList ++ middle)
    (hname : '~' :: j.namespaceName.toList = middle ++ '~' :: i.namespaceName.toList) :
    (i.workload = j.workload ∧ i.namespaceName = j.namespaceName) ∨ i.Hides j := by
  rcases middle with _ | ⟨mark, front⟩
  · left
    have hnames : i.namespaceName.toList = j.namespaceName.toList := (List.cons.inj hname).2.symm
    have hworkloads : i.workload.toList = j.workload.toList := by
      simpa [inner, hnames] using hinner
    exact ⟨String.toList_inj.mp hworkloads, String.toList_inj.mp hnames⟩
  · right
    obtain ⟨rfl, hfront⟩ := List.cons.inj hname
    refine ⟨.ofList front, ?_, ?_⟩ <;> apply String.toList_inj.mp
    · simp [hfront]
    · simp [hinner]

/-- Two ways to take one text apart are the same, or one of them cuts further on. -/
theorem place_eq_iff : i.place = j.place ↔
    (i.workload = j.workload ∧ i.namespaceName = j.namespaceName) ∨ i.Hides j ∨ j.Hides i := by
  constructor
  · intro h
    have hchars := congrArg String.toList h
    rw [toList_place, toList_place] at hchars
    rcases List.append_eq_append_iff.mp (List.append_cancel_right hchars) with
      ⟨middle, hinner, hname⟩ | ⟨middle, hinner, hname⟩
    · rcases eq_or_hides hinner hname with ⟨hworkload, hspace⟩ | hhides
      · exact .inl ⟨hworkload.symm, hspace.symm⟩
      · exact .inr (.inr hhides)
    · exact (eq_or_hides hinner hname).imp_right .inl
  · rintro (⟨hworkload, hname⟩ | hhides | hhides)
    · rw [place, place, hworkload, hname]
    · exact hhides.place_eq
    · exact hhides.place_eq.symm

/-- Of the two separators, the namespace lacks one or the other. -/
def PlainNamespace (i : Identity) : Prop :=
  '~' ∉ i.namespaceName.toList ∨ '.' ∉ i.namespaceName.toList

instance (i : Identity) : Decidable i.PlainNamespace := inferInstanceAs (Decidable (_ ∨ _))

/-- A plain namespace hides none: without a point in it, the last points of the two texts would
stand in front of ends of different lengths. -/
theorem Hides.not_plainNamespace (h : i.Hides j) : ¬ j.PlainNamespace := by
  obtain ⟨front, hname, hinner⟩ := h
  have hchars : j.namespaceName.toList = front.toList ++ '~' :: i.namespaceName.toList := by
    simp [hname]
  rintro (hmark | hpoint)
  · exact hmark (by simp [hchars])
  have hends : i.workload.toList ++ '.' :: i.namespaceName.toList =
      j.workload.toList ++ '.' :: (j.namespaceName.toList ++ '~' :: front.toList) := by
    simpa [inner] using congrArg String.toList hinner
  have hbackward : i.namespaceName.toList.reverse ++ '.' :: i.workload.toList.reverse =
      (j.namespaceName.toList ++ '~' :: front.toList).reverse ++
        '.' :: j.workload.toList.reverse := by
    simpa using congrArg List.reverse hends
  have hparts : '.' ∉ front.toList ∧ '.' ∉ i.namespaceName.toList := by
    simpa [hchars] using hpoint
  have hsame := (append_cons_inj_of_not_mem_front (by simpa using hparts.2)
    (by simpa [hchars] using ⟨hparts.1, hparts.2, hparts.1⟩) hbackward).1
  have hlength := congrArg List.length hsame
  simp only [List.length_reverse, List.length_append, List.length_cons, hchars] at hlength
  omega

theorem isSome_parse?_ip (h : Settings.identityFaults i = []) :
    (IpAddress.parse? i.ip).isSome = true := by
  simp only [Settings.identityFaults, List.append_eq_nil_iff, Settings.demand_eq_nil_iff] at h
  exact h.1.1

/-- **What a node identifies.** Two proxies that pass the check share a node only if they share role
and address, and either workload and namespace too, or else one of the two namespaces hides the
other. None does as long as both are plain. -/
theorem nodeId_eq_iff (hi : Settings.identityFaults i = []) (hj : Settings.identityFaults j = []) :
    (i.nodeId = j.nodeId ↔ i.role = j.role ∧ i.ip = j.ip ∧
      ((i.workload = j.workload ∧ i.namespaceName = j.namespaceName) ∨ i.Hides j ∨ j.Hides i)) ∧
    (i.PlainNamespace → j.PlainNamespace → i.nodeId = j.nodeId →
      i.role = j.role ∧ i.ip = j.ip ∧ i.workload = j.workload ∧
        i.namespaceName = j.namespaceName) := by
  have hiff : i.nodeId = j.nodeId ↔ i.role = j.role ∧ i.ip = j.ip ∧
      ((i.workload = j.workload ∧ i.namespaceName = j.namespaceName) ∨ i.Hides j ∨ j.Hides i) := by
    rw [← place_eq_iff]
    constructor
    · exact eq_of_nodeId_eq (isSome_parse?_ip hi) (isSome_parse?_ip hj)
    · rintro ⟨hrole, hip, hplace⟩
      apply String.toList_inj.mp
      rw [toList_nodeId, toList_nodeId, hrole, hip, hplace]
  refine ⟨hiff, fun hplain hplain' hnode ↦ ?_⟩
  obtain ⟨hrole, hip, hsame | hhides | hhides⟩ := hiff.mp hnode
  · exact ⟨hrole, hip, hsame⟩
  · exact absurd hplain' hhides.not_plainNamespace
  · exact absurd hplain hhides.not_plainNamespace

/-- A proxy whose namespace ends in a shorter one behind a separator. -/
def veiling : Identity := { standard with workload := "w", namespaceName := ".n~n" }

/-- A proxy in that shorter namespace, whose workload takes up the rest. -/
def veiled : Identity := { standard with workload := "w..n~n~", namespaceName := "n" }

/-- Separators in the parts of a node stay as they are, so it does not tell all proxies apart that
pass the check. -/
theorem nodeId_veiled_eq_veiling : ¬ ∀ i j : Identity,
    Settings.identityFaults i = [] → Settings.identityFaults j = [] →
    (i.role ≠ j.role ∨ i.ip ≠ j.ip ∨ i.workload ≠ j.workload ∨
      i.namespaceName ≠ j.namespaceName) → i.nodeId ≠ j.nodeId := by
  intro h
  exact h veiled veiling (by decide +kernel) (by decide +kernel) (.inr (.inr (.inl (by decide))))
    (by decide +kernel)

/-- Where a namespace hides another one the node is shared; where the separators are in workloads
alone it is not. -/
theorem nodeId_eq_iff_veiled : veiled.nodeId = veiling.nodeId ∧
    ({ standard with workload := "a.b~" } : Identity).nodeId ≠
      ({ standard with workload := "a.b." } : Identity).nodeId := by
  constructor
  · exact (nodeId_eq_iff (i := veiled) (j := veiling) (by decide +kernel) (by decide +kernel)).1.mpr
      ⟨rfl, rfl, .inr (.inl ⟨".n", by decide, by decide⟩)⟩
  · intro h
    have hsame := (nodeId_eq_iff (by decide +kernel) (by decide +kernel)).2
      (by decide +kernel) (by decide +kernel) h
    exact absurd hsame.2.2.1 (by decide)

end ProxyFleet.Identity

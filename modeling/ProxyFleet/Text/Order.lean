/-!
# Lists in order of their keys

Each element of a list has a text as its key, and the elements are in strictly increasing order of
key, by code points. To `place` an element keeps that order; where its key is taken it replaces what
is there. A list in order is told by its elements (`eq_of_mem_iff`).
-/

namespace ProxyFleet.Text

universe u

variable {α : Type u} {key : α → String} {a x : α} {l m : List α}

/-- Puts an element at its place among elements in order of key, instead of any with its key. -/
def place (key : α → String) (a : α) : List α → List α
  | [] => [a]
  | x :: rest =>
    if key a < key x then a :: x :: rest
    else if key a = key x then a :: rest
    else x :: place key a rest

theorem ne_of_lt {s t : String} (h : s < t) : t ≠ s := by
  rintro rfl
  exact String.lt_irrefl _ h

theorem mem_place (h : l.Pairwise (key · < key ·)) :
    x ∈ place key a l ↔ x = a ∨ x ∈ l ∧ key x ≠ key a := by
  induction l with
  | nil => simp [place]
  | cons y rest ih =>
    have ⟨hy, hrest⟩ := List.pairwise_cons.1 h
    rw [place]
    split
    · next hlt =>
      have hothers : ∀ z ∈ y :: rest, key z ≠ key a := by
        intro z hz
        rcases List.mem_cons.1 hz with rfl | hz
        · exact ne_of_lt hlt
        · exact ne_of_lt (String.lt_trans hlt (hy z hz))
      rw [List.mem_cons]
      exact or_congr_right ⟨fun hx ↦ ⟨hx, hothers x hx⟩, And.left⟩
    · split
      · next heq =>
        rw [List.mem_cons, List.mem_cons, heq]
        refine or_congr_right ⟨fun hx ↦ ⟨.inr hx, ne_of_lt (hy x hx)⟩, ?_⟩
        rintro ⟨rfl | hx, hne⟩
        · exact absurd rfl hne
        · exact hx
      · next hne =>
        rw [List.mem_cons, ih hrest, List.mem_cons]
        constructor
        · rintro (rfl | rfl | ⟨hx, hother⟩)
          · exact .inr ⟨.inl rfl, Ne.symm hne⟩
          · exact .inl rfl
          · exact .inr ⟨.inr hx, hother⟩
        · rintro (rfl | ⟨rfl | hx, hother⟩)
          · exact .inr (.inl rfl)
          · exact .inl rfl
          · exact .inr (.inr ⟨hx, hother⟩)

theorem place_increasing (h : l.Pairwise (key · < key ·)) :
    (place key a l).Pairwise (key · < key ·) := by
  induction l with
  | nil => exact List.pairwise_singleton _ _
  | cons y rest ih =>
    have ⟨hy, hrest⟩ := List.pairwise_cons.1 h
    rw [place]
    split
    · next hlt =>
      refine List.pairwise_cons.2 ⟨fun x hx ↦ ?_, h⟩
      rcases List.mem_cons.1 hx with rfl | hx
      · exact hlt
      · exact String.lt_trans hlt (hy x hx)
    · next hnlt =>
      split
      · next heq =>
        exact List.pairwise_cons.2 ⟨fun x hx ↦ heq ▸ hy x hx, hrest⟩
      · next hne =>
        refine List.pairwise_cons.2 ⟨fun x hx ↦ ?_, ih hrest⟩
        rcases (mem_place hrest).1 hx with rfl | ⟨hx, -⟩
        · exact ((Std.lt_trichotomy (key x) (key y)).resolve_left hnlt).resolve_left hne
        · exact hy x hx

variable (key)

theorem nodup_of_increasing (h : l.Pairwise (key · < key ·)) : l.Nodup := by
  refine h.imp ?_
  rintro x _ hlt rfl
  exact String.lt_irrefl _ hlt

/-- Two lists in order with the same elements are the same. -/
theorem eq_of_mem_iff (hl : l.Pairwise (key · < key ·)) (hm : m.Pairwise (key · < key ·))
    (h : ∀ x, x ∈ l ↔ x ∈ m) : l = m := by
  have hperm : l.Perm m :=
    (List.perm_ext_iff_of_nodup (nodup_of_increasing key hl) (nodup_of_increasing key hm)).2 h
  exact hperm.eq_of_pairwise (fun _ _ _ _ hlt hgt ↦ absurd hgt (String.lt_asymm hlt)) hl hm

end ProxyFleet.Text

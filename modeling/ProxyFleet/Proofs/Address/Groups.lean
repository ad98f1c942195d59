import ProxyFleet.Proofs.Address.Digits

/-!
# Bytes and groups in a row

Bytes with points between them are taken as they were written, and so are groups with colons between
them. Wherever a group may begin, the reader first tries the notation of version 4, which fails for
want of a point behind the first digits (`readDotted_eq_none`). Groups stop at the end and before a
double colon, where no further group begins (`EndsGroups`).
-/

namespace ProxyFleet.IpAddress

/-! ## Bytes -/

theorem endsNumber_point (rest : List Char) : EndsNumber ('.' :: rest) :=
  endsNumber_cons (.inl rfl) rest

theorem readByte_behind_point {byte : Nat} (hbyte : byte < 256) {rest : List Char}
    (hrest : EndsNumber rest) :
    (expect '.' ('.' :: (Nat.toDigits 10 byte ++ rest))).bind readByte = some (byte, rest) := by
  have hexpect : expect '.' ('.' :: (Nat.toDigits 10 byte ++ rest)) =
      some (Nat.toDigits 10 byte ++ rest) := by
    rw [expect, if_pos rfl]
  rw [hexpect, Option.bind_some, readByte_toDigits hbyte hrest]

theorem readDotted_dotted (n : Nat) : readDotted (dotted n).toList = some (parts 256 4 n, []) := by
  obtain ⟨a, b, c, d, hparts⟩ : ∃ a b c d, parts 256 4 n = [a, b, c, d] := ⟨_, _, _, _, rfl⟩
  have hlt : ∀ p ∈ [a, b, c, d], p < 256 := fun p hp ↦
    lt_of_mem_parts (by decide) (hparts ▸ hp)
  have htext : (dotted n).toList = Nat.toDigits 10 a ++ '.' :: (Nat.toDigits 10 b ++ '.' ::
      (Nat.toDigits 10 c ++ '.' :: (Nat.toDigits 10 d ++ []))) := by
    rw [dotted, hparts]
    simp
  rw [htext, hparts, readDotted, readByte_toDigits (hlt a (by simp)) (endsNumber_point _)]
  simp only [Option.bind_eq_bind, Option.bind_some,
    readByte_behind_point (hlt b (by simp)) (endsNumber_point _),
    readByte_behind_point (hlt c (by simp)) (endsNumber_point _),
    readByte_behind_point (hlt d (by simp)) endsNumber_nil]

/-! ## Groups -/

/-- Behind a group comes a colon or nothing. -/
def EndsGroup (rest : List Char) : Prop := ∀ c ∈ rest.head?, c = ':'

theorem EndsGroup.endsNumber {rest : List Char} (h : EndsGroup rest) : EndsNumber rest :=
  fun c hc ↦ .inr (h c hc)

theorem endsGroup_colon (rest : List Char) : EndsGroup (':' :: rest) := by
  intro c hc
  exact (Option.mem_some.mp hc).symm

theorem ne_point_of_mem_toDigits {c : Char} {n : Nat} (h : c ∈ Nat.toDigits 16 n) : c ≠ '.' := by
  rw [toDigits_eq_map_parts (by decide), List.mem_map] at h
  obtain ⟨d, hd, rfl⟩ := h
  intro hpoint
  have hdigit := digit?_digitChar (Nat.le_refl 16) (lt_of_mem_parts (by decide) hd)
  rw [hpoint] at hdigit
  exact Option.some_ne_none d (hdigit.symm.trans (by decide))

theorem head?_takeDigits_ne {cs rest : List Char} (hcs : ∀ c ∈ cs, c ≠ '.')
    (hrest : EndsGroup rest) : (takeDigits 10 (cs ++ rest)).2.head? ≠ some '.' := by
  induction cs with
  | nil =>
    rw [List.nil_append, hrest.endsNumber.takeDigits (by decide)]
    intro h
    exact absurd (hrest _ h) (by decide)
  | cons c cs ih =>
    rw [List.cons_append, takeDigits]
    cases digit? 10 c with
    | none => exact fun h ↦ hcs c List.mem_cons_self (Option.some.inj h)
    | some d => exact ih fun c hc ↦ hcs c (List.mem_cons_of_mem _ hc)

theorem readDotted_eq_none {input : List Char} (h : (takeDigits 10 input).2.head? ≠ some '.') :
    readDotted input = none := by
  rw [readDotted]
  cases hbyte : readByte input with
  | none => rfl
  | some read =>
    obtain ⟨byte, rest⟩ := read
    have hexpect : expect '.' rest = none := by
      rw [← eq_of_readByte hbyte] at h
      cases rest with
      | nil => rfl
      | cons c rest => exact if_neg fun hc ↦ h (congrArg some hc)
    rw [Option.bind_eq_bind, Option.bind_some]
    dsimp only
    rw [hexpect]
    rfl

section

variable {rest : List Char}

theorem readDotted_of_endsGroup (h : EndsGroup rest) : readDotted rest = none :=
  readDotted_eq_none (head?_takeDigits_ne (List.forall_mem_nil _) h)

theorem readGroup_of_endsGroup (h : EndsGroup rest) : readGroup rest = none := by
  rw [readGroup, h.endsNumber.takeDigits (Nat.le_refl 16)]
  rfl

theorem readDotted_toDigits (g : Nat) (h : EndsGroup rest) :
    readDotted (Nat.toDigits 16 g ++ rest) = none :=
  readDotted_eq_none (head?_takeDigits_ne (fun _ ↦ ne_point_of_mem_toDigits) h)

/-- What stands in front of a group. -/
def groupMark (first : Bool) : List Char := if first then [] else [':']

theorem readGroups_toDigits (left : Nat) (first : Bool) {g : Nat} (hg : g < 65536)
    (hrest : EndsGroup rest) :
    readGroups (left + 1) first (groupMark first ++ (Nat.toDigits 16 g ++ rest)) =
      (g :: (readGroups left false rest).1, (readGroups left false rest).2) := by
  have hnext : (if first then some (groupMark first ++ (Nat.toDigits 16 g ++ rest))
      else expect ':' (groupMark first ++ (Nat.toDigits 16 g ++ rest))) =
        some (Nat.toDigits 16 g ++ rest) := by
    cases first <;> rfl
  have hdotted : (if 0 < left then readDotted (Nat.toDigits 16 g ++ rest) else none) = none := by
    rw [readDotted_toDigits g hrest, ite_self]
  rw [readGroups, hnext]
  dsimp only
  rw [hdotted]
  dsimp only
  rw [readGroup_toDigits hg hrest.endsNumber]

/-- No further group begins. -/
def EndsGroups (rest : List Char) : Prop := rest = [] ∨ ∃ behind, rest = ':' :: ':' :: behind

theorem EndsGroups.endsGroup (h : EndsGroups rest) : EndsGroup rest := by
  rcases h with rfl | ⟨behind, rfl⟩
  · exact fun c hc ↦ absurd hc (by simp)
  · exact endsGroup_colon _

theorem EndsGroups.readGroups (h : EndsGroups rest) (left : Nat) (first : Bool) :
    readGroups left first rest = ([], false, rest) := by
  cases left with
  | zero => rfl
  | succ left =>
    have hnext : (if first then some rest else expect ':' rest) = none ∨
        ∃ next, (if first then some rest else expect ':' rest) = some next ∧ EndsGroup next := by
      cases first with
      | true => exact .inr ⟨rest, rfl, h.endsGroup⟩
      | false =>
        rcases h with rfl | ⟨behind, rfl⟩
        · exact .inl rfl
        · exact .inr ⟨':' :: behind, rfl, endsGroup_colon _⟩
    rw [IpAddress.readGroups]
    rcases hnext with hnext | ⟨next, hnext, hends⟩
    · rw [hnext]
    · rw [hnext]
      dsimp only
      rw [readDotted_of_endsGroup hends, ite_self]
      dsimp only
      rw [readGroup_of_endsGroup hends]

/-- Groups with a colon in front of each. -/
def behindColons (groups : List Nat) : List Char := groups.flatMap fun g ↦ ':' :: Nat.toDigits 16 g

theorem toList_colonized_cons (g : Nat) (gs : List Nat) :
    (colonized (g :: gs)).toList = Nat.toDigits 16 g ++ behindColons gs := by
  rw [colonized, String.toList_intercalate, List.map_map]
  induction gs generalizing g with
  | nil => simp [behindColons]
  | cons h gs ih =>
    rw [List.map_cons, List.map_cons, List.intercalate_cons_cons, ← List.map_cons, ih]
    simp [behindColons]

theorem endsGroup_behindColons (gs : List Nat) (hrest : EndsGroups rest) :
    EndsGroup (behindColons gs ++ rest) := by
  cases gs with
  | nil => exact hrest.endsGroup
  | cons g gs => exact endsGroup_colon _

theorem readGroups_behindColons {left : Nat} {gs : List Nat} (hgs : ∀ g ∈ gs, g < 65536)
    (hleft : gs.length ≤ left) (hrest : EndsGroups rest) :
    readGroups left false (behindColons gs ++ rest) = (gs, false, rest) := by
  induction gs generalizing left with
  | nil => exact hrest.readGroups left false
  | cons g gs ih =>
    obtain ⟨left, rfl⟩ : ∃ less, left = less + 1 :=
      ⟨left - 1, (Nat.sub_add_cancel (Nat.lt_of_lt_of_le (Nat.succ_pos _) hleft)).symm⟩
    have hread := readGroups_toDigits left false (hgs g List.mem_cons_self)
      (endsGroup_behindColons gs hrest)
    rw [ih (fun h hh ↦ hgs h (List.mem_cons_of_mem _ hh)) (Nat.le_of_succ_le_succ hleft)] at hread
    rw [← hread, behindColons, List.flatMap_cons, List.append_assoc]
    rfl

theorem readGroups_colonized {left : Nat} {gs : List Nat} (hleft : gs.length ≤ left)
    (hgs : ∀ g ∈ gs, g < 65536) (hrest : EndsGroups rest) :
    readGroups left true ((colonized gs).toList ++ rest) = (gs, false, rest) := by
  cases gs with
  | nil => exact hrest.readGroups left true
  | cons g gs =>
    obtain ⟨left, rfl⟩ : ∃ less, left = less + 1 :=
      ⟨left - 1, (Nat.sub_add_cancel (Nat.lt_of_lt_of_le (Nat.succ_pos _) hleft)).symm⟩
    have hread := readGroups_toDigits left true (hgs g List.mem_cons_self)
      (endsGroup_behindColons gs hrest)
    rw [readGroups_behindColons (fun h hh ↦ hgs h (List.mem_cons_of_mem _ hh))
      (Nat.le_of_succ_le_succ hleft) hrest] at hread
    rw [← hread, toList_colonized_cons, List.append_assoc]
    rfl

end

end ProxyFleet.IpAddress

import ProxyFleet.Proofs.Address.Groups

/-!
# The text of an address

The reader takes what the printer writes (`parse?_text`), so no two addresses have the same text.
In version 6 the zeros that the printer leaves out are as many as the reader misses, since they are
all between what stands in front of the double colon and what stands behind it.

A text that is read as an address, in whatever notation, consists of digits, points and colons
(`isAddressChar_of_parse?`): whatever a reader takes from the front is made of them.
-/

namespace ProxyFleet.IpAddress

/-! ## Groups that are left out -/

theorem leadingZeros_split (gs : List Nat) :
    gs = List.replicate (leadingZeros gs) 0 ++ gs.drop (leadingZeros gs) := by
  induction gs with
  | nil => rfl
  | cons g gs ih =>
    cases g with
    | zero =>
      rw [leadingZeros, List.replicate_succ, List.cons_append, List.drop_succ_cons, ← ih]
    | succ g => rfl

theorem longestZeros_split (gs : List Nat) :
    gs = gs.take (longestZeros gs).1 ++ (List.replicate (longestZeros gs).2 0 ++
      gs.drop ((longestZeros gs).1 + (longestZeros gs).2)) := by
  induction gs with
  | nil => rfl
  | cons g gs ih =>
    rw [longestZeros]
    dsimp only
    split
    case isTrue =>
      rw [List.take_zero, List.nil_append, Nat.zero_add]
      exact leadingZeros_split (g :: gs)
    case isFalse =>
      rw [List.take_succ_cons, List.cons_append, Nat.add_right_comm, List.drop_succ_cons, ← ih]

/-! ## Reading what was written -/

theorem endsGroups_nil : EndsGroups [] := .inl rfl

theorem endsGroups_colons (rest : List Char) : EndsGroups (':' :: ':' :: rest) := .inr ⟨rest, rfl⟩

theorem readColonized_whole {gs : List Nat} (hgs : ∀ g ∈ gs, g < 65536) (hlength : gs.length = 8) :
    readColonized (colonized gs).toList = some (gs, []) := by
  have hread := readGroups_colonized (Nat.le_of_eq hlength) hgs endsGroups_nil
  rw [List.append_nil] at hread
  rw [readColonized, hread]
  exact if_pos hlength

/-- With a double colon, as many zeros come between as are missing. -/
theorem readColonized_split {front : List Nat} {input : List Char} {back : List Nat} {short : Bool}
    {rest : List Char} (hfront : ∀ g ∈ front, g < 65536) (hlength : front.length < 8)
    (hback : readGroups (7 - front.length) true input = (back, short, rest)) :
    readColonized ((colonized front).toList ++ ':' :: ':' :: input) =
      some (front ++ List.replicate (8 - front.length - back.length) 0 ++ back, rest) := by
  have hread := readGroups_colonized (Nat.le_of_lt hlength) hfront (endsGroups_colons input)
  rw [readColonized, hread]
  dsimp only
  rw [if_neg (Nat.ne_of_lt hlength), if_neg Bool.false_ne_true]
  have hexpect : (expect ':' (':' :: ':' :: input)).bind (expect ':') = some input := rfl
  rw [hexpect, Option.bind_eq_bind, Option.bind_some, hback]

theorem readColonized_compressed (n : Nat) : readColonized (compressed (parts 65536 8 n)).toList =
    some (parts 65536 8 n, []) := by
  have hlt : ∀ g ∈ parts 65536 8 n, g < 65536 := fun _ hg ↦ lt_of_mem_parts (by decide) hg
  have hlength : (parts 65536 8 n).length = 8 := length_parts 8 n
  generalize parts 65536 8 n = gs at hlt hlength
  have hsplit := longestZeros_split gs
  rw [compressed]
  generalize longestZeros gs = run at hsplit
  obtain ⟨start, length⟩ := run
  dsimp only at hsplit ⊢
  split
  case isTrue hmany =>
    have hcount := congrArg List.length hsplit
    rw [List.length_append, List.length_append, List.length_replicate, hlength] at hcount
    have hfew : (gs.drop (start + length)).length ≤ 7 - (gs.take start).length := by omega
    have hback := readGroups_colonized hfew (fun g hg ↦ hlt g (List.mem_of_mem_drop hg))
      endsGroups_nil
    rw [List.append_nil] at hback
    have hread := readColonized_split (fun g hg ↦ hlt g (List.mem_of_mem_take hg)) (by omega) hback
    have hmissing : 8 - (gs.take start).length - (gs.drop (start + length)).length = length := by
      omega
    rw [hmissing, List.append_assoc, ← hsplit] at hread
    rw [← hread]
    simp
  case isFalse => exact readColonized_whole hlt hlength

theorem readColonized_mapped (n : Nat) :
    ∃ groups, readColonized ("::ffff:" ++ dotted n).toList = some (groups, []) ∧
      ofParts 65536 groups = 0xffff * UInt32.size + n % UInt32.size := by
  obtain ⟨a, b, c, d, hparts⟩ : ∃ a b c d, parts 256 4 n = [a, b, c, d] := ⟨_, _, _, _, rfl⟩
  have hvalue : ofParts 256 [a, b, c, d] = n % UInt32.size := hparts ▸ ofParts_parts 4 n
  have hlast : readGroups 6 false (':' :: (dotted n).toList) =
      ([a * 256 + b, c * 256 + d], true, []) := by
    have hexpect : expect ':' (':' :: (dotted n).toList) = some (dotted n).toList := by
      rw [expect, if_pos rfl]
    rw [readGroups, if_neg Bool.false_ne_true, hexpect]
    dsimp only
    rw [if_pos (by decide), readDotted_dotted, hparts]
  have hback := readGroups_toDigits 6 true (show 0xffff < 65536 by decide)
    (endsGroup_colon (dotted n).toList)
  rw [hlast] at hback
  have hfront : ∀ g ∈ ([] : List Nat), g < 65536 := List.forall_mem_nil _
  have hread := readColonized_split hfront (by decide) hback
  refine ⟨[0, 0, 0, 0, 0, 0xffff, a * 256 + b, c * 256 + d], ?_, ?_⟩
  · rw [String.toList_append]
    exact hread
  · rw [← hvalue]
    simp only [ofParts, List.foldl_cons, List.foldl_nil, UInt32.size]
    omega

/-! ## The text of an address -/

theorem readDotted_compressed (gs : List Nat) : readDotted (compressed gs).toList = none := by
  have hcolonized {front : List Nat} {rest : List Char} (hrest : EndsGroups rest) :
      readDotted ((colonized front).toList ++ rest) = none := by
    cases front with
    | nil => exact readDotted_of_endsGroup hrest.endsGroup
    | cons g gs =>
      rw [toList_colonized_cons, List.append_assoc]
      exact readDotted_toDigits g (endsGroup_behindColons gs hrest)
  rw [compressed]
  dsimp only
  split
  case isTrue =>
    rw [String.toList_append, String.toList_append, List.append_assoc]
    exact hcolonized (endsGroups_colons _)
  case isFalse =>
    have hwhole : readDotted ((colonized gs).toList ++ []) = none := hcolonized endsGroups_nil
    rwa [List.append_nil] at hwhole

/-- As many parts as a number of some bits has make up the number. -/
theorem ofNat_ofParts_parts {base count width : Nat} (hwidth : base ^ count = 2 ^ width)
    (value : BitVec width) :
    BitVec.ofNat width (ofParts base (parts base count value.toNat)) = value := by
  rw [ofParts_parts, hwidth, Nat.mod_eq_of_lt value.isLt, BitVec.ofNat_toNat, BitVec.setWidth_eq]

/-- The reader takes what the printer writes. -/
theorem parse?_text (a : IpAddress) : parse? a.text = some a := by
  cases a with
  | v4 value =>
    rw [parse?, text, readDotted_dotted]
    exact congrArg (some ∘ v4) (ofNat_ofParts_parts (by decide) value)
  | v6 value =>
    by_cases hmapped : value.toNat / UInt32.size = 0xffff
    · obtain ⟨groups, hread, hgroups⟩ := readColonized_mapped (value.toNat % UInt32.size)
      have hdotted (behind : String) : readDotted ("::ffff:" ++ behind).toList = none := by
        rw [String.toList_append]
        exact readDotted_of_endsGroup (endsGroup_colon _)
      have hvalue : ofGroups groups = v6 value := by
        rw [ofGroups, hgroups, Nat.mod_mod, ← hmapped, Nat.div_add_mod', BitVec.ofNat_toNat,
          BitVec.setWidth_eq]
      rw [parse?, text, if_pos hmapped, hdotted, hread]
      exact congrArg some hvalue
    · rw [parse?, text, if_neg hmapped, readDotted_compressed, readColonized_compressed]
      exact congrArg (some ∘ v6) (ofNat_ofParts_parts (by decide) value)

example : (v6 0xfd000000000000000000000000000001).text = "fd00::1" := by decide +kernel

/-- No two addresses have the same text. -/
theorem text_injective {a b : IpAddress} (h : a.text = b.text) : a = b :=
  Option.some.inj ((parse?_text a).symm.trans (h ▸ parse?_text b))

/-! ## The characters of an address -/

/-- Whether a character may stand in the text of an address. -/
def isAddressChar (c : Char) : Bool := (digit? 16 c).isSome || c == '.' || c == ':'

/-- The rest of an input is left when characters are taken that may stand in an address. -/
def Leaves (input rest : List Char) : Prop :=
  ∃ taken, input = taken ++ rest ∧ ∀ c ∈ taken, isAddressChar c = true

section

variable {base left : Nat} {first : Bool} {input middle rest : List Char}

theorem Leaves.refl (input : List Char) : Leaves input input :=
  ⟨[], rfl, List.forall_mem_nil _⟩

theorem Leaves.cons {c : Char} (hc : isAddressChar c = true) (h : Leaves input rest) :
    Leaves (c :: input) rest := by
  obtain ⟨taken, rfl, htaken⟩ := h
  exact ⟨c :: taken, rfl, List.forall_mem_cons.mpr ⟨hc, htaken⟩⟩

theorem Leaves.trans (h : Leaves input middle) (h' : Leaves middle rest) : Leaves input rest := by
  obtain ⟨taken, rfl, htaken⟩ := h
  obtain ⟨taken', rfl, htaken'⟩ := h'
  exact ⟨taken ++ taken', (List.append_assoc ..).symm, List.forall_mem_append.mpr ⟨htaken, htaken'⟩⟩

theorem isAddressChar_of_digit? (hbase : base ≤ 16) {c : Char} {d : Nat}
    (h : digit? base c = some d) : isAddressChar c = true := by
  have hdigit : digit? 16 c = some d := by
    simp only [digit?, Option.ite_none_right_eq_some] at h ⊢
    exact ⟨Nat.lt_of_lt_of_le h.1 hbase, h.2⟩
  rw [isAddressChar, hdigit, Option.isSome_some, Bool.true_or, Bool.true_or]

theorem leaves_takeDigits (hbase : base ≤ 16) (input : List Char) :
    Leaves input (takeDigits base input).2 := by
  induction input with
  | nil => exact .refl []
  | cons c input ih =>
    rw [takeDigits]
    cases hdigit : digit? base c with
    | none => exact .refl _
    | some d => exact ih.cons (isAddressChar_of_digit? hbase hdigit)

theorem leaves_expect {c : Char} (hc : isAddressChar c = true) (h : expect c input = some rest) :
    Leaves input rest := by
  cases input with
  | nil => exact absurd h (by simp [expect])
  | cons d input =>
    rw [expect] at h
    split at h
    case isTrue hd => exact Option.some.inj h ▸ Leaves.cons (hd ▸ hc) (.refl input)
    case isFalse => exact absurd h (by simp)

theorem leaves_readByte {byte : Nat} (h : readByte input = some (byte, rest)) : Leaves input rest :=
  eq_of_readByte h ▸ leaves_takeDigits (by decide) input

theorem leaves_readGroup {group : Nat} (h : readGroup input = some (group, rest)) :
    Leaves input rest :=
  eq_of_readGroup h ▸ leaves_takeDigits (Nat.le_refl 16) input

theorem leaves_readByte_behind_point {byte : Nat}
    (h : (expect '.' input).bind readByte = some (byte, rest)) : Leaves input rest := by
  obtain ⟨behind, hexpect, hbyte⟩ := Option.bind_eq_some_iff.mp h
  exact (leaves_expect (by decide) hexpect).trans (leaves_readByte hbyte)

theorem leaves_readDotted {bytes : List Nat} (h : readDotted input = some (bytes, rest)) :
    Leaves input rest := by
  obtain ⟨⟨a, behindA⟩, ha, h⟩ := Option.bind_eq_some_iff.mp h
  obtain ⟨⟨b, behindB⟩, hb, h⟩ := Option.bind_eq_some_iff.mp h
  obtain ⟨⟨c, behindC⟩, hc, h⟩ := Option.bind_eq_some_iff.mp h
  obtain ⟨⟨d, behindD⟩, hd, h⟩ := Option.bind_eq_some_iff.mp h
  have hrest : behindD = rest := congrArg Prod.snd (Option.some.inj h)
  exact hrest ▸ (((leaves_readByte ha).trans (leaves_readByte_behind_point hb)).trans
    (leaves_readByte_behind_point hc)).trans (leaves_readByte_behind_point hd)

theorem leaves_readGroups (left : Nat) (first : Bool) (input : List Char) :
    Leaves input (readGroups left first input).2.2 := by
  induction left generalizing first input with
  | zero => exact .refl input
  | succ left ih =>
    rw [readGroups]
    cases hnext : (if first then some input else expect ':' input) with
    | none => exact .refl input
    | some next =>
      have hinput : Leaves input next := by
        cases first with
        | true => exact Option.some.inj hnext ▸ .refl input
        | false => exact leaves_expect (by decide) hnext
      dsimp only
      split
      case h_1 hdotted =>
        exact hinput.trans (leaves_readDotted (Option.ite_none_right_eq_some.mp hdotted).2)
      case h_2 =>
        cases hgroup : readGroup next with
        | none => exact .refl input
        | some read => exact (hinput.trans (leaves_readGroup hgroup)).trans (ih false read.2)

theorem leaves_readColonized {groups : List Nat} (h : readColonized input = some (groups, rest)) :
    Leaves input rest := by
  have hfront := leaves_readGroups 8 true input
  rw [readColonized] at h
  generalize readGroups 8 true input = read at hfront h
  obtain ⟨front, short, behind⟩ := read
  dsimp only at hfront h
  split at h
  case isTrue =>
    have hrest : behind = rest := congrArg Prod.snd (Option.some.inj h)
    exact hrest ▸ hfront
  case isFalse =>
    split at h
    case isTrue => exact absurd h (by simp)
    case isFalse =>
      obtain ⟨back, hcolons, h⟩ := Option.bind_eq_some_iff.mp h
      obtain ⟨middle, hcolon, hcolon'⟩ := Option.bind_eq_some_iff.mp hcolons
      have hrest : (readGroups (7 - front.length) true back).2.2 = rest :=
        congrArg Prod.snd (Option.some.inj h)
      exact hrest ▸ ((hfront.trans (leaves_expect (by decide) hcolon)).trans
        (leaves_expect (by decide) hcolon')).trans (leaves_readGroups _ true back)

end

/-- In the text of an address, in whatever notation, stand only digits, points and colons. -/
theorem isAddressChar_of_parse? {s : String} {a : IpAddress} (h : parse? s = some a) :
    ∀ c ∈ s.toList, isAddressChar c = true := by
  have hall : Leaves s.toList [] := by
    rw [parse?] at h
    cases hdotted : readDotted s.toList with
    | some read =>
      rw [hdotted] at h
      obtain ⟨bytes, rest⟩ := read
      cases rest with
      | nil => exact leaves_readDotted hdotted
      | cons => exact absurd h (by simp)
    | none =>
      rw [hdotted] at h
      cases hcolonized : readColonized s.toList with
      | some read =>
        rw [hcolonized] at h
        obtain ⟨groups, rest⟩ := read
        cases rest with
        | nil => exact leaves_readColonized hcolonized
        | cons => exact absurd h (by simp)
      | none =>
        rw [hcolonized] at h
        exact absurd h (by simp)
  obtain ⟨taken, htext, htaken⟩ := hall
  rwa [htext, List.append_nil]

end ProxyFleet.IpAddress

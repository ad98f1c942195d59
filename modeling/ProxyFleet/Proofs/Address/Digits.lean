import Mathlib.Tactic.IntervalCases
import ProxyFleet.Address.Ip

/-!
# The numbers in an address

An address is made of numbers of a few digits. The printer writes the digits of a number, and the
reader takes all digits that it finds and puts them together again; so it finds the number if no
further digit follows. Bytes and groups have at most as many digits as the reader allows, and
there is no zero in front of other digits.
-/

namespace ProxyFleet.IpAddress

section

variable {base : Nat}

/-! ## Numbers and their parts -/

@[simp] theorem length_parts (count n : Nat) : (parts base count n).length = count := by
  induction count generalizing n with
  | zero => rfl
  | succ count ih => rw [parts, List.length_append, ih, List.length_singleton]

theorem lt_of_mem_parts (hbase : 0 < base) {count n p : Nat} (h : p ∈ parts base count n) :
    p < base := by
  induction count generalizing n with
  | zero => exact absurd h List.not_mem_nil
  | succ count ih =>
    rw [parts, List.mem_append, List.mem_singleton] at h
    rcases h with h | rfl
    · exact ih h
    · exact Nat.mod_lt _ hbase

theorem ofParts_append_singleton (ps : List Nat) (p : Nat) :
    ofParts base (ps ++ [p]) = ofParts base ps * base + p := by
  rw [ofParts, List.foldl_append, ← ofParts, List.foldl_cons, List.foldl_nil]

/-- The parts of a number are those of as much of it as they can hold. -/
theorem ofParts_parts (count n : Nat) : ofParts base (parts base count n) = n % base ^ count := by
  induction count generalizing n with
  | zero => rw [Nat.pow_zero, Nat.mod_one]; rfl
  | succ count ih =>
    rw [parts, ofParts_append_singleton, ih, Nat.pow_succ', Nat.mod_mul, Nat.mul_comm, Nat.add_comm]

theorem head?_parts (count n : Nat) :
    (parts base (count + 1) n).head? = some (n / base ^ count % base) := by
  induction count generalizing n with
  | zero => rw [Nat.pow_zero, Nat.div_one]; rfl
  | succ count ih =>
    rw [parts, List.head?_append, ih, Option.some_or, Nat.div_div_eq_div_mul, Nat.pow_succ']

/-! ## Digits -/

/-- The digits of a number are its parts, as many as there are. -/
theorem toDigits_eq_map_parts (hbase : 1 < base) (n : Nat) :
    Nat.toDigits base n = (parts base (Nat.toDigits base n).length n).map Nat.digitChar := by
  induction n using Nat.strong_induction_on with
  | _ n ih =>
    rw [Nat.toDigits_eq_if hbase]
    split
    case isTrue h =>
      rw [List.length_singleton, parts, parts, List.nil_append, Nat.mod_eq_of_lt h]
      rfl
    case isFalse h =>
      have hlt : n / base < n := Nat.div_lt_self (by omega) hbase
      rw [List.length_append, List.length_singleton, parts, List.map_append, ← ih _ hlt]
      rfl

theorem lt_pow_length_toDigits (hbase : 1 < base) (n : Nat) :
    n < base ^ (Nat.toDigits base n).length :=
  (Nat.length_toDigits_le_iff hbase Nat.length_toDigits_pos).mp (Nat.le_refl _)

/-- Only a number of one digit begins with zero. -/
theorem head?_parts_toDigits (hbase : 1 < base) (n : Nat)
    (hlength : 1 < (Nat.toDigits base n).length) :
    (parts base (Nat.toDigits base n).length n).head? ≠ some 0 := by
  obtain ⟨count, hcount⟩ : ∃ count, (Nat.toDigits base n).length = count + 1 :=
    ⟨_, (Nat.sub_add_cancel (Nat.le_of_lt hlength)).symm⟩
  have hlt := lt_pow_length_toDigits hbase n
  rw [hcount] at hlength hlt ⊢
  rw [head?_parts]
  have hle : base ^ count ≤ n := by
    rw [← Nat.not_lt, ← Nat.length_toDigits_le_iff hbase (by omega), hcount]
    omega
  have hquotient : n / base ^ count < base :=
    Nat.div_lt_of_lt_mul (by rwa [← Nat.pow_succ])
  rw [Nat.mod_eq_of_lt hquotient, ne_eq, Option.some_inj]
  exact Nat.ne_of_gt (Nat.div_pos hle (Nat.pow_pos (by omega)))

theorem digit?_digitChar (hbase : base ≤ 16) {d : Nat} (hd : d < base) :
    digit? base (Nat.digitChar d) = some d := by
  have hd' : d < 16 := Nat.lt_of_lt_of_le hd hbase
  interval_cases d <;> simp [digit?, Nat.digitChar, hd]

/-- Behind a number no further digit follows. -/
def EndsNumber (rest : List Char) : Prop := ∀ c ∈ rest.head?, c = '.' ∨ c = ':'

theorem endsNumber_nil : EndsNumber [] := fun _ h ↦ absurd h (by simp)

theorem endsNumber_cons {c : Char} (h : c = '.' ∨ c = ':') (rest : List Char) :
    EndsNumber (c :: rest) := by
  intro d hd
  rwa [← Option.mem_some.mp hd]

theorem EndsNumber.takeDigits {rest : List Char} (h : EndsNumber rest) (hbase : base ≤ 16) :
    takeDigits base rest = ([], rest) := by
  cases rest with
  | nil => rfl
  | cons c rest =>
    have hnone : digit? base c = none := by
      rcases h c rfl with rfl | rfl <;> simp [digit?, hbase]
    rw [IpAddress.takeDigits, hnone]

theorem takeDigits_append (hbase : base ≤ 16) {ds : List Nat} (hds : ∀ d ∈ ds, d < base)
    {rest : List Char} (hrest : EndsNumber rest) :
    takeDigits base (ds.map Nat.digitChar ++ rest) = (ds, rest) := by
  induction ds with
  | nil => exact hrest.takeDigits hbase
  | cons d ds ih =>
    rw [List.map_cons, List.cons_append, takeDigits,
      digit?_digitChar hbase (hds d List.mem_cons_self),
      ih fun d hd ↦ hds d (List.mem_cons_of_mem _ hd)]

/-- A number is taken with all its digits, which make up the number. There are some, no more than
the number needs, and no zero in front of others. -/
theorem takeDigits_toDigits (hbase : 1 < base) (hbase' : base ≤ 16) {n count : Nat}
    (hcount : 0 < count) (hn : n < base ^ count) {rest : List Char} (hrest : EndsNumber rest) :
    ∃ digits, takeDigits base (Nat.toDigits base n ++ rest) = (digits, rest) ∧
      ofParts base digits = n ∧ digits ≠ [] ∧ digits.length ≤ count ∧
      (1 < digits.length → digits.head? ≠ some 0) := by
  refine ⟨parts base (Nat.toDigits base n).length n, ?_, ?_, ?_, ?_, ?_⟩
  · have hlt : ∀ d ∈ parts base (Nat.toDigits base n).length n, d < base := fun d hd ↦
      lt_of_mem_parts (by omega) hd
    have htake := takeDigits_append hbase' hlt hrest
    rwa [← toDigits_eq_map_parts hbase] at htake
  · rw [ofParts_parts, Nat.mod_eq_of_lt (lt_pow_length_toDigits hbase n)]
  · rw [← List.length_pos_iff, length_parts]
    exact Nat.length_toDigits_pos
  · rwa [length_parts, Nat.length_toDigits_le_iff hbase hcount]
  · rw [length_parts]
    exact head?_parts_toDigits hbase n

end

/-! ## Bytes and groups -/

section

variable {input rest : List Char}

theorem eq_of_readByte {byte : Nat} (h : readByte input = some (byte, rest)) :
    rest = (takeDigits 10 input).2 := by
  rw [readByte] at h
  exact (congrArg Prod.snd (Option.some.inj (Option.ite_none_left_eq_some.mp h).2)).symm

theorem eq_of_readGroup {group : Nat} (h : readGroup input = some (group, rest)) :
    rest = (takeDigits 16 input).2 := by
  rw [readGroup] at h
  exact (congrArg Prod.snd (Option.some.inj (Option.ite_none_left_eq_some.mp h).2)).symm

theorem readByte_toDigits {byte : Nat} (hbyte : byte < 256) (hrest : EndsNumber rest) :
    readByte (Nat.toDigits 10 byte ++ rest) = some (byte, rest) := by
  obtain ⟨digits, htake, hvalue, hne, hlength, hhead⟩ :=
    takeDigits_toDigits (by decide) (by decide) (by decide) (by omega : byte < 10 ^ 3) hrest
  have hallowed : ¬(digits = [] ∨ 3 < digits.length ∨
      (digits.head? = some 0 ∧ 1 < digits.length) ∨ 255 < byte) := by
    rintro (h | h | ⟨hzero, h⟩ | h)
    · exact hne h
    · omega
    · exact hhead h hzero
    · omega
  rw [readByte, htake]
  simp only [hvalue, if_neg hallowed]

theorem readGroup_toDigits {group : Nat} (hgroup : group < 65536) (hrest : EndsNumber rest) :
    readGroup (Nat.toDigits 16 group ++ rest) = some (group, rest) := by
  obtain ⟨digits, htake, hvalue, hne, hlength, -⟩ :=
    takeDigits_toDigits (by decide) (by decide) (by decide) (by omega : group < 16 ^ 4) hrest
  have hallowed : ¬(digits = [] ∨ 4 < digits.length) := by
    rintro (h | h)
    · exact hne h
    · omega
  rw [readGroup, htake]
  simp only [hvalue, if_neg hallowed]

end

end ProxyFleet.IpAddress

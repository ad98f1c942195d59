import Mathlib.Algebra.Group.Nat.Defs
import Mathlib.Data.List.Induction
import Mathlib.Data.List.Nodup
import ProxyFleet.Wire.Schema

/-!
# Reading back what was written

A message is written field by field, and read by merging one value after the other into the message
in which all fields are absent. `Field.Restores` says what becomes of a message when one field of
another is written and then merged into it, and there is one lemma for each kind of field. A message
type whose fields together make a message out of nothing again reads back all that it writes
(`Schema.ReadsBack.decode_encode`), and so does a field that holds such messages.

What is read back may be followed by anything, which is left as it is: that is what lets the values
of a message, and the messages inside it, be taken one by one. The only bound is that of the format
itself: a length has to fit into 64 bits.
-/

namespace ProxyFleet.Wire

/-! ## Values -/

theorem Varint.length_write_pos (n : Nat) : 0 < (Varint.write n).length := by
  rw [Varint.write, Varint.maxGroups, Varint.writeGroups]
  split
  · exact Nat.one_pos
  · exact Nat.succ_pos _

theorem readDelimited_writeDelimited {value : Bytes} (h : value.length < UInt64.size)
    (rest : Bytes) : readDelimited (writeDelimited value ++ rest) = .ok (value, rest) := by
  have hlength : ¬ (value ++ rest).length < value.length := by
    rw [List.length_append]
    omega
  rw [readDelimited, writeDelimited, List.append_assoc, Varint.read_write h]
  dsimp only
  rw [if_neg hlength, List.take_left, List.drop_left]

theorem textOfBytes?_textBytes (text : String) : textOfBytes? (textBytes text) = some text := by
  rw [textOfBytes?, textBytes, Array.toArray_toList]
  exact dif_pos text.isValidUTF8

theorem readText_writeDelimited {text : String} (h : (textBytes text).length < UInt64.size)
    (rest : Bytes) : readText (writeDelimited (textBytes text) ++ rest) = .ok (text, rest) := by
  rw [readText, readDelimited_writeDelimited h]
  dsimp only
  rw [textOfBytes?_textBytes]

theorem readWord_write (value : UInt32) (rest : Bytes) :
    readWord (Varint.write value.toNat ++ rest) = .ok (value, rest) := by
  have hbound : value.toNat < UInt64.size := Nat.lt_trans value.toNat_lt (by decide)
  rw [readWord, Varint.read_write hbound]
  exact congrArg (fun v ↦ Except.ok (v, rest)) UInt32.ofNat_toNat

/-- Only the low 32 bits of an enumeration value are kept, and the sign that fills the others up is
none of them. -/
theorem readWord_writeEnum (value : UInt32) (rest : Bytes) :
    readWord (writeEnum value ++ rest) = .ok (value, rest) := by
  have hvalue := value.toNat_lt
  rw [writeEnum]
  split
  · exact readWord_write value rest
  · have hsigned : value.toNat + (UInt64.size - UInt32.size) < UInt64.size := by
      simp only [UInt64.size, UInt32.size]
      omega
    have hlow : UInt32.ofNat (value.toNat + (UInt64.size - UInt32.size)) = value := by
      apply UInt32.toNat_inj.mp
      rw [UInt32.toNat_ofNat']
      simp only [UInt64.size, UInt32.size]
      omega
    rw [readWord, Varint.read_write hsigned]
    exact congrArg (fun v ↦ Except.ok (v, rest)) hlow

@[simp] theorem length_lowBytes (count n : Nat) : (lowBytes count n).length = count := by
  induction count generalizing n with
  | zero => rfl
  | succ count ih => rw [lowBytes, List.length_cons, ih]

/-- Bytes hold a number that is within their reach. -/
theorem ofLowBytes_lowBytes {count n : Nat} (h : n < 256 ^ count) :
    ofLowBytes (lowBytes count n) = n := by
  induction count generalizing n with
  | zero => exact (Nat.lt_one_iff.mp h).symm
  | succ count ih =>
    have hhigh : n / 256 < 256 ^ count := Nat.div_lt_of_lt_mul (Nat.pow_succ' ▸ h)
    have hlow : (UInt8.ofNat (n % 256)).toNat = n % 256 :=
      UInt8.toNat_ofNat_of_lt' (Nat.mod_lt _ (by decide))
    rw [lowBytes, ofLowBytes, ih hhigh, hlow]
    omega

theorem readDouble_writeDouble (value : Double) (rest : Bytes) :
    readDouble (writeDouble value ++ rest) = .ok (value, rest) := by
  have hlength : (writeDouble value).length = 8 := length_lowBytes 8 _
  have hbits : ofLowBytes (writeDouble value) = value.bits.toNat :=
    ofLowBytes_lowBytes value.bits.toNat_lt
  have hlong : ¬ (writeDouble value ++ rest).length < 8 := by
    rw [List.length_append]
    omega
  rw [readDouble, if_neg hlong, List.take_left' hlength, List.drop_left' hlength, hbits,
    UInt64.ofNat_toNat]

theorem Key.length_write_pos (k : Key) : 0 < k.write.length := Varint.length_write_pos _

theorem Key.read_write {k : Key} (hpositive : 1 ≤ k.number) (hsmall : k.number < UInt32.size / 8)
    (rest : Bytes) : Key.read (k.write ++ rest) = .ok (k, rest) := by
  have htype : k.wireType.toNat < 8 := by
    cases k.wireType <;> decide
  have hkey : ¬ UInt32.size ≤ k.number * 8 + k.wireType.toNat := by omega
  have hbound : k.number * 8 + k.wireType.toNat < UInt64.size :=
    Nat.lt_trans (Nat.not_le.mp hkey) (by decide)
  have hlow : (k.number * 8 + k.wireType.toNat) % 8 = k.wireType.toNat := by omega
  have hhigh : (k.number * 8 + k.wireType.toNat) / 8 = k.number := by omega
  rw [Key.read, Key.write, Varint.read_write hbound]
  dsimp only
  rw [if_neg hkey, hlow, WireType.ofNat?_toNat]
  dsimp only
  rw [hhigh, if_neg (by omega)]

/-! ## One field -/

variable {M N : Type}

namespace Field

/-- Bytes are keys of one field with their values, and to merge these leads from one message to
another, whatever follows them. -/
inductive Leads (f : Field M) (depth : Nat) : Bytes → M → M → Prop
  | done (x : M) : Leads f depth [] x x
  | step {wireType : WireType} {value more : Bytes} {x y z : M}
      (merged : ∀ rest, f.merge depth wireType x (value ++ rest) = .ok (y, rest))
      (onward : Leads f depth more y z) : Leads f depth (keyed f.number wireType value ++ more) x z

/-- To merge what the field is in one message leads from a second message to a third. -/
def Restores (f : Field M) (depth : Nat) (m x y : M) : Prop :=
  (f.write m).length < UInt64.size → f.Leads depth (f.write m) x y

section

variable {f : Field M} {number depth : Nat} {label : String} {bytes : Bytes} {m x y : M}

theorem Leads.of_merge {wireType : WireType} {value : Bytes}
    (hmerged : ∀ rest, f.merge depth wireType x (value ++ rest) = .ok (y, rest)) :
    f.Leads depth (keyed f.number wireType value) x y := by
  have hleads := Leads.step hmerged (.done y)
  rw [List.append_nil] at hleads
  exact hleads

theorem Restores.of_write_eq (hwrite : f.write m = bytes)
    (h : bytes.length < UInt64.size → f.Leads depth bytes x y) : f.Restores depth m x y := by
  rw [Restores, hwrite]
  exact h

theorem Restores.of_write_eq_nil (hwrite : f.write m = []) : f.Restores depth m x x :=
  .of_write_eq hwrite fun _ ↦ .done x

theorem length_lt_of_keyed {wireType : WireType} {value : Bytes}
    (h : (keyed number wireType (writeDelimited value)).length < UInt64.size) :
    value.length < UInt64.size := by
  simp only [keyed, writeDelimited, List.length_append] at h
  omega

section

variable {α : Type} {wireType : WireType} {read : Reader α} {put : α → M → M} {write : M → Bytes}
variable {value : Bytes} {v : α}

theorem leads_replacing (hread : ∀ rest, read (value ++ rest) = .ok (v, rest)) :
    (replacing number label wireType read put write).Leads depth (keyed number wireType value) x
      (put v x) := by
  refine .of_merge fun rest ↦ ?_
  change Except.map _ (expecting wireType wireType read (value ++ rest)) = _
  rw [expecting, if_pos rfl, hread]
  rfl

/-- A value is written unless it is the one that an absent field has. -/
theorem restores_replacing [DecidableEq α] {absent : α} (habsent : put absent x = x)
    (hwrite : write m = if v = absent then [] else keyed number wireType value)
    (hread : (keyed number wireType value).length < UInt64.size →
      ∀ rest, read (value ++ rest) = .ok (v, rest)) :
    (replacing number label wireType read put write).Restores depth m x (put v x) := by
  by_cases h : v = absent
  · rw [h, habsent]
    exact .of_write_eq_nil (hwrite.trans (if_pos h))
  · exact .of_write_eq (hwrite.trans (if_neg h)) fun hsize ↦ leads_replacing (hread hsize)

end

theorem restores_text {get : M → String} {put : String → M → M} (hempty : put "" x = x) :
    (text number label get put).Restores depth m x (put (get m) x) :=
  restores_replacing hempty rfl fun hsize ↦ readText_writeDelimited (length_lt_of_keyed hsize)

theorem restores_bytes {get : M → Bytes} {put : Bytes → M → M} (hempty : put [] x = x) :
    (Field.bytes number label get put).Restores depth m x (put (get m) x) :=
  restores_replacing hempty rfl fun hsize ↦ readDelimited_writeDelimited (length_lt_of_keyed hsize)

theorem restores_word {get : M → UInt32} {put : UInt32 → M → M} (hzero : put 0 x = x) :
    (word number label get put).Restores depth m x (put (get m) x) :=
  restores_replacing hzero rfl fun _ ↦ readWord_write (get m)

theorem restores_enum {get : M → UInt32} {put : UInt32 → M → M} (hzero : put 0 x = x) :
    (enum number label get put).Restores depth m x (put (get m) x) :=
  restores_replacing hzero rfl fun _ ↦ readWord_writeEnum (get m)

theorem restores_double {get : M → Double} {put : Double → M → M} (hzero : put .zero x = x) :
    (double number label get put).Restores depth m x (put (get m) x) :=
  restores_replacing hzero rfl fun _ ↦ readDouble_writeDouble (get m)

/-- A member of a oneof is written whenever it is chosen. -/
theorem restores_chosen {α : Type} {wireType : WireType} {read : Reader α} {write : α → Bytes}
    {get : M → Option α} {put : α → M → M}
    (hread : ∀ v, (keyed number wireType (write v)).length < UInt64.size →
      ∀ rest, read (write v ++ rest) = .ok (v, rest)) :
    (chosen number label wireType read write get put).Restores depth m x
      ((get m).elim x fun v ↦ put v x) := by
  cases h : get m with
  | none => exact .of_write_eq_nil (by simp only [chosen, replacing, h])
  | some v =>
    have hwrite : (chosen number label wireType read write get put).write m =
        keyed number wireType (write v) := by simp only [chosen, replacing, h]
    exact .of_write_eq hwrite fun hsize ↦ leads_replacing (hread v hsize)

theorem restores_chosenText {get : M → Option String} {put : String → M → M} :
    (chosenText number label get put).Restores depth m x ((get m).elim x fun v ↦ put v x) :=
  restores_chosen fun _ hsize ↦ readText_writeDelimited (length_lt_of_keyed hsize)

theorem restores_chosenBytes {get : M → Option Bytes} {put : Bytes → M → M} :
    (chosenBytes number label get put).Restores depth m x ((get m).elim x fun v ↦ put v x) :=
  restores_chosen fun _ hsize ↦ readDelimited_writeDelimited (length_lt_of_keyed hsize)

theorem restores_chosenEnum {get : M → Option UInt32} {put : UInt32 → M → M} :
    (chosenEnum number label get put).Restores depth m x ((get m).elim x fun v ↦ put v x) :=
  restores_chosen fun v _ ↦ readWord_writeEnum v

/-! ### Many values in one field -/

theorem Leads.append {more : Bytes} {z : M} (h : f.Leads depth bytes x y)
    (hmore : f.Leads depth more y z) : f.Leads depth (bytes ++ more) x z := by
  induction h with
  | done => exact hmore
  | step hmerged _ ih =>
    rw [List.append_assoc]
    exact .step hmerged (ih hmore)

/-- Values that come one after the other are gathered in their order. -/
theorem leads_flatMap {α : Type} {key : α → Bytes} (gathered : List α → M)
    (hvalue : ∀ before v, (key v).length < UInt64.size →
      f.Leads depth (key v) (gathered before) (gathered (before ++ [v])))
    {values : List α} (hsize : (values.flatMap key).length < UInt64.size) :
    f.Leads depth (values.flatMap key) (gathered []) (gathered values) := by
  induction values using List.reverseRecOn with
  | nil => exact .done _
  | append_singleton before v ih =>
    rw [List.flatMap_append, List.flatMap_singleton] at hsize ⊢
    rw [List.length_append] at hsize
    exact (ih (by omega)).append (hvalue before v (by omega))

/-- Reading a value puts it behind those that are there. -/
structure Gathers {α : Type} (get : M → List α) (put : List α → M → M) (x : M) : Prop where
  put_nil : put [] x = x
  get_put : ∀ values, get (put values x) = values
  put_put : ∀ values before, put values (put before x) = put values x

theorem restores_gathering {α : Type} {key : α → Bytes} {get : M → List α} {put : List α → M → M}
    (h : Gathers get put x) (hwrite : f.write m = (get m).flatMap key)
    (hvalue : ∀ y v, (key v).length < UInt64.size → f.Leads depth (key v) y (put (get y ++ [v]) y)) :
    f.Restores depth m x (put (get m) x) := by
  refine .of_write_eq hwrite fun hsize ↦ ?_
  have hgathered : ∀ before v, (key v).length < UInt64.size →
      f.Leads depth (key v) (put before x) (put (before ++ [v]) x) := by
    intro before v hv
    have hleads := hvalue (put before x) v hv
    rw [h.get_put, h.put_put] at hleads
    exact hleads
  have hleads := leads_flatMap (put · x) hgathered hsize
  rw [h.put_nil] at hleads
  exact hleads

theorem restores_texts {get : M → List String} {put : List String → M → M}
    (h : Gathers get put x) : (texts number label get put).Restores depth m x (put (get m) x) :=
  restores_gathering h rfl fun _ _ hv ↦
    leads_replacing (readText_writeDelimited (length_lt_of_keyed hv))

end

/-- The fields one after the other lead from one message to another. -/
inductive RestoreAll (depth : Nat) (m : M) : List (Field M) → M → M → Prop
  | nil (x : M) : RestoreAll depth m [] x x
  | cons {f : Field M} {fields : List (Field M)} {x y z : M} (first : f.Restores depth m x y)
      (onward : RestoreAll depth m fields y z) : RestoreAll depth m (f :: fields) x z

end Field

/-! ## Messages -/

namespace Schema

/-- The fields have different numbers, which fit into a key. -/
def Numbered (S : Schema M) : Prop :=
  (S.fields.map (·.number)).Nodup ∧ ∀ f ∈ S.fields, 1 ≤ f.number ∧ f.number < UInt32.size / 8

instance (S : Schema M) : Decidable S.Numbered := inferInstanceAs (Decidable (_ ∧ _))

/-- If so many levels of nesting are left, then the fields of every message make that message out of
the one in which all are absent. -/
structure ReadsBack (S : Schema M) (levels : Nat) : Prop where
  numbered : S.Numbered
  restores : ∀ (m : M) (depth : Nat), levels ≤ depth →
    Field.RestoreAll depth m S.fields S.empty m

theorem readsBack_blank (name : String) : (blank name).ReadsBack 0 where
  numbered := ⟨.nil, fun _ hf ↦ by cases hf⟩
  restores _ _ _ := .nil _

variable {S : Schema M} {f : Field M} {bytes rest : Bytes} {m x y : M} {depth stop steps : Nat}

theorem Numbered.find?_eq (h : S.Numbered) (hf : f ∈ S.fields) :
    S.fields.find? (·.number = f.number) = some f := by
  cases hfound : S.fields.find? (·.number = f.number) with
  | none =>
    have hother := List.find?_eq_none.mp hfound f hf
    simp at hother
  | some g =>
    have hnumber : g.number = f.number := by simpa using List.find?_some hfound
    rw [List.inj_on_of_nodup_map h.1 (List.mem_of_find?_eq_some hfound) hf hnumber]

/-- One value of a known field is merged, and the rest goes on from there. -/
theorem Numbered.mergeFields_keyed (h : S.Numbered) (hf : f ∈ S.fields) {wireType : WireType}
    {value : Bytes} (hmerged : ∀ rest, f.merge depth wireType x (value ++ rest) = .ok (y, rest))
    (hstop : stop ≤ rest.length) :
    S.mergeFields depth stop (steps + 1) x (Field.keyed f.number wireType value ++ rest) =
      S.mergeFields depth stop steps y rest := by
  have hlength : ¬ (Field.keyed f.number wireType value ++ rest).length ≤ stop := by
    have hkey := Key.length_write_pos ⟨f.number, wireType⟩
    simp only [Field.keyed, List.length_append]
    omega
  obtain ⟨hpositive, hsmall⟩ := h.2 f hf
  rw [mergeFields, if_neg hlength, Field.keyed, List.append_assoc,
    Key.read_write (k := ⟨f.number, wireType⟩) hpositive hsmall]
  dsimp only
  rw [h.find?_eq hf]
  dsimp only
  rw [hmerged]

theorem Numbered.mergeFields_leads (h : S.Numbered) (hf : f ∈ S.fields)
    (hleads : f.Leads depth bytes x y) (hsteps : (bytes ++ rest).length ≤ steps)
    (hstop : stop ≤ rest.length) :
    ∃ left, rest.length ≤ left ∧
      S.mergeFields depth stop steps x (bytes ++ rest) = S.mergeFields depth stop left y rest := by
  induction hleads generalizing steps with
  | done => exact ⟨steps, hsteps, rfl⟩
  | @step wireType value more x y z hmerged _ ih =>
    have hkey := Key.length_write_pos ⟨f.number, wireType⟩
    obtain ⟨steps, rfl⟩ : ∃ n, steps = n + 1 := by
      refine ⟨steps - 1, ?_⟩
      simp only [Field.keyed, List.length_append] at hsteps
      omega
    have hmore : (more ++ rest).length ≤ steps := by
      simp only [Field.keyed, List.length_append] at hsteps ⊢
      omega
    obtain ⟨left, hleft, hrest⟩ := ih hmore
    refine ⟨left, hleft, ?_⟩
    rw [List.append_assoc, h.mergeFields_keyed hf hmerged]
    · exact hrest
    · rw [List.length_append]
      omega

theorem Numbered.mergeFields_restoreAll (h : S.Numbered) {fields : List (Field M)}
    (hfields : fields ⊆ S.fields) (hall : Field.RestoreAll depth m fields x y)
    (hsize : (fields.flatMap (·.write m)).length < UInt64.size)
    (hsteps : (fields.flatMap (·.write m) ++ rest).length ≤ steps) (hstop : stop ≤ rest.length) :
    ∃ left, rest.length ≤ left ∧
      S.mergeFields depth stop steps x (fields.flatMap (·.write m) ++ rest) =
        S.mergeFields depth stop left y rest := by
  induction hall generalizing steps with
  | nil => exact ⟨steps, hsteps, rfl⟩
  | @cons f fields x y z hfirst _ ih =>
    obtain ⟨hf, hfields⟩ := List.cons_subset.mp hfields
    rw [List.flatMap_cons, List.length_append] at hsize
    rw [List.flatMap_cons, List.append_assoc] at hsteps ⊢
    have hstop' : stop ≤ (fields.flatMap (·.write m) ++ rest).length := by
      rw [List.length_append]
      omega
    obtain ⟨between, hbetween, hone⟩ :=
      h.mergeFields_leads hf (hfirst (by omega)) hsteps hstop'
    obtain ⟨left, hleft, hothers⟩ := ih hfields (by omega) hbetween
    exact ⟨left, hleft, hone.trans hothers⟩

variable {levels : Nat}

namespace ReadsBack

variable (h : S.ReadsBack levels)
include h

/-- A message is taken off the front, and what follows it stays. -/
theorem mergeFields_encode (hdepth : levels ≤ depth) (hsize : (S.encode m).length < UInt64.size)
    (hsteps : (S.encode m ++ rest).length ≤ steps) :
    S.mergeFields depth rest.length steps S.empty (S.encode m ++ rest) = .ok (m, rest) := by
  obtain ⟨left, -, hread⟩ := h.numbered.mergeFields_restoreAll (List.Subset.refl S.fields)
    (h.restores m depth hdepth) hsize hsteps (Nat.le_refl _)
  refine hread.trans ?_
  cases left with
  | zero => rfl
  | succ left => exact if_pos (Nat.le_refl _)

theorem mergeNested_encode (hdepth : levels < depth) (hsize : (S.encode m).length < UInt64.size) :
    S.mergeNested depth S.empty (writeDelimited (S.encode m) ++ rest) = .ok (m, rest) := by
  obtain ⟨depth, rfl⟩ : ∃ d, depth = d + 1 := ⟨depth - 1, by omega⟩
  have hlength : ¬ (S.encode m ++ rest).length < (S.encode m).length := by
    rw [List.length_append]
    omega
  have hstop : (S.encode m ++ rest).length - (S.encode m).length = rest.length := by
    rw [List.length_append]
    omega
  rw [mergeNested, writeDelimited, List.append_assoc, Varint.read_write hsize]
  dsimp only
  rw [if_neg hlength, hstop, h.mergeFields_encode (by omega) hsize (Nat.le_refl _)]
  exact if_pos rfl

theorem decode_encode (hdepth : levels ≤ maxDepth) (hsize : (S.encode m).length < UInt64.size) :
    S.decode (S.encode m) = .ok m := by
  have hsteps : (S.encode m ++ []).length ≤ (S.encode m).length :=
    Nat.le_of_eq (congrArg List.length (List.append_nil _))
  have hread := h.mergeFields_encode hdepth hsize hsteps
  rw [List.append_nil] at hread
  rw [decode]
  exact congrArg (Except.map (·.1)) hread

end ReadsBack

end Schema

/-! ## Fields that hold messages -/

namespace Field

variable {number depth levels : Nat} {label : String} {S : Schema N} {m x : M} {n : N}

section

variable (hS : S.ReadsBack levels) (hdepth : levels < depth)
include hS hdepth

/-- A message that was absent is read as it is written. -/
theorem restores_message {get : M → Option N} {put : N → M → M} (habsent : get x = none) :
    (message number label S get put).Restores depth m x ((get m).elim x fun n ↦ put n x) := by
  cases h : get m with
  | none => exact .of_write_eq_nil (by simp only [message, h])
  | some n =>
    have hwrite : (message number label S get put).write m = keyedMessage number S n := by
      simp only [message, h]
    refine .of_write_eq hwrite fun hsize ↦ .of_merge fun rest ↦ ?_
    have hread : S.mergeNested depth S.empty (writeDelimited (S.encode n) ++ rest) = .ok (n, rest) :=
      hS.mergeNested_encode hdepth (length_lt_of_keyed hsize)
    simp only [message, expecting, if_pos, habsent, Option.getD_none, hread]
    rfl

theorem restores_messages {get : M → List N} {put : List N → M → M} (h : Gathers get put x) :
    (messages number label S get put).Restores depth m x (put (get m) x) := by
  refine restores_gathering h rfl fun y n hn ↦ .of_merge fun rest ↦ ?_
  have hread : S.mergeNested depth S.empty (writeDelimited (S.encode n) ++ rest) = .ok (n, rest) :=
    hS.mergeNested_encode hdepth (length_lt_of_keyed hn)
  simp only [messages, expecting, if_pos, hread]
  rfl

end

end Field

end ProxyFleet.Wire

import Mathlib.Data.List.TakeWhile
import ProxyFleet.Proofs.Wire.RoundTrip
import ProxyFleet.Settings.Document

/-!
# White space in the environment

Nothing that is read from the environment depends on white space around the values of variables, or
tells a variable that is not set from one that is blank or no text. All of it is read through
`Environment.setting?`, the switch for encryption included, although that looks at the text itself;
and to put white space around bytes changes neither whether they are a text nor, once it is trimmed,
which text they are.
-/

namespace ProxyFleet

open Wire

/-! ## Texts between white space -/

namespace Text

/-- All characters of a text are white space. -/
def Blank (text : String) : Prop := ∀ c ∈ text.toList, isBlank c = true

-- decided over the text; what a search finds may go through all characters that there are
instance (text : String) : Decidable (Blank text) := List.decidableBAll _ text.toList

theorem trim_append_append {front back : String} (hfront : Blank front) (hback : Blank back)
    (text : String) : trim (front ++ text ++ back) = trim text := by
  have hreverse : ∀ c ∈ back.toList.reverse, isBlank c = true :=
    fun c hc ↦ hback c (List.mem_reverse.mp hc)
  rw [trim, trim, String.toList_append, String.toList_append, List.append_assoc,
    List.dropWhile_append_of_pos hfront, List.dropWhile_append]
  by_cases hnil : (text.toList.dropWhile isBlank).isEmpty
  · rw [if_pos hnil, List.isEmpty_iff.mp hnil, List.dropWhile_eq_nil_iff.mpr hback]
  · rw [if_neg hnil, List.reverse_append, List.dropWhile_append_of_pos hreverse]

theorem trim_of_blank {text : String} (h : Blank text) : trim text = "" := by
  rw [trim, List.dropWhile_eq_nil_iff.mpr h]
  rfl

end Text

/-! ## Bytes between texts -/

/-- Bytes behind a text are a text just if all of it is one. -/
theorem isValidUTF8_append_left {front : ByteArray} (hfront : front.IsValidUTF8)
    (bytes : ByteArray) : (front ++ bytes).IsValidUTF8 ↔ bytes.IsValidUTF8 := by
  obtain ⟨chars, rfl⟩ := hfront
  induction chars with
  | nil => simp
  | cons c rest ih =>
    rw [List.utf8Encode_cons, ByteArray.append_assoc,
      ByteArray.isValidUTF8_utf8Encode_singleton_append_iff, ih]

/-- Bytes in front of a text are a text just if all of it is one: where a text begins, a character
does. -/
theorem isValidUTF8_append_right {back : ByteArray} (hback : back.IsValidUTF8)
    (bytes : ByteArray) : (bytes ++ back).IsValidUTF8 ↔ bytes.IsValidUTF8 := by
  refine ⟨?_, fun h ↦ h.append hback⟩
  intro h
  let whole : String := ⟨bytes ++ back, h⟩
  let seam : String.Pos.Raw := ⟨bytes.size⟩
  have hsize : whole.utf8ByteSize = bytes.size + back.size := ByteArray.size_append
  have hseam : seam.IsValid whole := by
    refine String.Pos.Raw.isValid_iff_isValidUTF8_extract_utf8ByteSize.mpr ⟨?_, ?_⟩
    · rw [String.Pos.Raw.le_iff, String.byteIdx_rawEndPos, hsize]
      exact Nat.le_add_right ..
    · rwa [hsize, ByteArray.extract_append_eq_right rfl rfl]
  have hbefore := (String.Pos.Raw.isValid_iff_isValidUTF8_extract_zero.mp hseam).2
  rwa [ByteArray.extract_append_eq_left rfl] at hbefore

/-- To put texts around bytes changes nothing about whether these are a text. -/
theorem textOfBytes?_append_append (front back : String) (bytes : Bytes) :
    textOfBytes? (textBytes front ++ bytes ++ textBytes back) =
      (textOfBytes? bytes).map fun text ↦ front ++ text ++ back := by
  have hbytes : (⟨(textBytes front ++ bytes ++ textBytes back).toArray⟩ : ByteArray) =
      front.toByteArray ++ ⟨bytes.toArray⟩ ++ back.toByteArray := by
    ext1
    simp [textBytes]
  have hvalid := (isValidUTF8_append_right back.isValidUTF8 _).trans
    (isValidUTF8_append_left front.isValidUTF8 ⟨bytes.toArray⟩)
  rw [textOfBytes?, hbytes, textOfBytes?, String.fromUTF8?, String.fromUTF8?]
  by_cases h : (⟨bytes.toArray⟩ : ByteArray).IsValidUTF8
  · rw [dif_pos h, dif_pos (hvalid.mpr h)]
    rfl
  · rw [dif_neg h, dif_neg (mt hvalid.mp h)]
    rfl

namespace Environment

/-! ## Values that count as the same -/

/-- How a variable can be set otherwise without a difference. -/
inductive Respaced : Option Bytes → Option Bytes → Prop
  /-- It is as it was. -/
  | same (value : Option Bytes) : Respaced value value
  /-- There is white space around its value. -/
  | padded {front back : String} (value : Bytes) (hfront : Text.Blank front)
      (hback : Text.Blank back) :
      Respaced (some value) (some (textBytes front ++ value ++ textBytes back))
  /-- It is set to white space. -/
  | blank {text : String} (h : Text.Blank text) : Respaced none (some (textBytes text))
  /-- It is set to what is no text. -/
  | noText {value : Bytes} (h : textOfBytes? value = none) : Respaced none (some value)

/-- The second environment has each variable of a setting as the first one, but for white space. -/
def Respaces (env env' : Environment) : Prop :=
  ∀ setting, Respaced (env (named setting)) (env' (named setting))

theorem Respaced.value?_eq {env env' : Environment} {name : String}
    (h : Respaced (env name) (env' name)) : env'.value? name = env.value? name := by
  change (((env' name).bind textOfBytes?).map Text.trim).filter (· ≠ "") =
    (((env name).bind textOfBytes?).map Text.trim).filter (· ≠ "")
  generalize env name = value at h ⊢
  generalize env' name = value' at h ⊢
  rcases h with _ | ⟨value, hfront, hback⟩ | hblank | hno
  · rfl
  · rw [Option.bind_some, textOfBytes?_append_append, Option.map_map]
    simp only [Function.comp_def, Text.trim_append_append hfront hback]
    rfl
  · rw [Option.bind_some, textOfBytes?_textBytes, Option.map_some, Text.trim_of_blank hblank]
    rfl
  · rw [Option.bind_some, hno]
    rfl

theorem Respaces.setting?_eq {env env' : Environment} (h : env.Respaces env') :
    env'.setting? = env.setting? := by
  funext setting
  exact (h setting).value?_eq

/-! ## Settings depend on the values alone -/

theorem not_saysYes_of_blank {text : String} (h : Text.trim text = "") : saysYes text = false := by
  have hlower : Text.lower "" = "" := by rw [Text.lower, String.toList_empty, Text.lowerFrom]
  refine decide_eq_false ?_
  rw [h, hlower]
  simp

/-- The switch for encryption counts as any other value, since a blank text does not say yes. -/
theorem saysYes_text? (env : Environment) (setting : String) :
    ((env.text? (named setting)).map saysYes).getD false =
      ((env.setting? setting).map fun word ↦
        decide (Text.lower word ∈ ["1", "true", "yes", "on"])).getD false := by
  rw [setting?, value?]
  rcases env.text? (named setting) with _ | text
  · simp only [Option.map_none, Option.filter_none, Option.getD_none]
  · rw [Option.map_some, Option.getD_some, Option.map_some, Option.filter_some]
    by_cases hblank : Text.trim text = ""
    · rw [not_saysYes_of_blank hblank, if_neg (by simpa using hblank), Option.map_none,
        Option.getD_none]
    · rw [if_pos (decide_eq_true hblank), Option.map_some, Option.getD_some, saysYes]

section

variable {env env' : Environment} (h : env'.setting? = env.setting?)
include h

theorem tls_congr : env'.tls = env.tls := by
  simp only [tls, saysYes_text?, h]

theorem readOr_congr {α : Type} (setting : String) (reader : String → Except ValueFault α)
    (default : α) : env'.readOr setting reader default = env.readOr setting reader default := by
  rw [readOr, readOr, h]

theorem identity_congr : env'.identity = env.identity := by
  simp only [identity, role, metadata, h]

theorem logging_congr : env'.logging = env.logging := by
  simp only [logging, readOr_congr h, h]

theorem fleet_congr : env'.fleet = env.fleet := by
  simp only [fleet, readOr_congr h]

theorem settings_congr : env'.settings = env.settings := by
  rw [settings, settings, tls_congr h, identity_congr h, logging_congr h, fleet_congr h, h]
  simp only [readOr_congr h]

end

end Environment

namespace Settings

/-- **White space in the environment never matters.** Let each variable of a setting be as it was,
or have white space around its value, or be blank or no text where it was not set. Then the
settings, or the failure, are the same, whether they are read from the environment or from the file
that it names. -/
theorem load_eq_of_respaces {env env' : Environment} (h : env.Respaces env') (files : Files) :
    load env' files = load env files ∧ env'.settings = env.settings := by
  have hsettings := Environment.settings_congr h.setting?_eq
  refine ⟨?_, hsettings⟩
  rw [load, load, h.setting?_eq, hsettings]

/-- An environment that asks for the incremental mode. -/
def incrementalEnvironment : Environment := fun name ↦
  if name = Environment.named "DELTA" then some (textBytes "true") else none

/-- The same with a blank and a line feed around the value, with a no-break space as the name of the
file and with an address that is no text. -/
def spacedEnvironment : Environment := fun name ↦
  if name = Environment.named "DELTA" then some (textBytes " " ++ textBytes "true" ++ textBytes "\n")
  else if name = Environment.named "CONFIG" then some (textBytes "\u00a0")
  else if name = Environment.named "IP" then some [0xff]
  else incrementalEnvironment name

/-- Both environments ask for the incremental mode. -/
theorem load_eq_of_respaces_spacedEnvironment :
    incrementalEnvironment.Respaces spacedEnvironment ∧
    load spacedEnvironment .none = load incrementalEnvironment .none ∧
    (spacedEnvironment.settings.toOption.map (·.mode)) = some .incremental := by
  have hrespaces : incrementalEnvironment.Respaces spacedEnvironment := by
    intro setting
    rw [spacedEnvironment]
    split
    · next hdelta =>
      rw [hdelta, incrementalEnvironment, if_pos rfl]
      exact .padded _ (by decide +kernel) (by decide +kernel)
    · next hdelta =>
      rw [incrementalEnvironment, if_neg hdelta]
      split
      · exact .blank (by decide +kernel)
      · split
        · exact .noText (by decide +kernel)
        · exact .same none
  refine ⟨hrespaces, (load_eq_of_respaces hrespaces .none).1, ?_⟩
  rw [(load_eq_of_respaces hrespaces .none).2]
  rfl

end Settings

end ProxyFleet

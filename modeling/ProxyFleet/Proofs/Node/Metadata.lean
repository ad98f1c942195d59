import ProxyFleet.Node.Basic

/-!
# Metadata on their way into a node

The metadata of an identity become a structure by a walk through all of them, and the walk fails at
the first number that is no finite double. Otherwise nothing is lost but what doubles cannot hold:
read back, the structure is the metadata with a double in the place of each number
(`Identity.toNode_conveys`). In particular every object has the keys that it had, and every list
its items, in their order.

Values, lists of values and entries of objects are walked through by three functions that call each
other, so that what is said of one is said of all three. `Conveys` is that statement.
-/

namespace ProxyFleet

namespace Json

mutual

/-- The numbers in a value that stands under a key, each with the key nearest to it, in order. -/
def numbers (key : String) : Json → List (String × JsonNumber)
  | .null => []
  | .bool _ => []
  | .number value => [(key, value)]
  | .string _ => []
  | .array items => numbersOfItems key items
  | .object entries => numbersOfEntries entries

/-- The numbers in a list that stands under a key. -/
def numbersOfItems (key : String) : List Json → List (String × JsonNumber)
  | [] => []
  | item :: rest => numbers key item ++ numbersOfItems key rest

/-- The numbers in the entries of an object. -/
def numbersOfEntries : List (String × Json) → List (String × JsonNumber)
  | [] => []
  | (key, value) :: rest => numbers key value ++ numbersOfEntries rest

end

mutual

def inDoubles : Json → Json
  | .null => .null
  | .bool value => .bool value
  | .number value => .number (.double value.toDouble)
  | .string value => .string value
  | .array items => .array (itemsInDoubles items)
  | .object entries => .object (entriesInDoubles entries)

def itemsInDoubles : List Json → List Json
  | [] => []
  | item :: rest => inDoubles item :: itemsInDoubles rest

def entriesInDoubles : List (String × Json) → List (String × Json)
  | [] => []
  | (key, value) :: rest => (key, inDoubles value) :: entriesInDoubles rest

end

end Json

namespace NodeValue

mutual

def toJson : NodeValue → Json
  | .null => .null
  | .bool value => .bool value
  | .number value => .number (.double value)
  | .string value => .string value
  | .list items => .array (toItems items)
  | .struct fields => .object (toEntries fields)

def toItems : List NodeValue → List Json
  | [] => []
  | item :: rest => toJson item :: toItems rest

def toEntries : List (String × NodeValue) → List (String × Json)
  | [] => []
  | (key, value) :: rest => (key, toJson value) :: toEntries rest

end

/-- The failure for a number under a key. -/
def refusal (key : String) : Failure :=
  .metadata ("metadata key '" ++ key ++ "' holds a number that is not a finite double") none

/-- What comes of a part of the metadata in which some numbers stand: something that reads back as
expected, or the refusal of the first number that is no finite double. -/
inductive Conveys {α β : Type} (numbers : List (String × JsonNumber)) (back : α → β)
    (expected : β) : Except Failure α → Prop
  /-- All numbers have finite doubles. -/
  | whole {a : α} (hfinite : ∀ e ∈ numbers, e.2.toDouble.isFinite = true)
      (hback : back a = expected) : Conveys numbers back expected (.ok a)
  /-- One of them has none. -/
  | refused {e : String × JsonNumber}
      (hfirst : numbers.find? (fun e ↦ !e.2.toDouble.isFinite) = some e) :
      Conveys numbers back expected (.error (refusal e.1))

namespace Conveys

variable {α β γ δ ε ζ : Type} {numbers numbers' : List (String × JsonNumber)}

theorem map {back : α → β} {expected : β} {r : Except Failure α} {back' : γ → δ} {expected' : δ}
    (h : Conveys numbers back expected r) (f : α → γ)
    (hf : ∀ a, back a = expected → back' (f a) = expected') :
    Conveys numbers back' expected' (r.map f) := by
  rcases h with ⟨hfinite, hback⟩ | hfirst
  · exact .whole hfinite (hf _ hback)
  · exact .refused hfirst

theorem both {back : α → β} {expected : β} {r : Except Failure α} {back' : γ → δ} {expected' : δ}
    {r' : Except Failure γ} {back'' : ε → ζ} {expected'' : ζ}
    (h : Conveys numbers back expected r) (h' : Conveys numbers' back' expected' r')
    (f : α → γ → ε)
    (hf : ∀ a c, back a = expected → back' c = expected' → back'' (f a c) = expected'') :
    Conveys (numbers ++ numbers') back'' expected'' (r.bind fun a ↦ r'.map (f a)) := by
  rcases h with ⟨hfinite, hback⟩ | hfirst
  · have hnone : numbers.find? (fun e ↦ !e.2.toDouble.isFinite) = none :=
      List.find?_eq_none.mpr fun e he ↦ by simp [hfinite e he]
    rcases h' with ⟨hfinite', hback'⟩ | hfirst'
    · refine .whole ?_ (hf _ _ hback hback')
      intro e he
      exact (List.mem_append.mp he).elim (hfinite e) (hfinite' e)
    · exact .refused (by rw [List.find?_append, hnone, hfirst']; rfl)
  · exact .refused (by rw [List.find?_append, hfirst]; rfl)

end Conveys

/-! ## The walk, part by part -/

section

variable (key : String)

theorem ofJson_array (items : List Json) :
    ofJson key (.array items) = (ofItems key items).map .list := by
  rw [ofJson]
  rcases ofItems key items with _ | _ <;> rfl

theorem ofJson_object (entries : List (String × Json)) :
    ofJson key (.object entries) = (ofEntries entries).map .struct := by
  rw [ofJson]
  rcases ofEntries entries with _ | _ <;> rfl

theorem ofItems_cons (item : Json) (rest : List Json) : ofItems key (item :: rest) =
    (ofJson key item).bind fun value ↦ (ofItems key rest).map (value :: ·) := by
  rw [ofItems]
  rcases ofJson key item with _ | _
  · rfl
  · rcases ofItems key rest with _ | _ <;> rfl

theorem ofEntries_cons (value : Json) (rest : List (String × Json)) :
    ofEntries ((key, value) :: rest) =
      (ofJson key value).bind fun value ↦ (ofEntries rest).map ((key, value) :: ·) := by
  rw [ofEntries]
  rcases ofJson key value with _ | _
  · rfl
  · rcases ofEntries rest with _ | _ <;> rfl

end

mutual

theorem conveys_ofJson (key : String) (value : Json) :
    Conveys (Json.numbers key value) toJson value.inDoubles (ofJson key value) :=
  match value with
  | .null => .whole (List.forall_mem_nil _) rfl
  | .bool _ => .whole (List.forall_mem_nil _) rfl
  | .number n => by
    rw [ofJson]
    by_cases hfinite : n.toDouble.isFinite
    · rw [if_pos hfinite]
      exact .whole (List.forall_mem_singleton.mpr hfinite) rfl
    · rw [if_neg hfinite]
      refine .refused (e := (key, n)) ?_
      rw [Json.numbers, List.find?_cons_of_pos]
      simpa using hfinite
  | .string _ => .whole (List.forall_mem_nil _) rfl
  | .array items => by
    rw [ofJson_array]
    refine (conveys_ofItems key items).map list ?_
    intro values hvalues
    rw [toJson, hvalues, Json.inDoubles]
  | .object entries => by
    rw [ofJson_object]
    refine (conveys_ofEntries entries).map struct ?_
    intro fields hfields
    rw [toJson, hfields, Json.inDoubles]

theorem conveys_ofItems (key : String) (items : List Json) :
    Conveys (Json.numbersOfItems key items) toItems (Json.itemsInDoubles items)
      (ofItems key items) :=
  match items with
  | [] => .whole (List.forall_mem_nil _) rfl
  | item :: rest => by
    rw [ofItems_cons]
    refine (conveys_ofJson key item).both (conveys_ofItems key rest) List.cons ?_
    intro value values hvalue hvalues
    rw [toItems, hvalue, hvalues, Json.itemsInDoubles]

theorem conveys_ofEntries (entries : List (String × Json)) :
    Conveys (Json.numbersOfEntries entries) toEntries (Json.entriesInDoubles entries)
      (ofEntries entries) :=
  match entries with
  | [] => .whole (List.forall_mem_nil _) rfl
  | (key, value) :: rest => by
    rw [ofEntries_cons]
    refine (conveys_ofJson key value).both (conveys_ofEntries rest)
      (fun value fields ↦ (key, value) :: fields) ?_
    intro value' fields hvalue hfields
    rw [toEntries, hvalue, hfields, Json.entriesInDoubles]

end

end NodeValue

namespace Identity

/-- **Metadata are conveyed.** There is a node just if every number in the metadata, at whatever
depth, has a finite double. Its structure read back is the metadata with a double in the place of
each number. Otherwise the first number that has none is refused, with the key nearest to it. -/
theorem toNode_conveys (i : Identity) :
    ((∃ node, i.toNode = .ok node) ↔
      ∀ e ∈ Json.numbersOfEntries i.metadata, e.2.toDouble.isFinite = true) ∧
    (∀ node, i.toNode = .ok node →
      NodeValue.toEntries node.metadata = Json.entriesInDoubles i.metadata) ∧
    ∀ failure, i.toNode = .error failure →
      ∃ e, (Json.numbersOfEntries i.metadata).find? (fun e ↦ !e.2.toDouble.isFinite) = some e ∧
        failure = NodeValue.refusal e.1 := by
  have h := NodeValue.conveys_ofEntries i.metadata
  rw [toNode]
  generalize NodeValue.ofEntries i.metadata = r at h ⊢
  rcases h with @⟨fields, hfinite, hback⟩ | @⟨e, hfirst⟩
  · refine ⟨⟨fun _ ↦ hfinite, fun _ ↦ ⟨_, rfl⟩⟩, ?_, ?_⟩
    · rintro node ⟨⟩
      exact hback
    · rintro failure ⟨⟩
  · refine ⟨⟨?_, ?_⟩, ?_, ?_⟩
    · rintro ⟨node, ⟨⟩⟩
    · intro hfinite
      have hbad := List.find?_some hfirst
      rw [hfinite e (List.mem_of_find?_eq_some hfirst)] at hbad
      exact absurd hbad (by decide)
    · rintro node ⟨⟩
    · rintro failure ⟨⟩
      exact ⟨e, hfirst, rfl⟩

/-- An identity with labels and a list of ports, the last of which lies between two doubles. -/
def labelled : Identity :=
  { role := .router, ip := "10.0.0.9", workload := "gateway", namespaceName := "mesh",
    metadata := [
      ("LABELS", .object [("app", .string "gateway"), ("ports", .array [
        .number (.integer 9080), .null, .number (.integer 9007199254740993)])]),
      ("READY", .bool true)] }

/-- The same with an infinite number among the ports. -/
def unbounded : Identity :=
  { labelled with
    metadata := [("LABELS", .object [("ports", .array [
      .number (.integer 9080), .number (.double .infinity)])])] }

/-- The node of the one rounds the port that is no double; there is none of the other. -/
theorem toNode_conveys_labelled :
    (∃ node, labelled.toNode = .ok node ∧
      NodeValue.toEntries node.metadata = [
        ("LABELS", .object [("app", .string "gateway"), ("ports", .array [
          .number (.double (.ofNat 9080)), .null, .number (.double (.ofNat 9007199254740992))])]),
        ("READY", .bool true)]) ∧
    unbounded.toNode = .error (NodeValue.refusal "ports") := by
  obtain ⟨hnode, hback, -⟩ := toNode_conveys labelled
  obtain ⟨hnone, -, hrefused⟩ := toNode_conveys unbounded
  constructor
  · obtain ⟨node, hok⟩ := hnode.mpr (by decide +kernel)
    have hwhole : JsonNumber.toDouble (.integer 9080) = .ofNat 9080 := by decide +kernel
    have hround : JsonNumber.toDouble (.integer 9007199254740993) = .ofNat 9007199254740992 := by
      decide +kernel
    refine ⟨node, hok, ?_⟩
    rw [hback node hok, ← hwhole, ← hround]
    simp only [labelled, Json.entriesInDoubles, Json.inDoubles, Json.itemsInDoubles]
  · rcases hresult : unbounded.toNode with failure | node
    · obtain ⟨e, hfirst, hfailure⟩ := hrefused failure hresult
      have hports : (Json.numbersOfEntries unbounded.metadata).find?
          (fun e ↦ !e.2.toDouble.isFinite) = some ("ports", .double .infinity) := by decide +kernel
      rw [hports, Option.some.injEq] at hfirst
      rw [hfailure, ← hfirst]
    · exact absurd (hnone.mp ⟨node, hresult⟩) (by decide +kernel)

end Identity

end ProxyFleet

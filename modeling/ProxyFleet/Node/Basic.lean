import ProxyFleet.Node.Identity

/-!
# Nodes

What the first request of a stream says about the proxy. The metadata of the identity become a
structure in which every number is a double; a number that has no finite double is refused.
-/

namespace ProxyFleet

/-- A value in the metadata of a node. -/
inductive NodeValue
  | null
  | bool (value : Bool)
  | number (value : Double)
  | string (value : String)
  | list (items : List NodeValue)
  | struct (fields : List (String × NodeValue))

namespace NodeValue

mutual

/-- The value of a document that stands under a key. -/
def ofJson (key : String) : Json → Except Failure NodeValue
  | .null => .ok .null
  | .bool value => .ok (.bool value)
  | .number value =>
    if value.toDouble.isFinite then .ok (.number value.toDouble)
    else
      .error (.metadata
        ("metadata key '" ++ key ++ "' holds a number that is not a finite double") none)
  | .string value => .ok (.string value)
  | .array items =>
    match ofItems key items with
    | .error e => .error e
    | .ok items => .ok (.list items)
  | .object entries =>
    match ofEntries entries with
    | .error e => .error e
    | .ok fields => .ok (.struct fields)

/-- The values of a list that stands under a key. -/
def ofItems (key : String) : List Json → Except Failure (List NodeValue)
  | [] => .ok []
  | item :: rest =>
    match ofJson key item with
    | .error e => .error e
    | .ok value =>
      match ofItems key rest with
      | .error e => .error e
      | .ok values => .ok (value :: values)

/-- The values of an object, each under its own key. -/
def ofEntries : List (String × Json) → Except Failure (List (String × NodeValue))
  | [] => .ok []
  | (key, value) :: rest =>
    match ofJson key value with
    | .error e => .error e
    | .ok value =>
      match ofEntries rest with
      | .error e => .error e
      | .ok fields => .ok ((key, value) :: fields)

end

end NodeValue

/-- What the first request of a stream says about the proxy. -/
structure Node where
  /-- The text by which a control plane tells proxies apart. -/
  id : String
  cluster : String := ""
  /-- Further values, in order of key. -/
  metadata : List (String × NodeValue)
  /-- The program that opens the stream. -/
  agentName : String
  /-- The version of the program. -/
  agentVersion : String

/-- The name of this program on the wire and in logs. -/
def programName : String := "flowplane-adsc"

/-- The version of this program. -/
def programVersion : String := "0.2.2"

/-- The node of an identity. -/
def Identity.toNode (i : Identity) : Except Failure Node :=
  match NodeValue.ofEntries i.metadata with
  | .error e => .error e
  | .ok fields =>
    .ok { id := i.nodeId, metadata := fields, agentName := programName,
          agentVersion := programVersion }

end ProxyFleet

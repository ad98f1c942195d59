import ProxyFleet.Failure

/-!
# Faults of a configuration, field by field

A validation notes all faults at once, in a tree of the shape of the configuration. They are told in
one text, one line for each field, in order of the lines.
-/

namespace ProxyFleet

inductive FieldFaults
  /-- Faults of the value itself, each with its message if it has one. -/
  | value (messages : List (Option String))
  /-- Faults of the fields inside. -/
  | nested (fields : List (String × FieldFaults))
  /-- Faults of the fields inside items of a list, by index. -/
  | items (entries : List (Nat × List (String × FieldFaults)))

instance : Inhabited FieldFaults := ⟨.value []⟩

namespace FieldFaults

def subfield (path name : String) : String := if path = "" then name else path ++ "." ++ name

mutual

/-- A line for each faulty value of a field, with the name of the field. -/
def lines (path : String) : FieldFaults → List String
  | value messages =>
    [path ++ ": " ++ ", ".intercalate (messages.map fun m ↦ m.getD "Invalid value")]
  | nested fields => linesOfFields path fields
  | items entries => linesOfItems path entries

/-- The lines of fields inside another. -/
def linesOfFields (path : String) : List (String × FieldFaults) → List String
  | [] => []
  | (name, faults) :: rest => faults.lines (subfield path name) ++ linesOfFields path rest

/-- The lines of items of a list. -/
def linesOfItems (path : String) : List (Nat × List (String × FieldFaults)) → List String
  | [] => []
  | (index, fields) :: rest =>
    linesOfFields (path ++ "[" ++ toString index ++ "]") fields ++ linesOfItems path rest

end

/-- The failure that tells the faults of some fields. -/
def toFailure (fields : List (String × FieldFaults)) : Failure :=
  .validation ("Validation failed: " ++ "; ".intercalate (linesOfFields "" fields).mergeSort) none

end FieldFaults

end ProxyFleet

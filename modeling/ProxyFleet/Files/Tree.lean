import ProxyFleet.Files.Basic

/-!
# Trees of files

A tree of files as one directory sees it. A path leads through directories, of which `.` is the same
one and `..` the one above. Of what lies outside of the tree nothing is known but that directories
are there.
-/

namespace ProxyFleet

/-- What stands under a name. -/
inductive FileEntry
  | file (content : List UInt8)
  | directory
deriving DecidableEq, Repr

/-- A tree of files: what stands under each path, given by its parts. -/
structure FileTree where
  entries : List (List String × FileEntry)

namespace FileTree

def parts (path : String) : List String := path.splitOn "/"

/-- The tree with some entries, given by their paths. -/
def ofList (entries : List (String × FileEntry)) : FileTree :=
  ⟨entries.map fun (path, entry) ↦ ((parts path).filter fun p ↦ p ≠ "" ∧ p ≠ ".", entry)⟩

/-- What stands under a path. -/
def find? (t : FileTree) (path : List String) : Option FileEntry :=
  (t.entries.find? (·.1 = path)).map (·.2)

/-- The greatest number of bytes of a part of a path. -/
def maxPart : Nat := 255

/-- The greatest number of bytes of a path. -/
def maxPath : Nat := 4095

/-- A directory that a path leads through. -/
inductive Place
  /-- A directory of the tree. -/
  | inside (path : List String)
  /-- A directory outside of the tree. -/
  | outside

/-- The directory above. -/
def Place.parent : Place → Place
  | inside [] => outside
  | inside path => inside path.dropLast
  | outside => outside

/-- Follows the parts of a path from a directory to the bytes of a file. -/
def follow (t : FileTree) : Place → List String → Except FileFault (List UInt8)
  | _, [] => .error .isDirectory
  | place, part :: rest =>
    if part = "" ∨ part = "." then follow t place rest
    else if part = ".." then follow t place.parent rest
    else if maxPart < part.utf8ByteSize then .error .nameTooLong
    else
      match place with
      | .outside => .error .notFound
      | .inside path =>
        match t.find? (path ++ [part]), rest with
        | none, _ => .error .notFound
        | some .directory, rest => follow t (.inside (path ++ [part])) rest
        | some (.file content), [] => .ok content
        | some (.file _), _ :: _ => .error .notDirectory

def read (t : FileTree) (path : String) : Except FileFault (List UInt8) :=
  if '\x00' ∈ path.toList then .error .nulInPath
  else if path = "" then .error .notFound
  else if maxPath < path.utf8ByteSize then .error .nameTooLong
  else follow t (if path.toList.head? = some '/' then .outside else .inside []) (parts path)

def files (t : FileTree) : Files := ⟨t.read⟩

end FileTree

end ProxyFleet

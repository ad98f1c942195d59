/-!
# Files

What comes of reading a file by its path: its bytes, or the reason why there are none.
-/

namespace ProxyFleet

/-- Why a file cannot be read. -/
inductive FileFault
  /-- Nothing stands under the path. -/
  | notFound
  /-- The path goes through a file. -/
  | notDirectory
  /-- The path ends at a directory. -/
  | isDirectory
  /-- The path or a part of it is too long. -/
  | nameTooLong
  /-- The path has a character that ends it. -/
  | nulInPath
  /-- The bytes are no text. -/
  | notText
deriving DecidableEq, Repr

namespace FileFault

def message : FileFault → String
  | notFound => "No such file or directory (os error 2)"
  | notDirectory => "Not a directory (os error 20)"
  | isDirectory => "Is a directory (os error 21)"
  | nameTooLong => "File name too long (os error 36)"
  | nulInPath => "file name contained an unexpected NUL byte"
  | notText => "stream did not contain valid UTF-8"

end FileFault

structure Files where
  read : String → Except FileFault (List UInt8)

namespace Files

/-- The system without files. -/
def none : Files := ⟨fun _ ↦ .error .notFound⟩

def readText (files : Files) (path : String) : Except FileFault String :=
  match files.read path with
  | .error fault => .error fault
  | .ok content =>
    match String.fromUTF8? ⟨content.toArray⟩ with
    | some text => .ok text
    | Option.none => .error .notText

end Files

end ProxyFleet

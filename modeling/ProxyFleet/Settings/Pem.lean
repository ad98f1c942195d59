/-!
# Certificates and keys in files

A file in the PEM format holds sections between two lines that name what is inside, which is written
in base 64. A certificate is usable only if its bytes have the outer form of one: a sequence that
takes up all of them.
-/

namespace ProxyFleet.Pem

def lines (text : String) : List String :=
  (text.splitOn "\n").map fun line ↦
    .ofList (line.toList.reverse.dropWhile fun c ↦ c = '\r' ∨ c = ' ' ∨ c = '\t').reverse

def beginLine (name : String) : String := "-----BEGIN " ++ name ++ "-----"

def endLine (name : String) : String := "-----END " ++ name ++ "-----"

/-- The contents of the sections of a name; nothing comes out if one does not end. -/
def sections? (name : String) : Option (List Char) → List String → Option (List (List Char))
  | none, [] => some []
  | some _, [] => none
  | none, line :: rest =>
    if line = beginLine name then sections? name (some []) rest else sections? name none rest
  | some content, line :: rest =>
    if line = endLine name then (sections? name none rest).map (content :: ·)
    else sections? name (some (content ++ line.toList)) rest

def digit? (c : Char) : Option Nat :=
  if 'A' ≤ c ∧ c ≤ 'Z' then some (c.toNat - 'A'.toNat)
  else if 'a' ≤ c ∧ c ≤ 'z' then some (c.toNat - 'a'.toNat + 26)
  else if '0' ≤ c ∧ c ≤ '9' then some (c.toNat - '0'.toNat + 52)
  else if c = '+' then some 62
  else if c = '/' then some 63
  else none

/-- The bytes that four digits of base 64 write; the last two of them may be missing. -/
def decode? : List Char → Option (List Nat)
  | [] => some []
  | [a, b, '=', '='] => do
    let a ← digit? a
    let b ← digit? b
    some [a * 4 + b / 16]
  | [a, b, c, '='] => do
    let a ← digit? a
    let b ← digit? b
    let c ← digit? c
    some [a * 4 + b / 16, b % 16 * 16 + c / 4]
  | a :: b :: c :: d :: rest => do
    let a ← digit? a
    let b ← digit? b
    let c ← digit? c
    let d ← digit? d
    let bytes ← decode? rest
    some ((a * 4 + b / 16) :: (b % 16 * 16 + c / 4) :: (c % 4 * 64 + d) :: bytes)
  | _ => none

/-- Whether bytes are one sequence that takes up all of them. -/
def isSequence : List Nat → Bool
  | 0x30 :: first :: rest =>
    if first < 128 then rest.length == first
    else
      let count := first - 128
      let length := (rest.take count).foldl (fun n b ↦ n * 256 + b) 0
      0 < count && count ≤ rest.length && rest.length - count == length
  | _ => false

/-- Whether a text has a section of one of some names whose bytes are a sequence. -/
def hasUsable (names : List String) (text : String) : Bool :=
  names.any fun name ↦
    match sections? name none (lines text) with
    | some contents => contents.any fun content ↦ ((decode? content).map isSequence).getD false
    | none => false

def hasCertificate (text : String) : Bool := hasUsable ["CERTIFICATE"] text

def hasKey (text : String) : Bool :=
  hasUsable ["PRIVATE KEY", "RSA PRIVATE KEY", "EC PRIVATE KEY"] text

end ProxyFleet.Pem

/-!
# Addresses of control planes

Whether an address with a scheme is well formed: behind the scheme stands an authority, made of the
characters that may stand there, with brackets, colons and a name of the user in their places. A
path and a query may follow, and a fragment, which is passed over.
-/

namespace ProxyFleet.Uri

/-- The greatest number of bytes of an address. -/
def maxBytes : Nat := 65534

/-- The greatest number of colons in a row of parts. -/
def maxColons : Nat := 8

def isAuthority (c : Char) : Bool :=
  ('a' ≤ c && c ≤ 'z') || ('A' ≤ c && c ≤ 'Z') || ('0' ≤ c && c ≤ '9')
    || c ∈ "!$&'()*+,-.:;=@[]_~".toList

/-- What is known of an authority of which some characters were seen. -/
structure Authority where
  /-- The colons since a name of the user or a bracket ended. -/
  colons : Nat := 0
  /-- Whether a bracket was opened. -/
  opened : Bool := false
  /-- Whether a bracket was closed. -/
  closed : Bool := false
  /-- Whether there was a percent sign since a name of the user or a bracket ended. -/
  percent : Bool := false
  /-- Whether the last character ended a name of the user. -/
  endsUser : Bool := false

namespace Authority

/-- One more character; nothing comes out if it may not stand there. -/
def see (a : Authority) (c : Char) : Option Authority :=
  let a := { a with endsUser := false }
  if c = ':' then
    if maxColons ≤ a.colons then none else some { a with colons := a.colons + 1 }
  else if c = '[' then
    if a.percent || a.opened then none else some { a with opened := true }
  else if c = ']' then
    if !a.opened || a.closed then none
    else some { a with closed := true, colons := 0, percent := false }
  else if c = '@' then some { a with colons := 0, percent := false, endsUser := true }
  else if c = '%' then some { a with percent := true }
  else if isAuthority c then some a
  else none

def isComplete (a : Authority) : Bool :=
  a.opened == a.closed && a.colons ≤ 1 && !a.endsUser && !a.percent

end Authority

def endsAuthority (c : Char) : Bool := c == '/' || c == '?' || c == '#'

/-- Whether characters are a well-formed authority. -/
def isAuthorityText (chars : List Char) : Bool :=
  !chars.isEmpty && ((chars.foldlM Authority.see {}).map Authority.isComplete).getD false

def isPath (c : Char) : Bool :=
  let n := c.toNat
  n == 0x21 || (0x24 ≤ n && n ≤ 0x3b) || n == 0x3d || (0x40 ≤ n && n ≤ 0x5f)
    || (0x61 ≤ n && n ≤ 0x7a) || n == 0x7c || 0x7e ≤ n || c == '"' || c == '{' || c == '}'

def isQuery (c : Char) : Bool :=
  let n := c.toNat
  n == 0x21 || (0x24 ≤ n && n ≤ 0x3b) || n == 0x3d || 0x3f ≤ n

/-- Whether characters are a query, perhaps with a fragment behind it. -/
def isQueryText (chars : List Char) : Bool := (chars.takeWhile (· ≠ '#')).all isQuery

/-- Whether characters are a path, perhaps with a query and a fragment behind it. -/
def isPathText (chars : List Char) : Bool :=
  (chars.takeWhile fun c ↦ c ≠ '?' ∧ c ≠ '#').all isPath
    && match chars.dropWhile fun c ↦ c ≠ '?' ∧ c ≠ '#' with
      | '?' :: query => isQueryText query
      | _ => true

/-- Whether what follows a scheme is well formed. -/
def isRestWellFormed (chars : List Char) : Bool :=
  isAuthorityText (chars.takeWhile fun c ↦ !endsAuthority c)
    && isPathText (chars.dropWhile fun c ↦ !endsAuthority c)

/-- The characters behind a scheme. -/
def behindScheme? (address : String) : Option (List Char) :=
  ["http://", "https://"].findSome? fun scheme ↦
    if scheme.toList.isPrefixOf address.toList then some (address.toList.drop scheme.length) else none

def isWellFormed (address : String) : Bool :=
  address.utf8ByteSize ≤ maxBytes && ((behindScheme? address).map isRestWellFormed).getD false

end ProxyFleet.Uri

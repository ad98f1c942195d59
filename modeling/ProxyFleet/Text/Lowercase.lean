import ProxyFleet.Text.Letters

/-!
# Lower case

The lower case of a text, character by character but for the letter sigma: at the end of a word it
has a form of its own. A sigma ends a word if a cased character comes before it and none behind it,
where characters without case of their own are passed over.
-/

namespace ProxyFleet.Text

/-- Whether a character lies in one of some ranges. -/
def inRanges (ranges : List (Nat × Nat)) (c : Char) : Bool :=
  ranges.any fun (first, last) ↦ first ≤ c.toNat && c.toNat ≤ last

def isCased (c : Char) : Bool := inRanges casedRanges c

/-- Whether a character is passed over in the search for a cased one. -/
def isCaseIgnorable (c : Char) : Bool := inRanges ignorableRanges c

/-- The capital letter sigma. -/
def capitalSigma : Char := 'Σ'

/-- The small letter sigma at the end of a word. -/
def finalSigma : Char := 'ς'

/-- The capital letter i with a dot, the one letter whose lower case is two characters. -/
def dottedCapitalI : Char := 'İ'

def lowerChar (c : Char) : List Char :=
  if c = dottedCapitalI then ['i', '\u0307']
  else
    match lowerRanges.find? fun r ↦
        r.first ≤ c.toNat && c.toNat ≤ r.last && (c.toNat - r.first) % r.stride == 0 with
    | some r => [.ofNat ((c.toNat : Int) + r.shift).toNat]
    | none => [c]

/-- Whether the nearest character that is not passed over is cased. -/
def casedNearby : List Char → Bool
  | [] => false
  | c :: rest => if isCaseIgnorable c then casedNearby rest else isCased c

/-- The lower case of characters, of which those before are given with the nearest first. -/
def lowerFrom : List Char → List Char → List Char
  | _, [] => []
  | before, c :: rest =>
    let lowered :=
      if c = capitalSigma ∧ casedNearby before ∧ ¬ casedNearby rest then [finalSigma]
      else lowerChar c
    lowered ++ lowerFrom (c :: before) rest

def lower (text : String) : String := .ofList (lowerFrom [] text.toList)

end ProxyFleet.Text

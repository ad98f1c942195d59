import ProxyFleet.Number.Double

/-!
# The fewest digits of a double

A double stands for every number that is rounded to it. Of the decimal grids, whose points are the
multiples of a power of ten, the coarsest one that has such a number gives the fewest digits: a
digit less would be a point of a coarser grid. Of two such numbers on that grid the nearer one is
written.
-/

namespace ProxyFleet.Double

/-- The width of the gap above the magnitude of a finite double, times `2 ^ 1074`. -/
def gap (d : Double) : Nat := 1 <<< (d.magnitudeBits / hiddenBit - 1)

/-- The width of the gap below the magnitude of a finite double, times `2 ^ 1074`. It is narrower
below a power of two, unless the least exponent is reached. -/
def gapBelow (d : Double) : Nat :=
  if d.magnitudeBits % hiddenBit = 0 ∧ hiddenBit < d.magnitudeBits then d.gap / 2 else d.gap

/-- Whether the quotient, whose size is that of a magnitude times `2 ^ 1076`, is rounded to the
magnitude of a finite double. The ends of the interval are if the significand is even. -/
def isRoundedFrom (d : Double) (num den : Nat) : Bool :=
  let least := (4 * d.scaled - 2 * d.gapBelow) * den
  let greatest := (4 * d.scaled + 2 * d.gap) * den
  if d.magnitudeBits % 2 = 0 then least ≤ num && num ≤ greatest else least < num && num < greatest

/-- The point of the decimal grid of width `10 ^ exponent` that is nearest to the magnitude of a
finite double, if there is a point that is rounded to it. Of two that are equally near the greater
one counts. -/
def onGrid? (d : Double) (exponent : Int) : Option Nat :=
  let width := if 0 ≤ exponent then Nat.pow 10 exponent.toNat <<< 1076 else 1 <<< 1076
  let parts := if 0 ≤ exponent then 1 else Nat.pow 10 (-exponent).toNat
  let value := 4 * d.scaled * parts
  let below := value / width
  let atBelow := d.isRoundedFrom (below * width) parts
  let atAbove := d.isRoundedFrom ((below + 1) * width) parts
  if atAbove && (!atBelow || width ≤ 2 * (value % width)) then some (below + 1)
  else if atBelow then some below
  else none

/-- The exponents of the decimal grids that may be needed, the coarsest one first. -/
def gridExponents : List Int := (List.range 633).map fun (i : Nat) ↦ 308 - (i : Int)

/-- The magnitude of a finite double that is not zero, as digits and a power of ten. -/
def shortest (d : Double) : Nat × Int :=
  (gridExponents.findSome? fun e ↦ (d.onGrid? e).map (·, e)).getD (0, 0)

/-- Digits with a point so many digits before their end. -/
def withPoint (digits : List Char) (places : Nat) : List Char :=
  let padded := List.replicate (places + 1 - digits.length) '0' ++ digits
  padded.take (padded.length - places) ++ '.' :: padded.drop (padded.length - places)

/-- The magnitude of a finite double in digits, with at least one digit on either side of a point.
-/
def magnitudeText (d : Double) : String :=
  let (digits, exponent) := if d.magnitudeBits = 0 then (0, 0) else d.shortest
  if 0 ≤ exponent then toString digits ++ .ofList (List.replicate exponent.toNat '0') ++ ".0"
  else .ofList (withPoint (toString digits).toList (-exponent).toNat)

/-- A double in words. -/
def text (d : Double) : String :=
  if d.isNaN then "NaN"
  else (if d.isNegative then "-" else "") ++ if d.isFinite then d.magnitudeText else "inf"

end ProxyFleet.Double

/-!
# Doubles by exact arithmetic

A double is its 64 bits. Quotients of natural numbers are rounded to the nearest double, a tie going
to the even neighbour, in exact arithmetic; products and quotients of doubles follow from that.

Let `m` be the significand and `q` the exponent of a positive double `m * 2 ^ q`, with `m < 2 ^ 53`
and `-1074 ≤ q`, and with `2 ^ 52 ≤ m` unless `q = -1074`. Its bits are then the one number
`(q + 1074) * 2 ^ 52 + m`, so that rounding up to the next power of two needs no special case.
-/

namespace ProxyFleet

/-- A double, as its bits. -/
structure Double where
  /-- The sign, the exponent and the significand, from the top. -/
  bits : UInt64
deriving DecidableEq

namespace Double

/-- The bits of infinity, and the first number of bits that no positive finite double has. -/
def infinityBits : Nat := 0x7ff0000000000000

/-- The value of the leading bit of a significand, which the bits of a double leave out. -/
def hiddenBit : Nat := 0x10000000000000

/-- The value of the sign bit. -/
def signBit : Nat := 0x8000000000000000

/-- Zero. -/
def zero : Double := ⟨0⟩

/-- Infinity. -/
def infinity : Double := ⟨.ofNat infinityBits⟩

/-- A value that is no number. -/
def nan : Double := ⟨0x7ff8000000000000⟩

def isNegative (d : Double) : Bool := signBit ≤ d.bits.toNat

/-- The bits without the sign. -/
def magnitudeBits (d : Double) : Nat := d.bits.toNat % signBit

/-- Whether the double is a number and not infinite. -/
def isFinite (d : Double) : Bool := d.magnitudeBits < infinityBits

def isNaN (d : Double) : Bool := infinityBits < d.magnitudeBits

/-- To compare doubles is to compare numbers: zero is the same with either sign, and what is no
number is not the same as anything, not even as itself. To tell apart what they are made of takes
`=`. -/
instance : BEq Double where
  beq a b := !a.isNaN && !b.isNaN && (a.bits == b.bits || a.magnitudeBits == 0 && b.magnitudeBits == 0)

theorem beq_iff {a b : Double} : (a == b) = true ↔
    a.isNaN = false ∧ b.isNaN = false ∧
      (a.bits = b.bits ∨ a.magnitudeBits = 0 ∧ b.magnitudeBits = 0) := by
  change (_ && _ && _) = true ↔ _
  simp [and_assoc]

instance : PartialEquivBEq Double where
  symm h := by
    rw [beq_iff] at h ⊢
    exact ⟨h.2.1, h.1, h.2.2.imp Eq.symm And.symm⟩
  trans {a b c} h h' := by
    rw [beq_iff] at h h' ⊢
    refine ⟨h.1, h'.2.1, ?_⟩
    rcases h.2.2 with hbits | hzero
    · rw [magnitudeBits, hbits]
      exact h'.2.2
    · rcases h'.2.2 with hbits | hzero'
      · rw [magnitudeBits, magnitudeBits, ← hbits]
        exact .inr hzero
      · exact .inr ⟨hzero.1, hzero'.2⟩

def neg (d : Double) : Double :=
  ⟨.ofNat (if d.isNegative then d.magnitudeBits else d.magnitudeBits + signBit)⟩

/-- The double with the sign set or not. -/
def withSign (negative : Bool) (d : Double) : Double := if negative then d.neg else d

/-! ## Rounding -/

/-- The quotient rounded to the nearest natural number, a tie to the even one. -/
def roundDiv (num den : Nat) : Nat :=
  let quotient := num / den
  let twice := 2 * (num % den)
  if twice < den then quotient
  else if den < twice then quotient + 1
  else quotient + quotient % 2

/-- The greatest exponent `e` with `2 ^ e ≤ num / den`, for positive numbers, moved up by 1074 and
not below zero. -/
def binaryExponent (num den : Nat) : Nat :=
  let guess := num.log2 + 1074 - den.log2
  if num <<< 1074 < den <<< guess then guess - 1 else guess

/-- The double nearest to a quotient; one beyond all doubles is infinite. -/
def ofRatio (num den : Nat) : Double :=
  if num = 0 ∨ den = 0 then zero
  else
    let exponent := binaryExponent num den - 52
    let significand := roundDiv (num <<< 1074) (den <<< exponent)
    ⟨.ofNat (min (exponent * hiddenBit + significand) infinityBits)⟩

/-- The double nearest to a natural number. -/
def ofNat (n : Nat) : Double := ofRatio n 1

/-- The double nearest to an integer. -/
def ofInt (n : Int) : Double := (ofNat n.natAbs).withSign (n < 0)

/-- The double nearest to `digits * 10 ^ exponent`. An exponent so far off that the value is beyond
all doubles, or nearer to zero than to the least of them, is not worked out. -/
def ofDecimal (digits : Nat) (exponent : Int) : Double :=
  let magnitude := (digits.log2 : Int) * 30103 / 100000 + exponent
  if digits = 0 ∨ magnitude < -400 then zero
  else if 400 < magnitude then infinity
  else if 0 ≤ exponent then ofNat (digits * Nat.pow 10 exponent.toNat)
  else ofRatio digits (Nat.pow 10 (-exponent).toNat)

/-! ## Values and arithmetic -/

/-- The magnitude of a finite double times `2 ^ 1074`, which is a natural number. -/
def scaled (d : Double) : Nat :=
  let exponent := d.magnitudeBits / hiddenBit
  if exponent = 0 then d.magnitudeBits
  else (d.magnitudeBits % hiddenBit + hiddenBit) <<< (exponent - 1)

/-- The product of the magnitudes of two finite doubles. -/
def mulMagnitude (a b : Double) : Double := ofRatio (a.scaled * b.scaled) (1 <<< 2148)

/-- The quotient of the magnitudes of two finite doubles. -/
def divMagnitude (a b : Double) : Double := ofRatio a.scaled b.scaled

/-- The natural number that a double exceeds or equals, at most a bound: negative numbers and what
is no number give zero, and infinity gives the bound. -/
def toNatAtMost (bound : Nat) (d : Double) : Nat :=
  if d.isNaN || d.isNegative then 0
  else if d.isFinite then min (d.scaled >>> 1074) bound
  else bound

/-- A natural number times a double, as a double. The product of zero and infinity is no number. -/
def mulNat (n : Nat) (d : Double) : Double :=
  if d.isNaN then nan
  else if d.isFinite && (ofNat n).isFinite then (mulMagnitude (ofNat n) d).withSign d.isNegative
  else if n = 0 then nan
  else infinity.withSign d.isNegative

end Double

end ProxyFleet

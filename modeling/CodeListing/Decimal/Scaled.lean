/-!
# Scaled decimals

A decimal is read into a word of 64 bits and a power of ten. The word takes up digits from the front
as long as they fit; what does not fit is not rounded but left out, and only the places of the
digits that are left out before the point count. The product of the word and the power is then
formed in floating point, so the number that is read is near the decimal but not always nearest.
-/

namespace CodeListing.Decimal

/-- The number `significand · 10^exponent`. -/
structure Scaled where
  significand : Nat
  exponent : Int
  /-- The significand is a number of 64 bits. -/
  significand_lt : significand < UInt64.size
  deriving Repr, DecidableEq

/-! ### Digits -/

/-- The value of a decimal digit. -/
def digitValue (d : Char) : Nat := d.toNat - '0'.toNat

/-- Appends digits to a number of 64 bits as long as they fit, and hands on those that do not. -/
def gather (n : Nat) : List Char → Nat × List Char
  | [] => (n, [])
  | d :: ds =>
    if n * 10 + digitValue d < UInt64.size then gather (n * 10 + digitValue d) ds else (n, d :: ds)

/-- What was gathered is a number of 64 bits. -/
theorem gather_lt {n : Nat} (h : n < UInt64.size) (ds : List Char) :
    (gather n ds).1 < UInt64.size := by
  induction ds generalizing n with
  | nil => exact h
  | cons d ds ih =>
    unfold gather
    split
    · next hfits => exact ih hfits
    · exact h

/-- The decimal with the digits `whole` before the point and `places` after it, times a power of
ten. -/
def Scaled.ofDigits (whole places : List Char) (exponent : Int) : Scaled :=
  let front := gather 0 whole
  let back := gather front.1 places
  { significand := back.1
    exponent := exponent + front.2.length - (places.length - back.2.length)
    significand_lt := gather_lt (gather_lt (by decide) whole) places }

/-! ### Floating point -/

/-- The greatest power of ten that is a double. -/
def greatestPower : Nat := 308

/-- The product of a double and a power of ten, if it is finite. A power too small for a double is
divided by in steps. -/
def scale? (x : Float) (exponent : Int) : Option Float :=
  if exponent.natAbs ≤ greatestPower then
    let power := Float.ofScientific 1 false exponent.natAbs
    if exponent < 0 then some (x / power)
    else if (x * power).isInf then none
    else some (x * power)
  else if x == 0 then some x
  else if 0 ≤ exponent then none
  else scale? (x / Float.ofScientific 1 false greatestPower) (exponent + greatestPower)
termination_by exponent.natAbs
decreasing_by
  simp only [greatestPower] at *
  omega

/-- The double that is read for a decimal, if it is finite. -/
def Scaled.toFloat? (d : Scaled) : Option Float :=
  scale? (UInt64.ofNatLT d.significand d.significand_lt).toFloat d.exponent

end CodeListing.Decimal

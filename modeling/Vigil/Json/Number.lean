import Vigil.Json.Value

/-!
The value of a number from its digits. Up to 64 bits of significant digits are kept; the others
only move the point. The significant digits and the power of ten are rounded each, and their
product or quotient once more.
-/

namespace Vigil.Json

/-- A number as it is written. -/
structure Numeral where
  negative : Bool
  whole : List Char
  fraction : List Char := []
  /-- The sign and the digits of a written exponent. -/
  exponent : Option (Bool × List Char) := none
deriving DecidableEq, Repr

/-- Significant digits read so far, and the power of ten they stand at. -/
structure Significand where
  digits : Nat := 0
  scale : Int := 0
  full : Bool := false
deriving DecidableEq, Repr

namespace Significand

/-- Takes a digit before the point; a digit too many moves the point. -/
def takeWhole (s : Significand) (d : Nat) : Significand :=
  let digits := s.digits * 10 + d
  if s.full ∨ digits ≥ UInt64.size then { s with scale := s.scale + 1, full := true }
  else { s with digits }

/-- Takes a digit after the point; a digit too many is dropped, and so are those behind it. -/
def takeFraction (s : Significand) (d : Nat) : Significand :=
  let digits := s.digits * 10 + d
  if s.full ∨ digits ≥ UInt64.size then { s with full := true }
  else { s with digits, scale := s.scale - 1 }

end Significand

/-- The largest power of ten within the range of floating point numbers. -/
def greatestPower : Nat := 308

/-- Divides by `10 ^ n`, in steps of the greatest power. -/
def divideByPower : Nat → Binary64 → Nat → Option Binary64
  | 0, x, _ => some x
  | fuel + 1, x, n =>
    let power := Binary64.ofQuotient? (tenTo (min n greatestPower)) 1
    match power.bind x.div? with
    | none => none
    | some y =>
      if n ≤ greatestPower ∨ y.mantissa = 0 then some y
      else divideByPower fuel y (n - greatestPower)

/-- The floating point number of some digits at a power of ten, if it is in range. -/
def scaleDigits (digits : Nat) (scale : Int) : Option Binary64 :=
  (Binary64.ofQuotient? digits 1).bind fun x =>
    if scale < 0 then divideByPower (scale.natAbs + 1) x scale.natAbs
    else if scale ≤ greatestPower then (Binary64.ofQuotient? (tenTo scale.toNat) 1).bind x.mul?
    else if digits = 0 then some x
    else none

def digitValue (c : Char) : Nat := c.toNat - '0'.toNat

def digitsValue (ds : List Char) : Nat := ds.foldl (fun n c => n * 10 + digitValue c) 0

/-- A written exponent larger than any that matters stands for all of them. -/
def exponentLimit : Nat := 1 <<< 31

namespace Numeral

/-- The significant digits of a numeral at the power of ten that its exponent leaves. -/
def significand (n : Numeral) : Significand :=
  let whole := n.whole.foldl (fun (s : Significand) c => s.takeWhole (digitValue c)) {}
  n.fraction.foldl (fun (s : Significand) c => s.takeFraction (digitValue c))
    { whole with full := false }

def floatingValue (n : Numeral) : Option JsonNumber :=
  let s := n.significand
  let magnitude :=
    match n.exponent with
    | none => scaleDigits s.digits s.scale
    | some (falling, ds) =>
      let e := digitsValue ds
      if e ≥ exponentLimit then
        if s.digits ≠ 0 ∧ !falling then none else Binary64.ofQuotient? 0 1
      else scaleDigits s.digits (if falling then s.scale - e else s.scale + e)
  magnitude.map (.floating n.negative)

/-- A numeral without point and exponent is a whole number if that has at most 64 bits; zero with a
sign is floating, since only there the sign is kept. -/
def value (n : Numeral) : Option JsonNumber :=
  if n.fraction.isEmpty ∧ n.exponent.isNone then
    let v := digitsValue n.whole
    if n.negative then
      if v ≠ 0 ∧ v ≤ 1 <<< 63 then some (.integer (-v)) else n.floatingValue
    else if v < UInt64.size then some (.integer v) else n.floatingValue
  else n.floatingValue

end Numeral

end Vigil.Json

import Vigil.Text.Letters

/-!
Floating point numbers of 53 significant bits, without sign: rounding of a quotient to the nearest
one, the shortest decimal that rounds back to one, and two ways to write it: positional throughout,
and positional in a middle range with an exponent outside it. Both show by a point that the number
is no integer. All is done on natural numbers.
-/

namespace Vigil

/-- The number `mantissa * 2 ^ exponent`, where the mantissa has at most 53 bits. -/
structure Binary64 where
  mantissa : Nat
  exponent : Int
deriving DecidableEq, Repr

namespace Binary64

def leastExponent : Int := -1074

def greatestExponent : Int := 971

/-- `num / den` in units of `2 ^ e`, as a quotient of natural numbers. -/
def scaled (num den : Nat) (e : Int) : Nat × Nat :=
  if e < 0 then (num <<< (-e).toNat, den) else (num, den <<< e.toNat)

/-- The natural number nearest to `num / den`; a tie goes to the even one. -/
def roundDiv (num den : Nat) : Nat :=
  let q := num / den
  let r := num % den
  if 2 * r > den || (2 * r == den && q % 2 == 1) then q + 1 else q

/-- The exponent at which `num / den` has 53 bits before the point, or the least one. -/
def exponentOf (num den : Nat) : Int :=
  let guess : Int := (num.log2 : Int) - den.log2 - 53
  let (n, d) := scaled num den guess
  max leastExponent (if n / d < 1 <<< 53 then guess else guess + 1)

/-- The floating point number nearest to `num / den`, if that is in range. -/
def ofQuotient? (num den : Nat) : Option Binary64 :=
  if num = 0 then some ⟨0, leastExponent⟩
  else
    let e := exponentOf num den
    let (n, d) := scaled num den e
    let m := roundDiv n d
    let (m, e) := if m = 1 <<< 53 then (1 <<< 52, e + 1) else (m, e)
    if e > greatestExponent then none else some ⟨m, e⟩

/-- The number as a quotient of natural numbers. -/
def quotient (x : Binary64) : Nat × Nat :=
  if x.exponent < 0 then (x.mantissa, 1 <<< (-x.exponent).toNat)
  else (x.mantissa <<< x.exponent.toNat, 1)

def mul? (x y : Binary64) : Option Binary64 :=
  ofQuotient? (x.quotient.1 * y.quotient.1) (x.quotient.2 * y.quotient.2)

/-- The quotient of two numbers of which the second is not zero. -/
def div? (x y : Binary64) : Option Binary64 :=
  ofQuotient? (x.quotient.1 * y.quotient.2) (x.quotient.2 * y.quotient.1)

/-- A decimal `0.d₁d₂… * 10 ^ point`. -/
structure Digits where
  digits : List Char
  point : Int
deriving DecidableEq, Repr

/-- The ends of the interval of reals that round to `x`, and `x` itself, over one denominator. -/
def interval (x : Binary64) : Nat × Nat × Nat × Nat :=
  let below := if x.mantissa = 1 <<< 52 ∧ x.exponent > leastExponent then 1 else 2
  let m := 4 * x.mantissa
  if x.exponent < 0 then (m - below, m, m + 2, 4 <<< (-x.exponent).toNat)
  else
    let s := 1 <<< x.exponent.toNat
    ((m - below) * s, m * s, (m + 2) * s, 4)

/-- The decimal exponent `p` with `10 ^ (p - 1) ≤ num / den < 10 ^ p`, counted from a guess. -/
def pointFrom (num den : Nat) : Nat → Int → Int
  | 0, p => p
  | fuel + 1, p =>
    let reached := if p < 0 then num * tenTo (-p).toNat ≥ den else num ≥ den * tenTo p.toNat
    if reached then pointFrom num den fuel (p + 1) else p

def pointOf (num den : Nat) : Int :=
  let guess : Int := (((num.log2 : Int) - den.log2 - 1) * 30103).fdiv 100000 - 1
  pointFrom num den 8 guess

/-- The decimal of `n` digits nearest to the number, if it rounds back to the number. -/
def withDigits? (x : Binary64) (p : Int) (n : Nat) : Option Nat :=
  let (low, mid, high, den) := x.interval
  let e := p - n
  let (unit, scale) :=
    if e < 0 then (den, tenTo (-e).toNat) else (den * tenTo e.toNat, 1)
  let (low, mid, high) := (low * scale, mid * scale, high * scale)
  let inside := fun k =>
    if x.mantissa % 2 = 0 then low ≤ k * unit ∧ k * unit ≤ high
    else low < k * unit ∧ k * unit < high
  let floor := mid / unit
  let near := roundDiv mid unit
  let far := if near = floor then floor + 1 else floor
  if inside near then some near else if inside far then some far else none

def shortestFrom (x : Binary64) (p : Int) : Nat → Nat → Nat × Nat
  | 0, n => ((x.withDigits? p n).getD 0, n)
  | fuel + 1, n =>
    match x.withDigits? p n with
    | some k => (k, n)
    | none => shortestFrom x p fuel (n + 1)

/-- The fewest digits that round back to a number that is not zero, the nearest of those. -/
def shortest (x : Binary64) : Digits :=
  if x.mantissa = 0 then ⟨['0'], 1⟩
  else
    let (_, mid, _, den) := x.interval
    let p := pointOf mid den
    let (k, n) := shortestFrom x p 16 1
    let digits := Nat.toDigits 10 k
    let trimmed := (digits.reverse.dropWhile (· == '0')).reverse
    ⟨trimmed, p + (digits.length - n)⟩

namespace Digits

def zeros (n : Int) : List Char := List.replicate n.toNat '0'

/-- All digits before and after the point, however many zeros that takes. -/
def positional (d : Digits) : List Char :=
  if d.point ≤ 0 then ['0', '.'] ++ zeros (-d.point) ++ d.digits
  else if d.digits.length ≤ d.point then
    d.digits ++ zeros (d.point - d.digits.length) ++ ['.', '0']
  else d.digits.take d.point.toNat ++ '.' :: d.digits.drop d.point.toNat

def decimalText (n : Int) : List Char := (toString n).toList

def scientific (d : Digits) : List Char :=
  let exponent := 'e' :: decimalText (d.point - 1)
  match d.digits with
  | first :: second :: rest => first :: '.' :: second :: rest ++ exponent
  | digits => digits ++ exponent

/-- Positional from `1e-5` up to `1e16`. -/
def compact (d : Digits) : List Char :=
  if -5 < d.point ∧ d.point ≤ 16 then d.positional else d.scientific

end Digits

end Binary64

end Vigil

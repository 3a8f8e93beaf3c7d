import Vigil.Text.Letters

/-!
Spans of time and their text: the largest unit that is not zero, with the rest as a decimal
fraction that ends in no zero.
-/

namespace Vigil

/-- A span of time in whole nanoseconds. -/
structure Duration where
  nanos : Nat
deriving DecidableEq, Repr

namespace Duration

def ofMillis (ms : Nat) : Duration := ⟨ms * 1000000⟩

def ofSeconds (s : Nat) : Duration := ⟨s * 1000000000⟩

/-- The whole milliseconds of a span. -/
def millis (d : Duration) : Nat := d.nanos / 1000000

/-- The last `places` decimal digits of `n`, the highest first. -/
def lowDigits : Nat → Nat → List Char
  | 0, _ => []
  | places + 1, n => lowDigits places (n / 10) ++ [Nat.digitChar (n % 10)]

def withoutTrailingZeros (digits : List Char) : List Char :=
  (digits.reverse.dropWhile (· == '0')).reverse

/-- The decimal text of `n / 10 ^ places`. -/
def decimal (places n : Nat) : String :=
  match withoutTrailingZeros (lowDigits places n) with
  | [] => toString (n / tenTo places)
  | part => toString (n / tenTo places) ++ "." ++ String.ofList part

def text (d : Duration) : String :=
  if d.nanos ≥ 1000000000 then decimal 9 d.nanos ++ "s"
  else if d.nanos ≥ 1000000 then decimal 6 d.nanos ++ "ms"
  else if d.nanos ≥ 1000 then decimal 3 d.nanos ++ "µs"
  else toString d.nanos ++ "ns"

end Duration

end Vigil

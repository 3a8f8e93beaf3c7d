import Vigil.Binary64
import Vigil.Shape
import Vigil.Text.Letters
import Vigil.Yaml.Tree

/-!
What the text of a scalar stands for: nothing, a truth value, a whole number, a floating point
number, or itself.
-/

namespace Vigil.Yaml

def isNothing (s : String) : Bool := s = "null" ∨ s = "Null" ∨ s = "NULL" ∨ s = "~"

def boolean? (s : String) : Option Bool :=
  if s = "true" ∨ s = "True" ∨ s = "TRUE" then some true
  else if s = "false" ∨ s = "False" ∨ s = "FALSE" then some false
  else none

/-- A number with its sign, which a zero can have too. -/
structure Whole where
  negative : Bool
  magnitude : Nat
deriving DecidableEq, Repr

def splitSign : List Char → Option Char × List Char
  | '+' :: rest => (some '+', rest)
  | '-' :: rest => (some '-', rest)
  | s => (none, s)

/-- Whether all is digits, the first of several a zero: such a text is no number. -/
def hasIdleZero (s : List Char) : Bool :=
  match (splitSign s).2 with
  | '0' :: rest => !rest.isEmpty && rest.all Char.isDigit
  | _ => false

/-- Reads a whole number of any size, in decimal, or after `0x`, `0o` or `0b` in another radix. -/
def whole? (s : List Char) : Option Whole :=
  let (sign, body) := splitSign s
  let magnitude :=
    match body with
    | '0' :: 'x' :: ds => Text.number? 16 ds
    | '0' :: 'o' :: ds => Text.number? 8 ds
    | '0' :: 'b' :: ds => Text.number? 2 ds
    | ds => if hasIdleZero ds then none else Text.number? 10 ds
  magnitude.map fun n => ⟨sign = some '-', n⟩

/-- How a whole number is reported: by its width, if it has at most 128 bits. -/
def Whole.found? (w : Whole) : Option Found :=
  let n : Int := if w.negative then -w.magnitude else w.magnitude
  let wide (type : String) : Found := .other ("integer `" ++ toString n ++ "` as " ++ type)
  if w.negative then
    if w.magnitude ≤ 1 <<< 63 then some (.integer n)
    else if w.magnitude ≤ 1 <<< 127 then some (wide "i128")
    else none
  else if w.magnitude < 1 <<< 64 then some (.integer n)
  else if w.magnitude < 1 <<< 128 then some (wide "u128")
  else none

/-- The floating point number nearest to `digits * 10 ^ scale`, if that is in range. -/
def nearest? (digits : Nat) (scale : Int) : Option Binary64 :=
  if digits = 0 then Binary64.ofQuotient? 0 1
  else if scale > 400 then none
  else if scale < 0 then
    -- So small a number rounds to zero.
    if scale + (Nat.log2 digits : Int) < -400 then Binary64.ofQuotient? 0 1
    else Binary64.ofQuotient? digits (tenTo scale.natAbs)
  else Binary64.ofQuotient? (digits * tenTo scale.toNat) 1

/-- Reads the exponent that ends a number. -/
def exponent? : List Char → Option Int
  | [] => some 0
  | c :: rest =>
    if c = 'e' ∨ c = 'E' then
      let (sign, ds) := splitSign rest
      (Text.number? 10 ds).map fun n => if sign = some '-' then -(n : Int) else n
    else none

/-- Reads digits with an optional point among them and an optional exponent. -/
def decimal? (s : List Char) : Option Binary64 := do
  let (front, rest) := s.span Char.isDigit
  let (back, rest) :=
    match rest with
    | '.' :: rest => rest.span Char.isDigit
    | rest => ([], rest)
  let digits ← Text.number? 10 (front ++ back)
  nearest? digits ((← exponent? rest) - back.length)

/-- The text of the floating point number that a text stands for. -/
def floating? (s : List Char) : Option String :=
  let (sign, body) := splitSign s
  let minus := if sign = some '-' then "-" else ""
  let word := String.ofList body
  if word = ".inf" ∨ word = ".Inf" ∨ word = ".INF" then some (minus ++ "inf")
  else if sign.isNone ∧ (word = ".nan" ∨ word = ".NaN" ∨ word = ".NAN") then some "NaN"
  else (decimal? body).map fun x => minus ++ String.ofList x.shortest.positional

/-- What a plain scalar without tag is. -/
def foundPlain (s : String) : Found :=
  if s = "" ∨ isNothing s then .nothing
  else
    match boolean? s with
    | some b => .boolean b
    | none =>
      match (whole? s.toList).bind Whole.found? with
      | some found => found
      | none =>
        if hasIdleZero s.toList then .string s
        else ((floating? s.toList).map Found.floating).getD (.string s)

/-! ### Tags -/

def coreTag (name : String) : String := "tag:yaml.org,2002:" ++ name

/-- Reports a scalar where something else is expected. A tag that names a type binds the text to
that type, and it is a fault of its own if the text does not fit. -/
def misfit (s : String) (style : Style) (tag : Option String) (expected : String) : ShapeError :=
  let typed (found : Option Found) (name : String) : ShapeError :=
    match found with
    | some found => .invalidType found expected
    | none => .invalidValue (.string s) name
  match tag with
  | none => .invalidType (if style = .plain then foundPlain s else .string s) expected
  | some tag =>
    if tag = coreTag "bool" then typed ((boolean? s).map .boolean) "a boolean"
    else if tag = coreTag "int" then typed ((whole? s.toList).bind Whole.found?) "an integer"
    else if tag = coreTag "float" then typed ((floating? s.toList).map .floating) "a float"
    else if tag = coreTag "null" then typed (if isNothing s then some .nothing else none) "null"
    else if tag.startsWith "!" ∧ style = .plain then .invalidType (foundPlain s) expected
    else .invalidType (.string s) expected

/-- Whether a scalar may be read as a type of some tag: plain text, or a literal block with the
tag. -/
def fits (name : String) (style : Style) (tag : Option String) : Bool :=
  style == .plain || (style == .literal && tag == some (coreTag name))

end Vigil.Yaml

import Vigil.Json.Number
import Vigil.Text.Letters

/-!
The words of a JSON text. The text comes as characters, with a gap for each byte that belongs to
none; only inside a string can a gap be passed over.
-/

namespace Vigil.Json

/-- A character of a text, or a byte that belongs to no character. -/
abbrev Letter := Option Char

inductive Token where
  | openArray
  | closeArray
  | openObject
  | closeObject
  | comma
  | colon
  | null
  | boolean (value : Bool)
  | number (value : Option JsonNumber)
  | string (value : Option String)
  /-- No word starts here. -/
  | stray
deriving DecidableEq, Repr

/-- A string as far as it is read: its characters, the last one first, unless it is no text, and
the first half of a pair of escapes that waits for the second. -/
structure StringSoFar where
  chars : Option (List Char) := some []
  half : Option Nat := none

namespace StringSoFar

def spoil (s : StringSoFar) : StringSoFar := { s with chars := none, half := none }

def push (s : StringSoFar) (c : Char) : StringSoFar :=
  if s.half.isSome then s.spoil else { s with chars := s.chars.map (c :: ·) }

def isFirstHalf (u : Nat) : Bool := 0xd800 ≤ u ∧ u < 0xdc00

def isSecondHalf (u : Nat) : Bool := 0xdc00 ≤ u ∧ u < 0xe000

/-- Takes an escaped unit of 16 bits; the halves of a pair make one character. -/
def pushUnit (s : StringSoFar) (u : Nat) : StringSoFar :=
  match s.half with
  | some first =>
    if isSecondHalf u then
      let c := Char.ofNat (0x10000 + (first - 0xd800) * 0x400 + (u - 0xdc00))
      { chars := s.chars.map (c :: ·), half := none }
    else s.spoil
  | none =>
    if isFirstHalf u then { s with half := some u }
    else if isSecondHalf u then s.spoil
    else s.push (Char.ofNat u)

def finish (s : StringSoFar) : Option String :=
  if s.half.isSome then none else s.chars.map fun cs => String.ofList cs.reverse

end StringSoFar

/-- The unit that four hexadecimal digits stand for. -/
def unit? (a b c d : Char) : Option Nat := Text.number? 16 [a, b, c, d]

/-- What a letter after a backslash stands for. -/
def escape? : Char → Option Char
  | '"' => some '"'
  | '\\' => some '\\'
  | '/' => some '/'
  | 'b' => some '\x08'
  | 'f' => some '\x0c'
  | 'n' => some '\n'
  | 'r' => some '\r'
  | 't' => some '\t'
  | _ => none

/-- Reads a string after its opening quote, up to the closing one. -/
def lexString : StringSoFar → List Letter → Option (Option String × List Letter)
  | _, [] => none
  | s, none :: rest => lexString s.spoil rest
  | s, some '"' :: rest => some (s.finish, rest)
  | s, some '\\' :: some 'u' :: some a :: some b :: some c :: some d :: rest =>
    match unit? a b c d with
    | some u => lexString (s.pushUnit u) rest
    | none => none
  | s, some '\\' :: some e :: rest =>
    match escape? e with
    | some c => lexString (s.push c) rest
    | none => none
  | s, some c :: rest =>
    if c = '\\' ∨ c.val < 0x20 then none else lexString (s.push c) rest

def isDigit (c : Char) : Bool := '0' ≤ c ∧ c ≤ '9'

/-- The digits at the start of a text, the last one first, and the rest. -/
def digitsOnto (ds : List Char) : List Letter → List Char × List Letter
  | some c :: rest => if isDigit c then digitsOnto (c :: ds) rest else (ds, some c :: rest)
  | rest => (ds, rest)

def lexDigits (s : List Letter) : List Char × List Letter :=
  let (ds, rest) := digitsOnto [] s
  (ds.reverse, rest)

/-- The digits before the point: a zero stands alone. -/
def lexWhole (s : List Letter) : Option (List Char × List Letter) :=
  match lexDigits s with
  | ([], _) => none
  | ('0' :: _ :: _, _) => none
  | r => some r

/-- A point and the digits behind it, of which there is at least one. -/
def lexFraction : List Letter → Option (List Char × List Letter)
  | some '.' :: rest =>
    match lexDigits rest with
    | ([], _) => none
    | r => some r
  | rest => some ([], rest)

def lexSign : List Letter → Bool × List Letter
  | some '-' :: rest => (true, rest)
  | some '+' :: rest => (false, rest)
  | rest => (false, rest)

def lexExponent : List Letter → Option (Option (Bool × List Char) × List Letter)
  | some e :: rest =>
    if e = 'e' ∨ e = 'E' then
      let (falling, rest) := lexSign rest
      match lexDigits rest with
      | ([], _) => none
      | (ds, rest) => some (some (falling, ds), rest)
    else some (none, some e :: rest)
  | rest => some (none, rest)

def lexNumeral (negative : Bool) (s : List Letter) : Option (Numeral × List Letter) := do
  let (whole, rest) ← lexWhole s
  let (fraction, rest) ← lexFraction rest
  let (exponent, rest) ← lexExponent rest
  return ({ negative, whole, fraction, exponent }, rest)

/-- Whether a word starts a text, and what is left of the text then. -/
def word? : List Char → List Letter → Option (List Letter)
  | [], rest => some rest
  | c :: cs, some d :: rest => if c = d then word? cs rest else none
  | _ :: _, _ => none

def isBlank (c : Char) : Bool := c = ' ' ∨ c = '\n' ∨ c = '\t' ∨ c = '\r'

/-- The word that starts with a character, and the rest of the text. Where there is none, nothing
of the text is left. -/
def lexWord (c : Char) (rest : List Letter) : Token × List Letter :=
  let orStray : Option (Token × List Letter) → Token × List Letter := (·.getD (.stray, []))
  match c with
  | '[' => (.openArray, rest)
  | ']' => (.closeArray, rest)
  | '\x7b' => (.openObject, rest)
  | '\x7d' => (.closeObject, rest)
  | ',' => (.comma, rest)
  | ':' => (.colon, rest)
  | 'n' => orStray ((word? ['u', 'l', 'l'] rest).map (.null, ·))
  | 't' => orStray ((word? ['r', 'u', 'e'] rest).map (.boolean true, ·))
  | 'f' => orStray ((word? ['a', 'l', 's', 'e'] rest).map (.boolean false, ·))
  | '"' => orStray ((lexString {} rest).map fun (s, rest) => (.string s, rest))
  | '-' => orStray ((lexNumeral true rest).map fun (n, rest) => (.number n.value, rest))
  | c =>
    if isDigit c then
      orStray ((lexNumeral false (some c :: rest)).map fun (n, rest) => (.number n.value, rest))
    else (.stray, [])

/-- The words of a text, put before those already read in reverse. -/
def lexOnto : Nat → List Token → List Letter → List Token
  | 0, read, _ => read
  | _ + 1, read, [] => read
  | _ + 1, read, none :: _ => .stray :: read
  | fuel + 1, read, some c :: rest =>
    if isBlank c then lexOnto fuel read rest
    else
      let (token, rest) := lexWord c rest
      lexOnto fuel (token :: read) rest

/-- The words of a text, up to the first place where there is none. -/
def tokens (s : List Letter) : List Token :=
  (lexOnto (s.length + 1) [] s).reverse

end Vigil.Json

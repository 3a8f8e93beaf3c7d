import Vigil.Binary64
import Vigil.Shape

/-!
Values of a JSON text, as far as the text can be read. The text of a value may break off inside
it; what was read until then is kept, so that the shape of a document can be judged in the order in
which it is written.
-/

namespace Vigil

/-- A number: whole numbers of up to 64 bits are exact, all others are floating. -/
inductive JsonNumber where
  | integer (value : Int)
  | floating (negative : Bool) (magnitude : Binary64)
deriving DecidableEq, Repr

def JsonNumber.text : JsonNumber → String
  | integer value => toString value
  | floating negative magnitude =>
    (if negative then "-" else "") ++ String.ofList magnitude.shortest.compact

/-- A value. A number is absent if it is out of range, and a text is absent if it is no text; that
matters only to who asks for it. -/
inductive Json where
  | null
  | boolean (value : Bool)
  | number (value : Option JsonNumber)
  | string (value : Option String)
  | array (items : List Json) (closed : Bool)
  | object (members : List (Option String × Json)) (closed : Bool)
  | broken
deriving Inhabited, Repr

namespace Json

/-- The record of some named members. -/
def record (members : List (String × Json)) : Json :=
  object (members.map fun (key, value) => (some key, value)) true

def text (s : String) : Json := string (some s)

/-- Whether the text of the value is complete: it breaks off nowhere but at its end. -/
def isWhole : Json → Bool
  | array _ closed => closed
  | object _ closed => closed
  | broken => false
  | _ => true

def quotedChar (c : Char) : List Char :=
  if c = '"' then ['\\', '"']
  else if c = '\\' then ['\\', '\\']
  else if c = '\x08' then ['\\', 'b']
  else if c = '\x0c' then ['\\', 'f']
  else if c = '\n' then ['\\', 'n']
  else if c = '\r' then ['\\', 'r']
  else if c = '\t' then ['\\', 't']
  else if c.val < 0x20 then
    ['\\', 'u', '0', '0', Nat.digitChar (c.toNat / 16), Nat.digitChar (c.toNat % 16)]
  else [c]

/-- The text between its quotes: quotes, backslashes and control characters are escaped. -/
def quoted (s : String) : List Char :=
  '"' :: s.toList.flatMap quotedChar ++ ['"']

mutual

/-- The compact text of a value, without blanks. -/
def render : Json → List Char
  | null => ['n', 'u', 'l', 'l']
  | boolean true => ['t', 'r', 'u', 'e']
  | boolean false => ['f', 'a', 'l', 's', 'e']
  | number value => ((value.map JsonNumber.text).getD "").toList
  | string value => quoted (value.getD "")
  | array items _ => '[' :: renderItems items ++ [']']
  | object members _ => '\x7b' :: renderMembers members ++ ['\x7d']
  | broken => []

def renderItems : List Json → List Char
  | [] => []
  | [item] => render item
  | item :: rest => render item ++ ',' :: renderItems rest

def renderMembers : List (Option String × Json) → List Char
  | [] => []
  | [(key, value)] => quoted (key.getD "") ++ ':' :: render value
  | (key, value) :: rest =>
    quoted (key.getD "") ++ ':' :: render value ++ ',' :: renderMembers rest

end

end Json

end Vigil

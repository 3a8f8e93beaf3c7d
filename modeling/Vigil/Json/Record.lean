import Vigil.Json.Parse
import Vigil.Record

/-!
Reading values of a known shape. A document is judged in the order in which it is written, so that
of two faults the earlier one is reported. A record is an object whose known keys occur once, or an
array of its fields in their order; keys that are not known are passed over.
-/

namespace Vigil.Json

/-- What a value is; a value that can not be read in full is nothing that could be named. -/
def found? : Json → Option Found
  | null => some .nothing
  | boolean b => some (.boolean b)
  | number n => n.map fun
    | .integer i => .integer i
    | n@(.floating ..) => .floating n.text
  | string s => s.map .string
  | array .. => some .sequence
  | object .. => some .map
  | broken => none

def mismatch {α : Type} (v : Json) (expected : String) : Read α :=
  match v.found? with
  | some found => Read.wrong (.invalidType found expected)
  | none => .error .unreadable

def readString : Json → Read String
  | string (some s) => .ok s
  | v => v.mismatch "a string"

/-- Reads a value that may be null. -/
def readOptional {α : Type} (read : Json → Read α) : Json → Read (Option α)
  | null => .ok none
  | v => some <$> read v

abbrev Field (σ : Type) := Vigil.Field Json σ

def member : Option String × Json → Member Json
  | (key, value) =>
    match key with
    | some key => ⟨.ok key, .field key, value⟩
    | none => ⟨.error .unreadable, .unnamed, value⟩

section

variable {σ : Type}

def elements (n : Nat) : String := toString n ++ (if n = 1 then " element" else " elements")

/-- Reads items as the fields in their order; `short` is the error for too few of them. -/
def readItems (short : Nat → ShapeError) (closed : Bool) :
    Nat → List (Field σ) → List Json → σ → Read σ
  | _, [], items, s => if items.isEmpty && closed then .ok s else .error .unreadable
  | i, field :: fields, [], s =>
    if !closed then .error .unreadable
    else if field.optional then readItems short closed (i + 1) fields [] s
    else Read.wrong (short i)
  | i, field :: fields, item :: items, s =>
    match (field.read item).inside (.item i) with
    | .ok set => readItems short closed (i + 1) fields items (set s)
    | .error e => .error e

/-- Reads a record, starting from one in which the optional fields have their default. -/
def readRecord (name : String) (fields : List (Field σ)) (start : σ) (v : Json) : Read σ :=
  let expected := "struct " ++ name
  match v with
  | object members closed => readFields isWhole fields (members.map member) closed start
  | array items closed =>
    let short (n : Nat) := .invalidLength n (expected ++ " with " ++ elements fields.length)
    readItems short closed 0 fields items start
  | v => v.mismatch expected

end

mutual

/-- Whether a value can be read in full, when it may nest arrays and objects to some depth. -/
def isReadable : Nat → Json → Bool
  | _, null | _, boolean _ => true
  | _, number n => n.isSome
  | _, string s => s.isSome
  | 0, array .. | 0, object .. => false
  | depth + 1, array items closed => areReadable depth items && closed
  | depth + 1, object members closed => membersReadable depth members && closed
  | _, broken => false

def areReadable : Nat → List Json → Bool
  | _, [] => true
  | depth, item :: rest => isReadable depth item && areReadable depth rest

def membersReadable : Nat → List (Option String × Json) → Bool
  | _, [] => true
  | depth, (key, value) :: rest =>
    key.isSome && isReadable depth value && membersReadable depth rest

end

/-- The value of a text that holds one value and nothing else. -/
def readText {α : Type} (read : Json → Read α) (s : List Letter) : Read α :=
  let (v, alone) := parse s
  match read v with
  | .error e => .error e
  | .ok a => if alone then .ok a else .error .unreadable

end Vigil.Json

import Vigil.Text.Quoted

/-!
How a document can be well written and still not be what was asked for: the cause, the place in
the document, and the text of both. Documents of every format share these causes.
-/

namespace Vigil

/-- What stood in a document where something else was expected. -/
inductive Found where
  | nothing
  | boolean (value : Bool)
  | integer (value : Int)
  | floating (text : String)
  | string (text : String)
  | sequence
  | map
  | other (text : String)
deriving DecidableEq, Repr

/-- The format has its own word for the value that is no value. -/
def Found.text (nothingWord : String) : Found → String
  | nothing => nothingWord
  | boolean value => "boolean `" ++ toString value ++ "`"
  | integer value => "integer `" ++ toString value ++ "`"
  | floating text => "floating point `" ++ text ++ "`"
  | string text => "string " ++ Text.quoted text
  | sequence => "sequence"
  | map => "map"
  | other text => text

inductive ShapeError where
  | invalidType (found : Found) (expected : String)
  | invalidValue (found : Found) (expected : String)
  | invalidLength (length : Nat) (expected : String)
  | missingField (name : String)
  | duplicateField (name : String)
  | unknownVariant (name : String) (known : List String)
deriving DecidableEq, Repr

namespace ShapeError

def tick (s : String) : String := "`" ++ s ++ "`"

def text (nothingWord : String) : ShapeError → String
  | invalidType found expected =>
    "invalid type: " ++ found.text nothingWord ++ ", expected " ++ expected
  | invalidValue found expected =>
    "invalid value: " ++ found.text nothingWord ++ ", expected " ++ expected
  | invalidLength length expected =>
    "invalid length " ++ toString length ++ ", expected " ++ expected
  | missingField name => "missing field " ++ tick name
  | duplicateField name => "duplicate field " ++ tick name
  | unknownVariant name known =>
    "unknown variant " ++ tick name ++ ", expected one of " ++ ", ".intercalate (known.map tick)

end ShapeError

/-- One step from a value of a document to a value inside it. -/
inductive Place where
  | field (name : String)
  | item (index : Nat)
  | unnamed
deriving DecidableEq, Repr

namespace Place

def pathFrom (written : String) : List Place → String
  | [] => written
  | item index :: rest => pathFrom (written ++ "[" ++ toString index ++ "]") rest
  | field name :: rest => pathFrom (after written ++ name) rest
  | unnamed :: rest => pathFrom (after written ++ "?") rest
where
  after (written : String) : String := if written.isEmpty then "" else written ++ "."

/-- The places from the root inwards; the root itself has the empty path. -/
def path : List Place → String := pathFrom ""

end Place

/-- Why a document yields no value: its text breaks off or breaks a rule of the format, or its
shape is wrong somewhere. -/
inductive ReadError where
  | unreadable
  | misshapen (place : List Place) (cause : ShapeError)
deriving DecidableEq, Repr

/-- A wrong shape is reported with the place that it was found at. -/
def ReadError.text (nothingWord : String) : ReadError → String
  | unreadable => "the document breaks a rule of its format"
  | misshapen place cause =>
    let path := Place.path place
    (if path.isEmpty then "" else path ++ ": ") ++ cause.text nothingWord

abbrev Read (α : Type) := Except ReadError α

namespace Read

def wrong {α : Type} (cause : ShapeError) : Read α := .error (.misshapen [] cause)

/-- Reads a part of a document: a wrong shape in it is reported at its place. -/
def inside {α : Type} (place : Place) : Read α → Read α
  | .error (.misshapen rest cause) => .error (.misshapen (place :: rest) cause)
  | r => r

end Read

end Vigil

import Vigil.Record
import Vigil.Yaml.Scalar

/-!
Reading values of a known shape from a document. A record is a mapping; where a record or a sequence
is expected, a node that is left out is an empty one. An alias stands for the node with its anchor.
-/

namespace Vigil.Yaml

/-- Whether the text of a node is complete: it breaks off nowhere but at its end. -/
def isWhole : Yaml → Bool
  | sequence _ closed => closed
  | mapping _ closed => closed
  | anchored _ node => node.isWhole
  | cut => false
  | _ => true

mutual

/-- The nodes of a document with an anchor, in their order. -/
def anchors : Yaml → List (Nat × Yaml)
  | anchored n node => (n, node) :: anchors node
  | sequence items _ => anchorsOfItems items
  | mapping entries _ => anchorsOfEntries entries
  | _ => []

def anchorsOfItems : List Yaml → List (Nat × Yaml)
  | [] => []
  | item :: rest => anchors item ++ anchorsOfItems rest

def anchorsOfEntries : List (Yaml × Yaml) → List (Nat × Yaml)
  | [] => []
  | (key, value) :: rest => anchors key ++ anchors value ++ anchorsOfEntries rest

end

/-- The nodes that aliases stand for. The last one of a number counts. -/
abbrev Anchors := List (Nat × Yaml)

variable (known : Anchors)

/-- The node itself that stands at some place. -/
def resolve : Yaml → Yaml
  | repeated n => (known.lookup n).getD cut
  | anchored _ node => node
  | node => node

def mismatch {α : Type} (expected : String) : Yaml → Read α
  | scalar text style tag => Read.wrong (misfit text style tag expected)
  | sequence .. => Read.wrong (.invalidType .sequence expected)
  | mapping .. => Read.wrong (.invalidType .map expected)
  | _ => .error .unreadable

def isOmitted : Yaml → Bool
  | scalar text style _ => text = "" ∧ style = .plain
  | absent => true
  | _ => false

/-- Every scalar can be read as its text. -/
def readTextAs (expected : String) (v : Yaml) : Read String :=
  match resolve known v with
  | scalar text _ _ => .ok text
  | v => v.mismatch expected

def readString (v : Yaml) : Read String := readTextAs known "a string" v

def readBool (v : Yaml) : Read Bool :=
  match resolve known v with
  | v@(scalar text style tag) =>
    match if fits "bool" style tag then boolean? text else none with
    | some b => .ok b
    | none => v.mismatch "a boolean"
  | v => v.mismatch "a boolean"

/-- Reads a natural number below a power of two of at most 64 bits. -/
def readNat (bits : Nat) (v : Yaml) : Read Nat :=
  let expected := "u" ++ toString bits
  match resolve known v with
  | v@(scalar text style tag) =>
    match if fits "int" style tag then whole? text.toList else none with
    | some ⟨false, n⟩ =>
      if n < 1 <<< bits then .ok n
      else if n < UInt64.size then Read.wrong (.invalidValue (.integer n) expected)
      else v.mismatch expected
    | _ => v.mismatch expected
  | v => v.mismatch expected

/-- Whether a node stands for no value. -/
def isNone (v : Yaml) : Bool :=
  match resolve known v with
  | scalar text .plain none => text = "" || isNothing text
  | scalar text .plain (some tag) => tag = coreTag "null" && isNothing text
  | absent => true
  | _ => false

/-- Reads a node that may stand for no value. -/
def readOptional {α : Type} (read : Yaml → Read α) (v : Yaml) : Read (Option α) :=
  if isNone known v then .ok none else some <$> read v

/-- A text whose tag says that it stands for no value, and which does not. -/
def falseNone? (v : Yaml) : Option ShapeError :=
  match resolve known v with
  | scalar text .plain (some tag) =>
    if tag = coreTag "null" && !isNothing text then some (.invalidValue (.string text) "null")
    else none
  | _ => none

/-- Reads the items of a sequence, each at its place. -/
def readItems {α : Type} (read : Yaml → Read α) : Nat → List Yaml → Read (List α)
  | _, [] => .ok []
  | i, item :: rest => do
    let a ← (read item).inside (.item i)
    return a :: (← readItems read (i + 1) rest)

def readSequence {α : Type} (read : Yaml → Read α) (v : Yaml) : Read (List α) :=
  match resolve known v with
  | sequence items closed => do
    let as ← readItems read 0 items
    if closed then return as else .error .unreadable
  | v => if v.isOmitted then .ok [] else v.mismatch "a sequence"

/-- The key of an entry names its place, unless the key is an alias. -/
def member : Yaml × Yaml → Member Yaml
  | (key, value) =>
    let place : Place :=
      match key with
      | scalar text _ _ | anchored _ (scalar text _ _) => .field text
      | _ => .unnamed
    ⟨readTextAs known "field identifier" key, place, value⟩

def readRecord {σ : Type} (name : String) (fields : List (Field Yaml σ)) (start : σ) (v : Yaml) :
    Read σ :=
  match resolve known v with
  | mapping entries closed => readFields isWhole fields (entries.map (member known)) closed start
  | v =>
    if v.isOmitted then readFields isWhole fields [] true start
    else v.mismatch ("struct " ++ name)

/-- The value of a text that holds one document and nothing else. -/
def readText {α : Type} (read : Anchors → Yaml → Read α) (s : List Char) : Read α :=
  let document := parse s
  match read document.root.anchors.reverse document.root with
  | .error e => .error e
  | .ok a => if document.alone then .ok a else .error .unreadable

end Vigil.Yaml

import Vigil.Shape

/-!
Reading a record from the named members of a document, in the order in which they are written.
Every known key may occur once; members with other keys are passed over.
-/

namespace Vigil

/-- One field of a record: how its value changes the record that is being read. -/
structure Field (ν σ : Type) where
  name : String
  read : ν → Read (σ → σ)
  optional : Bool := false
  /-- A fault of the value that is reported of the record and not of the field. -/
  fault? : ν → Option ShapeError := fun _ => none

/-- A member of a document: its key, if that can be read, and the place that its value is at. -/
structure Member (ν : Type) where
  key : Read String
  place : Place
  value : ν

section

variable {ν σ : Type} (isWhole : ν → Bool) (fields : List (Field ν σ))

/-- Reads members in their order; tells which fields were there. -/
def readMembers : List (Member ν) → List String → σ → Read (List String × σ)
  | [], seen, s => .ok (seen, s)
  | m :: rest, seen, s =>
    match m.key with
    | .error e => .error e
    | .ok key =>
      match fields.find? (·.name == key) with
      | none => if isWhole m.value then readMembers rest seen s else .error .unreadable
      | some field =>
        if key ∈ seen then Read.wrong (.duplicateField key)
        else
          match field.fault? m.value, (field.read m.value).inside m.place with
          | some fault, _ => Read.wrong fault
          | none, .ok set => readMembers rest (key :: seen) (set s)
          | none, .error e => .error e

/-- Reads all members, which may break off, onto a record in which the optional fields have their
default. -/
def readFields (members : List (Member ν)) (closed : Bool) (start : σ) : Read σ :=
  match readMembers isWhole fields members [] start with
  | .error e => .error e
  | .ok (seen, s) =>
    if !closed then .error .unreadable
    else
      match fields.find? fun field => !field.optional && field.name ∉ seen with
      | some field => Read.wrong (.missingField field.name)
      | none => .ok s

end

end Vigil

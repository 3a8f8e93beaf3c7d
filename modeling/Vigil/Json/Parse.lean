import Vigil.Json.Token

/-!
From words to values. The parser keeps the arrays and objects it is inside of; where the text
breaks off or goes wrong, it closes them as they are and marks them as not closed.
-/

namespace Vigil.Json

/-- An array or object that is being read, its parts in reverse. An object that waits for a value
holds the key of it. -/
inductive Frame where
  | array (items : List Json)
  | object (members : List (Option String × Json)) (key : Option (Option String))

/-- What can stand next. -/
inductive Expected where
  | value
  | itemOrEnd
  | memberOrEnd
  | member
  | colon
  | more
deriving DecidableEq

/-- Closes what is open, when the text goes on no further; `last` is the value that was still being
read, if any. -/
def cutShort : List Frame → Option Json → Json
  | [], last => last.getD .broken
  | .array items :: outer, last =>
    cutShort outer (some (.array (last.toList ++ items).reverse false))
  | .object members none :: outer, _ => cutShort outer (some (.object members.reverse false))
  | .object members (some key) :: outer, last =>
    cutShort outer (some (.object ((key, last.getD .broken) :: members).reverse false))

/-- Puts a complete value into the innermost open array or object. -/
def settle (v : Json) : List Frame → List Frame
  | .array items :: outer => .array (v :: items) :: outer
  | .object members (some key) :: outer => .object ((key, v) :: members) none :: outer
  | frames => frames

/-- The first value of a list of words, and whether nothing follows it. -/
def build : List Token → List Frame → Expected → Json × Bool
  | [], frames, .value => (cutShort frames (some .broken), false)
  | [], frames, _ => (cutShort frames none, false)
  | token :: rest, frames, expected =>
    let complete (v : Json) (outer : List Frame) : Json × Bool :=
      match outer with
      | [] => (v, rest.isEmpty)
      | outer => build rest (settle v outer) .more
    let value : Json × Bool :=
      match token with
      | .null => complete .null frames
      | .boolean b => complete (.boolean b) frames
      | .number n => complete (.number n) frames
      | .string s => complete (.string s) frames
      | .openArray => build rest (.array [] :: frames) .itemOrEnd
      | .openObject => build rest (.object [] none :: frames) .memberOrEnd
      | _ => (cutShort frames (some .broken), false)
    let key : Json × Bool :=
      match token, frames with
      | .string s, .object members _ :: outer =>
        build rest (.object members (some s) :: outer) .colon
      | _, _ => (cutShort frames none, false)
    match expected with
    | .value => value
    | .itemOrEnd =>
      match token, frames with
      | .closeArray, .array items :: outer => complete (.array items.reverse true) outer
      | _, _ => value
    | .memberOrEnd =>
      match token, frames with
      | .closeObject, .object members _ :: outer => complete (.object members.reverse true) outer
      | _, _ => key
    | .member => key
    | .colon =>
      if token = .colon then build rest frames .value else (cutShort frames (some .broken), false)
    | .more =>
      match token, frames with
      | .comma, .array items :: outer => build rest (.array items :: outer) .value
      | .comma, .object members key :: outer => build rest (.object members key :: outer) .member
      | .closeArray, .array items :: outer => complete (.array items.reverse true) outer
      | .closeObject, .object members _ :: outer => complete (.object members.reverse true) outer
      | _, _ => (cutShort frames none, false)

/-- The value of a text, and whether the text holds nothing else. -/
def parse (s : List Letter) : Json × Bool :=
  build (tokens s) [] .value

end Vigil.Json

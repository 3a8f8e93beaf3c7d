/-!
Media types, as the header that names the type of a body holds them: a type, a subtype, perhaps with
a suffix behind a plus sign, and parameters.
-/

namespace Vigil.Http

/-- The characters of names in headers, methods and media types. -/
def isTokenChar (c : Char) : Bool := c.isAlphanum || "!#$%&'*+-.^_`|~".contains c

/-- A media type in lower case, without its parameters. -/
structure MediaType where
  type : String
  subtype : String
  /-- What follows the last plus sign of the subtype. -/
  suffix : Option String
deriving DecidableEq, Repr

namespace MediaType

/-- Reads a parameter's value between quotes; it has at least one character. -/
def skipQuoted : Bool → List Char → Option (List Char)
  | _, [] => none
  | first, c :: rest =>
    if c = '"' ∧ !first then some rest
    else if c.val < 0x20 ∨ c = '\x7f' then none
    else skipQuoted false rest

/-- Passes a parameter's value and the semicolon behind it. -/
def skipValue (s : List Char) : Option (List Char) :=
  let next : List Char → Option (List Char)
    | [] => some []
    | c :: rest => if c = ';' then some rest else none
  match s with
  | '"' :: rest => (skipQuoted true rest).bind fun s => next (s.dropWhile (· = ' '))
  | s =>
    let value := s.takeWhile isTokenChar
    if value.isEmpty && !s.isEmpty then none else next (s.drop value.length)

/-- Whether all is well-formed parameters; the last one may be missing. -/
def areParameters : Nat → List Char → Bool
  | 0, _ => false
  | fuel + 1, s =>
    let s := s.dropWhile (· = ' ')
    if s.isEmpty then true
    else
      let name := s.takeWhile isTokenChar
      match s.drop name.length with
      | '=' :: rest =>
        match if name.isEmpty then none else skipValue rest with
        | some rest => areParameters fuel rest
        | none => false
      | _ => false

/-- The characters before and after the last plus sign, which is not the first character. -/
def splitSuffix (s : List Char) : List Char × Option (List Char) :=
  let after := s.reverse.takeWhile (· ≠ '+')
  if after.length + 1 < s.length then
    (s.take (s.length - after.length - 1), some after.reverse)
  else (s, none)

/-- Reads what a header says; that is ASCII. -/
def parse? (header : String) : Option MediaType :=
  let lower (s : List Char) : String := String.ofList (s.map Char.toLower)
  let (type, rest) := header.toList.span isTokenChar
  match rest with
  | '/' :: rest =>
    let (name, rest) := rest.span isTokenChar
    let parameters :=
      match rest with
      | [] => some []
      | ';' :: ps => if name.isEmpty then none else some ps
      | _ => none
    if type.isEmpty || header.any (· > '~') then none
    else
      match parameters with
      | some ps =>
        let (subtype, suffix) := splitSuffix name
        if areParameters (ps.length + 1) ps then
          some ⟨lower type, lower subtype, suffix.map lower⟩
        else none
      | none => none
  | _ => none

/-- Whether the body is JSON, or of a type that is written as JSON. -/
def isJson (m : MediaType) : Bool :=
  m.type = "application" ∧ (m.subtype = "json" ∨ m.suffix = some "json")

end MediaType

end Vigil.Http

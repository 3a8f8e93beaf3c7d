import Vigil.Http.MediaType

/-!
The target of a request: a path with a query, an absolute URL, or an authority alone; and the path
that it leads to.
-/

namespace Vigil.Http

/-- The characters that stand unescaped in a path, or are let through there. -/
def isPathChar (c : Char) : Bool :=
  c.val ≥ 0x7f || (c.val > 0x20 && !"#<>?`".contains c)

def isQueryChar (c : Char) : Bool :=
  c.val ≥ 0x7f || (c.val > 0x20 && !"\"#<>".contains c)

/-- The path of a path with a query and a fragment, if it is well-formed. -/
def path? (s : List Char) : Option String :=
  let (path, rest) := s.span isPathChar
  let rest :=
    match rest with
    | '?' :: query => query.dropWhile isQueryChar
    | rest => rest
  match rest with
  | [] | '#' :: _ => some (if path.isEmpty then "/" else String.ofList path)
  | _ => none

/-- The characters of a host and what may stand before and behind it. -/
def isAuthorityChar (c : Char) : Bool := c.isAlphanum || "!$&'()*+,;=-._~:@[]%".contains c

structure AuthorityScan where
  colons : Nat := 0
  opened : Bool := false
  closed : Bool := false
  percent : Bool := false
  /-- Whether the last character ended a user's name. -/
  bare : Bool := false

/-- Checks an authority character by character. Colons of an address in brackets and of a user's
name do not count. -/
def scanAuthority : AuthorityScan → List Char → Option AuthorityScan
  | a, [] => some a
  | a, c :: rest =>
    let a := { a with bare := c = '@' }
    if c = ':' then
      if a.colons ≥ 8 then none else scanAuthority { a with colons := a.colons + 1 } rest
    else if c = '[' then
      if a.percent || a.opened then none else scanAuthority { a with opened := true } rest
    else if c = ']' then
      if !a.opened || a.closed then none
      else scanAuthority { a with closed := true, colons := 0, percent := false } rest
    else if c = '@' then scanAuthority { a with colons := 0, percent := false } rest
    else if c = '%' then scanAuthority { a with percent := true } rest
    else scanAuthority a rest

def isAuthority (s : List Char) : Bool :=
  (scanAuthority {} s).any fun a => a.opened == a.closed && a.colons ≤ 1 && !a.bare && !a.percent

def isSchemeChar (c : Char) : Bool := c.isAlphanum || "+-.~".contains c

/-- What follows the scheme of an absolute URL. -/
inductive Scheme where
  | absent
  | followedBy (rest : List Char)
  | tooLong

def splitScheme (s : List Char) : Scheme :=
  let name := s.takeWhile isSchemeChar
  match s.drop name.length with
  | ':' :: '/' :: '/' :: rest =>
    if s.length ≤ 3 then .absent
    else if name.length > 64 then .tooLong
    else .followedBy rest
  | _ => .absent

def longestTarget : Nat := 65534

/-- The path that a target leads to; an authority alone has the empty one. -/
def targetPath? (target : String) : Option String :=
  let s := target.toList
  if target.utf8ByteSize > longestTarget then none
  else
    match s with
    | [] => none
    | ['*'] => some "*"
    | '/' :: _ => path? s
    | s =>
      match splitScheme s with
      | .tooLong => none
      | .absent => if s.all isAuthorityChar && isAuthority s then some "" else none
      | .followedBy rest =>
        let (authority, rest) := rest.span fun c => !"/?#".contains c
        if !authority.isEmpty && authority.all isAuthorityChar && isAuthority authority then
          path? rest
        else none

end Vigil.Http

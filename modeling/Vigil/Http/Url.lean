import Vigil.Text.Letters

/-!
Which addresses can be asked over HTTP: a scheme, a host that is a name or an address, perhaps a
port, and a path.
-/

namespace Vigil.Http.Url

/-- The parts of a text between separators. -/
def parts (separator : Char) : List Char → List (List Char)
  | [] => [[]]
  | c :: rest =>
    match parts separator rest with
    | [] => [[c]]
    | part :: others => if c = separator then [] :: part :: others else (c :: part) :: others

/-- Reads what percent signs escape. What they escape beyond ASCII is part of a name in any case. -/
def unescape : List Char → List Char
  | [] => []
  | '%' :: a :: b :: rest =>
    match Text.number? 16 [a, b] with
    | some n => Char.ofNat n :: unescape rest
    | none => '%' :: unescape (a :: b :: rest)
  | c :: rest => c :: unescape rest

/-- The characters that no host name has. -/
def isForbidden (c : Char) : Bool :=
  c.val ≤ 0x20 || c = '\x7f' || "#/:<>?@[\\]^|%".contains c

/-- A part of a numeric address: decimal, hexadecimal or octal. -/
def addressPart? : List Char → Option Nat
  | '0' :: x :: rest =>
    if x = 'x' ∨ x = 'X' then (if rest.isEmpty then some 0 else Text.number? 16 rest)
    else Text.number? 8 (x :: rest)
  | s => Text.number? 10 s

/-- Whether parts of a host make up a numeric address of 32 bits; the last part may stand for
several. -/
def isNumericAddress (labels : List (List Char)) : Bool :=
  match labels.mapM addressPart?, labels.length with
  | some ns, n =>
    n ≤ 4 && ns.dropLast.all (· < 256) && ns.getLast?.any (· < 1 <<< (8 * (5 - n)))
  | none, _ => false

/-- Whether a host is a name, or a numeric address if its last part is a number. -/
def isNamedHost (s : List Char) : Bool :=
  let name := unescape s
  let labels := parts '.' name
  let labels := if labels.length > 1 && labels.getLast? == some [] then labels.dropLast else labels
  let last := labels.getLast?.getD []
  !name.isEmpty && !name.any isForbidden &&
    if (!last.isEmpty && last.all Char.isDigit) || (addressPart? last).isSome then
      isNumericAddress labels
    else true

/-- How many groups of 16 bits some groups make up; the last one may be a dotted address. -/
def groups? : List (List Char) → Option Nat
  | [] => some 0
  | [s] =>
    if s.contains '.' then
      let ns := (parts '.' s).map (Text.number? 10)
      if ns.length = 4 ∧ ns.all fun n => n.any (· < 256) then some 2 else none
    else if s.length ≤ 4 ∧ (Text.number? 16 s).isSome then some 1 else none
  | s :: rest =>
    if s.length ≤ 4 ∧ (Text.number? 16 s).isSome then (groups? rest).map (· + 1) else none

/-- Splits an address of groups where groups of zeros are left out. -/
def splitZeros : List Char → Option (List Char × List Char)
  | ':' :: ':' :: rest => some ([], rest)
  | c :: rest => (splitZeros rest).map fun (front, back) => (c :: front, back)
  | [] => none

/-- Whether the text between brackets is an address of eight groups. -/
def isGroupedAddress (s : List Char) : Bool :=
  let count (s : List Char) : Option Nat := if s.isEmpty then some 0 else groups? (parts ':' s)
  match splitZeros s with
  | none => count s == some 8
  | some (front, back) =>
    match count front, count back with
    | some m, some n => m + n < 8 && !front.contains '.'
    | _, _ => false

def isPort (s : List Char) : Bool := s.isEmpty || (Text.number? 10 s).any (· < 65536)

/-- Whether a host is followed by a port or by nothing. -/
def isHostAndPort (s : List Char) : Bool :=
  match s with
  | '[' :: rest =>
    let (address, rest) := rest.span (· ≠ ']')
    match rest with
    | [_] => isGroupedAddress address
    | _ :: ':' :: port => isGroupedAddress address && isPort port
    | _ => false
  | s =>
    let (host, rest) := s.span (· ≠ ':')
    isNamedHost host && isPort (rest.drop 1)

/-- What follows the last sign that ends a user's name. -/
def afterUser (s : List Char) : List Char := (s.reverse.takeWhile (· ≠ '@')).reverse

def isSlash (c : Char) : Bool := c = '/' ∨ c = '\\'

/-- The parts of a URL: its scheme, who is asked, and what is asked for there. -/
structure Parts where
  scheme : String
  authority : List Char
  target : List Char

/-- Takes a URL apart, if it has a scheme. Slashes before the authority may be many or few, and
space around the URL is no part of it. -/
def parts? (url : String) : Option Parts :=
  let blank (c : Char) : Bool := c.val ≤ 0x20
  let s := ((url.toList.dropWhile blank).reverse.dropWhile blank).reverse
  let s := s.filter fun c => !"\t\n\r".contains c
  match s.span (· ≠ ':') with
  | (_, []) => none
  | (scheme, _ :: rest) =>
    let (authority, target) := (rest.dropWhile isSlash).span fun c => !"/\\?#".contains c
    some ⟨(String.ofList scheme).toLower, afterUser authority, target⟩

/-- Whether an address can be asked. -/
def isRequestable (url : String) : Bool :=
  (parts? url).any fun p =>
    (p.scheme == "http" || p.scheme == "https") && isHostAndPort p.authority

/-- Where a URL leads. -/
structure Endpoint where
  host : String
  port : UInt16
  target : String
deriving DecidableEq, Repr

/-- The endpoint that a URL without encryption leads to. -/
def endpoint? (url : String) : Option Endpoint := do
  let p ← parts? url
  if p.scheme ≠ "http" || !isHostAndPort p.authority then none
  else
    let (host, rest) :=
      match p.authority with
      | '[' :: rest => let (host, rest) := rest.span (· ≠ ']'); (host, rest.drop 1)
      | s => s.span (· ≠ ':')
    let port := (Text.number? 10 (rest.drop 1)).getD 80
    let target := p.target.takeWhile (· ≠ '#')
    let target :=
      match target with
      | '/' :: _ => target
      | _ => '/' :: target
    return ⟨String.ofList (unescape host), .ofNat port, String.ofList target⟩

end Vigil.Http.Url

import Vigil.Http.Target

/-!
Requests and responses.
-/

namespace Vigil.Http

structure Request where
  method : String
  path : String
  headers : List (String × String) := []
  body : ByteArray := .empty

def isToken (s : String) : Bool := !s.isEmpty && s.toList.all isTokenChar

def isHeaderValue (s : String) : Bool :=
  s.toList.all fun c => c = '\t' || (c.val ≥ 0x20 && c ≠ '\x7f')

/-- The first header of a name, which has no case. -/
def header? (headers : List (String × String)) (name : String) : Option String :=
  (headers.find? fun (n, _) => n.toLower == name).map (·.2)

namespace Request

/-- A request from what its first line and its headers say, if they are well-formed. -/
def build? (method target : String) (headers : List (String × String)) (body : ByteArray) :
    Option Request :=
  if isToken method && headers.all fun (name, value) => isToken name && isHeaderValue value then
    (targetPath? target).map fun path => { method, path, headers, body }
  else none

/-- Whether the body is said to be JSON. -/
def hasJson (r : Request) : Bool :=
  (header? r.headers "content-type").any fun value => (MediaType.parse? value).any MediaType.isJson

end Request

structure Response where
  status : Nat
  contentType : Option String := none
  /-- The methods that the path has, where the method of the request is none of them. -/
  allow : Option String := none
  body : String := ""
deriving DecidableEq, Repr

namespace Response

def plain (status : Nat) (body : String) : Response :=
  { status, contentType := some "text/plain; charset=utf-8", body }

def json (status : Nat) (body : String) : Response :=
  { status, contentType := some "application/json", body }

end Response

end Vigil.Http

import Vigil.Http.Request
import Vigil.Http.Status
import Vigil.Text.Letters

/-!
Requests and responses as the bytes of a connection: a head of lines, an empty line, and a body
whose end is told by the head.
-/

namespace Vigil.Http

/-- What the bytes that have arrived so far amount to. -/
inductive Arrival (α : Type) where
  | incomplete
  | malformed
  /-- The bytes behind what is whole belong to something else. -/
  | whole (value : α) (rest : ByteArray)

namespace Arrival

variable {α β : Type}

/-- Goes on with the rest of the bytes. -/
def andThen (a : Arrival α) (next : α → ByteArray → Arrival β) : Arrival β :=
  match a with
  | incomplete => incomplete
  | malformed => malformed
  | whole value rest => next value rest

def ofOption (value : Option α) (rest : ByteArray) : Arrival α :=
  match value with
  | some value => whole value rest
  | none => malformed

end Arrival

def lineEnd : String := "\x0d\x0a"

/-- How many bytes a line has, with its end. -/
def lineSize? : List UInt8 → Option Nat
  | [] => none
  | 13 :: 10 :: _ => some 2
  | _ :: rest => (lineSize? rest).map (· + 1)

/-- How many bytes a head has, with the empty line that ends it. -/
def headSize? : List UInt8 → Option Nat
  | [] => none
  | 13 :: 10 :: 13 :: 10 :: _ => some 4
  | _ :: rest => (headSize? rest).map (· + 1)

/-- The first line of a message, and its headers. -/
structure Head where
  line : String
  headers : List (String × String) := []

/-- Where a body ends. -/
inductive Extent where
  | size (bytes : Nat)
  /-- It comes in chunks, of which the last one is empty. -/
  | chunked
  /-- It ends with the connection. -/
  | rest

namespace Head

/-- The most bytes that a head has. -/
def limit : Nat := 65536

def parseHeader? (line : String) : Option (String × String) :=
  match line.splitOn ":" with
  | name :: part :: parts =>
    if isToken name then some (name, (":".intercalate (part :: parts)).trimAscii.toString) else none
  | _ => none

def parse? (text : String) : Option Head :=
  match text.splitOn lineEnd with
  | [] => none
  | line :: lines => (lines.mapM parseHeader?).map fun headers => { line, headers }

def read (bytes : ByteArray) : Arrival Head :=
  match headSize? (bytes.extract 0 limit).toList with
  | none => if bytes.size < limit then .incomplete else .malformed
  | some n =>
    let text? := String.fromUTF8? (bytes.extract 0 (n - 4))
    .ofOption (text?.bind parse?) (bytes.extract n bytes.size)

/-- Where the body ends; `silent` holds if the head does not tell. -/
def extent? (h : Head) (silent : Extent) : Option Extent :=
  match header? h.headers "transfer-encoding", header? h.headers "content-length" with
  | some coding, _ => if coding.toLower = "chunked" then some .chunked else none
  | none, some size => (Text.number? 10 size.toList).map .size
  | none, none => some silent

/-- The version, if the first line is that of a request, and its other two parts. -/
def requestLine? (h : Head) : Option (String × String × String) :=
  match h.line.splitOn " " with
  | [method, target, version] =>
    if version.startsWith "HTTP/1." then some (method, target, version) else none
  | _ => none

/-- The status, if the first line is that of a response. -/
def status? (h : Head) : Option Nat :=
  match h.line.splitOn " " with
  | version :: status :: _ =>
    if version.startsWith "HTTP/1." && status.length = 3 then Text.number? 10 status.toList
    else none
  | _ => none

/-- Whether more may be said on the connection. -/
def persists (h : Head) : Bool :=
  !h.line.endsWith "HTTP/1.0" &&
    (header? h.headers "connection").all fun value => value.toLower != "close"

end Head

/-- The size of a chunk from the line before it; what follows a semicolon does not count. -/
def chunkSize? (line : ByteArray) : Option Nat :=
  (String.fromUTF8? line).bind fun text =>
    Text.number? 16 (text.trimAscii.toString.toList.takeWhile (· ≠ ';'))

/-- Reads chunks, behind those that were read before, up to one that is empty. More than `limit`
bytes are not waited for. -/
def readChunks (limit : Nat) : Nat → ByteArray → ByteArray → Arrival ByteArray
  | 0, _, _ => .malformed
  | fuel + 1, body, bytes =>
    if body.size > limit then .whole body bytes
    else
      match lineSize? (bytes.extract 0 256).toList with
      | none => if bytes.size < 256 then .incomplete else .malformed
      | some n =>
        match chunkSize? (bytes.extract 0 (n - 2)) with
        | none => .malformed
        | some 0 =>
          if bytes.size < n + 2 then .incomplete
          else .whole body (bytes.extract (n + 2) bytes.size)
        | some size =>
          if bytes.size < n + size + 2 then .incomplete
          else
            readChunks limit fuel (body ++ bytes.extract n (n + size))
              (bytes.extract (n + size + 2) bytes.size)

/-- Reads a body, if no more than `limit` bytes of it are of interest. -/
def readBody (limit : Nat) (ended : Bool) (bytes : ByteArray) : Extent → Arrival ByteArray
  | .size n =>
    let n := min n (limit + 1)
    if bytes.size < n then .incomplete else .whole (bytes.extract 0 n) (bytes.extract n bytes.size)
  | .chunked => readChunks limit (bytes.size + 1) .empty bytes
  | .rest => if ended || bytes.size > limit then .whole bytes .empty else .incomplete

/-- A request that has arrived, and whether another one may follow. -/
structure Delivery where
  request : Request
  persists : Bool

/-- Reads a request of which at most `limit` bytes of the body are accepted. -/
def Delivery.read (limit : Nat) (bytes : ByteArray) : Arrival Delivery :=
  (Head.read bytes).andThen fun head rest =>
    match head.requestLine?, head.extent? (.size 0) with
    | some (method, target, _), some extent =>
      (readBody limit false rest extent).andThen fun body rest =>
        let request := Request.build? method target head.headers body
        .ofOption (request.map (⟨·, head.persists && body.size ≤ limit⟩)) rest
    | _, _ => .malformed

/-- A message as text: its first line, its headers and its body. -/
def messageText (line : String) (headers : List (String × String)) (body : String) : String :=
  let lines := line :: headers.map fun (name, value) => name ++ ": " ++ value
  String.join (lines.map (· ++ lineEnd)) ++ lineEnd ++ body

namespace Response

/-- How a response is written. -/
def text (r : Response) (persists : Bool) : String :=
  let headers := [
    r.contentType.map ("content-type", ·),
    r.allow.map ("allow", ·),
    some ("content-length", toString r.body.utf8ByteSize),
    if persists then none else some ("connection", "close")]
  messageText ("HTTP/1.1 " ++ statusText r.status) (headers.filterMap id) r.body

end Response

end Vigil.Http

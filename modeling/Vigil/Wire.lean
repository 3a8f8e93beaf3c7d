import Vigil.Json.Record
import Vigil.Ping

/-!
What nodes send each other, as JSON: nodes, pings and the bodies of the answers. Every message has
a writer and a reader.
-/

namespace Vigil

/-- The acknowledgement of a ping. It carries nothing. -/
structure PingResponse where
deriving DecidableEq, Repr

/-- The body of an answer that rejects a ping. -/
structure RejectionBody where
  rejection : Rejection
deriving DecidableEq, Repr

/-- The body of an answer that reports a failure. -/
structure ErrorBody where
  error : String
deriving DecidableEq, Repr

/-- How deep a text may nest arrays and objects where a value is kept for later. -/
def Json.depthLimit : Nat := 127

namespace Node

def toJson (n : Node) : Json :=
  .record [("id", .text n.id), ("ephemeral_id", .text n.ephemeralId), ("address", .text n.address)]

def fields : List (Json.Field Node) := [
  { name := "id", read v := v.readString.map fun s n => { n with id := s } },
  { name := "ephemeral_id", read v := v.readString.map fun s n => { n with ephemeralId := s } },
  { name := "address", read v := v.readString.map fun s n => { n with address := s } }]

def ofJson (v : Json) : Read Node := v.readRecord "DiscoveryNode" fields ⟨"", "", ""⟩

end Node

namespace ClusterName

def toJson (name : ClusterName) : Json := .text name

def ofJson (v : Json) : Read ClusterName := v.readString

end ClusterName

namespace PingRequest

/-- A ping that names no cluster leaves the member out. -/
def toJson (r : PingRequest) : Json :=
  let cluster :=
    match r.clusterName with
    | some name => [("cluster_name", ClusterName.toJson name)]
    | none => []
  .record ([("source_node", r.source.toJson), ("leader_node", r.leader.toJson)] ++ cluster)

def fields : List (Json.Field PingRequest) := [
  { name := "source_node", read v := (Node.ofJson v).map fun n r => { r with source := n } },
  { name := "leader_node", read v := (Node.ofJson v).map fun n r => { r with leader := n } },
  { name := "cluster_name"
    read v := (v.readOptional ClusterName.ofJson).map fun c r => { r with clusterName := c }
    optional := true }]

def ofJson (v : Json) : Read PingRequest :=
  v.readRecord "PingRequest" fields ⟨⟨"", "", ""⟩, ⟨"", "", ""⟩, none⟩

end PingRequest

namespace PingResponse

def toJson (_ : PingResponse) : Json := .record []

def ofJson (v : Json) : Read PingResponse := v.readRecord "PingResponse" [] ⟨⟩

end PingResponse

namespace Rejection

def toJson (r : Rejection) : Json :=
  .record <| ("kind", .text r.code) ::
    match r with
    | notTheLeader message => [("message", .text message)]
    | unknownToLeader node => [("node", .text node)]
    | noLongerLeader => []

/-- The kinds of rejection, by what each of them carries. -/
inductive Kind where
  | notTheLeader
  | unknownToLeader
  | noLongerLeader
deriving DecidableEq, Repr

namespace Kind

def code : Kind → String
  | notTheLeader => "not_the_leader"
  | unknownToLeader => "unknown_to_leader"
  | noLongerLeader => "no_longer_leader"

def all : List Kind := [notTheLeader, unknownToLeader, noLongerLeader]

def ofJson : Json → Read Kind
  | .string (some s) =>
    match all.find? (·.code == s) with
    | some kind => .ok kind
    | none => Read.wrong (.unknownVariant s (all.map code))
  | v => v.mismatch "variant identifier"

end Kind

/-- The members of a rejection: its kind, and all others as they are. They are kept, since the kind
may stand behind what it governs. -/
def readTagged (depth : Nat) :
    List (Option String × Json) → Option Kind → Read (Option Kind × List (String × Json))
  | [], kind => .ok (kind, [])
  | (none, _) :: _, _ => .error .unreadable
  | (some key, v) :: rest, kind =>
    if key = "kind" then
      if kind.isSome then Read.wrong (.duplicateField "kind")
      else do readTagged depth rest (some (← Kind.ofJson v))
    else if v.isReadable depth then do
      let (kind, others) ← readTagged depth rest kind
      return (kind, (key, v) :: others)
    else .error .unreadable

/-- The one text that a kind of rejection carries, among its members. -/
def textAmong (name : String) : List (String × Json) → Option String → Read String
  | [], some s => .ok s
  | [], none => Read.wrong (.missingField name)
  | (key, v) :: rest, s =>
    if key ≠ name then textAmong name rest s
    else if s.isSome then Read.wrong (.duplicateField name)
    else do textAmong name rest (some (← v.readString))

/-- The one text that a kind of rejection carries, as the only item behind it. -/
def textAlone (variant : String) : List Json → Read String
  | [] =>
    Read.wrong (.invalidLength 0 ("struct variant PingRejection::" ++ variant ++ " with 1 element"))
  | v :: rest => do
    let s ← v.readString
    if rest.isEmpty then return s
    else Read.wrong (.invalidLength (rest.length + 1) "1 element in sequence")

def ofMembers (others : List (String × Json)) : Kind → Read Rejection
  | .notTheLeader => notTheLeader <$> textAmong "message" others none
  | .unknownToLeader => unknownToLeader <$> textAmong "node" others none
  | .noLongerLeader => .ok noLongerLeader

def ofItems (others : List Json) : Kind → Read Rejection
  | .notTheLeader => notTheLeader <$> textAlone "NotTheLeader" others
  | .unknownToLeader => unknownToLeader <$> textAlone "UnknownToLeader" others
  | .noLongerLeader =>
    if others.isEmpty then .ok noLongerLeader
    else Read.wrong (.invalidLength others.length "0 elements in sequence")

/-- Reads a rejection at a place where arrays and objects may nest to some depth. -/
def ofJsonWithin (depth : Nat) : Json → Read Rejection
  | .object members closed =>
    match readTagged (depth - 1) members none with
    | .error e => .error e
    | .ok (kind, others) =>
      if !closed then .error .unreadable
      else
        match kind with
        | none => Read.wrong (.missingField "kind")
        | some kind => ofMembers others kind
  | .array [] closed => if closed then Read.wrong (.missingField "kind") else .error .unreadable
  | .array (tag :: others) closed =>
    match Kind.ofJson tag with
    | .error e => .error e
    | .ok kind =>
      if closed && others.all (·.isReadable (depth - 1)) then ofItems others kind
      else .error .unreadable
  | v => v.mismatch "internally tagged enum PingRejection"

def ofJson (v : Json) : Read Rejection := ofJsonWithin Json.depthLimit v

end Rejection

namespace RejectionBody

def toJson (b : RejectionBody) : Json := .record [("rejection", b.rejection.toJson)]

def fields : List (Json.Field RejectionBody) := [
  { name := "rejection"
    read v := (Rejection.ofJsonWithin (Json.depthLimit - 1) v).map fun r _ => ⟨r⟩ }]

def ofJson (v : Json) : Read RejectionBody := v.readRecord "RejectionBody" fields ⟨.noLongerLeader⟩

end RejectionBody

namespace ErrorBody

def toJson (b : ErrorBody) : Json := .record [("error", .text b.error)]

def fields : List (Json.Field ErrorBody) := [
  { name := "error", read v := v.readString.map fun s _ => ⟨s⟩ }]

def ofJson (v : Json) : Read ErrorBody := v.readRecord "ErrorBody" fields ⟨""⟩

end ErrorBody

/-- The compact text of a message. -/
def Json.toText (v : Json) : String := String.ofList v.render

/-- Reads a message from its text. -/
def Json.ofText {α : Type} (read : Json → Read α) (s : String) : Read α :=
  readText read (s.toList.map some)

namespace PingError

/-- The body of the answer to a ping that is not acknowledged. -/
def body : PingError → Json
  | rejected rejection => RejectionBody.toJson ⟨rejection⟩
  | internal message => ErrorBody.toJson ⟨message⟩

end PingError

end Vigil

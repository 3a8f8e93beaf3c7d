import Vigil.Config
import Vigil.Cluster.Queue

/-!
Static discovery: every configured peer is asked who it is, who answers under its configured id is
recorded as a member, and the detector is pointed at the leader once that is a known member. A
leader that failed is forgotten until it answers again.
-/

namespace Vigil

/-- What a node needs for discovering its peers. -/
structure Discovery where
  localId : String
  peers : List PeerConfig
  interval : Duration
deriving Repr

def Discovery.ofConfig (c : ClusterConfig) : Discovery where
  localId := c.nodeId
  peers := c.peers
  interval := c.discoveryInterval

namespace Discovery

/-- Who is asked in a round: all peers but the node itself, in the configured order. -/
def others (d : Discovery) : List PeerConfig :=
  d.peers.filter (·.id != d.localId)

/-- What follows from the answer of a peer. -/
inductive Finding where
  | unreachable (cause : TransportError)
  /-- Another node answers at the address. -/
  | mismatch (found : String)
  | known
  | new (node : Node)

def findings (peer : PeerConfig) (s : ClusterState) : Except TransportError Node → Finding
  | .error e => .unreachable e
  | .ok node =>
    if node.id ≠ peer.id then .mismatch node.id
    else if s.contains node then .known
    else .new node

/-- What is told of a finding. -/
def Finding.notice (peer : PeerConfig) : Finding → List Notice
  | unreachable e => [.handshakeFailed peer.id peer.address e]
  | mismatch found => [.peerMismatch peer.address found peer.id]
  | known => []
  | new node => [.peerDiscovered node]

/-- The task that records a peer. -/
def recordTask (node : Node) : StateTask where
  source := "discovered peer [" ++ node.text ++ "]"
  leaderOnly := false
  update s := .ok (s.add node)

/-- The task that forgets a leader that failed; a newer incarnation of it stays. -/
def forgetTask (failed : Node) : StateTask where
  source := "leader failed [" ++ failed.text ++ "]"
  leaderOnly := false
  update s := .ok (if s.contains failed then s.remove failed.id else s)

/-- How a detector has to change to watch the leader of a state. -/
inductive Adjustment where
  | none
  | stop
  | restart (leader : Node)
deriving DecidableEq, Repr

/-- A node that leads watches nobody; until the leader is a known member nothing changes. -/
def adjustment (s : ClusterState) (watched : Option Node) : Adjustment :=
  if s.isLeader then
    if watched.isSome then .stop else .none
  else
    match s.leader? with
    | some leader => if watched = some leader then .none else .restart leader
    | Option.none => .none

/-- How late a round may begin before the rhythm of the rounds follows it, in milliseconds. -/
def tolerance : Nat := 5

/-- When the round after the one due at `due` is due, if that begins at `now`. -/
def nextRound (period due now : Nat) : Nat :=
  if now > due + tolerance then now + period else due + period

end Discovery

end Vigil

import Vigil.Cluster.Members

/-!
A versioned view of a cluster: who belongs to it, which of them this node is, and whom it takes
for the leader.
-/

namespace Vigil

structure ClusterState where
  clusterName : ClusterName
  version : UInt64
  localNode : Node
  leaderId : Option String
  nodes : Members
deriving DecidableEq

namespace ClusterState

/-- The state of a node that knows itself alone. -/
def initial (clusterName : ClusterName) (localNode : Node) : ClusterState where
  clusterName
  version := 0
  localNode
  leaderId := none
  nodes := .singleton localNode

def isLeader (s : ClusterState) : Bool :=
  s.leaderId == some s.localNode.id

/-- The leader, if it is a known member. -/
def leader? (s : ClusterState) : Option Node :=
  s.leaderId.bind s.nodes.get?

/-- A restarted node is no member until its new incarnation is added. -/
def contains (s : ClusterState) (n : Node) : Bool :=
  s.nodes.get? n.id == some n

def add (s : ClusterState) (n : Node) : ClusterState :=
  { s with nodes := s.nodes.insert n }

/-- The local node stays a member whatever is removed. -/
def remove (s : ClusterState) (id : String) : ClusterState :=
  if id = s.localNode.id then s else { s with nodes := s.nodes.erase id }

def withLeader (s : ClusterState) (id : Option String) : ClusterState :=
  { s with leaderId := id }

end ClusterState

end Vigil

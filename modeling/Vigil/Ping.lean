import Vigil.Cluster.Queue
import Vigil.Metrics

/-!
The leader's side of a ping. A ping that the current snapshot confirms is acknowledged at once;
one addressed elsewhere is refused at once; all others are decided by a task of the state queue,
so that a change already under way is seen before a follower is sent off.
-/

namespace Vigil

/-- A follower's ping of the node that it takes for the leader. -/
structure PingRequest where
  source : Node
  leader : Node
  clusterName : Option ClusterName
deriving DecidableEq, Repr

/-- What a snapshot alone says about a ping. -/
inductive PingVerdict where
  | acknowledged
  | rejected (rejection : Rejection)
  | undecided
deriving DecidableEq, Repr

namespace PingRequest

/-- A ping names another cluster if it names one at all, and not by the empty name. -/
def otherCluster? (r : PingRequest) (ours : ClusterName) : Option ClusterName :=
  r.clusterName.filter fun name => name ≠ "" ∧ name ≠ ours

/-- Decides a ping from a snapshot; the follower may mean an earlier incarnation of this node. -/
def judge (r : PingRequest) (ours : ClusterName) (view : ClusterState) :
    PingVerdict × List Notice :=
  if r.leader ≠ view.localNode then
    (.rejected (.notTheLeader ("got ping as leader [" ++ r.leader.text ++
        "], but local node is [" ++ view.localNode.text ++ "]")),
      [.pingMisaddressed r.leader view.localNode])
  else
    match r.otherCluster? ours with
    | some theirs =>
      (.rejected (.notTheLeader ("leader ping for cluster [" ++ theirs ++
          "] received by leader of cluster [" ++ ours ++ "]")),
        [.pingFromCluster r.source theirs ours])
    | none =>
      if view.isLeader && view.contains r.source then (.acknowledged, [])
      else (.undecided, [])

/-- The task that decides a ping on the authoritative state; it changes nothing. -/
def check (r : PingRequest) : StateTask where
  source := "leader ping (from: " ++ r.source.text ++ ")"
  leaderOnly := true
  update s := if s.contains r.source then .ok s else .error (.nodeDoesNotExist r.source.text)

/-- The answer that follows from the result of the check. -/
def answer (r : PingRequest) : Except StateTaskError Unit → Except PingError Unit × List Notice
  | .ok () => (.ok (), [])
  | .error .notLeader => (.error (.rejected .noLongerLeader), [.pingWhileNotLeading r.source])
  | .error (.nodeDoesNotExist node) =>
    (.error (.rejected (.unknownToLeader node)), [.pingFromStranger r.source])
  | .error .queueClosed =>
    (.error (.internal StateTaskError.queueClosed.text), [.pingNotChecked r.source .queueClosed])

end PingRequest

/-- The label under which an answer to a ping is counted. -/
def pingOutcome : Except PingError Unit → String
  | .ok () => "ack"
  | .error e => e.outcome

end Vigil

import Vigil.Error
import Vigil.Node

/-!
What a node tells its operator. Every record is a constructor; its level, the part of the program
it comes from and its text are read off it.
-/

namespace Vigil

inductive Level where
  | trace
  | debug
  | info
  | warn
  | error
deriving DecidableEq, Repr

namespace Level

def text : Level → String
  | trace => "TRACE"
  | debug => "DEBUG"
  | info => "INFO"
  | warn => "WARN"
  | error => "ERROR"

/-- Grows with the weight of a record. -/
def rank : Level → Nat
  | trace => 0
  | debug => 1
  | info => 2
  | warn => 3
  | error => 4

end Level

inductive Notice where
  | detectorReady (interval timeout : Duration) (retries : UInt32)
  | restartIgnored (leader : Node)
  | restarting (leader : Node) (reason : String)
  | stopping (leader : Node) (reason : String)
  | pingNotScheduled (cause : SchedulerError)
  | pingRejected (leader : Node) (rejection : Rejection)
  | pingFailed (leader : Node) (attempt attempts : UInt32) (cause : TransportError)
  | attemptsUsedUp (leader : Node) (attempts : UInt32) (limit : Duration)
  | connectionLost (leader : Node)
  | reconnectFailed (leader : Node)
  | reconnected (leader : Node)
  | failureNotDispatched (cause : SchedulerError)
  | disconnectNotHandled (node : Node) (cause : SchedulerError)
  | handshakeFailed (peer address : String) (cause : TransportError)
  | peerMismatch (address found expected : String)
  | peerDiscovered (peer : Node)
  | peerNotRecorded (peer : String) (cause : StateTaskError)
  | leaderFailed (leader : Node) (reason : String)
  | leaderNotForgotten (cause : StateTaskError)
  | taskSkipped (source : String)
  | statePublished (source : String) (version : UInt64)
  | pingMisaddressed (leader localNode : Node)
  | pingFromCluster (source : Node) (theirs ours : ClusterName)
  | pingWhileNotLeading (source : Node)
  | pingFromStranger (source : Node)
  | pingNotChecked (source : Node) (cause : StateTaskError)
  | connected (node : Node)
  | disconnected (node : Node)
  | otherNodeFound (expected found : Node)
  | configLoaded (path : String)
  | metricsReady
  | starting (node : Node) (clusterName : ClusterName)
  | listening (address : String)
  | signalled (signal : String)
  | stopOverdue (limit : Duration)
  | stopped
deriving DecidableEq, Repr

namespace Notice

def level : Notice → Level
  | detectorReady .. | restarting .. | stopping .. | pingRejected .. | attemptsUsedUp ..
  | reconnected .. | peerDiscovered .. | statePublished .. | pingFromCluster ..
  | pingNotChecked .. | connected .. | disconnected .. => .debug
  | pingFailed .. | connectionLost .. | reconnectFailed .. | handshakeFailed .. | taskSkipped ..
  | pingMisaddressed .. | pingWhileNotLeading .. | pingFromStranger .. | otherNodeFound .. => .trace
  | restartIgnored .. | pingNotScheduled .. | disconnectNotHandled .. | peerMismatch ..
  | peerNotRecorded .. | leaderFailed .. | leaderNotForgotten .. | stopOverdue .. => .warn
  | failureNotDispatched .. => .error
  | configLoaded .. | metricsReady | starting .. | listening .. | signalled .. | stopped => .info

/-- The part of the program that speaks, as operators name it in their filters. -/
def origin : Notice → String
  | detectorReady .. | restartIgnored .. | restarting .. | stopping .. | pingNotScheduled ..
  | pingRejected .. | pingFailed .. | attemptsUsedUp .. | connectionLost .. | reconnectFailed ..
  | reconnected .. | failureNotDispatched .. | disconnectNotHandled .. =>
    "leaderwatch::cluster::leader_fd"
  | handshakeFailed .. | peerMismatch .. | peerDiscovered .. | peerNotRecorded ..
  | leaderFailed .. | leaderNotForgotten .. => "leaderwatch::cluster::discovery"
  | taskSkipped .. | statePublished .. => "leaderwatch::cluster::state"
  | pingMisaddressed .. | pingFromCluster .. | pingWhileNotLeading .. | pingFromStranger ..
  | pingNotChecked .. => "leaderwatch::cluster::ping_handler"
  | connected .. | disconnected .. | otherNodeFound .. => "leaderwatch::cluster::transport"
  | configLoaded .. | metricsReady | starting .. | listening .. | signalled .. | stopOverdue ..
  | stopped => "leaderwatch"

def text : Notice → String
  | detectorReady interval timeout retries =>
    "[leader] uses ping_interval [" ++ interval.text ++ "], ping_timeout [" ++ timeout.text ++
      "], ping_retries [" ++ toString retries ++ "]"
  | restartIgnored leader =>
    "[leader] ignoring restart against " ++ leader.text ++ ", fault detection is closed"
  | restarting leader reason =>
    "[leader] restarting fault detection against leader [" ++ leader.text ++ "], reason [" ++
      reason ++ "]"
  | stopping leader reason =>
    "[leader] stopping fault detection against leader [" ++ leader.text ++ "], reason [" ++
      reason ++ "]"
  | pingNotScheduled cause => "[leader] failed to schedule leader ping: " ++ cause.text
  | pingRejected leader .noLongerLeader =>
    "[leader] pinging a leader " ++ leader.text ++ " that is no longer a leader"
  | pingRejected leader (.notTheLeader _) =>
    "[leader] pinging a leader " ++ leader.text ++ " that is not the leader"
  | pingRejected leader (.unknownToLeader _) =>
    "[leader] pinging a leader " ++ leader.text ++
      " but we do not exist on it, act as if its leader failure"
  | pingFailed leader attempt attempts cause =>
    "[leader] failed to ping [" ++ leader.text ++ "], retry [" ++ toString attempt ++
      "] out of [" ++ toString attempts ++ "]: " ++ cause.text
  | attemptsUsedUp leader attempts limit =>
    "[leader] failed to ping [" ++ leader.text ++ "], tried [" ++ toString attempts ++
      "] times, each with maximum [" ++ limit.text ++ "] timeout"
  | connectionLost leader => "[leader] [" ++ leader.text ++ "] transport disconnected"
  | reconnectFailed leader =>
    "[leader] [" ++ leader.text ++ "] transport disconnected (with verified connect)"
  | reconnected leader => "[leader] reconnected to " ++ leader.text ++ ", restarting pings"
  | failureNotDispatched cause =>
    "leader failure notification was rejected, it's highly likely the node is shutting down: " ++
      cause.text
  | disconnectNotHandled node cause =>
    "[leader] failed to handle disconnect from " ++ node.text ++ ": " ++ cause.text
  | handshakeFailed peer address cause =>
    "handshake with [" ++ peer ++ "] at [" ++ address ++ "] failed: " ++ cause.text
  | peerMismatch address found expected =>
    "peer at [" ++ address ++ "] identifies as [" ++ found ++ "], expected [" ++ expected ++ "]"
  | peerDiscovered peer => "discovered peer " ++ peer.text
  | peerNotRecorded peer cause => "failed to record peer [" ++ peer ++ "]: " ++ cause.text
  | leaderFailed leader reason => "leader " ++ leader.text ++ " failed: " ++ reason
  | leaderNotForgotten cause => "failed to forget failed leader: " ++ cause.text
  | taskSkipped source => "[" ++ source ++ "] skipped, local node is not the leader"
  | statePublished source version =>
    "[" ++ source ++ "] publishing cluster state version [" ++ toString version ++ "]"
  | pingMisaddressed leader localNode =>
    "got ping addressed to leader [" ++ leader.text ++ "], local node is [" ++ localNode.text ++
      "]"
  | pingFromCluster source theirs ours =>
    "leader ping from [" ++ source.text ++ "] for cluster [" ++ theirs ++
      "] does not match local cluster [" ++ ours ++ "]"
  | pingWhileNotLeading source => "ping from [" ++ source.text ++ "] rejected, no longer leader"
  | pingFromStranger source => "ping from [" ++ source.text ++ "] rejected, node unknown"
  | pingNotChecked source cause =>
    "unexpected error while checking ping from [" ++ source.text ++ "]: " ++ cause.text
  | connected node => "connected to node " ++ node.text
  | disconnected node => "disconnected from node " ++ node.text
  | otherNodeFound expected found =>
    "expected node " ++ expected.text ++ " at " ++ expected.address ++ ", found " ++ found.text
  | configLoaded path => "Loaded configuration from " ++ path
  | metricsReady => "Prometheus metrics initialized"
  | starting node clusterName =>
    "Starting node " ++ node.text ++ " in cluster [" ++ clusterName ++ "]"
  | listening address => "leaderwatch listening on " ++ address
  | signalled signal => "Received " ++ signal ++ ", shutting down"
  | stopOverdue limit => "Graceful shutdown timed out after " ++ limit.text
  | stopped => "leaderwatch shut down"

end Notice

end Vigil

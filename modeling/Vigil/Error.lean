import Vigil.Duration

/-!
What can go wrong between two nodes and inside one: the rejections a leader answers, the failures
of a single request, of a state task, of a hand-over to the scheduler, and of handling a ping.
Each has one text, and those that are counted or logged by kind have a short label.
-/

namespace Vigil

/-- An authoritative answer of a pinged node; no repetition of the ping changes it. -/
inductive Rejection where
  | notTheLeader (message : String)
  | unknownToLeader (node : String)
  | noLongerLeader
deriving DecidableEq, Repr

namespace Rejection

def code : Rejection → String
  | notTheLeader _ => "not_the_leader"
  | unknownToLeader _ => "unknown_to_leader"
  | noLongerLeader => "no_longer_leader"

def text : Rejection → String
  | notTheLeader message => message
  | unknownToLeader node => "node [" ++ node ++ "] does not exist on the leader"
  | noLongerLeader => "local node is not the leader"

end Rejection

/-- The failure of a single request to a node. -/
inductive TransportError where
  | disconnected (node message : String)
  | timeout (node : String) (limit : Duration)
  | rejected (node : String) (rejection : Rejection)
  | remote (node message : String)
deriving DecidableEq, Repr

namespace TransportError

/-- A rejection is labelled by its own code. -/
def kind : TransportError → String
  | disconnected .. => "disconnected"
  | timeout .. => "timeout"
  | rejected _ rejection => rejection.code
  | remote .. => "remote"

def text : TransportError → String
  | disconnected node message => "node [" ++ node ++ "] disconnected: " ++ message
  | timeout node limit => "request to [" ++ node ++ "] timed out after " ++ limit.text
  | rejected node rejection => "rejected by [" ++ node ++ "]: " ++ rejection.text
  | remote node message => "request to [" ++ node ++ "] failed: " ++ message

end TransportError

/-- The failure of a task of the state queue. -/
inductive StateTaskError where
  | notLeader
  | nodeDoesNotExist (node : String)
  | queueClosed
deriving DecidableEq, Repr

def StateTaskError.text : StateTaskError → String
  | notLeader => "local node is not the leader"
  | nodeDoesNotExist node => "node [" ++ node ++ "] does not exist in the cluster state"
  | queueClosed => "cluster state queue is closed"

/-- Why the scheduler takes no task. -/
inductive SchedulerError where
  | closed
deriving DecidableEq, Repr

def SchedulerError.text : SchedulerError → String
  | closed => "scheduler is shut down"

/-- Why a handled ping is not acknowledged. -/
inductive PingError where
  | rejected (rejection : Rejection)
  | internal (message : String)
deriving DecidableEq, Repr

namespace PingError

def text : PingError → String
  | rejected rejection => rejection.text
  | internal message => message

/-- The label under which the handled ping is counted. -/
def outcome : PingError → String
  | rejected rejection => rejection.code
  | internal _ => "error"

/-- A rejection conflicts with the follower's view; anything else is the server's own failure. -/
def status : PingError → Nat
  | rejected _ => 409
  | internal _ => 500

end PingError

end Vigil

import Vigil.Duration

/-!
The configuration of a node, its defaults, and the rules that tie its fields together.
-/

namespace Vigil

structure ServerConfig where
  host : String := "0.0.0.0"
  port : UInt16 := 9301
  /-- How many seconds a node that stops waits for requests under way. -/
  shutdownTimeout : UInt64 := 30
deriving DecidableEq, Repr

/-- A member of the cluster as it is configured. -/
structure PeerConfig where
  id : String
  address : String
deriving DecidableEq, Repr

structure ClusterConfig where
  name : String := "leaderwatch"
  nodeId : String := "node-1"
  /-- The elected leader; the election itself takes place elsewhere. -/
  leaderId : Option String := none
  /-- All members, this node included. -/
  peers : List PeerConfig := []
  connectTimeoutMs : UInt64 := 5000
  discoveryIntervalMs : UInt64 := 5000
deriving DecidableEq, Repr

structure FaultDetectionConfig where
  /-- The time between successful pings, and before the first ping. -/
  pingIntervalMs : UInt64 := 1000
  pingTimeoutMs : UInt64 := 30000
  /-- How many attempts in a row must fail before the leader is declared failed. -/
  pingRetries : UInt32 := 3
  connectOnNetworkDisconnect : Bool := false
  registerConnectionListener : Bool := true
deriving DecidableEq, Repr

structure LoggingConfig where
  level : String := "info"
  format : String := "text"
deriving DecidableEq, Repr

structure ObservabilityConfig where
  metrics : Bool := true
deriving DecidableEq, Repr

structure Config where
  server : ServerConfig := {}
  cluster : ClusterConfig := {}
  faultDetection : FaultDetectionConfig := {}
  logging : LoggingConfig := {}
  observability : ObservabilityConfig := {}
deriving DecidableEq, Repr

def ClusterConfig.connectTimeout (c : ClusterConfig) : Duration :=
  .ofMillis c.connectTimeoutMs.toNat

def ClusterConfig.discoveryInterval (c : ClusterConfig) : Duration :=
  .ofMillis c.discoveryIntervalMs.toNat

def FaultDetectionConfig.pingInterval (c : FaultDetectionConfig) : Duration :=
  .ofMillis c.pingIntervalMs.toNat

def FaultDetectionConfig.pingTimeout (c : FaultDetectionConfig) : Duration :=
  .ofMillis c.pingTimeoutMs.toNat

/-- Why a node does not run with a configuration. -/
inductive ConfigError where
  | noPingRetries
  | zeroPingInterval
  | zeroPingTimeout
  | zeroDiscoveryInterval
  | emptyNodeId
  | unlistedLeader (id : String)
deriving DecidableEq, Repr

def ConfigError.text : ConfigError → String
  | noPingRetries => "fault_detection.ping_retries must be at least 1"
  | zeroPingInterval => "fault_detection.ping_interval_ms must be greater than 0"
  | zeroPingTimeout => "fault_detection.ping_timeout_ms must be greater than 0"
  | zeroDiscoveryInterval => "cluster.discovery_interval_ms must be greater than 0"
  | emptyNodeId => "cluster.node_id must not be empty"
  | unlistedLeader id => "cluster.leader_id [" ++ id ++ "] is not listed in cluster.peers"

namespace Config

/-- Whether the elected leader is one of the peers. -/
def leaderListed (c : Config) (id : String) : Bool :=
  c.cluster.peers.any (·.id == id)

/-- The first rule that a configuration breaks. -/
def validate (c : Config) : Except ConfigError Unit := do
  if c.faultDetection.pingRetries = 0 then throw .noPingRetries
  if c.faultDetection.pingIntervalMs = 0 then throw .zeroPingInterval
  if c.faultDetection.pingTimeoutMs = 0 then throw .zeroPingTimeout
  if c.cluster.discoveryIntervalMs = 0 then throw .zeroDiscoveryInterval
  if c.cluster.nodeId = "" then throw .emptyNodeId
  match c.cluster.leaderId with
  | some id => if c.leaderListed id then pure () else throw (.unlistedLeader id)
  | none => pure ()

/-- The base URL under which other nodes reach this one: its own entry among the peers, or else the
address it binds to. -/
def advertiseAddress (c : Config) : String :=
  match c.cluster.peers.find? (·.id == c.cluster.nodeId) with
  | some peer => peer.address
  | none => "http://" ++ c.server.host ++ ":" ++ toString c.server.port

end Config

end Vigil

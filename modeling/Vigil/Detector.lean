import Vigil.Config
import Vigil.Notice
import Vigil.Ping

/-!
The follower's side: a detector watches one leader at a time. A session starts with `restart`, pings
the leader, and ends by `stop` or with one notification that the leader failed. Every event is a
function from the detector to the next one and to what is to be done; what belongs to a session that
is over changes nothing.
-/

namespace Vigil

/-- One chain of pings. A session that reconnects goes on with a new one. -/
abbrev PingerId := Nat

/-- The state of the session. Without a leader it is idle. -/
structure Session where
  leader : Option Node := none
  retryCount : UInt32 := 0
  pinger : Option PingerId := none
  /-- Whether the failure of this session was notified. -/
  notified : Bool := false
deriving DecidableEq, Repr

/-- What listeners are told. -/
structure LeaderFailure where
  leader : Node
  cause : Option TransportError
  reason : String
deriving DecidableEq, Repr

/-- A detector, and its listeners with the numbers under which they can be removed. -/
structure Detector (κ : Type) where
  settings : FaultDetectionConfig
  clusterName : ClusterName
  session : Session := {}
  /-- The chains that still ping. -/
  running : List PingerId := []
  /-- How many chains were started. -/
  created : Nat := 0
  listeners : List (Nat × κ) := []
  /-- How many listeners were added. -/
  added : Nat := 0
  closed : Bool := false
  /-- Whether the transport tells this detector of lost connections. -/
  attached : Bool

/-- What is to be done outside the detector. -/
inductive Effect (κ : Type) where
  | tell (notice : Notice)
  | count (series : Series)
  /-- Hands the next ping of a chain to the scheduler. -/
  | schedule (pinger : PingerId) (delay : Duration)
  /-- Hands the call of the listeners to the scheduler. -/
  | dispatch (listeners : List (Nat × κ)) (failure : LeaderFailure)
  | ping (pinger : PingerId) (request : PingRequest)
  /-- Connects to the leader on behalf of a chain. -/
  | connect (pinger : Option PingerId) (leader : Node)

/-- Why a leader that rejects a ping is taken for failed. -/
def Rejection.reason : Rejection → String
  | noLongerLeader => "no longer leader"
  | notTheLeader _ => "not leader"
  | unknownToLeader _ => "do not exist on leader, act as leader failure"

namespace Detector

variable {κ : Type}

/-- An idle detector. -/
def create (settings : FaultDetectionConfig) (clusterName : ClusterName) :
    Detector κ × List (Effect κ) :=
  ({ settings, clusterName, attached := settings.registerConnectionListener },
    [.tell (.detectorReady settings.pingInterval settings.pingTimeout settings.pingRetries)])

/-- Whether a chain is the live one of the session. -/
def isCurrent (d : Detector κ) (p : PingerId) : Bool :=
  p ∈ d.running && d.session.pinger == some p

/-- Whether an answer that a chain got from a leader still belongs to the session. -/
def owns (d : Detector κ) (p : PingerId) (leader : Node) : Bool :=
  d.isCurrent p && d.session.leader == some leader

/-- Adds a listener; tells the number that it has from now on. Fewer than `2 ^ 64` are ever added,
so that a machine word holds all the numbers. -/
def addListener (d : Detector κ) (listener : κ) : Detector κ × Nat :=
  ({ d with listeners := d.listeners ++ [(d.added, listener)], added := d.added + 1 }, d.added)

/-- Removes a listener; tells whether it was there. -/
def removeListener (d : Detector κ) (id : Nat) : Detector κ × Bool :=
  ({ d with listeners := d.listeners.filter (·.1 != id) }, d.listeners.any (·.1 == id))

/-- A chain whose pings no longer count. -/
def stopPinger (d : Detector κ) (p : PingerId) : Detector κ :=
  { d with running := d.running.filter (· != p) }

/-- Ends the session; without one it changes nothing that matters. -/
def endSession (d : Detector κ) : Detector κ :=
  let d := match d.session.pinger with
    | some p => d.stopPinger p
    | none => d
  { d with session := { d.session with leader := none, retryCount := 0, pinger := none } }

/-- Starts a chain for the session and hands its first ping over. -/
def startPinger (d : Detector κ) (delay : Duration) : Detector κ × List (Effect κ) :=
  let p := d.created
  ({ d with
      session := { d.session with pinger := some p, retryCount := 0 }
      running := p :: d.running
      created := p + 1 },
    [.schedule p delay])

def startSession (d : Detector κ) (leader : Node) : Detector κ × List (Effect κ) :=
  { d with session := { d.session with leader := some leader, notified := false } }.startPinger
    d.settings.pingInterval

/-- Watches a leader from now on. Its first ping waits, so that it can finish its own election. -/
def restart (d : Detector κ) (leader : Node) (reason : String) : Detector κ × List (Effect κ) :=
  if d.closed then (d, [.tell (.restartIgnored leader)])
  else
    let (d, effects) := d.endSession.startSession leader
    (d, .tell (.restarting leader reason) :: effects)

/-- The record that the session ends, if there is one. -/
def stopNotice (d : Detector κ) (reason : String) : List (Effect κ) :=
  match d.session.leader with
  | some leader => [.tell (.stopping leader reason)]
  | none => []

def stop (d : Detector κ) (reason : String) : Detector κ × List (Effect κ) :=
  (d.endSession, d.stopNotice reason)

/-- Stops for good: no listener is left, and no later restart counts. -/
def shutdown (d : Detector κ) : Detector κ × List (Effect κ) :=
  ({ d.endSession with closed := true, listeners := [], attached := false },
    d.stopNotice "closing")

/-- Notifies the failure of the session, once, and ends it. -/
def notifyFailure (d : Detector κ) (leader : Node) (cause : Option TransportError)
    (reason : String) : Detector κ × List (Effect κ) :=
  if d.session.notified then (d, [])
  else
    let d' := { d with session := { d.session with notified := true } }
    (d'.endSession, [
      .count .leaderFailures,
      .dispatch d.listeners ⟨leader, cause, reason⟩,
      .tell (.stopping leader ("leader failure, " ++ reason))])

/-- The transport lost its connection to a node. If that is the leader, its session fails, or
waits for the outcome of a new connection. -/
def disconnected (d : Detector κ) (node : Node) : Detector κ × List (Effect κ) :=
  if d.session.leader ≠ some node then (d, [])
  else if d.settings.connectOnNetworkDisconnect then (d, [.connect d.session.pinger node])
  else
    let (d, effects) := d.notifyFailure node none "transport disconnected"
    (d, .tell (.connectionLost node) :: effects)

/-- A new connection succeeded or failed; `before` is the chain that was live when it was begun. -/
def connected (d : Detector κ) (before : Option PingerId) (node : Node)
    (result : Except TransportError Unit) : Detector κ × List (Effect κ) :=
  if d.session.leader ≠ some node ∨ d.session.pinger ≠ before then (d, [])
  else
    match result with
    | .ok () =>
      let d := match before with
        | some p => d.stopPinger p
        | none => d
      let (d, effects) := d.startPinger ⟨0⟩
      (d, .tell (.reconnected node) :: effects)
    | .error e =>
      let (d, effects) :=
        d.notifyFailure node (some e) "transport disconnected (with verified connect)"
      (d, .tell (.reconnectFailed node) :: effects)

/-- The time of a ping has come. -/
def beginRound (d : Detector κ) (p : PingerId) (source : Node) :
    Detector κ × List (Effect κ) :=
  if !d.isCurrent p then (d, [])
  else
    match d.session.leader with
    | some leader => (d, [.count .pingsSent, .ping p ⟨source, leader, some d.clusterName⟩])
    | none => (d, [.schedule p d.settings.pingInterval])

/-- What failed listeners are told once all attempts are used up. -/
def usedUpReason (settings : FaultDetectionConfig) : String :=
  "failed to ping, tried [" ++ toString settings.pingRetries ++
    "] times, each with maximum [" ++ settings.pingTimeout.text ++ "] timeout"

/-- A ping failed in a way that may pass: it is sent again at once, until all attempts are used
up. -/
def attemptFailed (d : Detector κ) (p : PingerId) (request : PingRequest) (e : TransportError) :
    Detector κ × List (Effect κ) :=
  let leader := request.leader
  let attempt := d.session.retryCount + 1
  let attempts := d.settings.pingRetries
  let d := { d with session := { d.session with retryCount := attempt } }
  let failed := .tell (.pingFailed leader attempt attempts e)
  if attempt < attempts then (d, [failed, .count .pingsSent, .ping p request])
  else
    let (d, effects) := d.notifyFailure leader (some e) (usedUpReason d.settings)
    (d, failed :: .tell (.attemptsUsedUp leader attempts d.settings.pingTimeout) :: effects)

/-- A ping failed: a rejection fails the session at once, a lost connection may be made anew, and
all else is tried again. Others may come in once the loss of a connection is counted and before it
is handled; `Watch.accept` is that first half alone. -/
def pingFailed (d : Detector κ) (p : PingerId) (request : PingRequest) (e : TransportError) :
    Detector κ × List (Effect κ) :=
  let leader := request.leader
  if !d.owns p leader then (d, [])
  else
    let (d, effects) :=
      match e with
      | .disconnected .. => d.disconnected leader
      | .rejected _ rejection =>
        let (d, effects) := d.notifyFailure leader (some e) rejection.reason
        (d, .tell (.pingRejected leader rejection) :: effects)
      | .timeout .. | .remote .. => d.attemptFailed p request e
    (d, .count (.pingFailures e.kind) :: effects)

/-- A ping was answered. -/
def pinged (d : Detector κ) (p : PingerId) (request : PingRequest)
    (result : Except TransportError Unit) : Detector κ × List (Effect κ) :=
  if p ∉ d.running then (d, [])
  else
    match result with
    | .ok () =>
      if d.owns p request.leader then
        ({ d with session := { d.session with retryCount := 0 } },
          [.schedule p d.settings.pingInterval])
      else (d, [])
    | .error e => d.pingFailed p request e

end Detector

end Vigil

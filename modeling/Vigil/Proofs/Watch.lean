import Vigil.Detector

/-!
All that can happen to a detector, in any order. A `Watch` is a detector with the work that is under
way for it and a record of what came of it. A move is what runs from one wait to the next, or to a
point where others may come in before it goes on: something that the owner does, the report of a
lost connection, or the next part of some work under way, whichever it is and however the transport
answers. In each move the scheduler takes or refuses what it is handed.
-/

namespace Vigil

/-- Work that is under way for a detector. -/
inductive Activity (κ : Type) where
  /-- A run of a chain that has not begun. -/
  | scheduled (p : PingerId) (delay : Duration)
  /-- A run of a chain that waits for the answer to the last of the pings it sent. -/
  | pinging (p : PingerId) (request : PingRequest) (sent : Nat)
  /-- A new connection that is awaited, by the run of a chain or by who was told of the loss;
  `before` is the chain that was live when it was begun. -/
  | connecting (run before : Option PingerId) (leader : Node)
  /-- The loss of a connection, reported or found by the run of a chain, yet to be handled. -/
  | lost (run : Option PingerId) (node : Node)
  /-- The call of the listeners for the failure of a session, with those yet to be called. -/
  | calling (session : Nat) (rest : List (Nat × κ)) (failure : LeaderFailure)

namespace Activity

variable {κ : Type}

/-- The chain whose run this is. -/
def run : Activity κ → Option PingerId
  | scheduled p _ | pinging p _ _ => some p
  | connecting run _ _ | lost run _ => run
  | calling .. => none

/-- How many pings the run has sent. -/
def sent : Activity κ → Nat
  | pinging _ _ sent => sent
  | _ => 0

/-- The session whose failure the listeners are being told. -/
def callsFor : Activity κ → Option Nat
  | calling session .. => some session
  | _ => none

end Activity

/-- What the detector does when some work goes on; `source` is what the local node is then known
as, and `result` what the transport answers. -/
def Detector.goOn {κ : Type} (d : Detector κ) (source : Node)
    (result : Except TransportError Unit) : Activity κ → Detector κ × List (Effect κ)
  | .scheduled p _ => d.beginRound p source
  | .pinging p request _ => d.pinged p request result
  | .connecting _ before leader => d.connected before leader result
  | .lost _ node => d.disconnected node
  | .calling .. => (d, [])

/-- The failure of a session as it was raised. Sessions are numbered in the order of their
starts. -/
structure Notification (κ : Type) where
  session : Nat
  /-- Who was registered at that moment. -/
  listeners : List (Nat × κ)
  failure : LeaderFailure
  /-- Whether the scheduler took the call of the listeners. -/
  taken : Bool

/-- The call of one listener for the failure of a session. -/
structure Delivery (κ : Type) where
  session : Nat
  listener : Nat × κ
  failure : LeaderFailure

structure Watch (κ : Type) where
  detector : Detector κ
  /-- What is under way, each under its own number, the oldest first. -/
  activities : List (Nat × Activity κ) := []
  /-- How many activities there ever were. -/
  begun : Nat := 0
  metrics : Metrics := {}
  /-- All that the detector asked for, the oldest first. -/
  asked : List (Effect κ) := []
  /-- The leaders of all sessions, in the order of their starts. -/
  sessions : List Node := []
  notifications : List (Notification κ) := []
  deliveries : List (Delivery κ) := []
  /-- Whether the scheduler ever refused what it was handed. -/
  refused : Bool := false

inductive Move (κ : Type) where
  | restart (leader : Node) (reason : String)
  | stop (reason : String)
  | shutdown
  /-- The owner gives the detector up. -/
  | drop
  | addListener (listener : κ)
  | removeListener (id : Nat)
  /-- The transport reports a lost connection, which is to be handled later. -/
  | lose (node : Node)
  /-- The detector is told directly that a connection was lost. -/
  | handle (node : Node)
  /-- The activity with this number goes on. -/
  | proceed (id : Nat) (source : Node) (result : Except TransportError Unit)
  /-- The activity with this number goes on and is answered that the connection is lost. If it is
  the ping of the live chain, others come in before it handles the loss. -/
  | accept (id : Nat) (source : Node) (node message : String)

/-- The number of the activity that goes on in a move. -/
def Move.lets {κ : Type} : Move κ → Option Nat
  | proceed id _ _ | accept id _ _ _ => some id
  | _ => none

namespace Watch

variable {κ : Type}

def create (settings : FaultDetectionConfig) (clusterName : ClusterName) : Watch κ :=
  let (detector, effects) := Detector.create settings clusterName
  { detector, asked := effects }

def spawn (w : Watch κ) (a : Activity κ) : Watch κ :=
  { w with activities := w.activities ++ [(w.begun, a)], begun := w.begun + 1 }

/-- Hands work to the scheduler. -/
def submit (w : Watch κ) (takes : Bool) (a : Activity κ) : Watch κ :=
  if takes then w.spawn a else { w with refused := true }

/-- The number of the latest session. -/
def latest (w : Watch κ) : Nat := w.sessions.length - 1

/-- Notes what the detector asks for. -/
def note (w : Watch κ) (effect : Effect κ) : Watch κ := { w with asked := w.asked ++ [effect] }

/-- The latest session raises a failure. -/
def raise (w : Watch κ) (failure : LeaderFailure) (taken : Bool) : Watch κ :=
  { w with notifications := w.notifications ++ [⟨w.latest, w.detector.listeners, failure, taken⟩] }

/-- Does what the detector asks for; `cause` is the activity that went on. -/
def perform (cause : Option (Activity κ)) (takes : Bool) (w : Watch κ) (effect : Effect κ) :
    Watch κ :=
  let w := w.note effect
  match effect with
  | .tell _ => w
  | .count series => { w with metrics := w.metrics.count series }
  | .schedule p delay => w.submit takes (.scheduled p delay)
  | .dispatch listeners failure =>
    (w.raise failure takes).submit takes (.calling w.latest listeners failure)
  | .ping p request => w.spawn (.pinging p request ((cause.elim 0 Activity.sent) + 1))
  | .connect before leader => w.spawn (.connecting (cause.bind Activity.run) before leader)

/-- Takes over what an event made of the detector. -/
def update (w : Watch κ) (cause : Option (Activity κ)) (takes : Bool)
    (r : Detector κ × List (Effect κ)) : Watch κ :=
  r.2.foldl (perform cause takes) { w with detector := r.1 }

/-- What is left without an activity. -/
def without (w : Watch κ) (id : Nat) : Watch κ :=
  { w with activities := w.activities.filter (·.1 != id) }

def call (w : Watch κ) (d : Delivery κ) : Watch κ := { w with deliveries := w.deliveries ++ [d] }

/-- Calls the next of the listeners that an activity has yet to call. -/
def deliver (w : Watch κ) : Activity κ → Watch κ
  | .calling session (listener :: rest) failure =>
    (w.call ⟨session, listener, failure⟩).spawn (.calling session rest failure)
  | _ => w

/-- An activity goes on. -/
def proceed (w : Watch κ) (takes : Bool) (source : Node) (result : Except TransportError Unit)
    (a : Activity κ) : Watch κ :=
  (w.update (some a) takes (w.detector.goOn source result a)).deliver a

/-- The run of a chain accepts that the connection is lost and lets go of the session. What
`Detector.pingFailed` then does at once is left to be done. -/
def accept (w : Watch κ) (p : PingerId) (leader : Node) (e : TransportError) : Watch κ :=
  (w.update none true (w.detector, [.count (.pingFailures e.kind)])).spawn (.lost (some p) leader)

/-- A restart begins a session if it is not ignored. -/
def enter (w : Watch κ) (leader : Node) : Watch κ :=
  if w.detector.closed then w else { w with sessions := w.sessions ++ [leader] }

/-- One move, in which the scheduler `takes` or refuses what it is handed. -/
def step (w : Watch κ) (takes : Bool) : Move κ → Watch κ
  | .restart leader reason => (w.enter leader).update none takes (w.detector.restart leader reason)
  | .stop reason => w.update none takes (w.detector.stop reason)
  | .shutdown => w.update none takes w.detector.shutdown
  | .drop => { w with detector := w.detector.endSession }
  | .addListener listener => { w with detector := (w.detector.addListener listener).1 }
  | .removeListener id => { w with detector := (w.detector.removeListener id).1 }
  | .lose node => w.submit takes (.lost none node)
  | .handle node => w.update none takes (w.detector.disconnected node)
  | .proceed id source result =>
    match w.activities.lookup id with
    | some a => (w.without id).proceed takes source result a
    | none => w
  | .accept id source node message =>
    match w.activities.lookup id with
    | some (.pinging p request sent) =>
      if w.detector.owns p request.leader then
        (w.without id).accept p request.leader (.disconnected node message)
      else
        (w.without id).proceed takes source (.error (.disconnected node message))
          (.pinging p request sent)
    | some a => (w.without id).proceed takes source (.error (.disconnected node message)) a
    | none => w

/-- Moves one after the other, each with whether the scheduler takes what it is handed. -/
def run (w : Watch κ) (moves : List (Bool × Move κ)) : Watch κ :=
  moves.foldl (fun w m => w.step m.1 m.2) w

end Watch

section requests

variable {κ : Type}

/-- Whether an effect is more than a record of what happened. -/
def Effect.isRequest : Effect κ → Bool
  | .tell _ | .count _ => false
  | _ => true

/-- What is asked of the scheduler and of the transport. -/
def requests (effects : List (Effect κ)) : List (Effect κ) := effects.filter Effect.isRequest

@[simp] theorem requests_nil : requests ([] : List (Effect κ)) = [] := rfl

@[simp] theorem requests_cons (e : Effect κ) (es : List (Effect κ)) :
    requests (e :: es) = if e.isRequest then e :: requests es else requests es :=
  List.filter_cons

end requests

namespace Watch

variable {κ : Type}

/-- A watch without the records that are kept for the operator. -/
def work (w : Watch κ) : Watch κ := { w with metrics := {}, asked := [] }

theorem perform_work (cause : Option (Activity κ)) (takes : Bool) {w v : Watch κ}
    (h : w.work = v.work) (e : Effect κ) :
    (perform cause takes w e).work = (perform cause takes v e).work := by
  cases w
  cases v
  simp only [work, Watch.mk.injEq] at h
  obtain ⟨rfl, rfl, rfl, -, -, rfl, rfl, rfl, rfl⟩ := h
  cases e <;> cases takes <;> rfl

theorem perform_record (cause : Option (Activity κ)) (takes : Bool) (w : Watch κ) {e : Effect κ}
    (h : e.isRequest = false) : (perform cause takes w e).work = w.work := by
  cases e <;> first | rfl | simp [Effect.isRequest] at h

/-- Records change nothing of the work. -/
theorem performAll_work (cause : Option (Activity κ)) (takes : Bool) (es : List (Effect κ))
    {w v : Watch κ} (h : w.work = v.work) :
    (es.foldl (perform cause takes) w).work =
      ((requests es).foldl (perform cause takes) v).work := by
  induction es generalizing w v with
  | nil => exact h
  | cons e es ih =>
    rw [requests_cons]
    split
    · exact ih (perform_work cause takes h e)
    · next record => exact ih ((perform_record cause takes w (by simpa using record)).trans h)

theorem update_work (w : Watch κ) (cause : Option (Activity κ)) (takes : Bool)
    (r : Detector κ × List (Effect κ)) :
    (w.update cause takes r).work =
      ((requests r.2).foldl (perform cause takes) { w with detector := r.1 }).work :=
  performAll_work cause takes r.2 rfl

/-- What everything done for the detector preserves, all of it together preserves. -/
theorem update_preserves {P : Watch κ → Prop} {w : Watch κ} (cause : Option (Activity κ))
    (takes : Bool) (r : Detector κ × List (Effect κ)) (start : P { w with detector := r.1 })
    (one : ∀ v e, e ∈ r.2 → P v → P (perform cause takes v e)) : P (w.update cause takes r) :=
  List.foldlRecOn r.2 _ start fun v h e there => one v e there h

theorem update_detector (w : Watch κ) (cause : Option (Activity κ)) (takes : Bool)
    (r : Detector κ × List (Effect κ)) : (w.update cause takes r).detector = r.1 := by
  refine update_preserves (P := (·.detector = r.1)) cause takes r rfl fun v e _ h => ?_
  cases e <;> cases takes <;> exact h

theorem perform_asked (cause : Option (Activity κ)) (takes : Bool) (w : Watch κ) (e : Effect κ) :
    (perform cause takes w e).asked = w.asked ++ [e] := by
  cases e <;> cases takes <;> rfl

theorem update_asked (w : Watch κ) (cause : Option (Activity κ)) (takes : Bool)
    (r : Detector κ × List (Effect κ)) : (w.update cause takes r).asked = w.asked ++ r.2 := by
  have gathered : (w.update cause takes r).asked = r.2.foldl (· ++ [·]) w.asked :=
    (List.foldl_hom asked fun v e => (perform_asked cause takes v e).symm).symm
  rw [gathered, List.foldl_append_eq_append, ← List.flatMap_def, List.flatMap_singleton']

theorem step_proceed {w : Watch κ} {id : Nat} {a : Activity κ}
    (h : w.activities.lookup id = some a) (takes : Bool) (source : Node)
    (result : Except TransportError Unit) :
    w.step takes (.proceed id source result) = (w.without id).proceed takes source result a := by
  simp only [step, h]

/-- Only a ping of the live chain is accepted as lost; all else goes on with that answer. -/
theorem accept_cases {P : Watch κ → Prop} {w : Watch κ} (takes : Bool) (id : Nat)
    (source : Node) (node message : String)
    (goes : P (w.step takes (.proceed id source (.error (.disconnected node message)))))
    (accepted : ∀ p request sent, w.activities.lookup id = some (.pinging p request sent) →
      w.detector.owns p request.leader = true →
      P ((w.without id).accept p request.leader (.disconnected node message))) :
    P (w.step takes (.accept id source node message)) := by
  simp only [step] at goes ⊢
  split
  · next p request sent here =>
    rw [here] at goes
    split
    · next owns => exact accepted p request sent here owns
    · exact goes
  · next a _ here =>
    rw [here] at goes
    exact goes
  · next none =>
    rw [none] at goes
    exact goes

theorem deliver_detector (w : Watch κ) (a : Activity κ) : (w.deliver a).detector = w.detector := by
  unfold deliver
  split <;> rfl

theorem deliver_asked (w : Watch κ) (a : Activity κ) : (w.deliver a).asked = w.asked := by
  unfold deliver
  split <;> rfl

theorem enter_asked (w : Watch κ) (leader : Node) : (w.enter leader).asked = w.asked := by
  unfold enter
  split <;> rfl

theorem enter_detector (w : Watch κ) (leader : Node) : (w.enter leader).detector = w.detector := by
  unfold enter
  split <;> rfl

theorem accept_work (w : Watch κ) (p : PingerId) (leader : Node) (e : TransportError) :
    (w.accept p leader e).work = w.work.spawn (.lost (some p) leader) := rfl

theorem performAll_schedule (cause : Option (Activity κ)) (takes : Bool) (w : Watch κ)
    (p : PingerId) (delay : Duration) :
    ([.schedule p delay].foldl (perform cause takes) w).work =
      w.work.submit takes (.scheduled p delay) := by
  cases takes <;> rfl

theorem performAll_dispatch (cause : Option (Activity κ)) (takes : Bool) (w : Watch κ)
    (listeners : List (Nat × κ)) (failure : LeaderFailure) :
    ([.dispatch listeners failure].foldl (perform cause takes) w).work =
      (w.work.raise failure takes).submit takes (.calling w.latest listeners failure) := by
  cases takes <;> rfl

end Watch

end Vigil

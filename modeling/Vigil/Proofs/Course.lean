import Vigil.Proofs.Chain

/-!
The course of one session that nothing disturbs, beside a plain automaton. The automaton counts
failures in a row with a natural number and knows of no chains and no work under way; a session asks
for the same timers, pings, connections and failures, after any answers.
-/

namespace Vigil

/-- Where a session stands. -/
inductive Stage where
  /-- The next ping waits for its time. -/
  | resting
  /-- A ping awaits its answer, after some failures in a row. -/
  | waiting (failures : Nat) (request : PingRequest)
  | reconnecting (failures : Nat)
  | failed (failure : LeaderFailure)

/-- What a session asks for. -/
inductive Ask where
  | timer (delay : Duration)
  | ping (request : PingRequest)
  | connect (leader : Node)
  | fail (failure : LeaderFailure)
deriving DecidableEq

namespace Stage

def retryCount : Stage → Nat
  | resting | failed _ => 0
  | waiting failures _ | reconnecting failures => failures

def failure? : Stage → Option LeaderFailure
  | failed failure => some failure
  | _ => none

def fail (leader : Node) (cause : Option TransportError) (reason : String) : Stage × List Ask :=
  (.failed ⟨leader, cause, reason⟩, [.fail ⟨leader, cause, reason⟩])

section automaton

variable (settings : FaultDetectionConfig) (clusterName : ClusterName) (leader : Node)

/-- What follows where a session stands: the time of its ping comes, when the local node is known as
`source`, or its ping or its connection comes to a result. -/
def next : Stage → Node → Except TransportError Unit → Stage × List Ask
  | .resting, source, _ =>
    let request : PingRequest := ⟨source, leader, some clusterName⟩
    (.waiting 0 request, [.ping request])
  | .waiting _ _, _, .ok () => (.resting, [.timer settings.pingInterval])
  | .waiting failures request, _, .error e =>
    match e with
    | .timeout .. | .remote .. =>
      if failures + 1 < settings.pingRetries.toNat then
        (.waiting (failures + 1) request, [.ping request])
      else
        fail leader (some e)
          ("failed to ping, tried [" ++ toString settings.pingRetries ++
            "] times, each with maximum [" ++ settings.pingTimeout.text ++ "] timeout")
    | .rejected _ .noLongerLeader => fail leader (some e) "no longer leader"
    | .rejected _ (.notTheLeader _) => fail leader (some e) "not leader"
    | .rejected _ (.unknownToLeader _) =>
      fail leader (some e) "do not exist on leader, act as leader failure"
    | .disconnected .. =>
      if settings.connectOnNetworkDisconnect then (.reconnecting failures, [.connect leader])
      else fail leader none "transport disconnected"
  | .reconnecting _, _, .ok () => (.resting, [.timer ⟨0⟩])
  | .reconnecting _, _, .error e =>
    fail leader (some e) "transport disconnected (with verified connect)"
  | .failed failure, _, _ => (.failed failure, [])

def run : Stage → List (Node × Except TransportError Unit) → Stage × List Ask
  | stage, [] => (stage, [])
  | stage, (source, result) :: outcomes =>
    let (stage, asks) := stage.next settings clusterName leader source result
    let (last, more) := stage.run outcomes
    (last, asks ++ more)

end automaton

/-- What the chain of a session does where the session stands. -/
inductive Doing {κ : Type} (leader : Node) (p : PingerId) : Stage → Activity κ → Prop where
  | resting (delay : Duration) : Doing leader p .resting (.scheduled p delay)
  | waiting (failures : Nat) (request : PingRequest) (sent : Nat) : request.leader = leader →
      Doing leader p (.waiting failures request) (.pinging p request sent)
  | reconnecting (failures : Nat) :
      Doing leader p (.reconnecting failures) (.connecting (some p) (some p) leader)

end Stage

def Effect.ask? {κ : Type} : Effect κ → Option Ask
  | .tell _ | .count _ => none
  | .schedule _ delay => some (.timer delay)
  | .dispatch _ failure => some (.fail failure)
  | .ping _ request => some (.ping request)
  | .connect _ leader => some (.connect leader)

namespace Watch

variable {κ : Type}

/-- The work by which the session goes on, if there is any. -/
def own (w : Watch κ) : Option Nat :=
  w.detector.session.pinger.bind fun p => (w.activities.find? (·.2.run == some p)).map (·.1)

/-- The session goes on by itself, with a scheduler that takes what it is handed. -/
def advance (w : Watch κ) (source : Node) (result : Except TransportError Unit) : Watch κ :=
  match w.own with
  | some id => w.step true (.proceed id source result)
  | none => w

def follow (w : Watch κ) (outcomes : List (Node × Except TransportError Unit)) : Watch κ :=
  outcomes.foldl (fun w o => w.advance o.1 o.2) w

end Watch

/-- A detector and the one thing that it asks for put a session at some stage; `run` is the chain
whose run goes on. -/
inductive Stage.Reached {κ : Type} (leader : Node) (run : Option PingerId) (d : Detector κ) :
    Stage → Effect κ → Prop where
  | resting (p : PingerId) (delay : Duration) : d.session.leader = some leader →
      d.session.pinger = some p → d.session.retryCount = 0 →
      Reached leader run d .resting (.schedule p delay)
  | waiting (p : PingerId) (request : PingRequest) : d.session.leader = some leader →
      d.session.pinger = some p → request.leader = leader →
      Reached leader run d (.waiting d.session.retryCount.toNat request) (.ping p request)
  | reconnecting (p : PingerId) : d.session.leader = some leader → d.session.pinger = some p →
      run = some p →
      Reached leader run d (.reconnecting d.session.retryCount.toNat) (.connect (some p) leader)
  | failed (failure : LeaderFailure) : d.session.leader = none → d.session.retryCount = 0 →
      Reached leader run d (.failed failure) (.dispatch d.listeners failure)

theorem requests_append {κ : Type} (es es' : List (Effect κ)) :
    requests (es ++ es') = requests es ++ requests es' := List.filter_append ..

/-- All that is asked for is among the requests. -/
theorem filterMap_requests {κ : Type} (es : List (Effect κ)) :
    (requests es).filterMap Effect.ask? = es.filterMap Effect.ask? := by
  rw [requests, List.filterMap_filter]
  congr 1
  funext e
  cases e <;> rfl

namespace Detector

variable {κ : Type} {d : Detector κ} {leader : Node} {p : PingerId}

/-- What an event comes to: the one thing that the automaton asks for is asked for, and the session
is where the automaton is. -/
def Answers (leader : Node) (run : Option PingerId) (course : Stage × List Ask)
    (r : Detector κ × List (Effect κ)) : Prop :=
  ∃ e, requests r.2 = [e] ∧ e.ask?.toList = course.2 ∧ course.1.Reached leader run r.1 e

theorem failing_answers (d : Detector κ) (leader : Node) (run : Option PingerId)
    (cause : Option TransportError) (reason : String) (records : List (Effect κ))
    (none : requests records = []) :
    Answers leader run (Stage.fail leader cause reason)
      ((d.failing leader cause reason).1, records ++ (d.failing leader cause reason).2) := by
  have same : (d.failing leader cause reason).1.listeners = d.listeners := by
    simp only [failing, endSession_eq]
  refine ⟨.dispatch d.listeners ⟨leader, cause, reason⟩, ?_, rfl, ?_⟩
  · rw [requests_append, none, requests_failing, List.nil_append]
  · rw [← same]
    refine .failed _ ?_ ?_ <;> simp [failing, endSession_eq]

theorem restart_answers (d : Detector κ) (leader : Node) (reason : String)
    (listens : d.closed = false) :
    Answers leader none (.resting, [.timer d.settings.pingInterval]) (d.restart leader reason) := by
  have asked : requests (d.restart leader reason).2 =
      [.schedule d.created d.settings.pingInterval] := by
    simp [restart, listens, startSession, startPinger, endSession_eq, Effect.isRequest]
  refine ⟨_, asked, rfl, .resting _ _ ?_ ?_ ?_⟩ <;>
    simp [restart, listens, startSession, startPinger, endSession_eq]

theorem beginRound_answers (s : d.Sound) (live : d.session.pinger = some p)
    (watched : d.session.leader = some leader) (fresh : d.session.retryCount.toNat = 0)
    (source : Node) (result : Except TransportError Unit) :
    Answers leader (some p)
      (Stage.resting.next d.settings d.clusterName leader source result)
      (d.beginRound p source) := by
  obtain ⟨node, same, begun⟩ := s.beginRound_eq ((s.current_iff p).mpr live) source
  obtain rfl := Option.some.inj (watched.symm.trans same)
  rw [begun]
  have reached : Stage.Reached leader (some p) d (.waiting d.session.retryCount.toNat _)
      (.ping p ⟨source, leader, some d.clusterName⟩) :=
    .waiting p _ watched live rfl
  rw [fresh] at reached
  exact ⟨_, rfl, rfl, reached⟩

theorem pinged_answers (s : d.Sound) (live : d.session.pinger = some p)
    {request : PingRequest} (watched : d.session.leader = some request.leader) (source : Node)
    (result : Except TransportError Unit) :
    Answers request.leader (some p)
      ((Stage.waiting d.session.retryCount.toNat request).next d.settings d.clusterName
        request.leader source result)
      (d.pinged p request result) := by
  have owns : d.owns p request.leader = true := (s.owns_iff p _).mpr ⟨live, watched⟩
  obtain ⟨runs, _⟩ := owned_running owns
  have notifies := s.notifies
  -- The automaton counts as the session does.
  have counts := s.retryCount_succ (by simp [watched])
  have left : d.session.retryCount + 1 < d.settings.pingRetries ↔
      d.session.retryCount.toNat + 1 < d.settings.pingRetries.toNat := by
    rw [UInt32.lt_iff_toNat_lt, counts]
  have again (e : TransportError) (transient : d.pinged p request (.error e) =
      ((d.attemptFailed p request e).1,
        .count (.pingFailures e.kind) :: (d.attemptFailed p request e).2)) :
      Answers request.leader (some p)
        (if d.session.retryCount.toNat + 1 < d.settings.pingRetries.toNat then
          (.waiting (d.session.retryCount.toNat + 1) request, [.ping request])
        else Stage.fail request.leader (some e) (usedUpReason d.settings))
        (d.pinged p request (.error e)) := by
    rw [transient]
    by_cases more : d.session.retryCount + 1 < d.settings.pingRetries
    · have reached : Stage.Reached request.leader (some p)
          { d with session := { d.session with retryCount := d.session.retryCount + 1 } }
          (.waiting (d.session.retryCount + 1).toNat request) (.ping p request) :=
        .waiting p request watched live rfl
      rw [counts] at reached
      rw [if_pos (left.mp more)]
      simp only [attemptFailed, more, if_true]
      exact ⟨_, rfl, rfl, reached⟩
    · rw [if_neg (mt left.mpr more), s.attemptFailed_last p request e watched more]
      exact failing_answers d _ _ _ _ [_, _, _] rfl
  cases result with
  | ok _ =>
    simp only [pinged, runs, owns, not_true_eq_false, if_false, if_true]
    exact ⟨_, rfl, rfl, .resting p _ watched live rfl⟩
  | error e =>
    cases e with
    | timeout n limit => exact again _ (by simp [pinged, runs, pingFailed, owns])
    | remote n m => exact again _ (by simp [pinged, runs, pingFailed, owns])
    | rejected n rejection =>
      rw [notifies.rejected p request n rejection owns]
      cases rejection <;> exact failing_answers d _ _ _ _ [_, _] rfl
    | disconnected n m =>
      have lost : d.pinged p request (.error (.disconnected n m)) =
          ((d.disconnected request.leader).1,
            .count (.pingFailures "disconnected") :: (d.disconnected request.leader).2) := by
        simp [pinged, runs, pingFailed, owns, TransportError.kind]
      rw [lost]
      cases connects : d.settings.connectOnNetworkDisconnect with
      | true =>
        simp only [disconnected, watched, live, connects, ne_eq, not_true_eq_false, if_false,
          if_true, Stage.next]
        exact ⟨_, rfl, rfl, .reconnecting p watched live rfl⟩
      | false =>
        rw [notifies.disconnected request.leader watched connects]
        simp only [connects, Bool.false_eq_true, if_false, Stage.next]
        exact failing_answers d _ _ _ _ [_, _] rfl

theorem connected_answers (s : d.Sound) (live : d.session.pinger = some p)
    (watched : d.session.leader = some leader) (failures : Nat) (source : Node)
    (result : Except TransportError Unit) :
    Answers leader (some p)
      ((Stage.reconnecting failures).next d.settings d.clusterName leader source result)
      (d.connected (some p) leader result) := by
  cases result with
  | ok _ =>
    simp only [connected, watched, live, ne_eq, not_true_eq_false, or_self, if_false]
    exact ⟨_, rfl, rfl, .resting _ _ watched rfl rfl⟩
  | error e =>
    have failed := s.notifies.reconnectFailed leader e watched
    rw [live] at failed
    rw [failed]
    exact failing_answers d _ _ _ _ [_] rfl

/-- Wherever a session stands, its own work goes on as the automaton does. -/
theorem goOn_answers (s : d.Sound) (live : d.session.pinger = some p)
    (watched : d.session.leader = some leader) {stage : Stage}
    (counted : d.session.retryCount.toNat = stage.retryCount) {a : Activity κ}
    (doing : stage.Doing leader p a) (source : Node) (result : Except TransportError Unit) :
    Answers leader (some p) (stage.next d.settings d.clusterName leader source result)
      (d.goOn source result a) := by
  cases doing with
  | resting delay => exact beginRound_answers s live watched counted source result
  | waiting failures request sent target =>
    subst target
    obtain rfl : d.session.retryCount.toNat = failures := counted
    exact pinged_answers s live watched source result
  | reconnecting failures => exact connected_answers s live watched failures source result

end Detector

namespace Watch

variable {κ : Type}

/-- What an update makes of a watch: where the session stands, its chain does what it should. -/
theorem update_reached {w : Watch κ} {leader : Node} {cause : Option (Activity κ)}
    {r : Detector κ × List (Effect κ)} {e : Effect κ} {stage : Stage} (only : requests r.2 = [e])
    (reached : stage.Reached leader (cause.bind Activity.run) r.1 e) :
    let v := w.update cause true r
    v.sessions = w.sessions ∧
      v.notifications = w.notifications ++
        (stage.failure?.map fun f => ⟨w.latest, r.1.listeners, f, true⟩).toList ∧
      (stage.failure? = none → r.1.session.leader = some leader ∧
        ∃ p id a, r.1.session.pinger = some p ∧ (id, a) ∈ v.activities ∧
          stage.Doing leader p a) := by
  intro v
  have work : v.work = _ := w.update_work cause true r
  rw [only] at work
  have sessions := congrArg Watch.sessions work
  have notifications := congrArg Watch.notifications work
  have activities := congrArg Watch.activities work
  change v.activities = _ at activities
  have last (x : Nat × Activity κ) : x ∈ w.activities ++ [x] :=
    List.mem_append_right _ List.mem_cons_self
  cases reached with
  | resting p delay watched live _ =>
    refine ⟨sessions, ?_, fun _ => ⟨watched, p, w.begun, .scheduled p delay, live, ?_, .resting _⟩⟩
    · exact notifications.trans (List.append_nil _).symm
    · rw [activities]
      exact last _
  | waiting p request watched live target =>
    let sent := cause.elim 0 Activity.sent + 1
    refine ⟨sessions, ?_, fun _ => ⟨watched, p, w.begun, .pinging p request sent, live, ?_,
      .waiting _ _ _ target⟩⟩
    · exact notifications.trans (List.append_nil _).symm
    · rw [activities]
      exact last _
  | reconnecting p watched live run =>
    refine ⟨sessions, ?_, fun _ => ⟨watched, p, w.begun, .connecting (some p) (some p) leader, live,
      ?_, .reconnecting _⟩⟩
    · exact notifications.trans (List.append_nil _).symm
    · rw [activities, ← run]
      exact last _
  | failed failure _ _ =>
    exact ⟨sessions, notifications, nofun⟩

theorem find_run {w : Watch κ} {p : PingerId} {id : Nat} {a : Activity κ} (single : w.runs p ≤ 1)
    (here : (id, a) ∈ w.activities) (run : a.run = some p) :
    w.activities.find? (·.2.run == some p) = some (id, a) := by
  have first {l : List (Nat × Activity κ)} (single : l.countP (·.2.run == some p) ≤ 1)
      (here : (id, a) ∈ l) : l.find? (·.2.run == some p) = some (id, a) := by
    induction l with
    | nil => cases here
    | cons x l ih =>
      rw [List.countP_cons] at single
      rcases List.mem_cons.mp here with rfl | later
      · simp [run]
      · have counted : 0 < l.countP (·.2.run == some p) :=
          List.countP_pos_iff.mpr ⟨_, later, by simp [run]⟩
        have other : ¬ (x.2.run == some p) = true := fun same => by
          rw [if_pos same] at single
          omega
        have rest := ih (by omega) later
        simpa [List.find?_cons, other] using rest
  exact first single here

theorem own_eq {w : Watch κ} (c : w.Chained none) {p : PingerId} {id : Nat} {a : Activity κ}
    (live : w.detector.session.pinger = some p) (here : (id, a) ∈ w.activities)
    (run : a.run = some p) : w.own = some id := by
  have single : w.runs p ≤ 1 := by simpa using c.single p
  simp only [own, live, Option.bind_some, find_run single here run, Option.map_some]

/-- What a session that nothing disturbs has come to, where the automaton is at some stage; `w₀` is
what there was before the session. -/
structure Follows (w₀ : Watch κ) (leader : Node) (stage : Stage) (w : Watch κ) : Prop where
  valid : w.Valid
  chained : w.Chained none
  settings : w.detector.settings = w₀.detector.settings
  clusterName : w.detector.clusterName = w₀.detector.clusterName
  listeners : w.detector.listeners = w₀.detector.listeners
  sessions : w.sessions = w₀.sessions ++ [leader]
  notifications : w.notifications = w₀.notifications ++ (stage.failure?.map fun f =>
    ⟨w₀.sessions.length, w₀.detector.listeners, f, true⟩).toList
  counted : w.detector.session.retryCount.toNat = stage.retryCount
  watches : w.detector.session.leader = if stage.failure?.isSome then none else some leader
  doing : stage.failure? = none → ∃ p id a, w.detector.session.pinger = some p ∧
    (id, a) ∈ w.activities ∧ stage.Doing leader p a

end Watch

/-- An event of the session itself leaves alone what is not the session's. -/
theorem Detector.Outcome.listeners {κ : Type} {d d' : Detector κ} {p : PingerId}
    {asked : List (Effect κ)} (h : Outcome d (some p) d' asked) :
    d'.listeners = d.listeners := by
  cases h with
  | ignored | scheduled | pinged | connecting | reconnected => rfl
  | started _ none | ended _ _ _ none _ | joined _ none | left _ none => cases none
  | failed => simp [endSession_eq]

theorem Detector.Outcome.clusterName {κ : Type} {d d' : Detector κ} {run : Option PingerId}
    {asked : List (Effect κ)} (h : Outcome d run d' asked) : d'.clusterName = d.clusterName := by
  cases h <;>
    simp [endSession_eq, startSession, startPinger, stopPinger, addListener, removeListener]

namespace Stage.Reached

variable {κ : Type} {leader : Node} {run : Option PingerId} {d : Detector κ} {stage : Stage}
  {e : Effect κ}

theorem counted (h : stage.Reached leader run d e) :
    d.session.retryCount.toNat = stage.retryCount := by
  cases h with
  | resting p delay _ _ fresh => exact congrArg UInt32.toNat fresh
  | waiting => rfl
  | reconnecting => rfl
  | failed failure _ fresh => exact congrArg UInt32.toNat fresh

theorem watches (h : stage.Reached leader run d e) :
    d.session.leader = if stage.failure?.isSome then none else some leader := by
  cases h with
  | resting p delay watched | waiting p request watched | reconnecting p watched => exact watched
  | failed failure gone => exact gone

end Stage.Reached

namespace Watch

variable {κ : Type} {w₀ w : Watch κ} {leader : Node} {stage : Stage}

/-- An update that puts the session at some stage follows the automaton there. -/
theorem follows_update (cause : Option (Activity κ)) {course : Stage × List Ask}
    {r : Detector κ × List (Effect κ)}
    (answers : Detector.Answers leader (cause.bind Activity.run) course r)
    (sessions : w.sessions = w₀.sessions ++ [leader])
    (notifications : w.notifications = w₀.notifications)
    (settings : r.1.settings = w₀.detector.settings)
    (clusterName : r.1.clusterName = w₀.detector.clusterName)
    (listeners : r.1.listeners = w₀.detector.listeners)
    (valid : (w.update cause true r).Valid) (chained : (w.update cause true r).Chained none) :
    Follows w₀ leader course.1 (w.update cause true r) ∧ r.2.filterMap Effect.ask? = course.2 := by
  obtain ⟨e, only, asks, reached⟩ := answers
  obtain ⟨sameSessions, raised, doing⟩ := w.update_reached only reached
  have detector := w.update_detector cause true r
  have latest : w.latest = w₀.sessions.length := by simp [Watch.latest, sessions]
  constructor
  · constructor
    case valid => exact valid
    case chained => exact chained
    case settings => rwa [detector]
    case clusterName => rwa [detector]
    case listeners => rwa [detector]
    case sessions => exact sameSessions.trans sessions
    case notifications => rw [raised, notifications, latest, listeners]
    case counted =>
      rw [detector]
      exact reached.counted
    case watches =>
      rw [detector]
      exact reached.watches
    case doing =>
      rw [detector]
      exact fun goesOn => (doing goesOn).2
  · rw [← filterMap_requests, only, ← asks]
    cases e <;> rfl

theorem follows_restart (v : w₀.Valid) (c : w₀.Chained none) (leader : Node) (reason : String)
    (listens : w₀.detector.closed = false) :
    Follows w₀ leader .resting (w₀.step true (.restart leader reason)) ∧
      ∃ effects, (w₀.step true (.restart leader reason)).asked = w₀.asked ++ effects ∧
        effects.filterMap Effect.ask? = [.timer w₀.detector.settings.pingInterval] := by
  have entered : w₀.enter leader = { w₀ with sessions := w₀.sessions ++ [leader] } := by
    simp [enter, listens]
  have sessions : (w₀.enter leader).sessions = w₀.sessions ++ [leader] := by rw [entered]
  have notifications : (w₀.enter leader).notifications = w₀.notifications := by rw [entered]
  have outcome := w₀.detector.restart_outcome leader reason
  have kept : (w₀.detector.restart leader reason).1.listeners = w₀.detector.listeners := by
    simp [Detector.restart, listens, Detector.startSession, Detector.startPinger,
      Detector.endSession_eq]
  obtain ⟨follows, asks⟩ := follows_update none
    (w₀.detector.restart_answers leader reason listens) sessions notifications
    outcome.settings outcome.clusterName kept
    (v.step true (.restart leader reason)) (c.step v true (.restart leader reason))
  refine ⟨follows, _, ?_, asks⟩
  simp only [step, update_asked, enter_asked]

/-- Nothing of a session that is over goes on. -/
theorem Follows.advance_failed (f : Follows w₀ leader stage w) {failure : LeaderFailure}
    (ended : stage.failure? = some failure) (source : Node) (result : Except TransportError Unit) :
    w.advance source result = w := by
  have past : w.detector.session.leader = none := by simpa [ended] using f.watches
  have gone : w.detector.session.pinger = none := by
    have both := f.valid.sound.watches
    rw [past] at both
    exact Option.isNone_iff_eq_none.mp (Option.isSome_eq_false_iff.mp both.symm)
  simp [Watch.advance, own, gone]

theorem Follows.advance (f : Follows w₀ leader stage w) (source : Node)
    (result : Except TransportError Unit) :
    let course := stage.next w₀.detector.settings w₀.detector.clusterName leader source result
    Follows w₀ leader course.1 (w.advance source result) ∧
      ∃ effects, (w.advance source result).asked = w.asked ++ effects ∧
        effects.filterMap Effect.ask? = course.2 := by
  intro course
  have s := f.valid.sound
  cases ended : stage.failure? with
  | some failure =>
    have stays : course = (stage, []) := by
      cases stage with
      | failed _ => rfl
      | _ => cases ended
    rw [f.advance_failed ended, stays]
    exact ⟨f, [], (List.append_nil _).symm, rfl⟩
  | none =>
    have watched : w.detector.session.leader = some leader := by simpa [ended] using f.watches
    obtain ⟨p, id, a, live, here, doing⟩ := f.doing ended
    have run : a.run = some p := by cases doing <;> rfl
    have next := f.valid.lookup_of_mem here
    have goes : w.advance source result = w.step true (.proceed id source result) := by
      simp only [Watch.advance, own_eq f.chained live here run]
    have answers := Detector.goOn_answers s live watched f.counted doing source result
    have outcome := Detector.goOn_outcome s (f.valid.fits_of_lookup next) source result
    rw [run] at outcome
    have valid := f.valid.step true (.proceed id source result)
    have chained := f.chained.step f.valid true (.proceed id source result)
    have undelivered (v : Watch κ) : v.deliver a = v := by cases doing <;> rfl
    rw [f.settings, f.clusterName] at answers
    rw [step_proceed next] at goes valid chained
    simp only [proceed, undelivered] at goes valid chained
    have quiet : w.notifications = w₀.notifications := by simpa [ended] using f.notifications
    have sessions : (w.without id).sessions = w₀.sessions ++ [leader] := f.sessions
    rw [← run] at answers
    obtain ⟨follows, asks⟩ := follows_update (some a) answers sessions quiet
      (outcome.settings.trans f.settings) (outcome.clusterName.trans f.clusterName)
      (outcome.listeners.trans f.listeners) valid chained
    rw [goes]
    exact ⟨follows, _, update_asked _ _ _ _, asks⟩

theorem Follows.follow (f : Follows w₀ leader stage w)
    (outcomes : List (Node × Except TransportError Unit)) :
    let course := stage.run w₀.detector.settings w₀.detector.clusterName leader outcomes
    Follows w₀ leader course.1 (w.follow outcomes) ∧
      ∃ effects, (w.follow outcomes).asked = w.asked ++ effects ∧
        effects.filterMap Effect.ask? = course.2 := by
  -- By induction on the outcomes, from whatever stage the session stands at.
  induction outcomes generalizing w stage with
  | nil => exact ⟨f, [], (List.append_nil _).symm, rfl⟩
  | cons outcome outcomes ih =>
    obtain ⟨source, result⟩ := outcome
    obtain ⟨one, effects, asked, asks⟩ := f.advance source result
    obtain ⟨all, more, later, others⟩ := ih one
    refine ⟨all, effects ++ more, ?_, ?_⟩
    · rw [← List.append_assoc, ← asked]
      exact later
    · rw [List.filterMap_append, asks, others]
      rfl

theorem run_clusterName (settings : FaultDetectionConfig) (clusterName : ClusterName)
    (moves : List (Bool × Move κ)) :
    ((create settings clusterName).run moves).detector.clusterName = clusterName := by
  have kept {w : Watch κ} (v : w.Valid) :
      (w.run moves).detector.clusterName = w.detector.clusterName := by
    induction moves generalizing w with
    | nil => rfl
    | cons m moves ih =>
      obtain ⟨_, _, h, _⟩ := step_outcome v m.1 m.2
      exact (ih (v.step m.1 m.2)).trans h.clusterName
  exact kept (create_valid settings clusterName)

/-- A session from its start, after whatever there was before and whatever its pings and connections
come to: it asks for the timers, pings and connections that the automaton asks for, counts the
failures in a row as the automaton does, and fails when and as the automaton does. It is one and the
same session throughout, and its failure is raised once. -/
theorem session_course (settings : FaultDetectionConfig) (clusterName : ClusterName)
    (moves : List (Bool × Move κ)) (leader : Node) (reason : String)
    (outcomes : List (Node × Except TransportError Unit))
    (listens : ((create settings clusterName).run moves).detector.closed = false) :
    let w := (create settings clusterName).run moves
    let v := (w.step true (.restart leader reason)).follow outcomes
    let course := Stage.resting.run settings clusterName leader outcomes
    (∃ effects, v.asked = w.asked ++ effects ∧
      effects.filterMap Effect.ask? = .timer settings.pingInterval :: course.2) ∧
    v.detector.session.retryCount.toNat = course.1.retryCount ∧
    v.detector.session.leader = (if course.1.failure?.isSome then none else some leader) ∧
    v.sessions = w.sessions ++ [leader] ∧
    v.notifications = w.notifications ++ (course.1.failure?.map fun f =>
      ⟨w.sessions.length, w.detector.listeners, f, true⟩).toList := by
  intro w v course
  have valid : w.Valid := run_valid settings clusterName moves
  have chained : w.Chained none :=
    (create_chained settings clusterName).run (create_valid settings clusterName) moves
  have same : w.detector.settings = settings :=
    run_settings (create_valid settings clusterName) moves
  have name : w.detector.clusterName = clusterName := run_clusterName settings clusterName moves
  obtain ⟨starts, first, begun, timer⟩ := follows_restart valid chained leader reason listens
  obtain ⟨follows, more, asked, asks⟩ := starts.follow outcomes
  rw [same] at timer
  rw [same, name] at follows asks
  refine ⟨⟨first ++ more, ?_, ?_⟩, follows.counted, follows.watches, follows.sessions,
    follows.notifications⟩
  · rw [← List.append_assoc, ← begun]
    exact asked
  · rw [List.filterMap_append, timer, asks]
    rfl

/-- A ping times out and is sent again, its connection is made anew, and then the attempts are used
up. If the second attempt is rejected instead, the session fails at once. -/
theorem used_up_or_rejected :
    let a : Node := ⟨"a", "1", "http://a"⟩
    let b : Node := ⟨"b", "1", "http://b"⟩
    let settings : FaultDetectionConfig :=
      { pingRetries := 2, pingTimeoutMs := 1500, connectOnNetworkDisconnect := true }
    let timeout : TransportError := .timeout "a" settings.pingTimeout
    let outcomes := [(b, .ok ()), (b, .error timeout), (b, .error (.disconnected "a" "reset")),
      (b, .ok ()), (b, .ok ()), (b, .error (.remote "a" "busy")), (b, .error timeout)]
    let w : Watch Unit := (create settings "c").run []
    let v := (w.step true (.restart a "elected")).follow outcomes
    let ping : Ask := .ping ⟨b, a, some "c"⟩
    let failure : LeaderFailure := ⟨a, some timeout,
      "failed to ping, tried [2] times, each with maximum [1.5s] timeout"⟩
    let rejected (r : Rejection) : List (Node × Except TransportError Unit) :=
      [(b, .ok ()), (b, .error timeout), (b, .error (.rejected "a" r))]
    let fails (r : Rejection) (reason : String) : Prop :=
      ((w.step true (.restart a "elected")).follow (rejected r)).notifications.map (·.failure) =
        [⟨a, some (.rejected "a" r), reason⟩]
    w.detector.closed = false ∧ v.notifications.map (·.failure) = [failure] ∧
      (∃ effects, v.asked = w.asked ++ effects ∧ effects.filterMap Effect.ask? =
        [.timer settings.pingInterval, ping, ping, .connect a, .timer ⟨0⟩, ping, ping,
          .fail failure]) ∧
      fails .noLongerLeader "no longer leader" ∧ fails (.notTheLeader "no leader") "not leader" ∧
      fails (.unknownToLeader "b") "do not exist on leader, act as leader failure" := by
  intro a b settings timeout outcomes w v ping failure rejected fails
  have course : (Stage.resting.run settings "c" a outcomes).2 =
      [ping, ping, .connect a, .timer ⟨0⟩, ping, ping, .fail failure] := by decide +kernel
  obtain ⟨⟨effects, asked, asks⟩, _⟩ :=
    session_course settings "c" ([] : List (Bool × Move Unit)) a "elected" outcomes rfl
  rw [course] at asks
  have ends (r : Rejection) {reason : String}
      (course : (Stage.resting.run settings "c" a (rejected r)).1.failure? =
        some ⟨a, some (.rejected "a" r), reason⟩) : fails r reason := by
    obtain ⟨_, _, _, _, raised⟩ :=
      session_course settings "c" ([] : List (Bool × Move Unit)) a "elected" (rejected r) rfl
    rw [course] at raised
    exact congrArg (List.map Notification.failure) raised
  exact ⟨rfl, by decide +kernel, ⟨effects, asked, asks⟩, ends _ rfl, ends _ rfl, ends _ rfl⟩

end Watch

end Vigil

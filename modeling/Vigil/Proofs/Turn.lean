import Vigil.Proofs.Disconnect

/-!
What a move means for the pings of a chain. The next ping of a chain is made due by a start of the
session, by the end of the last ping, or by a new connection; and it is sent by the run of the chain
when its time has come, or at once. `Watch.Turn` lists what a move can come to in this respect as
long as the scheduler takes what it is handed.
-/

namespace Vigil

/-- What makes a ping of a chain due. -/
inductive Occasion where
  /-- A session was started with the chain. -/
  | started
  /-- The last ping was answered. -/
  | answered
  /-- The last ping failed in a way that may pass. -/
  | failed
  /-- The session goes on with the chain after a new connection. -/
  | reconnected
deriving DecidableEq, Repr

/-- How long after an occasion the ping is due. -/
def Occasion.delay (settings : FaultDetectionConfig) : Occasion → Duration
  | started | answered => settings.pingInterval
  | failed | reconnected => ⟨0⟩

/-- What the end of a ping is an occasion for. -/
def Occasion.ofAnswer : Except TransportError Unit → Option Occasion
  | .ok _ => some .answered
  | .error (.timeout ..) | .error (.remote ..) => some .failed
  | .error _ => none

section chains

variable {κ : Type}

/-- The chain whose ping is scheduled or waits for its answer. -/
def Activity.round : Activity κ → Option PingerId
  | scheduled p _ | pinging p _ _ => some p
  | _ => none

/-- Whether a connection is awaited. -/
def Activity.connects : Activity κ → Bool
  | connecting .. => true
  | _ => false

/-- Whether the answer to a ping is awaited. -/
def Activity.asks : Activity κ → Bool
  | pinging .. => true
  | _ => false

theorem Activity.run_of_round {a : Activity κ} {p : PingerId} (h : a.round = some p) :
    a.run = some p := by
  cases a with
  | scheduled q delay => exact h
  | pinging q request sent => exact h
  | _ => cases h

/-- The chain that an effect pings. -/
def Effect.pings : Effect κ → Option PingerId
  | ping p _ => some p
  | _ => none

theorem pings_requests (effects : List (Effect κ)) :
    (requests effects).filterMap Effect.pings = effects.filterMap Effect.pings := by
  induction effects with
  | nil => rfl
  | cons e es ih =>
    rw [requests_cons, List.filterMap_cons, ← ih]
    cases e <;> rfl

end chains

namespace Watch

variable {κ : Type}

/-- The occasion that a move is for some chain to ping. -/
def occasion (w : Watch κ) : Move κ → Option (Occasion × PingerId)
  | .restart _ _ => if w.detector.closed then none else some (.started, w.detector.created)
  | .proceed id _ result =>
    match w.activities.lookup id, result with
    | some (.pinging p _ _), result => (Occasion.ofAnswer result).map (·, p)
    | some (.connecting _ before leader), .ok _ =>
      if w.detector.session.leader = some leader ∧ w.detector.session.pinger = before then
        some (.reconnected, w.detector.created)
      else none
    | _, _ => none
  | _ => none

/-- The chains that were pinged from `w` to `w'`. -/
def pingedSince (w w' : Watch κ) : List PingerId :=
  (w'.asked.drop w.asked.length).filterMap Effect.pings

/-- What is left beside the activity that goes on in a move. -/
def others (w : Watch κ) (m : Move κ) : Watch κ :=
  match m.lets with
  | some id => w.without id
  | none => w

/-- The activity that an effect begins, if the scheduler takes it. -/
def begets (w : Watch κ) (cause : Option (Activity κ)) : Effect κ → Option (Activity κ)
  | .tell _ | .count _ => none
  | .schedule p delay => some (.scheduled p delay)
  | .dispatch listeners failure => some (.calling w.latest listeners failure)
  | .ping p request => some (.pinging p request ((cause.elim 0 Activity.sent) + 1))
  | .connect before leader => some (.connecting (cause.bind Activity.run) before leader)

/-- From `w` to `w'`, in a move in which the scheduler took all, at most the activity `new` was
begun, and the chains `pinged` were pinged. -/
structure Begins (w : Watch κ) (m : Move κ) (new : Option (Activity κ)) (pinged : List PingerId)
    (w' : Watch κ) : Prop where
  activities : w'.activities = (w.others m).activities ++ new.toList.map (w.begun, ·)
  begun : w'.begun = w.begun + new.toList.length
  refused : w'.refused = w.refused
  pinged : w.pingedSince w' = pinged

theorem pingedSince_of_asked {w w' : Watch κ} {effects : List (Effect κ)}
    (asked : w'.asked = w.asked ++ effects) :
    w.pingedSince w' = effects.filterMap Effect.pings := by
  rw [pingedSince, asked, List.drop_left]

theorem pingedSince_same {w w' : Watch κ} (asked : w'.asked = w.asked) :
    w.pingedSince w' = [] := by
  rw [pingedSince, asked, List.drop_length, List.filterMap_nil]

/-- In `u` all is as in `w` but for the activity that goes on in a move, and perhaps the detector
and the sessions. -/
structure Base (w : Watch κ) (m : Move κ) (u : Watch κ) : Prop where
  activities : u.activities = (w.others m).activities
  begun : u.begun = w.begun
  refused : u.refused = w.refused
  asked : u.asked = w.asked

theorem base_others (w : Watch κ) (m : Move κ) : w.Base m (w.others m) := by
  refine ⟨rfl, ?_, ?_, ?_⟩
  all_goals
    unfold others
    split <;> rfl

theorem base_enter (w : Watch κ) (leader : Node) (reason : String) :
    w.Base (.restart leader reason) (w.enter leader) := by
  constructor
  all_goals
    unfold enter
    split <;> rfl

/-- An event begins what it asks for, and that is one thing at most. -/
theorem Base.begins {w u : Watch κ} {m : Move κ} (base : w.Base m u) (cause : Option (Activity κ))
    {r : Detector κ × List (Effect κ)} {e : Option (Effect κ)} (one : requests r.2 = e.toList) :
    w.Begins m (e.bind (u.begets cause)) (e.toList.filterMap Effect.pings)
      (u.update cause true r) := by
  have same := u.update_work cause true r
  rw [one] at same
  constructor
  case pinged =>
    have grown : (u.update cause true r).asked = w.asked ++ r.2 := by
      rw [update_asked, base.asked]
    rw [pingedSince_of_asked grown, ← pings_requests, one]
  case activities =>
    have grown := congrArg Watch.activities same
    refine grown.trans ?_
    rw [← base.activities, ← base.begun]
    cases e with
    | none => exact (List.append_nil _).symm
    | some e =>
      cases e with
      | tell notice => exact (List.append_nil _).symm
      | count series => exact (List.append_nil _).symm
      | _ => rfl
  case begun =>
    have grown := congrArg Watch.begun same
    refine grown.trans ?_
    rw [← base.begun]
    cases e with
    | none => rfl
    | some e => cases e <;> rfl
  case refused =>
    have kept := congrArg Watch.refused same
    refine kept.trans ?_
    rw [← base.refused]
    cases e with
    | none => rfl
    | some e => cases e <;> rfl

/-- Whichever chain is live in `w'`, it was so in `w`, with as many attempts counted. -/
def Keeps (w w' : Watch κ) : Prop :=
  ∀ p, w'.detector.session.pinger = some p →
    w.detector.session.pinger = some p ∧
      w'.detector.session.retryCount = w.detector.session.retryCount

/-- An activity that a move begins has to do with no ping. It may await a connection, if those are
to be made anew, or have a loss to handle, and that as the run of a chain whose ping has ended. -/
structure Apart (w : Watch κ) (m : Move κ) (a : Activity κ) : Prop where
  round : a.round = none
  connects : a.connects = true → w.detector.settings.connectOnNetworkDisconnect = true
  ended : ∀ p, a.run = some p → ∃ id b, m.lets = some id ∧ w.activities.lookup id = some b ∧
    b.run = some p ∧ ∀ delay, b ≠ .scheduled p delay

/-- What a move can come to for the pings; `new` is the activity that it begins, if it does, and
`pinged` are the chains that it pings. -/
inductive Turn (w : Watch κ) (m : Move κ) (w' : Watch κ) :
    (new : Option (Activity κ)) → (pinged : List PingerId) → Prop where
  | quiet (new : Option (Activity κ)) : w.occasion m = none →
      (∀ a, new = some a → w.Apart m a) → w.Keeps w' → Turn w m w' new []
  /-- A ping has ended, and its chain is over, if it was not so before. -/
  | spent (id : Nat) (p : PingerId) (request : PingRequest) (sent : Nat) (o : Occasion)
      (new : Option (Activity κ)) : m.lets = some id →
      w.activities.lookup id = some (.pinging p request sent) → w.occasion m = some (o, p) →
      o = .answered ∨ o = .failed → (∀ a, new = some a → a.run = none ∧ a.connects = false) →
      w.Keeps w' →
      w'.detector.session.pinger ≠ some p → Turn w m w' new []
  | opened (o : Occasion) : w.occasion m = some (o, w.detector.created) →
      (o = .started ∨ o = .reconnected ∧
        ∃ id a, w.activities.lookup id = some a ∧ a.connects = true) →
      w'.detector.created = w.detector.created + 1 →
      w'.detector.session.pinger = some w.detector.created →
      w'.detector.session.retryCount = 0 →
      Turn w m w' (some (.scheduled w.detector.created (o.delay w.detector.settings))) []
  | answered (id : Nat) (p : PingerId) (request : PingRequest) (sent : Nat) : m.lets = some id →
      w.activities.lookup id = some (.pinging p request sent) →
      w.occasion m = some (.answered, p) → w.detector.session.pinger = some p →
      w'.detector.session.pinger = some p → w'.detector.session.retryCount = 0 →
      Turn w m w' (some (.scheduled p w.detector.settings.pingInterval)) []
  | resent (id : Nat) (p : PingerId) (request : PingRequest) (sent : Nat) : m.lets = some id →
      w.activities.lookup id = some (.pinging p request sent) →
      w.occasion m = some (.failed, p) → w.detector.session.pinger = some p →
      w'.detector.session.pinger = some p →
      w'.detector.session.retryCount = w.detector.session.retryCount + 1 →
      Turn w m w' (some (.pinging p request (sent + 1))) [p]
  | sent (id : Nat) (p : PingerId) (delay : Duration) (request : PingRequest) : m.lets = some id →
      w.activities.lookup id = some (.scheduled p delay) → w.occasion m = none →
      w.detector.session.pinger = some p → w'.detector.session.pinger = some p →
      w'.detector.session.retryCount = w.detector.session.retryCount →
      Turn w m w' (some (.pinging p request 1)) [p]

/-- A ping that a move puts off has its occasion in that move, and no attempt of it was made yet. -/
theorem Turn.scheduled {w w' : Watch κ} {m : Move κ} {new : Option (Activity κ)}
    {pinged : List PingerId} (turn : w.Turn m w' new pinged) {p : PingerId} {delay : Duration}
    (begun : new = some (.scheduled p delay)) :
    ∃ o, w.occasion m = some (o, p) ∧ delay = o.delay w.detector.settings ∧ pinged = [] ∧
      w'.detector.session.retryCount = 0 ∧
      (o = .started ∨ o = .answered ∨
        ∃ id a, w.activities.lookup id = some a ∧ a.connects = true) := by
  cases turn with
  | quiet new _ apart _ => cases (apart _ begun).round
  | spent id q request sent o new _ _ _ _ idle _ _ => cases (idle _ begun).1
  | opened o marked first _ _ zero =>
    obtain ⟨rfl, rfl⟩ := Activity.scheduled.inj (Option.some.inj begun)
    refine ⟨o, marked, rfl, rfl, zero, ?_⟩
    rcases first with started | ⟨_, connecting⟩
    · exact .inl started
    · exact .inr (.inr connecting)
  | answered id q request sent _ _ marked _ _ zero =>
    obtain ⟨rfl, rfl⟩ := Activity.scheduled.inj (Option.some.inj begun)
    exact ⟨.answered, marked, rfl, rfl, zero, .inr (.inl rfl)⟩
  | resent id q request sent _ _ _ _ _ _ => cases begun
  | sent id q delay request _ _ _ _ _ _ => cases begun

/-- What a move comes to, with what it begins and whom it pings. -/
def Turns (w : Watch κ) (m : Move κ) (w' : Watch κ) : Prop :=
  ∃ new pinged, w.Begins m new pinged w' ∧ w.Turn m w' new pinged

/-- An effect pings no chain, and what it begins is of some kind. -/
def Begets (u : Watch κ) (cause : Option (Activity κ)) (kind : Activity κ → Prop)
    (e : Effect κ) : Prop :=
  e.pings = none ∧ ∀ a, u.begets cause e = some a → kind a

theorem begets_dispatch (u : Watch κ) (cause : Option (Activity κ)) (listeners : List (Nat × κ))
    (failure : LeaderFailure) :
    u.Begets cause (fun a => a.run = none ∧ a.connects = false) (.dispatch listeners failure) := by
  refine ⟨rfl, fun a begets => ?_⟩
  obtain rfl := Option.some.inj begets
  exact ⟨rfl, rfl⟩

theorem apart_of_idle {w : Watch κ} {m : Move κ} {a : Activity κ}
    (idle : a.run = none ∧ a.connects = false) : w.Apart m a := by
  constructor
  · cases round : a.round with
    | none => rfl
    | some p => exact absurd (Activity.run_of_round round) (by simp [idle.1])
  · intro connects
    rw [idle.2] at connects
    cases connects
  · intro p run
    rw [idle.1] at run
    cases run

/-- An event that asks for no ping begins something of the kind that it asks for, if anything. -/
theorem Base.unpinged {w u : Watch κ} {m : Move κ} (base : w.Base m u)
    (cause : Option (Activity κ)) {r : Detector κ × List (Effect κ)} {e : Option (Effect κ)}
    (one : requests r.2 = e.toList) {kind : Activity κ → Prop}
    (of : ∀ x, e = some x → u.Begets cause kind x) :
    ∃ new : Option (Activity κ), (∀ a, new = some a → kind a) ∧
      w.Begins m new [] (u.update cause true r) := by
  have begins := base.begins cause one
  have unpinged : e.toList.filterMap Effect.pings = [] := by
    cases e with
    | none => rfl
    | some x =>
      have none := (of x rfl).1
      simp [none]
  rw [unpinged] at begins
  refine ⟨_, fun a new => ?_, begins⟩
  obtain ⟨x, asked, begets⟩ := Option.bind_eq_some_iff.mp new
  exact (of x asked).2 a begets

theorem Base.quiet {w u : Watch κ} {m : Move κ} (base : w.Base m u) (cause : Option (Activity κ))
    {r : Detector κ × List (Effect κ)} {e : Option (Effect κ)} (one : requests r.2 = e.toList)
    (unmarked : w.occasion m = none) (of : ∀ x, e = some x → u.Begets cause (w.Apart m) x)
    (keeps : w.Keeps (u.update cause true r)) : w.Turns m (u.update cause true r) := by
  obtain ⟨new, apart, begins⟩ := base.unpinged cause one of
  exact ⟨new, [], begins, .quiet new unmarked apart keeps⟩

theorem keeps_of_eq {w w' : Watch κ} (same : w'.detector.session = w.detector.session) :
    w.Keeps w' := by
  intro p live
  rw [same] at live
  exact ⟨live, congrArg Session.retryCount same⟩

theorem keeps_of_idle {w w' : Watch κ} (idle : w'.detector.session.pinger = none) :
    w.Keeps w' := by
  intro p live
  rw [idle] at live
  cases live

/-- An event that leaves the session as it is and asks for nothing. -/
theorem Base.nothing {w u : Watch κ} {m : Move κ} (base : w.Base m u) (cause : Option (Activity κ))
    {r : Detector κ × List (Effect κ)} (asked : requests r.2 = [])
    (same : r.1.session = w.detector.session) (unmarked : w.occasion m = none) :
    w.Turns m (u.update cause true r) := by
  refine base.quiet cause (e := none) asked unmarked (by simp) (keeps_of_eq ?_)
  rw [update_detector, same]

/-- An event that ends the session with a failure. -/
theorem Base.fails {w u : Watch κ} {m : Move κ} (base : w.Base m u) (cause : Option (Activity κ))
    {r : Detector κ × List (Effect κ)} {listeners : List (Nat × κ)} {failure : LeaderFailure}
    (one : requests r.2 = [.dispatch listeners failure]) (idle : r.1.session.pinger = none)
    (unmarked : w.occasion m = none) : w.Turns m (u.update cause true r) := by
  refine base.quiet cause (e := some (.dispatch listeners failure)) one unmarked ?_
    (keeps_of_idle ?_)
  · intro x asked
    obtain rfl := Option.some.inj asked
    obtain ⟨unpinged, idle⟩ := u.begets_dispatch cause listeners failure
    exact ⟨unpinged, fun a begets => apart_of_idle (idle a begets)⟩
  · rw [update_detector, idle]

theorem failing_idle (d : Detector κ) (leader : Node) (e : Option TransportError)
    (reason : String) : (d.failing leader e reason).1.session.pinger = none := by
  simp [Detector.failing, Detector.endSession_eq]

/-- The loss of a node is handled by a failure, or by a new connection. -/
theorem Base.lost {w u : Watch κ} {m : Move κ} (base : w.Base m u) (s : w.detector.Sound)
    (cause : Option (Activity κ)) (unmarked : w.occasion m = none)
    (own : ∀ p, cause.bind Activity.run = some p → ∃ id b, m.lets = some id ∧
      w.activities.lookup id = some b ∧ b.run = some p ∧ ∀ delay, b ≠ .scheduled p delay)
    {node : Node}
    {r : Detector κ × List (Effect κ)} (same : r.1 = (w.detector.disconnected node).1)
    (asked : requests r.2 = requests (w.detector.disconnected node).2) :
    w.Turns m (u.update cause true r) := by
  by_cases watched : w.detector.session.leader = some node
  case neg =>
    rw [w.detector.disconnected_other watched] at same asked
    exact base.nothing cause asked (by rw [same]) unmarked
  by_cases connects : w.detector.settings.connectOnNetworkDisconnect = true
  · have asks : w.detector.disconnected node =
        (w.detector, [.connect w.detector.session.pinger node]) := by
      simp [Detector.disconnected, watched, connects]
    rw [asks] at same asked
    refine base.quiet cause (e := some (.connect w.detector.session.pinger node)) asked unmarked
      ?_ (keeps_of_eq ?_)
    · intro x asked
      obtain rfl := Option.some.inj asked
      refine ⟨rfl, fun a begets => ?_⟩
      obtain rfl := Option.some.inj begets
      exact ⟨rfl, fun _ => connects, own⟩
    · rw [update_detector, same]
  · have fails := s.notifies.disconnected node watched (by simpa using connects)
    rw [fails] at same asked
    rw [requests_cons] at asked
    have one := asked.trans (w.detector.requests_failing node none "transport disconnected")
    refine base.fails cause one ?_ unmarked
    rw [same]
    exact failing_idle w.detector node none "transport disconnected"

theorem turns_restart (w : Watch κ) (leader : Node) (reason : String) :
    w.Turns (.restart leader reason) (w.step true (.restart leader reason)) := by
  have base := w.base_enter leader reason
  by_cases closed : w.detector.closed = true
  · have ignored : w.detector.restart leader reason = (w.detector, [.tell (.restartIgnored leader)]) :=
      by rw [Detector.restart, if_pos closed]
    refine base.nothing none (by rw [ignored]; rfl) (by rw [ignored]) ?_
    simp [occasion, closed]
  · let r := w.detector.restart leader reason
    have asked : requests r.2 =
        [.schedule w.detector.created w.detector.settings.pingInterval] := by
      simp [r, Detector.restart, closed, Detector.startSession, Detector.startPinger,
        Detector.endSession_eq, Effect.isRequest]
    have begins := base.begins none
      (e := some (.schedule w.detector.created w.detector.settings.pingInterval)) asked
    have next : w.step true (.restart leader reason) = (w.enter leader).update none true r := rfl
    rw [next]
    refine ⟨_, _, begins, .opened .started ?_ (.inl rfl) ?_ ?_ ?_⟩
    · simp [occasion, closed]
    all_goals
      rw [update_detector]
      simp [r, Detector.restart, closed, Detector.startSession, Detector.startPinger,
        Detector.endSession_eq]

/-- When the time of the live chain has come, it pings. -/
theorem Valid.sends {w : Watch κ} (v : w.Valid) {id : Nat} {p : PingerId} {delay : Duration}
    (here : w.activities.lookup id = some (.scheduled p delay))
    (live : w.detector.session.pinger = some p) (source : Node)
    (result : Except TransportError Unit) :
    let w' := w.step true (.proceed id source result)
    (∃ request, w.Begins (.proceed id source result) (some (.pinging p request 1)) [p] w') ∧
      w'.detector.session = w.detector.session := by
  have base := w.base_others (.proceed id source result)
  have next : w.step true (.proceed id source result) =
      (w.without id).update (some (.scheduled p delay)) true (w.detector.beginRound p source) :=
    step_proceed here true source result
  obtain ⟨leader, _, pings⟩ := v.sound.beginRound_eq ((v.sound.current_iff p).mpr live) source
  let request : PingRequest := ⟨source, leader, some w.detector.clusterName⟩
  have begins := base.begins (some (.scheduled p delay)) (r := w.detector.beginRound p source)
    (e := some (.ping p request)) (by rw [pings]; rfl)
  rw [next]
  refine ⟨⟨request, begins⟩, ?_⟩
  rw [update_detector, pings]

/-- The time of a scheduled ping has come. -/
theorem Valid.turns_scheduled {w : Watch κ} (v : w.Valid) {id : Nat} {p : PingerId}
    {delay : Duration} (here : w.activities.lookup id = some (.scheduled p delay)) (source : Node)
    (result : Except TransportError Unit) :
    w.Turns (.proceed id source result) (w.step true (.proceed id source result)) := by
  have unmarked : w.occasion (.proceed id source result) = none := by
    simp only [occasion, here]
  by_cases live : w.detector.session.pinger = some p
  · obtain ⟨⟨request, begins⟩, same⟩ := v.sends here live source result
    refine ⟨_, _, begins, .sent id p delay request rfl here unmarked live ?_ ?_⟩
    all_goals
      rw [same]
    exact live
  · have base := w.base_others (.proceed id source result)
    have stale := w.detector.beginRound_stale live source
    have next : w.step true (.proceed id source result) =
        (w.without id).update (some (.scheduled p delay)) true (w.detector.beginRound p source) :=
      step_proceed here true source result
    rw [next]
    exact base.nothing _ (by rw [stale]; rfl) (by rw [stale]) unmarked

/-- A connection that was awaited is done. -/
theorem Valid.turns_connecting {w : Watch κ} (v : w.Valid) {id : Nat}
    {run before : Option PingerId} {leader : Node}
    (here : w.activities.lookup id = some (.connecting run before leader)) (source : Node)
    (result : Except TransportError Unit) :
    w.Turns (.proceed id source result) (w.step true (.proceed id source result)) := by
  have base := w.base_others (.proceed id source result)
  let a : Activity κ := .connecting run before leader
  have next : w.step true (.proceed id source result) =
      (w.without id).update (some a) true (w.detector.connected before leader result) :=
    step_proceed here true source result
  rw [next]
  by_cases stale : w.detector.session.leader ≠ some leader ∨ w.detector.session.pinger ≠ before
  · have ignored := w.detector.connected_stale stale result
    refine base.nothing (some a) (by rw [ignored]; rfl) (by rw [ignored]) ?_
    cases result with
    | error e => simp only [occasion, here]
    | ok _ =>
      simp only [occasion, here, ite_eq_right_iff]
      rintro ⟨watched, live⟩
      rcases stale with other | other
      · exact absurd watched other
      · exact absurd live other
  · rw [not_or, ne_eq, ne_eq, Decidable.not_not, Decidable.not_not] at stale
    obtain ⟨watched, live⟩ := stale
    cases result with
    | ok _ =>
      have asked : requests (w.detector.connected before leader (.ok ())).2 =
          [.schedule w.detector.created ⟨0⟩] := by
        cases before <;>
          simp [Detector.connected, watched, live, Detector.startPinger, Detector.stopPinger,
            Effect.isRequest]
      have begins := base.begins (some a) (e := some (.schedule w.detector.created ⟨0⟩)) asked
      refine ⟨_, _, begins, .opened .reconnected ?_ (.inr ⟨rfl, id, a, here, rfl⟩) ?_ ?_ ?_⟩
      · simp only [occasion, here, watched, live, and_self, if_true]
      all_goals
        rw [update_detector]
        cases before <;>
          simp [Detector.connected, watched, live, Detector.startPinger, Detector.stopPinger]
    | error e =>
      let reason := "transport disconnected (with verified connect)"
      have fails := v.sound.notifies.reconnectFailed leader e watched
      rw [live] at fails
      have one : requests (w.detector.connected before leader (.error e)).2 =
          [.dispatch w.detector.listeners ⟨leader, some e, reason⟩] := by
        rw [fails, requests_cons]
        exact w.detector.requests_failing leader (some e) reason
      refine base.fails (some a) one ?_ ?_
      · rw [fails]
        exact failing_idle w.detector leader (some e) reason
      · simp only [occasion, here]

theorem ofAnswer_cases {result : Except TransportError Unit} {o : Occasion}
    (h : Occasion.ofAnswer result = some o) : o = .answered ∨ o = .failed := by
  unfold Occasion.ofAnswer at h
  split at h
  · exact .inl (Option.some.inj h).symm
  · exact .inr (Option.some.inj h).symm
  · exact .inr (Option.some.inj h).symm
  · cases h

/-- A ping has ended whose chain is over by now. -/
theorem Base.spent {w u : Watch κ} {id : Nat} {source : Node}
    {result : Except TransportError Unit} (base : w.Base (.proceed id source result) u)
    {p : PingerId} {request : PingRequest} {sent : Nat}
    (here : w.activities.lookup id = some (.pinging p request sent)) (cause : Option (Activity κ))
    {r : Detector κ × List (Effect κ)} {e : Option (Effect κ)} (one : requests r.2 = e.toList)
    (of : ∀ x, e = some x → u.Begets cause (fun a => a.run = none ∧ a.connects = false) x)
    (keeps : w.Keeps (u.update cause true r)) (dead : r.1.session.pinger ≠ some p) :
    w.Turns (.proceed id source result) (u.update cause true r) := by
  have marked : w.occasion (.proceed id source result) =
      (Occasion.ofAnswer result).map (·, p) := by
    simp only [occasion, here]
  cases ofAnswer : Occasion.ofAnswer result with
  | none =>
    rw [ofAnswer] at marked
    refine base.quiet cause one marked (fun x asked => ?_) keeps
    obtain ⟨unpinged, idle⟩ := of x asked
    exact ⟨unpinged, fun a begets => apart_of_idle (idle a begets)⟩
  | some o =>
    rw [ofAnswer] at marked
    obtain ⟨new, idle, begins⟩ := base.unpinged cause one of
    refine ⟨new, [], begins, .spent id p request sent o new rfl here marked
      (ofAnswer_cases ofAnswer) idle keeps ?_⟩
    rwa [update_detector]

/-- A ping of the live chain has failed in a way that may pass. -/
theorem Valid.turns_attempt {w : Watch κ} (v : w.Valid) {id : Nat} {p : PingerId}
    {request : PingRequest} {sent : Nat}
    (here : w.activities.lookup id = some (.pinging p request sent)) (source : Node)
    (e : TransportError) (passing : Occasion.ofAnswer (.error e) = some .failed)
    (live : w.detector.session.pinger = some p)
    (watched : w.detector.session.leader = some request.leader)
    {r : Detector κ × List (Effect κ)} (same : r.1 = (w.detector.attemptFailed p request e).1)
    (asked : requests r.2 = requests (w.detector.attemptFailed p request e).2) :
    w.Turns (.proceed id source (.error e))
      ((w.without id).update (some (.pinging p request sent)) true r) := by
  have base := w.base_others (.proceed id source (.error e))
  have marked : w.occasion (.proceed id source (.error e)) = some (.failed, p) := by
    simp only [occasion, here, passing, Option.map_some]
  by_cases left : w.detector.session.retryCount + 1 < w.detector.settings.pingRetries
  · have again : w.detector.attemptFailed p request e =
        ({ w.detector with
            session := { w.detector.session with
              retryCount := w.detector.session.retryCount + 1 } },
          [.tell (.pingFailed request.leader (w.detector.session.retryCount + 1)
            w.detector.settings.pingRetries e), .count .pingsSent, .ping p request]) := by
      simp only [Detector.attemptFailed, left, if_true]
    rw [again] at same asked
    have begins := base.begins (some (.pinging p request sent)) (e := some (.ping p request)) asked
    refine ⟨_, _, begins, .resent id p request sent rfl here marked live ?_ ?_⟩
    all_goals
      rw [update_detector, same]
    exact live
  · rw [v.sound.attemptFailed_last p request e watched left] at same asked
    have idle := failing_idle w.detector request.leader (some e)
      (Detector.usedUpReason w.detector.settings)
    refine base.spent here _ (e := some (.dispatch w.detector.listeners
      ⟨request.leader, some e, Detector.usedUpReason w.detector.settings⟩)) ?_ ?_ ?_ ?_
    · exact asked.trans (w.detector.requests_failing request.leader (some e) _)
    · intro x begun
      obtain rfl := Option.some.inj begun
      exact begets_dispatch ..
    · refine keeps_of_idle ?_
      rw [update_detector, same]
      exact idle
    · rw [same, idle]
      simp

/-- A ping has ended. -/
theorem Valid.turns_pinging {w : Watch κ} (v : w.Valid) {id : Nat} {p : PingerId}
    {request : PingRequest} {sent : Nat}
    (here : w.activities.lookup id = some (.pinging p request sent)) (source : Node)
    (result : Except TransportError Unit) :
    w.Turns (.proceed id source result) (w.step true (.proceed id source result)) := by
  have base := w.base_others (.proceed id source result)
  let a : Activity κ := .pinging p request sent
  have next : w.step true (.proceed id source result) =
      (w.without id).update (some a) true (w.detector.pinged p request result) :=
    step_proceed here true source result
  rw [next]
  by_cases live : w.detector.session.pinger = some p
  case neg =>
    have stale := w.detector.pinged_stale live request result
    refine base.spent here (some a) (e := none) (by rw [stale]; rfl) (by simp) ?_
      (by rw [stale]; exact live)
    exact keeps_of_eq (by rw [update_detector, stale])
  obtain ⟨started, meant⟩ := v.fits_of_lookup here
  have watched := meant live
  have owns : w.detector.owns p request.leader = true :=
    (v.sound.owns_iff p _).mpr ⟨live, watched⟩
  have runs : p ∈ w.detector.running := (v.sound.running p started).mpr live
  cases result with
  | ok _ =>
    have goes : w.detector.pinged p request (.ok ()) =
        ({ w.detector with session := { w.detector.session with retryCount := 0 } },
          [.schedule p w.detector.settings.pingInterval]) := by
      simp only [Detector.pinged, runs, not_true_eq_false, if_false, owns, if_true]
    have marked : w.occasion (.proceed id source (.ok ())) = some (.answered, p) := by
      simp only [occasion, here, Occasion.ofAnswer, Option.map_some]
    have begins := base.begins (some a) (r := w.detector.pinged p request (.ok ()))
      (e := some (.schedule p w.detector.settings.pingInterval)) (by rw [goes]; rfl)
    refine ⟨_, _, begins, .answered id p request sent rfl here marked live ?_ ?_⟩
    all_goals
      rw [update_detector, goes]
    exact live
  | error e =>
    have failed : w.detector.pinged p request (.error e) = w.detector.pingFailed p request e := by
      simp only [Detector.pinged, runs, not_true_eq_false, if_false]
    cases e with
    | disconnected n m =>
      have counts : w.detector.pingFailed p request (.disconnected n m) =
          ((w.detector.disconnected request.leader).1,
            .count (.pingFailures (TransportError.disconnected n m).kind) ::
              (w.detector.disconnected request.leader).2) := by
        simp only [Detector.pingFailed, owns, Bool.not_true, Bool.false_eq_true, if_false]
      have same : (w.detector.pinged p request (.error (.disconnected n m))).1 =
          (w.detector.disconnected request.leader).1 := by
        rw [failed, counts]
      have asked : requests (w.detector.pinged p request (.error (.disconnected n m))).2 =
          requests (w.detector.disconnected request.leader).2 := by
        rw [failed, counts]
        rfl
      refine base.lost v.sound (some a) ?_ ?_ same asked
      · simp only [occasion, here, Occasion.ofAnswer, Option.map_none]
      · intro q run
        exact ⟨id, a, rfl, here, run, by simp [a]⟩
    | rejected n rejection =>
      have fails := v.sound.notifies.rejected p request n rejection owns
      have one : requests (w.detector.pinged p request (.error (.rejected n rejection))).2 =
          [.dispatch w.detector.listeners
            ⟨request.leader, some (.rejected n rejection), rejection.reason⟩] := by
        rw [fails, requests_cons, requests_cons]
        exact w.detector.requests_failing request.leader _ _
      refine base.fails (some a) one ?_ ?_
      · rw [fails]
        exact failing_idle w.detector request.leader (some (.rejected n rejection)) rejection.reason
      · simp only [occasion, here, Occasion.ofAnswer, Option.map_none]
    | timeout n limit =>
      refine v.turns_attempt here source _ rfl live watched ?_ ?_
      all_goals
        rw [failed]
        simp only [Detector.pingFailed, owns, Bool.not_true, Bool.false_eq_true, if_false]
      rfl
    | remote n m =>
      refine v.turns_attempt here source _ rfl live watched ?_ ?_
      all_goals
        rw [failed]
        simp only [Detector.pingFailed, owns, Bool.not_true, Bool.false_eq_true, if_false]
      rfl

/-- Listeners are called. -/
theorem turns_calling {w : Watch κ} {id session : Nat} {rest : List (Nat × κ)}
    {failure : LeaderFailure}
    (here : w.activities.lookup id = some (.calling session rest failure)) (source : Node)
    (result : Except TransportError Unit) :
    w.Turns (.proceed id source result) (w.step true (.proceed id source result)) := by
  have unmarked : w.occasion (.proceed id source result) = none := by
    simp only [occasion, here]
  have next : w.step true (.proceed id source result) =
      (w.without id).deliver (.calling session rest failure) :=
    step_proceed here true source result
  rw [next]
  cases rest with
  | nil =>
    refine ⟨none, [], ⟨(List.append_nil _).symm, rfl, rfl, ?_⟩, ?_⟩
    · exact pingedSince_same rfl
    · exact .quiet none unmarked (by simp) (keeps_of_eq rfl)
  | cons listener rest =>
    refine ⟨some (.calling session rest failure), [], ⟨rfl, rfl, rfl, ?_⟩, ?_⟩
    · exact pingedSince_same rfl
    · refine .quiet _ unmarked (fun a same => ?_) (keeps_of_eq rfl)
      obtain rfl := Option.some.inj same
      exact apart_of_idle ⟨rfl, rfl⟩

theorem without_unknown {w : Watch κ} {id : Nat} (gone : w.activities.lookup id = none) :
    w.without id = w := by
  have all : w.activities.filter (·.1 != id) = w.activities := by
    refine List.filter_eq_self.mpr fun x there => ?_
    have other := List.lookup_eq_none_iff.mp gone x there
    rw [bne_iff_ne]
    intro same
    simp [same] at other
  rw [without, all]

/-- A loss is handled. -/
theorem Valid.turns_lost {w : Watch κ} (v : w.Valid) {id : Nat} {run : Option PingerId}
    {node : Node} (here : w.activities.lookup id = some (.lost run node)) (source : Node)
    (result : Except TransportError Unit) :
    w.Turns (.proceed id source result) (w.step true (.proceed id source result)) := by
  have base := w.base_others (.proceed id source result)
  have unmarked : w.occasion (.proceed id source result) = none := by
    simp only [occasion, here]
  have next : w.step true (.proceed id source result) =
      (w.without id).update (some (.lost run node)) true (w.detector.disconnected node) :=
    step_lost here true source result
  rw [next]
  exact base.lost v.sound (some (.lost run node)) unmarked (fun p own =>
    ⟨id, _, rfl, here, own, nofun⟩) (r := w.detector.disconnected node) rfl rfl

/-- The run of the live chain accepts that its connection is lost. -/
theorem turns_accepted {w : Watch κ} {id : Nat} {p : PingerId} {request : PingRequest} {sent : Nat}
    (here : w.activities.lookup id = some (.pinging p request sent)) (source : Node)
    (node message : String) :
    w.Turns (.accept id source node message)
      ((w.without id).accept p request.leader (.disconnected node message)) := by
  have asked (e : TransportError) : ((w.without id).accept p request.leader e).asked =
      w.asked ++ [.count (.pingFailures e.kind)] := rfl
  refine ⟨some (.lost (some p) request.leader), [], ⟨rfl, rfl, rfl, ?_⟩, ?_⟩
  · exact pingedSince_of_asked (asked _)
  · refine .quiet _ rfl (fun a same => ?_) (keeps_of_eq rfl)
    obtain rfl := Option.some.inj same
    exact ⟨rfl, nofun, fun q own => ⟨id, _, rfl, here, own, nofun⟩⟩

theorem Valid.turns_proceed {w : Watch κ} (v : w.Valid) (id : Nat) (source : Node)
    (result : Except TransportError Unit) :
    w.Turns (.proceed id source result) (w.step true (.proceed id source result)) := by
  cases here : w.activities.lookup id with
  | none =>
    have unmarked : w.occasion (.proceed id source result) = none := by
      simp only [occasion, here]
    have same : w.step true (.proceed id source result) = w := by
      simp only [Watch.step, here]
    rw [same]
    refine ⟨none, [], ⟨?_, rfl, rfl, ?_⟩, .quiet none unmarked (by simp) (keeps_of_eq rfl)⟩
    · have left : w.others (.proceed id source result) = w := without_unknown here
      rw [left]
      exact (List.append_nil _).symm
    · exact pingedSince_same rfl
  | some a =>
    cases a with
    | scheduled p delay => exact v.turns_scheduled here source result
    | pinging p request sent => exact v.turns_pinging here source result
    | connecting run before leader => exact v.turns_connecting here source result
    | calling session rest failure => exact turns_calling here source result
    | lost run node => exact v.turns_lost here source result

/-- To the pings it is all one which of two moves lets an activity go on, if none of them is an
occasion for any. -/
theorem Turns.like {w w' : Watch κ} {m m' : Move κ} (turns : w.Turns m w')
    (lets : m.lets = m'.lets) (marks : w.occasion m = none) (marks' : w.occasion m' = none) :
    w.Turns m' w' := by
  obtain ⟨new, pinged, begins, turn⟩ := turns
  have same : w.others m = w.others m' := by rw [others, others, lets]
  refine ⟨new, pinged, ⟨same ▸ begins.activities, begins.begun, begins.refused, begins.pinged⟩, ?_⟩
  cases turn with
  | quiet new _ apart keeps =>
    refine .quiet new marks' (fun a begun => ?_) keeps
    exact ⟨(apart a begun).round, (apart a begun).connects, lets ▸ (apart a begun).ended⟩
  | sent id p delay request lets' here _ live still count =>
    exact .sent id p delay request (lets.symm.trans lets') here marks' live still count
  | spent id p request sent o new _ _ marked _ _ _ _ => cases marks.symm.trans marked
  | opened o marked _ _ _ _ => cases marks.symm.trans marked
  | answered id p request sent _ _ marked _ _ _ => cases marks.symm.trans marked
  | resent id p request sent _ _ marked _ _ _ => cases marks.symm.trans marked

theorem occasion_disconnected (w : Watch κ) (id : Nat) (source : Node) (node message : String) :
    w.occasion (.proceed id source (.error (.disconnected node message))) = none := by
  simp only [occasion]
  split
  · rfl
  · next same => cases same
  · rfl

/-- Every move turns out in one of the ways. -/
theorem Valid.step_turns {w : Watch κ} (v : w.Valid) (m : Move κ) : w.Turns m (w.step true m) := by
  have base := w.base_others m
  cases m with
  | restart leader reason => exact w.turns_restart leader reason
  | stop reason =>
    refine base.quiet none (r := w.detector.stop reason) (e := none) ?_ rfl (by simp)
      (keeps_of_idle ?_)
    · exact w.detector.requests_stopNotice reason
    · rw [update_detector, Detector.stop, Detector.endSession_eq]
  | shutdown =>
    refine base.quiet none (r := w.detector.shutdown) (e := none) ?_ rfl (by simp)
      (keeps_of_idle ?_)
    · exact w.detector.requests_stopNotice "closing"
    · rw [update_detector, Detector.shutdown, Detector.endSession_eq]
  | drop =>
    refine base.quiet none (r := (w.detector.endSession, [])) (e := none) rfl rfl (by simp)
      (keeps_of_idle ?_)
    rw [update_detector, Detector.endSession_eq]
  | addListener listener =>
    exact base.nothing none (r := ((w.detector.addListener listener).1, [])) rfl rfl rfl
  | removeListener id =>
    exact base.nothing none (r := ((w.detector.removeListener id).1, [])) rfl rfl rfl
  | lose node =>
    refine ⟨some (.lost none node), [], ⟨rfl, rfl, rfl, ?_⟩, ?_⟩
    · exact pingedSince_same rfl
    · refine .quiet _ rfl (fun a same => ?_) (keeps_of_eq rfl)
      obtain rfl := Option.some.inj same
      exact apart_of_idle ⟨rfl, rfl⟩
  | handle node =>
    refine base.lost v.sound none rfl (fun p run => ?_) (r := w.detector.disconnected node) rfl rfl
    cases run
  | proceed id source result => exact v.turns_proceed id source result
  | accept id source node message =>
    have goes := v.turns_proceed id source (.error (.disconnected node message))
    refine accept_cases (P := w.Turns _) true id source node message ?_ fun p request sent here _ =>
      turns_accepted here source node message
    exact goes.like rfl (w.occasion_disconnected id source node message) rfl

end Watch

end Vigil

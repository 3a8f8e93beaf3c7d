import Vigil.Proofs.Silence
import Vigil.Proofs.Turn

/-!
Several handlers may learn at once that the leader is lost: the run that pings it, the listener of
the transport, and whoever is told directly. Each awaits a connection of its own, for the chain that
was live when it learned of the loss. The first of them that is done while that chain is live
decides what becomes of the session; the others find that the chain is live no longer, as they do
after any other end of it, and nothing comes of them.
-/

namespace Vigil

deriving instance DecidableEq for Activity

namespace Watch

variable {κ : Type}

/-- The moves in which a handler learns that the live chain `p` lost its leader; `run` is the chain
whose run the handler is, if it is one. -/
inductive Learns (w : Watch κ) (p : PingerId) (leader : Node) :
    (run : Option PingerId) → Move κ → Prop where
  | told : Learns w p leader none (.handle leader)
  | reported (id : Nat) (run : Option PingerId) (source : Node)
      (result : Except TransportError Unit) : w.activities.lookup id = some (.lost run leader) →
      Learns w p leader run (.proceed id source result)
  | unanswered (id : Nat) (source : Node) (request : PingRequest) (sent : Nat)
      (name message : String) : w.activities.lookup id = some (.pinging p request sent) →
      Learns w p leader (some p) (.proceed id source (.error (.disconnected name message)))

/-- From `w` to `w'` a handler began to await a connection for a chain, and the session is as it
was. -/
structure Awaits (w : Watch κ) (m : Move κ) (run : Option PingerId) (p : PingerId) (leader : Node)
    (w' : Watch κ) : Prop where
  detector : w'.detector = w.detector
  asked : ∃ effects, w'.asked = w.asked ++ effects ∧
    requests effects = [.connect (some p) leader]
  activities : w'.activities =
    (w.others m).activities ++ [(w.begun, .connecting run (some p) leader)]
  sessions : w'.sessions = w.sessions
  notifications : w'.notifications = w.notifications

/-- From `w` to `w'` the session went on with a new chain instead of `p`, whose first ping is due at
once. -/
structure Renewed (w : Watch κ) (takes : Bool) (id : Nat) (p : PingerId) (leader : Node)
    (w' : Watch κ) : Prop where
  detector : w'.detector = { w.detector with
    session := { w.detector.session with retryCount := 0, pinger := some w.detector.created }
    running := w.detector.created :: w.detector.running.filter (· != p)
    created := w.detector.created + 1 }
  single : ∀ q ≤ w.detector.created, q ∈ w'.detector.running ↔ q = w.detector.created
  asked : w'.asked =
    w.asked ++ [.tell (.reconnected leader), .schedule w.detector.created ⟨0⟩]
  activities : w'.activities = (w.without id).activities ++
    if takes then [(w.begun, .scheduled w.detector.created ⟨0⟩)] else []
  sessions : w'.sessions = w.sessions
  notifications : w'.notifications = w.notifications

/-- From `w` to `w'` the session failed because no connection could be made. -/
structure Fallen (w : Watch κ) (takes : Bool) (id : Nat) (leader : Node) (e : TransportError)
    (w' : Watch κ) : Prop where
  detector : w'.detector =
    { w.detector with session := { w.detector.session with notified := true } }.endSession
  idle : w'.detector.session.leader = none ∧ w'.detector.session.pinger = none
  stopped : ∀ q < w.detector.created, q ∉ w'.detector.running
  asked : ∃ effects, w'.asked = w.asked ++ effects ∧
    requests effects = [.dispatch w.detector.listeners
      ⟨leader, some e, "transport disconnected (with verified connect)"⟩]
  sessions : w'.sessions = w.sessions
  notifications : w'.notifications = w.notifications ++ [⟨w.latest, w.detector.listeners,
    ⟨leader, some e, "transport disconnected (with verified connect)"⟩, takes⟩]

/-- What becomes of the session of a chain when a connection that was awaited for it is done. -/
def Decided (w : Watch κ) (takes : Bool) (id : Nat) (p : PingerId) (leader : Node)
    (w' : Watch κ) : Except TransportError Unit → Prop
  | .ok () => w.Renewed takes id p leader w'
  | .error e => w.Fallen takes id leader e w'

/-- Nothing comes any more of the connections that are awaited for a chain. When one of them is
done, now or later and with whatever result, it is gone, and all that follows is as it would be if
it were still awaited. -/
def Past (w : Watch κ) (p : PingerId) : Prop :=
  ∀ later id run node takes source result,
    let u := w.run later
    u.activities.lookup id = some (.connecting run (some p) node) →
      let u' := u.step takes (.proceed id source result)
      u' = u.without id ∧
        ∀ more, u'.run more = (u.run (more.filter (·.2.lets != some id))).without id

theorem update_connect (w : Watch κ) (cause : Option (Activity κ)) (takes : Bool)
    {r : Detector κ × List (Effect κ)} {p : PingerId} {leader : Node}
    (asks : requests r.2 = [.connect (some p) leader]) :
    (w.update cause takes r).work =
      ({ w with detector := r.1 }.work).spawn
        (.connecting (cause.bind Activity.run) (some p) leader) := by
  rw [update_work, asks]
  rfl

/-- Whoever learns of the loss asks for a connection and leaves the session as it is. -/
theorem Valid.awaits {w : Watch κ} (v : w.Valid)
    (on : w.detector.settings.connectOnNetworkDisconnect = true) {p : PingerId} {leader : Node}
    (live : w.detector.session.pinger = some p) (watched : w.detector.session.leader = some leader)
    {run : Option PingerId} {m : Move κ} (learns : w.Learns p leader run m) (takes : Bool) :
    w.Awaits m run p leader (w.step takes m) := by
  have asks : w.detector.disconnected leader = (w.detector, [.connect (some p) leader]) := by
    simp [Detector.disconnected, watched, on, live]
  have begins (u : Watch κ) (cause : Option (Activity κ)) (effects : List (Effect κ))
      (left : u = w.others m) (same : u = { w with activities := u.activities })
      (own : cause.bind Activity.run = run)
      (connects : requests effects = [.connect (some p) leader]) :
      w.Awaits m run p leader (u.update cause takes (w.detector, effects)) := by
    have begun := u.update_connect cause takes (r := (w.detector, effects)) connects
    subst own
    constructor
    case detector => exact update_detector ..
    case asked =>
      refine ⟨effects, ?_, connects⟩
      rw [update_asked, same]
    case activities =>
      have grown := congrArg Watch.activities begun
      rw [← left]
      refine grown.trans ?_
      rw [same]
      rfl
    case sessions =>
      rw [update_sessions, same]
    case notifications =>
      have kept := congrArg Watch.notifications begun
      refine kept.trans ?_
      rw [same]
      rfl
  cases learns with
  | told =>
    rw [Watch.step, asks]
    exact begins w none _ rfl rfl rfl rfl
  | reported id run source result here =>
    rw [step_lost here, asks]
    exact begins (w.without id) (some (.lost run leader)) _ rfl rfl rfl rfl
  | unanswered id source request sent name message here =>
    obtain ⟨started, meant⟩ := v.fits_of_lookup here
    obtain rfl : request.leader = leader := Option.some.inj ((meant live).symm.trans watched)
    have runs : p ∈ w.detector.running := (v.sound.running p started).mpr live
    have owns : w.detector.owns p request.leader = true :=
      (v.sound.owns_iff p _).mpr ⟨live, meant live⟩
    have failed : w.detector.pinged p request (.error (.disconnected name message)) =
        (w.detector, [.count (.pingFailures (TransportError.disconnected name message).kind),
          .connect (some p) request.leader]) := by
      simp only [Detector.pinged, runs, not_true_eq_false, if_false, Detector.pingFailed, owns,
        Bool.not_true, Bool.false_eq_true, asks]
    rw [step_proceed here, Watch.proceed]
    change w.Awaits _ _ p request.leader (((w.without id).update _ takes
      (w.detector.pinged p request (.error (.disconnected name message)))).deliver _)
    rw [failed]
    exact begins (w.without id) (some (.pinging p request sent)) _ rfl rfl rfl rfl

/-- As long as a leader is watched, no failure is raised. -/
theorem update_unraised (w : Watch κ) (cause : Option (Activity κ)) (takes : Bool)
    (r : Detector κ × List (Effect κ)) {run : Option PingerId}
    (h : w.detector.Outcome run r.1 (requests r.2)) (watched : r.1.session.leader.isSome) :
    (w.update cause takes r).notifications = w.notifications := by
  change (w.update cause takes r).work.notifications = _
  rw [update_work]
  obtain ⟨d', effects⟩ := r
  dsimp only at h watched ⊢
  generalize requests effects = asked at h ⊢
  cases h with
  | failed leader cause' reason _ => simp [Detector.endSession_eq] at watched
  | _ => simp [work, perform, submit_notifications, note, spawn]

theorem step_unraised {w : Watch κ} (v : w.Valid) (takes : Bool) (m : Move κ)
    (watched : (w.step takes m).detector.session.leader.isSome) :
    (w.step takes m).notifications = w.notifications := by
  have h := step_cases v.sound takes m
  generalize w.step takes m = w' at h watched ⊢
  cases h with
  | idle => rfl
  | entered leader reason =>
    have outcome := w.detector.restart_outcome leader reason
    rw [← w.enter_detector leader] at outcome watched
    rw [update_detector] at watched
    rw [← w.enter_detector leader, (w.enter leader).update_unraised none takes _ outcome watched]
    unfold Watch.enter
    split <;> rfl
  | told r h _ =>
    rw [update_detector] at watched
    exact w.update_unraised none takes r h watched
  | reported node => exact submit_notifications ..
  | went id source result a here =>
    have told (u : Watch κ) : (u.deliver a).notifications = u.notifications := by
      unfold Watch.deliver
      split <;> rfl
    rw [Watch.proceed, deliver_detector, update_detector] at watched
    rw [Watch.proceed, told]
    exact (w.without id).update_unraised (some a) takes _
      (Detector.goOn_outcome v.sound (v.fits_of_lookup here) source result) watched
  | accepted id p request sent e _ _ => rfl

theorem Valid.created_le_run {w : Watch κ} (v : w.Valid) (moves : List (Bool × Move κ)) :
    w.detector.created ≤ (w.run moves).detector.created := by
  induction moves generalizing w with
  | nil => exact Nat.le_refl _
  | cons m moves ih =>
    exact Nat.le_trans (v.created_le_step m.1 m.2) (ih (v.step m.1 m.2))

/-- A session whose chain is still live has the leader that it had and has raised no failure. -/
theorem Valid.run_keeps {w : Watch κ} (v : w.Valid) (moves : List (Bool × Move κ)) {p : PingerId}
    (old : p < w.detector.created) (live : (w.run moves).detector.session.pinger = some p) :
    (w.run moves).detector.session.leader = w.detector.session.leader ∧
      (w.run moves).notifications = w.notifications := by
  induction moves generalizing w with
  | nil => exact ⟨rfl, rfl⟩
  | cons m moves ih =>
    have v' := v.step m.1 m.2
    have older := Nat.lt_of_lt_of_le old (v.created_le_step m.1 m.2)
    obtain ⟨before, _⟩ := v'.run_live moves older live
    obtain ⟨leader, raised⟩ := ih v' older live
    obtain ⟨run, effects, outcome, _⟩ := step_outcome v m.1 m.2
    obtain ⟨node, watched⟩ := v'.sound.leader_of_pinger before
    have unraised := step_unraised v m.1 m.2 (by rw [watched]; rfl)
    exact ⟨leader.trans (outcome.keeps old before).2, raised.trans unraised⟩

/-- Once a chain is live no longer, nothing comes of the connections that are awaited for it. -/
theorem Valid.past {w : Watch κ} (v : w.Valid) {p : PingerId} (old : p < w.detector.created)
    (dead : w.detector.session.pinger ≠ some p) : w.Past p := by
  intro later id run node takes source result u here u'
  have valid : u.Valid := v.run later
  have stale : (Activity.connecting run (some p) node : Activity κ).Stale u.detector := by
    right
    intro live
    exact dead (v.run_live later old live).1
  have gone : u' = u.without id := by
    change u.step takes (.proceed id source result) = _
    rw [step_proceed here]
    exact proceed_stale (valid.without id) takes source result stale
  refine ⟨gone, fun more => ?_⟩
  rw [gone]
  exact u.run_without (valid.below _ (mem_of_lookup here)) more

/-- The chain is over once the owner has ended its session, another one was started, or its failure
was raised. -/
theorem Valid.past_of_over {w : Watch κ} (v : w.Valid) {p : PingerId}
    (old : p < w.detector.created) (later : List (Bool × Move κ))
    (done : (∃ m ∈ later, m.2.ends = true) ∨ (w.run later).sessions ≠ w.sessions ∨
      (w.run later).notifications ≠ w.notifications) : (w.run later).Past p := by
  have created : w.detector.created ≤ (w.run later).detector.created := v.created_le_run later
  refine (v.run later).past (Nat.lt_of_lt_of_le old created) fun live => ?_
  rcases done with ⟨m, there, ends⟩ | restarted | failed
  · obtain ⟨before, after, rfl⟩ := List.append_of_mem there
    have valid : (w.run before).Valid := v.run before
    have ended := ((w.run before).step_ends m.1 ends).1.idle
    have older : p < ((w.run before).step m.1 m.2).detector.created :=
      Nat.lt_of_lt_of_le old
        (Nat.le_trans (v.created_le_run before) (valid.created_le_step m.1 m.2))
    have split : w.run (before ++ m :: after) = ((w.run before).step m.1 m.2).run after := by
      simp [Watch.run]
    rw [split] at live
    have still := ((valid.step m.1 m.2).run_live after older live).1
    rw [(valid.step m.1 m.2).sound.pingerless ended] at still
    cases still
  · exact restarted (v.run_live later old live).2
  · exact failed (v.run_keeps later old live).2

theorem Valid.watched_of_connecting {w : Watch κ} (v : w.Valid) {id : Nat}
    {run : Option PingerId} {p : PingerId} {node : Node}
    (here : w.activities.lookup id = some (.connecting run (some p) node))
    (live : w.detector.session.pinger = some p) : w.detector.session.leader = some node := by
  obtain ⟨⟨q, _, same, meant⟩, _⟩ := v.fits_of_lookup here
  obtain rfl := Option.some.inj same
  exact meant live

/-- A connection that was made for the live chain renews the session. -/
theorem Valid.renewed {w : Watch κ} (v : w.Valid) {id : Nat} {run : Option PingerId}
    {p : PingerId} {leader : Node}
    (here : w.activities.lookup id = some (.connecting run (some p) leader))
    (live : w.detector.session.pinger = some p) (takes : Bool) (source : Node) :
    w.Renewed takes id p leader (w.step takes (.proceed id source (.ok ()))) := by
  have watched := v.watched_of_connecting here live
  let d' := ((w.detector.stopPinger p).startPinger ⟨0⟩).1
  have made : w.detector.connected (some p) leader (.ok ()) =
      (d', [.tell (.reconnected leader), .schedule w.detector.created ⟨0⟩]) := by
    simp [d', Detector.connected, watched, live, Detector.startPinger, Detector.stopPinger]
  have valid := v.step takes (.proceed id source (.ok ()))
  have next : w.step takes (.proceed id source (.ok ())) =
      (w.without id).update (some (.connecting run (some p) leader)) takes
        (d', [.tell (.reconnected leader), .schedule w.detector.created ⟨0⟩]) := by
    rw [step_proceed here, ← made]
    rfl
  rw [next] at valid ⊢
  constructor
  case detector => exact update_detector ..
  case single =>
    intro q old
    have one := valid.sound.running q
    rw [update_detector] at one ⊢
    rw [one (Nat.lt_succ_of_le old)]
    exact ⟨fun same => (Option.some.inj same).symm, fun same => congrArg some same.symm⟩
  case asked => exact update_asked ..
  case activities =>
    cases takes with
    | true => rfl
    | false => exact (List.append_nil _).symm
  case sessions => exact update_sessions ..
  case notifications => cases takes <;> rfl

/-- A connection that could not be made for the live chain ends the session. -/
theorem Valid.fallen {w : Watch κ} (v : w.Valid) {id : Nat} {run : Option PingerId}
    {p : PingerId} {leader : Node}
    (here : w.activities.lookup id = some (.connecting run (some p) leader))
    (live : w.detector.session.pinger = some p) (takes : Bool) (source : Node)
    (e : TransportError) :
    w.Fallen takes id leader e (w.step takes (.proceed id source (.error e))) := by
  have watched := v.watched_of_connecting here live
  let reason := "transport disconnected (with verified connect)"
  let failing := w.detector.failing leader (some e) reason
  have failed : w.detector.connected (some p) leader (.error e) =
      (failing.1, .tell (.reconnectFailed leader) :: failing.2) := by
    rw [← live]
    exact v.sound.notifies.reconnectFailed leader e watched
  have next : w.step takes (.proceed id source (.error e)) =
      (w.without id).update (some (.connecting run (some p) leader)) takes
        (failing.1, .tell (.reconnectFailed leader) :: failing.2) := by
    rw [step_proceed here, ← failed]
    rfl
  have ended : failing.1 =
      { w.detector with session := { w.detector.session with notified := true } }.endSession := rfl
  rw [next]
  constructor
  case detector => exact update_detector ..
  case idle =>
    rw [update_detector, ended, Detector.endSession_eq]
    exact ⟨rfl, rfl⟩
  case stopped =>
    rw [update_detector]
    have stops := v.sound.endSession_running
    rw [Detector.endSession_eq] at stops
    rw [ended, Detector.endSession_eq]
    exact stops
  case asked => exact ⟨_, update_asked .., w.detector.requests_failing leader (some e) reason⟩
  case sessions => exact update_sessions ..
  case notifications => exact (w.without id).update_failing _ takes leader (some e) reason _

/-- Any number of handlers may learn of the loss of a leader while one chain is live, and their
connections may be done in any order. Whoever learns of it only begins to await a connection. The
first connection that is done while the chain is live decides: if it was made, the session goes on
with its leader and one new chain in place of the old one; if not, the session has failed. Nothing
comes of the others, and nothing of any of them once the session was ended, replaced or failed. -/
theorem first_connection_decides (settings : FaultDetectionConfig) (clusterName : ClusterName)
    (moves : List (Bool × Move κ)) :
    let w := (create settings clusterName).run moves
    ∀ p leader, settings.connectOnNetworkDisconnect = true →
      w.detector.session.pinger = some p → w.detector.session.leader = some leader →
      (∀ takes run m, w.Learns p leader run m → w.Awaits m run p leader (w.step takes m)) ∧
      ∀ later,
        let v := w.run later
        (∀ id run node takes source result,
          v.activities.lookup id = some (.connecting run (some p) node) →
          let v' := v.step takes (.proceed id source result)
          (v.detector.session.pinger = some p →
            node = leader ∧ v.Decided takes id p leader v' result) ∧
          v'.Past p) ∧
        ((∃ m ∈ later, m.2.ends = true) ∨ v.sessions ≠ w.sessions ∨
          v.notifications ≠ w.notifications → v.Past p) := by
  intro w p leader on live watched
  have valid : w.Valid := run_valid settings clusterName moves
  have same : w.detector.settings = settings :=
    run_settings (create_valid settings clusterName) moves
  have old : p < w.detector.created := valid.sound.created p live
  refine ⟨fun takes run m learns => ?_, fun later => ⟨?_, valid.past_of_over old later⟩⟩
  · exact valid.awaits (same ▸ on) live watched learns takes
  intro id run node takes source result here v'
  have valid' : (w.run later).Valid := valid.run later
  have older : p < (w.run later).detector.created :=
    Nat.lt_of_lt_of_le old (valid.created_le_run later)
  by_cases current : (w.run later).detector.session.pinger = some p
  · have meant := valid'.watched_of_connecting here current
    have kept := (valid.run_keeps later old current).1
    obtain rfl : node = leader :=
      Option.some.inj (meant.symm.trans (kept.trans watched))
    have decided : (w.run later).Decided takes id p node v' result := by
      cases result with
      | ok _ => exact valid'.renewed here current takes source
      | error e => exact valid'.fallen here current takes source e
    have dead : v'.detector.session.pinger ≠ some p := by
      cases result with
      | ok _ =>
        rw [Renewed.detector decided]
        intro new
        exact Nat.ne_of_gt older (Option.some.inj new)
      | error e =>
        rw [(Fallen.idle decided).2]
        simp
    refine ⟨fun _ => ⟨rfl, decided⟩, (valid'.step takes _).past ?_ dead⟩
    exact Nat.lt_of_lt_of_le older (valid'.created_le_step takes _)
  · refine ⟨fun still => absurd still current, ?_⟩
    have gone : v' = (w.run later).without id :=
      (valid'.past older current [] id run node takes source result here).1
    have unchanged : v'.detector = (w.run later).detector :=
      (congrArg Watch.detector gone).trans rfl
    exact (valid'.step takes _).past (unchanged ▸ older) (unchanged ▸ current)

/-- The run that pings, the listener of the transport and the owner all await a connection; that of
the owner, who learned of the loss last, is done first. -/
theorem last_to_learn_decides :
    let a : Node := ⟨"a", "1", "http://a"⟩
    let settings : FaultDetectionConfig := { connectOnNetworkDisconnect := true }
    let moves : List (Bool × Move Unit) :=
      [(true, .restart a "elected"), (true, .proceed 0 a (.ok ()))]
    let later : List (Bool × Move Unit) :=
      [(true, .proceed 1 a (.error (.disconnected "a" "reset"))), (true, .lose a),
        (true, .proceed 3 a (.ok ())), (true, .handle a)]
    let w := (create settings "c").run moves
    let v := w.run later
    w.detector.session.pinger = some 0 ∧ w.detector.session.leader = some a ∧
      v.activities.map (·.1) = [2, 4, 5] ∧
      (∀ takes, v.Renewed takes 5 0 a (v.step takes (.proceed 5 a (.ok ())))) ∧
      ∀ takes e, v.Fallen takes 5 a e (v.step takes (.proceed 5 a (.error e))) ∧
        (v.step takes (.proceed 5 a (.error e))).Past 0 := by
  intro a settings moves later w v
  have live : w.detector.session.pinger = some 0 := by decide
  have watched : w.detector.session.leader = some a := by decide
  have here : v.activities.lookup 5 = some (.connecting none (some 0) a) := by decide
  have begun : v.activities.map (·.1) = [2, 4, 5] := by decide
  obtain ⟨_, decides⟩ := first_connection_decides settings "c" moves 0 a rfl live watched
  have first := (decides later).1 5 none a
  refine ⟨live, watched, begun, ?_, ?_⟩
  · intro takes
    obtain ⟨_, made⟩ := (first takes a (.ok ()) here).1 (by decide)
    exact made
  · intro takes e
    obtain ⟨decided, past⟩ := first takes a (.error e) here
    exact ⟨(decided (by decide)).2, past⟩

end Watch

end Vigil

import Vigil.Config
import Vigil.Proofs.Conversation
import Vigil.Proofs.Course

/-!
Nodes of different clusters. Every ping that a detector sends carries the name of its cluster, also
where it is sent again, and a node turns away the pings that name another cluster than its own. A
node whose cluster has the empty name is the exception: its pings count as if they named none.
-/

namespace Vigil

open Http (Request Response)

variable {ω κ σ : Type}

namespace Detector

theorem notifyFailure_pingless (d : Detector κ) (leader : Node) (cause : Option TransportError)
    (reason : String) (p : PingerId) (q : PingRequest) :
    .ping p q ∉ (d.notifyFailure leader cause reason).2 := by
  unfold notifyFailure
  split <;> simp

theorem disconnected_pingless (d : Detector κ) (node : Node) (p : PingerId) (q : PingRequest) :
    .ping p q ∉ (d.disconnected node).2 := by
  unfold disconnected
  split
  · simp
  · split
    · simp
    · simpa using d.notifyFailure_pingless node none "transport disconnected" p q

theorem connected_pingless (d : Detector κ) (before : Option PingerId) (node : Node)
    (result : Except TransportError Unit) (p : PingerId) (q : PingRequest) :
    .ping p q ∉ (d.connected before node result).2 := by
  unfold connected
  split
  · simp
  · cases result with
    | ok _ => simp [startPinger]
    | error e => simpa using d.notifyFailure_pingless node (some e) _ p q

theorem beginRound_names (d : Detector κ) {p p' : PingerId} {source : Node} {q : PingRequest}
    (asked : .ping p' q ∈ (d.beginRound p source).2) : q.clusterName = some d.clusterName := by
  unfold beginRound at asked
  split at asked
  · simp at asked
  · split at asked
    · simp only [List.mem_cons, reduceCtorEq, Effect.ping.injEq, List.not_mem_nil, false_or,
        or_false] at asked
      rw [asked.2]
    · simp at asked

/-- A ping that is sent again is the same. -/
theorem pinged_repeats (d : Detector κ) {p p' : PingerId} {request q : PingRequest}
    {result : Except TransportError Unit} (asked : .ping p' q ∈ (d.pinged p request result).2) :
    q = request := by
  unfold pinged at asked
  split at asked
  · simp at asked
  · cases result with
    | ok _ =>
      dsimp only at asked
      split at asked <;> simp at asked
    | error e =>
      simp only [pingFailed] at asked
      split at asked
      · simp at asked
      · cases e with
        | disconnected n m =>
          simp only [List.mem_cons, reduceCtorEq, false_or] at asked
          exact absurd asked (d.disconnected_pingless request.leader p' q)
        | rejected n rejection =>
          simp only [List.mem_cons, reduceCtorEq, false_or] at asked
          exact absurd asked (d.notifyFailure_pingless request.leader _ rejection.reason p' q)
        | timeout | remote =>
          simp only [attemptFailed, List.mem_cons, reduceCtorEq, false_or] at asked
          split at asked
          · simp only [List.mem_cons, reduceCtorEq, Effect.ping.injEq, List.not_mem_nil, false_or,
              or_false] at asked
            exact asked.2
          · simp only [List.mem_cons, reduceCtorEq, false_or] at asked
            exact absurd asked (notifyFailure_pingless _ request.leader _ _ p' q)

/-- Where some work goes on, a ping either is a new one or is sent again. -/
theorem goOn_names (d : Detector κ) {source : Node} {result : Except TransportError Unit}
    {a : Activity κ} {p : PingerId} {q : PingRequest}
    (asked : .ping p q ∈ (d.goOn source result a).2) :
    q.clusterName = some d.clusterName ∨ ∃ p' sent, a = .pinging p' q sent := by
  cases a with
  | scheduled p' delay => exact .inl (d.beginRound_names asked)
  | pinging p' request sent =>
    obtain rfl := d.pinged_repeats asked
    exact .inr ⟨p', sent, rfl⟩
  | connecting run before leader => exact absurd asked (d.connected_pingless before leader _ p q)
  | lost run node => exact absurd asked (d.disconnected_pingless node p q)
  | calling => simp [goOn] at asked

/-- Only where a chain goes on does a detector ping. -/
theorem Outcome.pingless {d d' : Detector κ} {effects : List (Effect κ)}
    (h : d.Outcome none d' (requests effects)) (p : PingerId) (q : PingRequest) :
    .ping p q ∉ effects := by
  intro asked
  have asked : .ping p q ∈ requests effects := List.mem_filter.mpr ⟨asked, rfl⟩
  generalize requests effects = requests at h asked
  cases h with
  | pinged _ _ _ run => cases run
  | _ => simp at asked

end Detector

namespace Watch

/-- Every ping that was sent and every one that may be sent again names a cluster. -/
structure Names (name : ClusterName) (w : Watch κ) : Prop where
  detector : w.detector.clusterName = name
  asked : ∀ p q, .ping p q ∈ w.asked → q.clusterName = some name
  waiting : ∀ id p q sent, (id, .pinging p q sent) ∈ w.activities → q.clusterName = some name

variable {w : Watch κ} {name : ClusterName}

theorem create_names (settings : FaultDetectionConfig) (name : ClusterName) :
    Names name (create settings name : Watch κ) := by
  constructor <;> simp [create, Detector.create]

theorem Names.spawn (h : w.Names name) {a : Activity κ}
    (names : ∀ p q sent, a = .pinging p q sent → q.clusterName = some name) :
    (w.spawn a).Names name where
  detector := h.detector
  asked := h.asked
  waiting := by
    intro id p q sent here
    rcases List.mem_append.mp here with here | here
    · exact h.waiting id p q sent here
    · exact names p q sent (congrArg Prod.snd (List.mem_singleton.mp here)).symm

theorem Names.submit (h : w.Names name) (takes : Bool) {a : Activity κ}
    (other : ∀ p q sent, a ≠ .pinging p q sent) : (w.submit takes a).Names name := by
  cases takes with
  | true => exact h.spawn fun p q sent same => absurd same (other p q sent)
  | false => exact ⟨h.detector, h.asked, h.waiting⟩

theorem Names.without (h : w.Names name) (id : Nat) : (w.without id).Names name where
  detector := h.detector
  asked := h.asked
  waiting id p q sent here := h.waiting id p q sent (List.mem_filter.mp here).1

theorem Names.enter (h : w.Names name) (leader : Node) : (w.enter leader).Names name := by
  unfold Watch.enter
  split
  · exact h
  · exact ⟨h.detector, h.asked, h.waiting⟩

theorem Names.deliver (h : w.Names name) (a : Activity κ) : (w.deliver a).Names name := by
  unfold Watch.deliver
  split
  · have called (d : Delivery κ) : (w.call d).Names name := ⟨h.detector, h.asked, h.waiting⟩
    exact (called _).spawn fun _ _ _ same => by cases same
  · exact h

theorem Names.perform (h : w.Names name) (cause : Option (Activity κ)) (takes : Bool)
    {e : Effect κ} (names : ∀ p q, e = .ping p q → q.clusterName = some name) :
    (perform cause takes w e).Names name := by
  have noted : (w.note e).Names name := by
    refine ⟨h.detector, fun p q asked => ?_, h.waiting⟩
    rcases List.mem_append.mp asked with asked | asked
    · exact h.asked p q asked
    · exact names p q (List.mem_singleton.mp asked).symm
  cases e with
  | tell notice => exact noted
  | count series => exact ⟨noted.detector, noted.asked, noted.waiting⟩
  | schedule p delay => exact noted.submit takes fun _ _ _ same => by cases same
  | dispatch listeners failure =>
    have raised : ((w.note (.dispatch listeners failure)).raise failure takes).Names name :=
      ⟨noted.detector, noted.asked, noted.waiting⟩
    exact raised.submit takes fun _ _ _ same => by cases same
  | ping p request =>
    refine noted.spawn fun p' q sent same => ?_
    cases same
    exact names p request rfl
  | connect before leader => exact noted.spawn fun _ _ _ same => by cases same

theorem Names.update (h : w.Names name) (cause : Option (Activity κ)) (takes : Bool)
    {r : Detector κ × List (Effect κ)} (kept : r.1.clusterName = w.detector.clusterName)
    (names : ∀ p q, .ping p q ∈ r.2 → q.clusterName = some name) :
    (w.update cause takes r).Names name :=
  update_preserves cause takes r ⟨kept.trans h.detector, h.asked, h.waiting⟩
    fun _ _ there named => named.perform cause takes fun p q same => names p q (same ▸ there)

theorem Names.step (h : w.Names name) (v : w.Valid) (takes : Bool) (m : Move κ) :
    (w.step takes m).Names name := by
  have s := step_cases v.sound takes m
  generalize w.step takes m = w' at s ⊢
  cases s with
  | idle => exact h
  | entered leader reason =>
    have restarts := w.detector.restart_outcome leader reason
    refine (h.enter leader).update none takes ?_ fun p q asked => ?_
    · rw [enter_detector]
      exact restarts.clusterName
    · exact absurd asked (restarts.pingless p q)
  | told r outcome _ =>
    exact h.update none takes outcome.clusterName fun p q asked =>
      absurd asked (outcome.pingless p q)
  | reported node => exact h.submit takes fun _ _ _ same => by cases same
  | went id source result a here =>
    have outcome := Detector.goOn_outcome v.sound (v.fits_of_lookup here) source result
    refine ((h.without id).update (some a) takes outcome.clusterName fun p q asked => ?_).deliver a
    -- A ping that is sent again was on its way, and named the cluster then.
    rcases w.detector.goOn_names asked with own | ⟨p', sent, again⟩
    · rw [own, h.detector]
    · exact h.waiting id p' q sent (again ▸ mem_of_lookup here)
  | accepted id p request sent e _ _ =>
    have counted := (h.without id).update (r := (w.detector, [.count (.pingFailures e.kind)])) none
      true rfl (by simp)
    exact counted.spawn fun _ _ _ same => by cases same

theorem Names.run (h : w.Names name) (v : w.Valid) (moves : List (Bool × Move κ)) :
    (w.run moves).Names name := by
  induction moves generalizing w with
  | nil => exact h
  | cons m moves ih => exact ih (h.step v m.1 m.2) (v.step m.1 m.2)

/-- Whatever happens to a detector, all its pings name the cluster that it was made for. -/
theorem pings_name (settings : FaultDetectionConfig) (name : ClusterName)
    (moves : List (Bool × Move κ)) {p : PingerId} {q : PingRequest}
    (sent : .ping p q ∈ ((create settings name).run moves).asked) : q.clusterName = some name :=
  ((create_names settings name).run (create_valid settings name) moves).asked p q sent

end Watch

namespace PingRequest

variable {q : PingRequest} {theirs ours : ClusterName}

/-- A ping that names another cluster is meant for nobody here, whatever the state. -/
theorem not_meantFor (name : q.clusterName = some theirs) (named : theirs ≠ "")
    (foreign : theirs ≠ ours) (view : ClusterState) : ¬ q.MeantFor ours view := by
  rintro ⟨_, clusters⟩
  rcases clusters theirs (by simp [name]) with unnamed | same
  · exact named unnamed
  · exact foreign same

theorem law_foreign {view : ClusterState} (other : ¬ q.MeantFor ours view)
    (found : Option ClusterState) :
    q.law ours view found = .error (.rejected (.notTheLeader (q.refusal ours view))) := by
  simp only [law, other, not_false_eq_true, if_true]

/-- A ping that does not fit is not even read. -/
theorem demand_overlong (long : ¬ q.toJson.toText.utf8ByteSize ≤ bodyLimit) (host : String) :
    demand (q.posted host) = .refused
      (.plain 413 "Failed to buffer the request body: length limit exceeded") := by
  have large : (q.posted host).body.size > bodyLimit := by
    have size (s : String) : s.toUTF8.size = s.utf8ByteSize := rfl
    rw [posted, size]
    exact Nat.not_le.mp long
  have unread : readPing (q.posted host) = .error
      (.plain 413 "Failed to buffer the request body: length limit exceeded") := by
    simp only [readPing, q.posted_hasJson host, large, Bool.not_true, Bool.false_eq_true, if_false,
      if_true]
  have route : Route.ofPath? (q.posted host).path = some .leaderPing := rfl
  have served : (q.posted host).method ∈ Route.leaderPing.methods := List.mem_singleton.mpr rfl
  simp only [demand, route, served, unread, not_true, if_false]

end PingRequest

/-- A server of another cluster answers a ping with a failure, whether or not it reads it. -/
theorem Server.serve_foreign {q : PingRequest} {s : Server ω}
    (other : ¬ q.MeantFor s.leader.clusterName s.leader.snapshot) (who : ω) (host : String) :
    (s.serve who (q.posted host)).2 =
      if q.toJson.toText.utf8ByteSize ≤ bodyLimit then
        pingResponse (.error (.rejected
          (.notTheLeader (q.refusal s.leader.clusterName s.leader.snapshot))))
      else .plain 413 "Failed to buffer the request body: length limit exceeded" := by
  by_cases fits : q.toJson.toText.utf8ByteSize ≤ bodyLimit
  · rw [if_pos fits]
    refine s.serve_posted fits who host ?_
    rw [s.leader.ask_answer, PingRequest.law_foreign other]
  · have method : (q.posted host).method = "POST" := rfl
    have whole : "POST" ≠ "HEAD" := by decide
    rw [if_neg fits, serve, PingRequest.demand_overlong fits]
    simp only [perform, method, whole, if_false]

/-- What fails is no acknowledgement to the one who asked. -/
theorem Connections.ping_failed (c : Connections σ) (target : Node) (limit : Duration)
    {r : Response} (failed : Http.isSuccess r.status = false) :
    (c.ping target limit r.arrived).result ≠ .ok () := by
  have lost (e : Exchange) : (c.fail target limit e : Contact σ Unit).result ≠ .ok () := by
    unfold fail lose
    split
    · split <;> exact fun h => by cases h
    · exact fun h => by cases h
  simp only [Response.arrived, ping, failed, Bool.false_eq_true, if_false]
  split
  · split
    · exact fun h => by cases h
    · exact lost _
  · exact fun h => by cases h

/-- Two nodes whose clusters have different names, of which the first is not empty: what the
detector of the first sends is turned away by the second in every state, without any effect on its
queue, and the response to it acknowledges nothing. -/
theorem foreign_ping_refused (theirs ours : Config) (named : theirs.cluster.name ≠ "")
    (foreign : theirs.cluster.name ≠ ours.cluster.name) (moves : List (Bool × Move κ))
    (p : PingerId) (q : PingRequest)
    (sent : .ping p q ∈
      ((Watch.create theirs.faultDetection theirs.cluster.name).run moves).asked) :
    (∀ state before after,
      let w := (Reception.start ours.cluster.name state).run before
      let v := w.step (.receive q)
      let refusal := Rejection.notTheLeader (q.refusal ours.cluster.name w.leader.snapshot)
      (v.run after).answers w.asked = [.ping (.error (.rejected refusal))] ∧
        v.leader.queue = w.leader.queue) ∧
    ∀ (s : Server ω) who host, s.leader.clusterName = ours.cluster.name →
      let response := (s.serve who (q.posted host)).2
      response.status = (if q.toJson.toText.utf8ByteSize ≤ bodyLimit then 409 else 413) ∧
        ∀ (c : Connections σ) target limit,
          (c.ping target limit response.arrived).result ≠ .ok () := by
  have name : q.clusterName = some theirs.cluster.name :=
    Watch.pings_name theirs.faultDetection theirs.cluster.name moves sent
  have other (view : ClusterState) : ¬ q.MeantFor ours.cluster.name view :=
    PingRequest.not_meantFor name named foreign view
  constructor
  · intro state before after w v refusal
    have numbered : Reception.Numbered w :=
      (Reception.start_numbered ours.cluster.name state).run before
    have own : w.leader.clusterName = ours.cluster.name :=
      (Reception.start ours.cluster.name state).run_clusterName before
    have decided : q.DecidedBy w.leader.clusterName w.leader.snapshot := fun meant =>
      absurd (own ▸ meant) (other w.leader.snapshot)
    have answered := numbered.decided decided after
    rw [own, PingRequest.law_foreign (other _)] at answered
    exact answered
  · intro s who host own response
    have served : response = _ := s.serve_foreign (own ▸ other _) who host
    have status : response.status =
        if q.toJson.toText.utf8ByteSize ≤ bodyLimit then 409 else 413 := by
      rw [served]
      split <;> rfl
    refine ⟨status, fun c target limit => c.ping_failed target limit ?_⟩
    rw [status]
    split <;> rfl

/-- A leader that knows the follower turns it away, where the follower is of another cluster. -/
theorem listed_stranger_refused :
    let a : Node := ⟨"a", "1", "http://a"⟩
    let b : Node := ⟨"b", "1", "http://b"⟩
    let theirs : Config := { cluster := { name := "test", nodeId := "b" } }
    let ours : Config := { cluster := { name := "prod", nodeId := "a" } }
    let q : PingRequest := ⟨b, a, some "test"⟩
    let moves : List (Bool × Move Unit) :=
      [(true, .restart a "elected"), (true, .proceed 0 b (.ok ()))]
    let leading := ((ClusterState.initial "prod" a).add b).withLeader (some "a")
    let w := (Reception.start "prod" leading).step (.receive q)
    (theirs.cluster.name ≠ "" ∧ theirs.cluster.name ≠ ours.cluster.name ∧
      .ping 0 q ∈ ((Watch.create theirs.faultDetection theirs.cluster.name).run moves).asked) ∧
    w.answers 0 = [.ping (.error (.rejected (.notTheLeader
      "leader ping for cluster [test] received by leader of cluster [prod]")))] := by
  intro a b theirs ours q moves leading w
  have named : theirs.cluster.name ≠ "" := by decide
  have foreign : theirs.cluster.name ≠ ours.cluster.name := by decide
  have sent : .ping 0 q ∈
      ((Watch.create theirs.faultDetection theirs.cluster.name).run moves).asked :=
    List.mem_of_getLast? rfl
  have refused := (foreign_ping_refused (ω := Unit) (σ := Unit) theirs ours named foreign moves 0 q
    sent).1 leading [] []
  exact ⟨⟨named, foreign, sent⟩, refused.1⟩

/-- A node whose configuration gives its cluster the empty name sends pings that a leader of another
cluster acknowledges. -/
theorem nameless_ping_acknowledged :
    let a : Node := ⟨"a", "1", "http://a"⟩
    let b : Node := ⟨"b", "1", "http://b"⟩
    let peers : List PeerConfig := [⟨"a", "http://a"⟩, ⟨"b", "http://b"⟩]
    let cluster : ClusterConfig := { leaderId := some "a", peers }
    let theirs : Config := { cluster := { cluster with name := "", nodeId := "b" } }
    let ours : Config := { cluster := { cluster with name := "prod", nodeId := "a" } }
    let q : PingRequest := ⟨b, a, some ""⟩
    let moves : List (Bool × Move Unit) :=
      [(true, .restart a "elected"), (true, .proceed 0 b (.ok ()))]
    let leading := ((ClusterState.initial "prod" a).add b).withLeader (some "a")
    let w := (Reception.start "prod" leading).step (.receive q)
    theirs.validate = .ok () ∧ ours.validate = .ok () ∧ theirs.cluster.name ≠ ours.cluster.name ∧
      .ping 0 q ∈ ((Watch.create theirs.faultDetection theirs.cluster.name).run moves).asked ∧
      w.answers 0 = [.ping (.ok ())] := by
  intro a b peers cluster theirs ours q moves leading w
  have meant : q.MeantFor "prod" leading := ⟨rfl, by simp [q]⟩
  have known : leading.Leads ∧ leading.Member q.source := by decide
  have acknowledged : q.law "prod" leading none = .ok () := by
    simp only [PingRequest.law, meant, known, not_true, if_false, and_self, if_true]
  have answered := ((Reception.start_numbered "prod" leading).decided (fun _ => known) []).1
  have told : w.answers 0 = [.ping (q.law "prod" leading none)] := answered
  rw [acknowledged] at told
  exact ⟨rfl, rfl, by decide, List.mem_of_getLast? rfl, told⟩

end Vigil

import Mathlib.Data.List.Count
import Vigil.Proofs.Latency
import Vigil.Proofs.Tally
import Vigil.Proofs.Traceless

/-!
The books of a node. What its detector counts of pings, of their failures and of sessions that were
lost is what became of them, in every run: each ping that was sent is still under way, or it was
acknowledged, or its failure was counted, or its answer came too late to matter. And what its
validator counts are the answers that were given.
-/

namespace Vigil

/-- The kind of the failed pings that are counted in a series. -/
def Series.failure? : Series → Option String
  | pingFailures kind => some kind
  | _ => none

def Series.isFailure (s : Series) : Bool := s.failure?.isSome

def Series.isHandled : Series → Bool
  | pingsHandled _ => true
  | _ => false

theorem count_failures (ss : List Series) (kind : String) :
    ss.count (.pingFailures kind) = (ss.filterMap Series.failure?).count kind := by
  induction ss with
  | nil => rfl
  | cons s ss ih =>
    rw [List.count_cons, ih, List.filterMap_cons]
    cases s <;> simp [Series.failure?, List.count_cons]

theorem countP_failures (ss : List Series) :
    ss.countP Series.isFailure = (ss.filterMap Series.failure?).length := by
  induction ss with
  | nil => rfl
  | cons s ss ih =>
    rw [List.countP_cons, ih, List.filterMap_cons]
    cases s <;> simp [Series.isFailure, Series.failure?]

/-- The end of a ping: what its sender was told, and whether it was the live chain of a session when
it was. -/
structure Receipt where
  result : Except TransportError Unit
  live : Bool

namespace Receipt

def isAcknowledged (r : Receipt) : Bool := r.live && r.result.isOk

/-- The label of the failure, if the session learned of one. -/
def failure? : Receipt → Option String
  | ⟨_, false⟩ | ⟨.ok (), true⟩ => none
  | ⟨.error (.disconnected ..), true⟩ => some "disconnected"
  | ⟨.error (.timeout ..), true⟩ => some "timeout"
  | ⟨.error (.remote ..), true⟩ => some "remote"
  | ⟨.error (.rejected _ (.notTheLeader _)), true⟩ => some "not_the_leader"
  | ⟨.error (.rejected _ (.unknownToLeader _)), true⟩ => some "unknown_to_leader"
  | ⟨.error (.rejected _ .noLongerLeader), true⟩ => some "no_longer_leader"

theorem failure?_live (e : TransportError) : failure? ⟨.error e, true⟩ = some e.kind := by
  cases e with
  | disconnected n m => rfl
  | timeout n limit => rfl
  | remote n m => rfl
  | rejected n rejection => cases rejection <;> rfl

/-- Whether the answer did not matter any more. -/
def isStale (r : Receipt) : Bool := !r.live

/-- Every end of a ping is of one of three sorts. -/
theorem sorted (rs : List Receipt) :
    rs.length = rs.countP isAcknowledged + (rs.filterMap failure?).length + rs.countP isStale := by
  induction rs with
  | nil => rfl
  | cons r rs ih =>
    obtain ⟨result, live⟩ := r
    rw [List.length_cons, ih, List.countP_cons, List.countP_cons, List.filterMap_cons]
    cases live with
    | false =>
      simp [isAcknowledged, isStale, failure?]
      omega
    | true =>
      cases result with
      | ok _ =>
        simp [isAcknowledged, isStale, failure?, Except.isOk, Except.toBool]
        omega
      | error e =>
        rw [failure?_live]
        simp [isAcknowledged, isStale, Except.isOk, Except.toBool]
        omega

end Receipt

section effects

variable {κ : Type}

def Effect.counts : Effect κ → Option Series
  | count series => some series
  | _ => none

def Effect.dispatches : Effect κ → Bool
  | dispatch .. => true
  | _ => false

/-- What an event asks for is counted: each ping that is sent, the failure of the ping that ended
with it, if one `failed`, and the loss of the session, if it is `lost`. -/
structure Booked (effects : List (Effect κ)) (failed : Option String) (lost : Bool) : Prop where
  sent : (effects.filterMap Effect.counts).count .pingsSent =
    (effects.filterMap Effect.pings).length
  failures : (effects.filterMap Effect.counts).filterMap Series.failure? = failed.toList
  losses : (effects.filterMap Effect.counts).count .leaderFailures = lost.toNat
  dispatches : effects.countP Effect.dispatches = lost.toNat

variable {effects : List (Effect κ)} {failed : Option String} {lost : Bool}

theorem Booked.nothing : Booked ([] : List (Effect κ)) none false := ⟨rfl, rfl, rfl, rfl⟩

theorem Booked.tell (b : Booked effects failed lost) (notice : Notice) :
    Booked (.tell notice :: effects) failed lost :=
  ⟨b.sent, b.failures, b.losses, b.dispatches⟩

theorem Booked.schedule (b : Booked effects failed lost) (p : PingerId) (delay : Duration) :
    Booked (.schedule p delay :: effects) failed lost :=
  ⟨b.sent, b.failures, b.losses, b.dispatches⟩

theorem Booked.connect (b : Booked effects failed lost) (before : Option PingerId)
    (leader : Node) : Booked (.connect before leader :: effects) failed lost :=
  ⟨b.sent, b.failures, b.losses, b.dispatches⟩

theorem Booked.ping (b : Booked effects failed lost) (p : PingerId) (request : PingRequest) :
    Booked (.count .pingsSent :: .ping p request :: effects) failed lost where
  sent := by
    simp only [List.filterMap_cons, Effect.counts, Effect.pings, List.count_cons_self,
      List.length_cons, b.sent]
  failures := b.failures
  losses := (List.count_cons_of_ne (by decide)).trans b.losses
  dispatches := b.dispatches

theorem Booked.fail (b : Booked effects none lost) (kind : String) :
    Booked (.count (.pingFailures kind) :: effects) (some kind) lost where
  sent := (List.count_cons_of_ne (by simp)).trans b.sent
  failures := congrArg (kind :: ·) b.failures
  losses := (List.count_cons_of_ne (by simp)).trans b.losses
  dispatches := b.dispatches

end effects

namespace Detector

variable {κ : Type} {d : Detector κ}

/-- Whether a session is there before and not after. -/
def drops (before after : Detector κ) : Bool :=
  before.session.leader.isSome && after.session.leader.isNone

/-- Whether a chain is the live one of a session. -/
def hears (d : Detector κ) (p : PingerId) : Bool :=
  d.session.leader.isSome && d.session.pinger == some p

/-- The end of a ping when some work goes on, if it is one. -/
def receipt (d : Detector κ) (result : Except TransportError Unit) : Activity κ → Option Receipt
  | .pinging p _ _ => some ⟨result, d.hears p⟩
  | _ => none

theorem receipt_asks (d : Detector κ) (result : Except TransportError Unit) (a : Activity κ) :
    (d.receipt result a).toList.length = if a.asks then 1 else 0 := by
  cases a <;> rfl

theorem drops_same {d' : Detector κ} (same : d'.session.leader = d.session.leader) :
    d.drops d' = false := by
  rw [drops, same]
  cases d.session.leader <;> rfl

theorem failing_booked (d : Detector κ) (leader : Node) (cause : Option TransportError)
    (reason : String) : Booked (d.failing leader cause reason).2 none true :=
  ⟨rfl, rfl, rfl, rfl⟩

theorem failing_drops {leader : Node} (watched : d.session.leader = some leader)
    (cause : Option TransportError) (reason : String) :
    d.drops (d.failing leader cause reason).1 = true := by
  simp [drops, failing, endSession_eq, watched]

theorem stopNotice_booked (d : Detector κ) (reason : String) :
    Booked (d.stopNotice reason) none false := by
  unfold stopNotice
  split
  · exact .tell .nothing _
  · exact .nothing

theorem restart_booked (d : Detector κ) (leader : Node) (reason : String) :
    Booked (d.restart leader reason).2 none false ∧
      d.drops (d.restart leader reason).1 = false := by
  unfold restart
  split
  · exact ⟨.tell .nothing _, drops_same rfl⟩
  · refine ⟨.tell (.schedule .nothing _ _) _, ?_⟩
    simp [drops, startSession, startPinger]

theorem disconnected_booked (s : d.Sound) (node : Node) :
    Booked (d.disconnected node).2 none (d.drops (d.disconnected node).1) := by
  by_cases watched : d.session.leader = some node
  · cases direct : d.settings.connectOnNetworkDisconnect with
    | true =>
      simp only [disconnected, watched, direct, ne_eq, not_true_eq_false, if_false, if_true]
      rw [drops_same rfl]
      exact .connect .nothing _ _
    | false =>
      rw [s.notifies.disconnected node watched direct, failing_drops watched]
      exact (d.failing_booked node none _).tell _
  · rw [d.disconnected_other watched, drops_same rfl]
    exact .nothing

theorem connected_booked (s : d.Sound) (before : Option PingerId) (node : Node)
    (result : Except TransportError Unit) :
    Booked (d.connected before node result).2 none
      (d.drops (d.connected before node result).1) := by
  by_cases stale : d.session.leader ≠ some node ∨ d.session.pinger ≠ before
  · rw [d.connected_stale stale, drops_same rfl]
    exact .nothing
  · have current := stale
    rw [not_or, ne_eq, ne_eq, Decidable.not_not, Decidable.not_not] at current
    obtain ⟨watched, rfl⟩ := current
    cases result with
    | ok _ =>
      simp only [connected, stale, if_false]
      have kept : ∀ next : Detector κ, next.session.leader = d.session.leader →
          d.drops next = false := fun _ => drops_same
      rw [kept]
      · exact .tell (.schedule .nothing _ _) _
      · cases d.session.pinger <;> rfl
    | error e =>
      rw [s.notifies.reconnectFailed node e watched, failing_drops watched]
      exact (d.failing_booked node (some e) _).tell _

theorem beginRound_booked (s : d.Sound) (p : PingerId) (source : Node) :
    Booked (d.beginRound p source).2 none (d.drops (d.beginRound p source).1) := by
  by_cases live : d.session.pinger = some p
  · obtain ⟨leader, _, begun⟩ := s.beginRound_eq ((s.current_iff p).mpr live) source
    rw [begun, drops_same rfl]
    exact .ping .nothing _ _
  · rw [d.beginRound_stale live, drops_same rfl]
    exact .nothing

theorem attemptFailed_booked (s : d.Sound) (p : PingerId) (request : PingRequest)
    (e : TransportError) (watched : d.session.leader = some request.leader) :
    Booked (d.attemptFailed p request e).2 none (d.drops (d.attemptFailed p request e).1) := by
  by_cases left : d.session.retryCount + 1 < d.settings.pingRetries
  · simp only [attemptFailed, left, if_true]
    have kept : d.drops { d with session.retryCount := d.session.retryCount + 1 } = false :=
      drops_same rfl
    rw [kept]
    exact .tell (.ping .nothing _ _) _
  · rw [s.attemptFailed_last p request e watched left, failing_drops watched]
    exact ((d.failing_booked _ _ _).tell _).tell _

/-- What the end of a ping leads to is booked, whatever it is; it counts as a failure if it comes to
the live chain. -/
theorem pinged_booked (s : d.Sound) (p : PingerId) (request : PingRequest)
    (result : Except TransportError Unit)
    (fits : d.session.pinger = some p → d.session.leader = some request.leader) :
    Booked (d.pinged p request result).2
      (Receipt.mk result (d.hears p)).failure?
      (d.drops (d.pinged p request result).1) := by
  by_cases live : d.session.pinger = some p
  case neg =>
    have dead : d.hears p = false := by simp [hears, live]
    rw [d.pinged_stale live, drops_same rfl, dead]
    exact .nothing
  have watched := fits live
  have heard : d.hears p = true := by simp [hears, live, watched]
  have owns : d.owns p request.leader = true := (s.owns_iff p _).mpr ⟨live, watched⟩
  obtain ⟨runs, _⟩ := owned_running owns
  rw [heard]
  cases result with
  | ok _ =>
    simp only [pinged, runs, owns, not_true_eq_false, if_false, if_true]
    have kept : d.drops { d with session.retryCount := 0 } = false := drops_same rfl
    rw [kept]
    exact .schedule .nothing _ _
  | error e =>
    rw [Receipt.failure?_live]
    simp only [pinged, runs, not_true_eq_false, if_false, pingFailed, owns, Bool.not_true,
      Bool.false_eq_true]
    cases e with
    | disconnected n m => exact (disconnected_booked s request.leader).fail _
    | rejected n rejection =>
      dsimp only
      rw [s.notifyFailure_eq watched, failing_drops watched]
      exact ((d.failing_booked _ _ _).tell _).fail _
    | timeout n limit => exact (attemptFailed_booked s p request _ watched).fail _
    | remote n m => exact (attemptFailed_booked s p request _ watched).fail _

theorem goOn_booked (s : d.Sound) {a : Activity κ} (fits : a.Fits d) (source : Node)
    (result : Except TransportError Unit) :
    Booked (d.goOn source result a).2 ((d.receipt result a).bind Receipt.failure?)
      (d.drops (d.goOn source result a).1) := by
  cases a with
  | scheduled p _ => exact beginRound_booked s p source
  | pinging p request _ => exact pinged_booked s p request result fits.2
  | connecting _ before leader => exact connected_booked s before leader result
  | lost _ node => exact disconnected_booked s node
  | calling _ _ _ =>
    have kept : d.drops d = false := drops_same rfl
    rw [goOn, kept]
    exact .nothing

end Detector

namespace Watch

variable {κ : Type}

/-- How many pings were sent. -/
def sent (w : Watch κ) : Nat := (w.asked.filterMap Effect.pings).length

/-- How many pings have not ended yet. -/
def inFlight (w : Watch κ) : Nat := w.activities.countP (·.2.asks)

/-- The end of a ping in a move, if it is one. -/
def receipt (w : Watch κ) : Move κ → Option Receipt
  | .proceed id _ result => (w.activities.lookup id).bind (w.detector.receipt result)
  | .accept id _ node message =>
    (w.activities.lookup id).bind (w.detector.receipt (.error (.disconnected node message)))
  | _ => none

/-- Whether a session ends in a move without being ended by the owner. -/
def loses (w : Watch κ) (takes : Bool) (m : Move κ) : Bool :=
  !m.ends && w.detector.drops (w.step takes m).detector

/-- The ends of pings in a run. -/
def receipts : Watch κ → List (Bool × Move κ) → List Receipt
  | _, [] => []
  | w, m :: moves => (w.receipt m.2).toList ++ receipts (w.step m.1 m.2) moves

/-- How many sessions are lost in a run. -/
def losses : Watch κ → List (Bool × Move κ) → Nat
  | _, [] => 0
  | w, m :: moves => (w.loses m.1 m.2).toNat + losses (w.step m.1 m.2) moves

/-- From `w` to `w'` some effects were asked for. -/
structure Does (w : Watch κ) (effects : List (Effect κ)) (w' : Watch κ) : Prop where
  sent : w'.sent = w.sent + (effects.filterMap Effect.pings).length
  metrics : w'.metrics = w.metrics.countAll (effects.filterMap Effect.counts)
  inFlight : w'.inFlight = w.inFlight + (effects.filterMap Effect.pings).length
  notifications : w'.notifications.length =
    w.notifications.length + effects.countP Effect.dispatches

theorem Does.refl (w : Watch κ) : w.Does [] w := ⟨rfl, rfl, rfl, rfl⟩

theorem Does.trans {u v w : Watch κ} {es fs : List (Effect κ)} (h : u.Does es v)
    (h' : v.Does fs w) : u.Does (es ++ fs) w where
  sent := by
    rw [h'.sent, h.sent, List.filterMap_append, List.length_append, Nat.add_assoc]
  metrics := by
    rw [h'.metrics, h.metrics, List.filterMap_append, Metrics.countAll_append]
  inFlight := by
    rw [h'.inFlight, h.inFlight, List.filterMap_append, List.length_append, Nat.add_assoc]
  notifications := by
    rw [h'.notifications, h.notifications, List.countP_append, Nat.add_assoc]

theorem inFlight_spawn (w : Watch κ) (a : Activity κ) :
    (w.spawn a).inFlight = w.inFlight + a.asks.toNat := by
  cases h : a.asks <;> simp [inFlight, spawn, List.countP_append, h]

theorem sent_note (w : Watch κ) (e : Effect κ) :
    (w.note e).sent = w.sent + ([e].filterMap Effect.pings).length := by
  rw [sent, note, List.filterMap_append, List.length_append]
  rfl

theorem does_submit (w : Watch κ) (takes : Bool) {a : Activity κ} (quiet : a.asks = false) :
    w.Does [] (w.submit takes a) := by
  cases takes with
  | true =>
    refine ⟨rfl, rfl, ?_, rfl⟩
    change (w.spawn a).inFlight = _
    rw [inFlight_spawn, quiet]
    rfl
  | false => exact ⟨rfl, rfl, rfl, rfl⟩

theorem perform_does (cause : Option (Activity κ)) (takes : Bool) (w : Watch κ) (e : Effect κ) :
    w.Does [e] (perform cause takes w e) := by
  have noted := w.sent_note e
  cases e with
  | tell notice => exact ⟨noted, rfl, rfl, rfl⟩
  | count series => exact ⟨noted, rfl, rfl, rfl⟩
  | schedule p delay =>
    have done : (w.note (.schedule p delay)).Does [] _ :=
      does_submit _ takes (a := .scheduled p delay) rfl
    exact ⟨done.sent.trans noted, done.metrics, done.inFlight, done.notifications⟩
  | dispatch listeners failure =>
    have done : ((w.note (.dispatch listeners failure)).raise failure takes).Does [] _ :=
      does_submit _ takes (a := .calling w.latest listeners failure) rfl
    refine ⟨done.sent.trans noted, done.metrics, done.inFlight, done.notifications.trans ?_⟩
    exact List.length_append
  | ping p request => exact ⟨noted, rfl, inFlight_spawn _ _, rfl⟩
  | connect before leader => exact ⟨noted, rfl, inFlight_spawn _ _, rfl⟩

theorem update_does (w : Watch κ) (cause : Option (Activity κ)) (takes : Bool)
    (r : Detector κ × List (Effect κ)) : w.Does r.2 (w.update cause takes r) := by
  have h (es : List (Effect κ)) (v : Watch κ) : v.Does es (es.foldl (perform cause takes) v) := by
    induction es generalizing v with
    | nil => exact .refl v
    | cons e es ih => exact (perform_does cause takes v e).trans (ih _)
  have done := h r.2 { w with detector := r.1 }
  exact ⟨done.sent, done.metrics, done.inFlight, done.notifications⟩

theorem deliver_does (w : Watch κ) (a : Activity κ) : w.Does [] (w.deliver a) := by
  unfold deliver
  split
  · exact ⟨rfl, rfl, inFlight_spawn _ _, rfl⟩
  · exact .refl w

theorem enter_does (w : Watch κ) (leader : Node) : w.Does [] (w.enter leader) := by
  unfold enter
  split
  · exact .refl w
  · exact ⟨rfl, rfl, rfl, rfl⟩

/-- In a run the pings `receipts` ended and `losses` sessions were lost, and the books say so. -/
structure Balanced (w : Watch κ) (receipts : List Receipt) (losses : Nat) : Prop where
  sent : w.metrics.get .pingsSent = w.sent
  failures : ∀ kind, w.metrics.get (.pingFailures kind) =
    (receipts.filterMap Receipt.failure?).count kind
  failed : w.metrics.total Series.isFailure = (receipts.filterMap Receipt.failure?).length
  lost : w.metrics.get .leaderFailures = losses
  notified : w.notifications.length = losses
  ended : w.sent = w.inFlight + receipts.length

theorem create_balanced (settings : FaultDetectionConfig) (clusterName : ClusterName) :
    (create settings clusterName : Watch κ).Balanced [] 0 :=
  ⟨rfl, fun _ => rfl, rfl, rfl, rfl, rfl⟩

/-- Effects that are booked keep the books balanced; `u` is what is left of `w` without the ping
that ended. -/
theorem Balanced.does {w : Watch κ} {receipts : List Receipt} {losses : Nat}
    (b : w.Balanced receipts losses) (u : Watch κ) (receipt : Option Receipt)
    (sent : u.sent = w.sent) (metrics : u.metrics = w.metrics)
    (ended : u.inFlight + receipt.toList.length = w.inFlight)
    (notifications : u.notifications = w.notifications) {w' : Watch κ}
    {effects : List (Effect κ)} (does : u.Does effects w') {lost : Bool}
    (booked : Booked effects (receipt.bind Receipt.failure?) lost) :
    w'.Balanced (receipts ++ receipt.toList) (losses + lost.toNat) := by
  have one : receipt.toList.filterMap Receipt.failure? =
      (receipt.bind Receipt.failure?).toList := by
    cases receipt with
    | none => rfl
    | some r => cases h : r.failure? <;> simp [h]
  constructor
  case sent =>
    rw [does.metrics, Metrics.get_countAll, booked.sent, metrics, b.sent, does.sent, sent]
  case failures =>
    intro kind
    rw [does.metrics, Metrics.get_countAll, count_failures, booked.failures, metrics, b.failures,
      List.filterMap_append, one, List.count_append]
  case failed =>
    rw [does.metrics, Metrics.total_countAll, countP_failures, booked.failures, metrics, b.failed,
      List.filterMap_append, one, List.length_append]
  case lost => rw [does.metrics, Metrics.get_countAll, booked.losses, metrics, b.lost]
  case notified => rw [does.notifications, booked.dispatches, notifications, b.notified]
  case ended =>
    have before := b.ended
    rw [does.sent, does.inFlight, List.length_append]
    omega

theorem Balanced.proceed {w : Watch κ} (v : w.Valid) {rs : List Receipt} {losses : Nat}
    (b : w.Balanced rs losses) (takes : Bool) (id : Nat) (source : Node)
    (result : Except TransportError Unit) :
    (w.step takes (.proceed id source result)).Balanced
      (rs ++ (w.receipt (.proceed id source result)).toList)
      (losses + (w.loses takes (.proceed id source result)).toNat) := by
  cases here : w.activities.lookup id with
  | none =>
    have silent : w.receipt (.proceed id source result) = none := by
      rw [receipt, here, Option.bind_none]
    have same : w.step takes (.proceed id source result) = w := by simp only [Watch.step, here]
    have lost : w.loses takes (.proceed id source result) = false := by
      rw [loses, same, Detector.drops_same rfl]
      rfl
    rw [silent, lost, same]
    exact b.does w none rfl rfl rfl rfl (.refl w) .nothing
  | some a =>
    let r := w.detector.goOn source result a
    have after : w.step takes (.proceed id source result) =
        ((w.without id).update (some a) takes r).deliver a :=
      step_proceed here takes source result
    have does : (w.without id).Does (r.2 ++ []) (w.step takes (.proceed id source result)) := by
      rw [after]
      exact (update_does _ _ _ r).trans (deliver_does _ a)
    have lost : w.loses takes (.proceed id source result) = w.detector.drops r.1 := by
      rw [loses, after, deliver_detector, update_detector]
      rfl
    have ended : w.receipt (.proceed id source result) = w.detector.receipt result a := by
      rw [receipt, here, Option.bind_some]
    have left := v.countP_without here Activity.asks
    rw [← w.detector.receipt_asks result] at left
    rw [List.append_nil] at does
    rw [lost, ended]
    exact b.does (w.without id) _ rfl rfl left.symm rfl does
      (Detector.goOn_booked v.sound (v.fits_of_lookup here) source result)

/-- The failure of a ping that is accepted is counted as one that is handled at once. -/
theorem Balanced.accept {w : Watch κ} (v : w.Valid) {rs : List Receipt} {losses : Nat}
    (b : w.Balanced rs losses) {id : Nat} {p : PingerId} {request : PingRequest} {sent : Nat}
    (here : w.activities.lookup id = some (.pinging p request sent)) (node message : String) :
    ((w.without id).accept p request.leader (.disconnected node message)).Balanced
      (rs ++ [⟨.error (.disconnected node message), true⟩]) losses := by
  have left := v.countP_without here Activity.asks
  let e : TransportError := .disconnected node message
  have counted := (w.without id).update_does none true (w.detector, [.count (.pingFailures e.kind)])
  have does : (w.without id).Does _ ((w.without id).accept p request.leader e) :=
    counted.trans (does_submit _ true (a := .lost (some p) request.leader) rfl)
  rw [List.append_nil] at does
  exact b.does (w.without id) (some ⟨.error e, true⟩) rfl rfl left.symm rfl does (.fail .nothing _)

theorem Balanced.step {w : Watch κ} (v : w.Valid) {rs : List Receipt} {losses : Nat}
    (b : w.Balanced rs losses) (takes : Bool) (m : Move κ) :
    (w.step takes m).Balanced (rs ++ (w.receipt m).toList)
      (losses + (w.loses takes m).toNat) := by
  -- Moves in which no ping ends: the effects come on top of all there was.
  have plain {w' : Watch κ} {effects : List (Effect κ)} {lost : Bool} (does : w.Does effects w')
      (booked : Booked effects none lost) : w'.Balanced (rs ++ []) (losses + lost.toNat) :=
    b.does w none rfl rfl rfl rfl does booked
  cases m with
  | restart leader reason =>
    obtain ⟨booked, kept⟩ := w.detector.restart_booked leader reason
    have entered : w.Does _ (w.step takes (.restart leader reason)) :=
      (w.enter_does leader).trans (update_does _ none takes _)
    have lost : w.loses takes (.restart leader reason) = false := by
      rw [loses, Watch.step, update_detector, kept]
      rfl
    rw [lost]
    exact plain entered booked
  | stop reason => exact plain (w.update_does none takes _) (w.detector.stopNotice_booked reason)
  | shutdown => exact plain (w.update_does none takes _) (w.detector.stopNotice_booked "closing")
  | drop => exact plain (w.update_does none takes (_, [])) .nothing
  | addListener listener =>
    have lost : w.loses takes (.addListener listener) = false := Detector.drops_same rfl
    rw [lost]
    exact plain (w.update_does none takes (_, [])) .nothing
  | removeListener id =>
    have lost : w.loses takes (.removeListener id) = false := Detector.drops_same rfl
    rw [lost]
    exact plain (w.update_does none takes (_, [])) .nothing
  | lose node =>
    have lost : w.loses takes (.lose node) = false := by
      cases takes <;> exact Detector.drops_same rfl
    rw [lost]
    exact plain (w.does_submit takes rfl) .nothing
  | handle node =>
    have lost : w.loses takes (.handle node) =
        w.detector.drops (w.detector.disconnected node).1 := by
      rw [loses, Watch.step, update_detector]
      rfl
    rw [lost]
    exact plain (w.update_does none takes _) (Detector.disconnected_booked v.sound node)
  | proceed id source result => exact b.proceed v takes id source result
  | accept id source node message =>
    let m : Move κ := .accept id source node message
    refine accept_cases (P := fun u => u.Balanced (rs ++ (w.receipt m).toList)
      (losses + (w.detector.drops u.detector).toNat)) takes id source node message
      (b.proceed v takes id source _) fun p request sent here owns => ?_
    obtain ⟨live, watched⟩ := (v.sound.owns_iff p _).mp owns
    have ended : w.receipt m = some ⟨.error (.disconnected node message), true⟩ := by
      simp [m, receipt, here, Detector.receipt, Detector.hears, live, watched]
    have kept : w.detector.drops
        ((w.without id).accept p request.leader (.disconnected node message)).detector = false :=
      Detector.drops_same rfl
    rw [ended, kept]
    exact b.accept v here node message

theorem Balanced.run {w : Watch κ} (v : w.Valid) {rs : List Receipt} {n : Nat}
    (b : w.Balanced rs n) (moves : List (Bool × Move κ)) :
    (w.run moves).Balanced (rs ++ w.receipts moves) (n + w.losses moves) := by
  induction moves generalizing w rs n with
  | nil =>
    rw [receipts, List.append_nil]
    exact b
  | cons m moves ih =>
    have rest := ih (v.step m.1 m.2) (b.step v m.1 m.2)
    rw [receipts, losses, ← List.append_assoc, ← Nat.add_assoc]
    exact rest

end Watch

/-- The answer in a reply, if it is one to a ping. -/
def Reply.answer? : Reply → Option (Except PingError Unit)
  | ping answer => some answer
  | task _ => none

namespace Reception

/-- The label that an answer is counted under. -/
def label : Except PingError Unit → String
  | .ok () => "ack"
  | .error (.rejected (.notTheLeader _)) => "not_the_leader"
  | .error (.rejected (.unknownToLeader _)) => "unknown_to_leader"
  | .error (.rejected .noLongerLeader) => "no_longer_leader"
  | .error (.internal _) => "error"

theorem pingOutcome_label : pingOutcome = label := by
  funext answer
  cases answer with
  | ok _ => rfl
  | error e =>
    cases e with
    | rejected rejection => cases rejection <;> rfl
    | internal message => rfl

def Move.isPing : Move → Bool
  | receive _ => true
  | _ => false

/-- The answers that pings were given, the oldest first. -/
def answered (w : Reception) : List (Except PingError Unit) := w.told.filterMap (·.2.answer?)

/-- How many pings wait for their check. -/
def waiting (w : Reception) : Nat := w.leader.queue.pending.countP (·.2.isPing)

variable {w : Reception}

theorem answered_series (told : List (Nat × Reply)) :
    told.filterMap (·.2.series) =
      (told.filterMap (·.2.answer?)).map (.pingsHandled ∘ pingOutcome) := by
  rw [List.map_filterMap]
  congr 1
  funext reply
  cases reply.2 <;> rfl

/-- Each of the answers given in a move is counted, and nothing else is. -/
theorem step_told (w : Reception) (m : Move) :
    ∃ new, (w.step m).told = w.told ++ new ∧
      (w.step m).leader.metrics = w.leader.metrics.countAll (new.filterMap (·.2.series)) := by
  cases m with
  | receive r =>
    have received := w.leader.receive_metrics r w.asked
    refine ⟨((w.leader.receive r w.asked).2.map fun a => (w.asked, Reply.ping a)).toList, rfl, ?_⟩
    change (w.leader.receive r w.asked).1.metrics = _
    rw [received]
    cases (w.leader.receive r w.asked).2 <;> rfl
  | submit task =>
    simp only [step, Leader.submit_eq]
    split
    · next h =>
      split at h
      · cases h
        exact ⟨[], (List.append_nil _).symm, rfl⟩
      · cases h
    · exact ⟨_, rfl, rfl⟩
  | work =>
    simp only [step]
    split
    · next worked =>
      refine ⟨_, rfl, (Leader.work_metrics worked).trans ?_⟩
      rw [List.filterMap_cons]
      split <;> next none => rw [none]; rfl
    · exact ⟨[], (List.append_nil _).symm, rfl⟩
  | stop => exact ⟨_, rfl, w.leader.stopWork_metrics⟩
  | look view => exact ⟨[], (List.append_nil _).symm, rfl⟩

theorem refused_pings (entries : List (StateTask × Asker Nat)) :
    ((entries.map refuse).filterMap (·.2.answer?)).length = entries.countP (·.2.isPing) := by
  induction entries with
  | nil => rfl
  | cons e entries ih =>
    obtain ⟨task, asker⟩ := e
    rw [List.map_cons, List.filterMap_cons, List.countP_cons, ← ih]
    cases asker <;> rfl

/-- A ping that arrives is answered or waits, and one that waits is answered or goes on waiting. -/
theorem step_waiting (w : Reception) (m : Move) :
    (w.step m).answered.length + (w.step m).waiting =
      w.answered.length + w.waiting + m.isPing.toNat := by
  have atOnce {r : PingRequest} {answer : Except PingError Unit} {w' : Reception}
      (queue : w'.leader.queue = w.leader.queue)
      (told : w'.told = w.told ++ [(w.asked, .ping answer)]) :
      w'.answered.length + w'.waiting =
        w.answered.length + w.waiting + (Move.receive r).isPing.toNat := by
    simp only [answered, waiting, queue, told, List.filterMap_append, List.length_append]
    exact Nat.add_right_comm _ 1 _
  cases m with
  | receive r =>
    by_cases decided : r.DecidedBy w.leader.clusterName w.leader.snapshot
    · obtain ⟨metrics, notices, now⟩ := step_receive_decided decided
      rw [now]
      exact atOnce rfl rfl
    · cases working : w.leader.queue.working with
      | true =>
        rw [step_receive_queued decided working]
        simp only [answered, waiting, List.countP_append]
        exact (Nat.add_assoc _ _ 1).symm
      | false =>
        obtain ⟨metrics, notices, now⟩ := step_receive_closed decided working
        rw [now]
        exact atOnce rfl rfl
  | submit task =>
    simp only [step, Leader.submit_eq]
    cases w.leader.queue.working with
    | true =>
      simp only [if_true, answered, waiting, List.countP_append]
      rfl
    | false =>
      simp only [Bool.false_eq_true, if_false, answered, waiting, List.filterMap_append,
        List.length_append]
      rfl
  | work =>
    cases queued : w.leader.queue.pending with
    | nil =>
      rw [step_work_idle queued]
      rfl
    | cons entry rest =>
      obtain ⟨task, asker⟩ := entry
      obtain ⟨metrics, notices, now⟩ := step_work queued
      rw [now]
      simp only [answered, waiting, queued, List.filterMap_append, List.length_append,
        List.countP_cons]
      cases asker with
      | task who => rfl
      | ping r who => exact Nat.add_right_comm _ 1 _
  | stop =>
    obtain ⟨metrics, notices, now⟩ := w.step_stop
    rw [now]
    simp only [answered, waiting, List.filterMap_append, List.length_append, refused_pings]
    rfl
  | look view => rfl

/-- After `pings` pings each of them was answered, and the answer counted, or it still waits. -/
structure Balanced (w : Reception) (pings : Nat) : Prop where
  counted : w.leader.metrics =
    ({} : Metrics).countAll (w.answered.map (.pingsHandled ∘ pingOutcome))
  complete : pings = w.answered.length + w.waiting

theorem start_balanced (ours : ClusterName) (s : ClusterState) : (start ours s).Balanced 0 :=
  ⟨rfl, rfl⟩

theorem Balanced.step {pings : Nat} (b : w.Balanced pings) (m : Move) :
    (w.step m).Balanced (pings + m.isPing.toNat) := by
  obtain ⟨new, told, metrics⟩ := w.step_told m
  constructor
  · rw [metrics, b.counted, answered, answered, told, List.filterMap_append, List.map_append,
      Metrics.countAll_append, answered_series]
  · rw [b.complete, w.step_waiting m]

theorem Balanced.run {pings : Nat} (b : w.Balanced pings) (moves : List Move) :
    (w.run moves).Balanced (pings + moves.countP Move.isPing) := by
  induction moves generalizing w pings with
  | nil => exact b
  | cons m moves ih =>
    have rest := ih (b.step m)
    have first : (m :: moves).countP Move.isPing = m.isPing.toNat + moves.countP Move.isPing := by
      rw [List.countP_cons, Nat.add_comm]
      cases m.isPing <;> rfl
    rw [first, ← Nat.add_assoc]
    exact rest

theorem Balanced.outcomes {pings : Nat} (b : w.Balanced pings) (outcome : String) :
    w.leader.metrics.get (.pingsHandled outcome) = (w.answered.map label).count outcome := by
  have injective : Function.Injective Series.pingsHandled := fun _ _ same =>
    Series.pingsHandled.inj same
  rw [b.counted, Metrics.get_countAll, pingOutcome_label, ← List.map_map,
    List.count_map_of_injective _ _ injective]
  exact Nat.zero_add _

theorem Balanced.handled {pings : Nat} (b : w.Balanced pings) :
    w.leader.metrics.total Series.isHandled = w.answered.length := by
  rw [b.counted, Metrics.total_countAll, List.countP_map]
  exact (Nat.zero_add _).trans (List.countP_eq_length.mpr fun _ _ => rfl)

end Reception

/-- In every run of a detector what it counts is what happened: the pings that were sent, the
failures of each kind that came to the live chain of a session, and the sessions that were lost,
whether or not the scheduler took the call of the listeners. A ping that was sent is under way, or
was acknowledged, or its failure was counted, or its answer was stale. And in every run of a
validator each ping that arrived waits or has been answered, and what is counted under an outcome
are the answers with that outcome. -/
theorem pings_accounted {κ : Type} (settings : FaultDetectionConfig) (clusterName : ClusterName)
    (moves : List (Bool × Move κ)) (ours : ClusterName) (s : ClusterState)
    (arrivals : List Reception.Move) :
    let start : Watch κ := .create settings clusterName
    let w := start.run moves
    let ends := start.receipts moves
    let v := (Reception.start ours s).run arrivals
    (w.metrics.get .pingsSent = w.sent ∧
      (∀ kind, w.metrics.get (.pingFailures kind) =
        (ends.filterMap Receipt.failure?).count kind) ∧
      w.metrics.get .leaderFailures = start.losses moves ∧
      w.notifications.length = start.losses moves ∧
      w.sent = w.inFlight + ends.countP Receipt.isAcknowledged +
        w.metrics.total Series.isFailure + ends.countP Receipt.isStale) ∧
    (∀ outcome, v.leader.metrics.get (.pingsHandled outcome) =
      (v.answered.map Reception.label).count outcome) ∧
    v.leader.metrics.total Series.isHandled = v.answered.length ∧
    arrivals.countP Reception.Move.isPing = v.answered.length + v.waiting := by
  intro start w ends v
  have watched : w.Balanced ends (start.losses moves) := by
    have all := (Watch.create_balanced settings clusterName).run
      (Watch.create_valid settings clusterName) moves
    rw [List.nil_append, Nat.zero_add] at all
    exact all
  have answering : v.Balanced (arrivals.countP Reception.Move.isPing) := by
    have all := (Reception.start_balanced ours s).run arrivals
    rw [Nat.zero_add] at all
    exact all
  have sorted := Receipt.sorted ends
  refine ⟨⟨watched.sent, watched.failures, watched.lost, watched.notified, ?_⟩,
    answering.outcomes, answering.handled, answering.complete⟩
  rw [watched.ended, watched.failed, sorted]
  omega

/-- Of the pings of two sessions two fail and one is acknowledged, one is rejected, which ends the
session, and one is answered when its session is over. And a validator gives each of its answers. -/
theorem answers_accounted :
    let a : Node := ⟨"a", "1", "http://a"⟩
    let b : Node := ⟨"b", "1", "http://b"⟩
    let answer (id : Nat) (result : Except TransportError Unit) : Bool × Move Unit :=
      (true, .proceed id b result)
    let moves := [(true, .restart a "elected"), answer 0 (.ok ()),
      answer 1 (.error (.timeout "a" ⟨0⟩)), answer 2 (.error (.remote "a" "busy")),
      answer 3 (.ok ()), answer 4 (.ok ()),
      answer 5 (.error (.rejected "a" .noLongerLeader)), (false, .restart a "again"),
      (true, .restart a "again"), answer 7 (.ok ()), (true, .stop "retired"),
      answer 8 (.error (.disconnected "a" "reset"))]
    let start : Watch Unit := .create {} "c"
    let w := start.run moves
    let led := (ClusterState.initial "c" a).withLeader (some "a")
    let ping (source leader : Node) : Reception.Move := .receive ⟨source, leader, none⟩
    let retire : StateTask := ⟨"retire", false, fun s => .ok (s.withLeader none)⟩
    let v := (Reception.start "c" led).run [ping a a, ping a b, ping b a, .work, .submit retire,
      .work, ping a a, .work, ping a a, .stop]
    (w.metrics.get .pingsSent = 5 ∧ w.metrics.get (.pingFailures "timeout") = 1 ∧
      w.metrics.get (.pingFailures "remote") = 1 ∧
      w.metrics.get (.pingFailures "no_longer_leader") = 1 ∧
      w.metrics.get (.pingFailures "disconnected") = 0 ∧ w.metrics.get .leaderFailures = 1 ∧
      (start.receipts moves).countP Receipt.isAcknowledged = 1 ∧
      (start.receipts moves).countP Receipt.isStale = 1) ∧
    ∀ outcome ∈ ["ack", "not_the_leader", "unknown_to_leader", "no_longer_leader", "error"],
      v.leader.metrics.get (.pingsHandled outcome) = 1 := by
  intro a b answer moves start w led ping retire v
  obtain ⟨⟨sent, failures, lost, _, _⟩, handled, _, _⟩ := pings_accounted {} "c" moves "c" led
    [ping a a, ping a b, ping b a, .work, .submit retire, .work, ping a a, .work, ping a a, .stop]
  refine ⟨⟨?_, ?_, ?_, ?_, ?_, ?_, by decide, by decide⟩, fun outcome known => ?_⟩
  · exact sent.trans (by decide)
  · exact (failures "timeout").trans (by decide)
  · exact (failures "remote").trans (by decide)
  · exact (failures "no_longer_leader").trans (by decide)
  · exact (failures "disconnected").trans (by decide)
  · exact lost.trans (by decide)
  · rw [handled]
    revert outcome
    decide

end Vigil

import Vigil.Proofs.Watch

/-!
What one event can make of a detector. A session stays as it is, goes on, starts or ends, and at
most one thing is asked of the scheduler or of the transport. `Detector.Outcome` lists the
possibilities; every event has one of them as long as the session is sound.
-/

namespace Vigil

namespace Detector

variable {κ : Type}

/-- What holds of a detector between any two events. -/
structure Sound (d : Detector κ) : Prop where
  /-- A session has a leader if and only if it has a chain. -/
  watches : d.session.leader.isSome = d.session.pinger.isSome
  created : ∀ p, d.session.pinger = some p → p < d.created
  /-- Of all chains only the one of the session pings. -/
  running : ∀ p < d.created, p ∈ d.running ↔ d.session.pinger = some p
  idle : d.session.leader = none → d.session.retryCount = 0
  unnotified : d.session.leader.isSome → d.session.notified = false
  /-- An attempt is left. -/
  budget : d.session.leader.isSome →
    d.session.retryCount.toNat < max 1 d.settings.pingRetries.toNat

theorem create_sound (settings : FaultDetectionConfig) (clusterName : ClusterName) :
    (create settings clusterName : Detector κ × List (Effect κ)).1.Sound := by
  constructor <;> simp [create]

/-- Who listens, and who is told of lost connections, is no matter of the session. -/
theorem Sound.listening {d : Detector κ} (s : d.Sound) (listeners : List (Nat × κ)) (added : Nat)
    (closed attached : Bool) : Sound { d with listeners, added, closed, attached } :=
  ⟨s.watches, s.created, s.running, s.idle, s.unnotified, s.budget⟩

/-- The end of a session takes its chain from those that ping. -/
theorem endSession_eq (d : Detector κ) :
    d.endSession =
      { d with
        session := { d.session with leader := none, retryCount := 0, pinger := none }
        running := d.running.filter fun p => d.session.pinger ≠ some p } := by
  unfold endSession
  cases d.session.pinger with
  | none =>
    have h : d.running.filter (fun p => none ≠ some p) = d.running :=
      List.filter_eq_self.mpr (by simp)
    rw [h]
  | some p =>
    have h : (fun q => q != p) = fun q => decide (some p ≠ some q) := by
      funext q
      grind
    simp only [stopPinger, h]

theorem isCurrent_iff (d : Detector κ) (p : PingerId) :
    d.isCurrent p = true ↔ p ∈ d.running ∧ d.session.pinger = some p := by
  simp [isCurrent]

theorem owns_iff (d : Detector κ) (p : PingerId) (leader : Node) :
    d.owns p leader = true ↔
      (p ∈ d.running ∧ d.session.pinger = some p) ∧ d.session.leader = some leader := by
  simp [owns, isCurrent]

/-- What an event can make of a detector, and what it can ask for; `run` is the chain whose run goes
on with the event, if it is not an event of another kind. -/
inductive Outcome (d : Detector κ) (run : Option PingerId) :
    Detector κ → List (Effect κ) → Prop where
  /-- The run of a chain that is not the session's goes no further. -/
  | ignored : (∀ p, run = some p → d.session.pinger ≠ some p) → Outcome d run d []
  | started (leader : Node) : run = none →
      Outcome d run (d.endSession.startSession leader).1
        [.schedule d.created d.settings.pingInterval]
  | ended (closed attached : Bool) (listeners : List (Nat × κ)) : run = none →
      listeners.Sublist d.listeners →
      Outcome d run { d.endSession with closed, attached, listeners } []
  | joined (listener : κ) : run = none → Outcome d run (d.addListener listener).1 []
  | left (id : Nat) : run = none → Outcome d run (d.removeListener id).1 []
  | failed (leader : Node) (cause : Option TransportError) (reason : String) :
      d.session.leader = some leader →
      Outcome d run { d with session := { d.session with notified := true } }.endSession
        [.dispatch d.listeners ⟨leader, cause, reason⟩]
  /-- The next run of the chain is put on a timer. -/
  | scheduled (p : PingerId) : run = some p → d.session.pinger = some p →
      Outcome d run { d with session := { d.session with retryCount := 0 } }
        [.schedule p d.settings.pingInterval]
  | pinged (p : PingerId) (request : PingRequest) (retryCount : UInt32) : run = some p →
      d.session.pinger = some p → d.session.leader = some request.leader →
      retryCount.toNat < max 1 d.settings.pingRetries.toNat →
      Outcome d run { d with session := { d.session with retryCount } } [.ping p request]
  /-- The run of a chain that accepted a loss may connect on behalf of a later one. -/
  | connecting (p : PingerId) (leader : Node) : (∀ q, run = some q → q < d.created) →
      d.session.pinger = some p → d.session.leader = some leader →
      Outcome d run d [.connect (some p) leader]
  /-- The session goes on with a new chain. -/
  | reconnected (p : PingerId) : d.session.pinger = some p →
      Outcome d run ((d.stopPinger p).startPinger ⟨0⟩).1 [.schedule d.created ⟨0⟩]

theorem Sound.current_iff {d : Detector κ} (s : d.Sound) (p : PingerId) :
    d.isCurrent p = true ↔ d.session.pinger = some p := by
  rw [isCurrent_iff]
  constructor
  · exact fun h => h.2
  · exact fun h => ⟨(s.running p (s.created p h)).mpr h, h⟩

theorem Sound.owns_iff {d : Detector κ} (s : d.Sound) (p : PingerId) (leader : Node) :
    d.owns p leader = true ↔ d.session.pinger = some p ∧ d.session.leader = some leader := by
  simp only [owns, Bool.and_eq_true, s.current_iff, beq_iff_eq]

theorem Sound.pinger_of_leader {d : Detector κ} (s : d.Sound) {leader : Node}
    (h : d.session.leader = some leader) : ∃ p, d.session.pinger = some p := by
  have hs := s.watches
  rw [h, Option.isSome_some] at hs
  exact Option.isSome_iff_exists.mp hs.symm

theorem Sound.leader_of_pinger {d : Detector κ} (s : d.Sound) {p : PingerId}
    (h : d.session.pinger = some p) : ∃ leader, d.session.leader = some leader := by
  have hs := s.watches
  rw [h, Option.isSome_some] at hs
  exact Option.isSome_iff_exists.mp hs

/-- The notification of a failure that no one notified before. -/
def failing (d : Detector κ) (leader : Node) (cause : Option TransportError) (reason : String) :
    Detector κ × List (Effect κ) :=
  ({ d with session := { d.session with notified := true } }.endSession, [
    .count .leaderFailures,
    .dispatch d.listeners ⟨leader, cause, reason⟩,
    .tell (.stopping leader ("leader failure, " ++ reason))])

theorem notifyFailure_unnotified (d : Detector κ) (h : d.session.notified = false) (leader : Node)
    (cause : Option TransportError) (reason : String) :
    d.notifyFailure leader cause reason = d.failing leader cause reason := by
  simp [notifyFailure, failing, h]

theorem Sound.notifyFailure_eq {d : Detector κ} (s : d.Sound) {leader : Node}
    (h : d.session.leader = some leader) (cause : Option TransportError) (reason : String) :
    d.notifyFailure leader cause reason = d.failing leader cause reason :=
  notifyFailure_unnotified d (s.unnotified (by simp [h])) leader cause reason

theorem requests_failing (d : Detector κ) (leader : Node) (cause : Option TransportError)
    (reason : String) :
    requests (d.failing leader cause reason).2 =
      [.dispatch d.listeners ⟨leader, cause, reason⟩] := by
  simp [failing, Effect.isRequest]

theorem failing_outcome {d : Detector κ} {leader : Node} (h : d.session.leader = some leader)
    (run : Option PingerId) (cause : Option TransportError) (reason : String) :
    Outcome d run (d.failing leader cause reason).1
      (requests (d.failing leader cause reason).2) := by
  rw [requests_failing]
  exact .failed leader cause reason h

/-- An attempt that was counted leaves no trace in the end of a session. -/
theorem Sound.notifyFailure_retryCount {d : Detector κ} (s : d.Sound) {leader : Node}
    (h : d.session.leader = some leader) (n : UInt32) (cause : Option TransportError)
    (reason : String) :
    notifyFailure { d with session := { d.session with retryCount := n } } leader cause reason =
      d.failing leader cause reason := by
  refine (notifyFailure_unnotified _ ?_ leader cause reason).trans ?_
  · exact s.unnotified (by simp [h])
  · simp only [failing, endSession_eq]

theorem restart_outcome (d : Detector κ) (leader : Node) (reason : String) :
    Outcome d none (d.restart leader reason).1 (requests (d.restart leader reason).2) := by
  unfold restart
  split
  · exact .ignored (by simp)
  · have asked : requests (d.endSession.startSession leader).2 =
        [.schedule d.created d.settings.pingInterval] := by
      simp [startSession, startPinger, endSession_eq, Effect.isRequest]
    exact asked ▸ .started leader rfl

theorem requests_stopNotice (d : Detector κ) (reason : String) :
    requests (d.stopNotice reason) = [] := by
  unfold stopNotice
  split <;> simp [Effect.isRequest]

theorem endSession_outcome (d : Detector κ) : Outcome d none d.endSession [] := by
  have h : Outcome d none { d.endSession with
      closed := d.closed, attached := d.attached, listeners := d.listeners } [] :=
    .ended d.closed d.attached d.listeners rfl (.refl _)
  rwa [endSession_eq] at h ⊢

theorem stop_outcome (d : Detector κ) (reason : String) :
    Outcome d none (d.stop reason).1 (requests (d.stop reason).2) := by
  rw [stop, requests_stopNotice]
  exact d.endSession_outcome

theorem shutdown_outcome (d : Detector κ) :
    Outcome d none d.shutdown.1 (requests d.shutdown.2) := by
  rw [shutdown, requests_stopNotice]
  exact .ended true false [] rfl (List.nil_sublist _)

theorem disconnected_other (d : Detector κ) {node : Node} (other : d.session.leader ≠ some node) :
    d.disconnected node = (d, []) := by
  rw [disconnected, if_pos other]

/-- A lost connection is handled by whoever is told of it, or by the run of a chain. -/
theorem disconnected_outcome {d : Detector κ} (s : d.Sound) (run : Option PingerId) (node : Node)
    (known : ∀ p, run = some p →
      p < d.created ∧ (d.session.pinger = some p → d.session.leader = some node)) :
    Outcome d run (d.disconnected node).1 (requests (d.disconnected node).2) := by
  by_cases watched : d.session.leader = some node
  case neg =>
    rw [d.disconnected_other watched]
    exact .ignored fun p hp live => watched ((known p hp).2 live)
  obtain ⟨p, hp⟩ := s.pinger_of_leader watched
  unfold disconnected
  rw [if_neg (not_not_intro watched)]
  split
  · rw [hp]
    exact .connecting p node (fun q hq => (known q hq).1) hp watched
  · rw [s.notifyFailure_eq watched]
    exact failing_outcome watched run none _

theorem beginRound_stale (d : Detector κ) {p : PingerId} (stale : d.session.pinger ≠ some p)
    (source : Node) : d.beginRound p source = (d, []) := by
  have other : d.isCurrent p = false := by
    rw [← Bool.not_eq_true, isCurrent_iff]
    exact fun h => stale h.2
  rw [beginRound, other]
  rfl

theorem beginRound_outcome {d : Detector κ} (s : d.Sound) (p : PingerId) (source : Node) :
    Outcome d (some p) (d.beginRound p source).1 (requests (d.beginRound p source).2) := by
  by_cases live : d.session.pinger = some p
  · obtain ⟨leader, watched⟩ := s.leader_of_pinger live
    have current : d.isCurrent p = true := (s.current_iff p).mpr live
    simp only [beginRound, current, Bool.not_true, Bool.false_eq_true, if_false, watched]
    exact .pinged p ⟨source, leader, some d.clusterName⟩ d.session.retryCount rfl live watched
      (s.budget (by simp [watched]))
  · rw [d.beginRound_stale live]
    exact .ignored fun q hq => Option.some.inj hq ▸ live

theorem connected_stale (d : Detector κ) {before : Option PingerId} {node : Node}
    (stale : d.session.leader ≠ some node ∨ d.session.pinger ≠ before)
    (result : Except TransportError Unit) : d.connected before node result = (d, []) := by
  unfold connected
  rw [if_pos stale]

/-- A new connection counts if the chain is still live that was live when it was begun. -/
theorem connected_outcome {d : Detector κ} (s : d.Sound) (run before : Option PingerId)
    (node : Node) (result : Except TransportError Unit)
    (live : ∀ p, run = some p → d.session.pinger = some p →
      before = some p ∧ d.session.leader = some node) :
    Outcome d run (d.connected before node result).1
      (requests (d.connected before node result).2) := by
  by_cases stale : d.session.leader ≠ some node ∨ d.session.pinger ≠ before
  · rw [d.connected_stale stale]
    refine .ignored fun p hp current => ?_
    obtain ⟨hb, watched⟩ := live p hp current
    exact stale.elim (fun h => h watched) fun h => h (current.trans hb.symm)
  unfold connected
  rw [if_neg stale]
  rw [not_or, ne_eq, ne_eq, Decidable.not_not, Decidable.not_not] at stale
  obtain ⟨watched, hb⟩ := stale
  obtain ⟨p, hp⟩ := s.pinger_of_leader watched
  cases result with
  | ok _ =>
    rw [← hb, hp]
    exact .reconnected p hp
  | error e =>
    dsimp only
    rw [s.notifyFailure_eq watched]
    exact failing_outcome watched run (some e) _

theorem Sound.attemptFailed_last {d : Detector κ} (s : d.Sound) (p : PingerId)
    (request : PingRequest) (e : TransportError) (watched : d.session.leader = some request.leader)
    (last : ¬ d.session.retryCount + 1 < d.settings.pingRetries) :
    let failing := d.failing request.leader (some e) (usedUpReason d.settings)
    d.attemptFailed p request e =
      (failing.1,
        .tell (.pingFailed request.leader (d.session.retryCount + 1) d.settings.pingRetries e) ::
        .tell (.attemptsUsedUp request.leader d.settings.pingRetries d.settings.pingTimeout) ::
        failing.2) := by
  have same : (d.failing request.leader (some e) (usedUpReason d.settings)).1.settings =
      d.settings := by
    simp only [failing, endSession_eq]
  unfold attemptFailed
  dsimp only
  rw [if_neg last, s.notifyFailure_retryCount watched, same]

theorem attemptFailed_outcome {d : Detector κ} (s : d.Sound) (p : PingerId) (request : PingRequest)
    (e : TransportError) (current : d.session.pinger = some p)
    (watched : d.session.leader = some request.leader) :
    Outcome d (some p) (d.attemptFailed p request e).1
      (requests (d.attemptFailed p request e).2) := by
  by_cases left : d.session.retryCount + 1 < d.settings.pingRetries
  · simp only [attemptFailed, left, if_true]
    refine .pinged p request (d.session.retryCount + 1) rfl current watched ?_
    rw [UInt32.lt_iff_toNat_lt] at left
    omega
  · rw [s.attemptFailed_last p request e watched left]
    exact failing_outcome watched (some p) (some e) _

theorem pinged_stale (d : Detector κ) {p : PingerId} (stale : d.session.pinger ≠ some p)
    (request : PingRequest) (result : Except TransportError Unit) :
    d.pinged p request result = (d, []) := by
  have other : d.owns p request.leader = false := by
    rw [← Bool.not_eq_true, owns_iff]
    exact fun h => stale h.1.2
  unfold pinged
  split
  · rfl
  · cases result <;> simp [other, pingFailed]

/-- The answer to a ping counts if the chain that sent it is still live. -/
theorem pinged_outcome {d : Detector κ} (s : d.Sound) (p : PingerId) (request : PingRequest)
    (result : Except TransportError Unit)
    (live : d.session.pinger = some p → d.session.leader = some request.leader) :
    Outcome d (some p) (d.pinged p request result).1 (requests (d.pinged p request result).2) := by
  by_cases current : d.session.pinger = some p
  · have watched := live current
    have runs : p ∈ d.running := (s.running p (s.created p current)).mpr current
    have owns : d.owns p request.leader = true := (s.owns_iff p _).mpr ⟨current, watched⟩
    simp only [pinged, runs, not_true_eq_false, if_false]
    cases result with
    | ok _ =>
      rw [if_pos owns]
      exact .scheduled p rfl current
    | error e =>
      simp only [pingFailed, owns, Bool.not_true, Bool.false_eq_true, if_false]
      cases e with
      | disconnected n m =>
        exact disconnected_outcome s (some p) request.leader fun q hq =>
          Option.some.inj hq ▸ ⟨s.created p current, live⟩
      | rejected n rejection =>
        dsimp only
        rw [s.notifyFailure_eq watched]
        exact failing_outcome watched (some p) _ _
      | timeout n limit => exact attemptFailed_outcome s p request _ current watched
      | remote n m => exact attemptFailed_outcome s p request _ current watched
  · rw [d.pinged_stale current]
    exact .ignored fun q hq => Option.some.inj hq ▸ current

theorem Sound.endSession_running {d : Detector κ} (s : d.Sound) :
    ∀ p < d.endSession.created, p ∉ d.endSession.running := by
  rw [endSession_eq]
  intro p hp
  simp only [List.mem_filter, decide_eq_true_eq, not_and, s.running p hp]
  exact fun h other => other h

theorem endSession_sound {d : Detector κ} (s : d.Sound) : d.endSession.Sound := by
  rw [endSession_eq]
  constructor
  case running =>
    have none := s.endSession_running
    rw [endSession_eq] at none
    exact fun p hp => by simp only [none p hp, reduceCtorEq]
  all_goals simp

/-- Only a chain that no session has is dropped, and a new chain is the only one of the session. -/
theorem startPinger_sound (d : Detector κ) (created : ∀ p < d.created, p ∉ d.running)
    (watched : d.session.leader.isSome) (unnotified : d.session.notified = false)
    (delay : Duration) : (d.startPinger delay).1.Sound := by
  constructor
  case running =>
    intro p hp
    simp only [startPinger] at hp ⊢
    simp only [List.mem_cons, Option.some.injEq]
    constructor
    · rintro (rfl | h)
      · rfl
      · rcases Nat.lt_succ_iff_lt_or_eq.mp hp with hlt | heq
        · exact absurd h (created p hlt)
        · exact heq.symm
    · exact fun h => .inl h.symm
  case idle =>
    intro h
    simp only [startPinger] at h
    simp [h] at watched
  case budget =>
    intro _
    exact Nat.lt_of_lt_of_le Nat.one_pos (Nat.le_max_left 1 _)
  all_goals simp [startPinger, watched, unnotified]

theorem Outcome.sound {d d' : Detector κ} {run : Option PingerId} {asked : List (Effect κ)}
    (h : Outcome d run d' asked) (s : d.Sound) : d'.Sound := by
  cases h with
  | ignored _ => exact s
  | started leader _ =>
    refine startPinger_sound _ ?_ rfl rfl _
    exact s.endSession_running
  | ended closed attached listeners _ _ =>
    exact (endSession_sound s).listening listeners _ closed attached
  | joined listener _ => exact s.listening _ _ _ _
  | left id _ => exact s.listening _ _ _ _
  | failed leader cause reason watched =>
    have e := endSession_sound s
    rw [endSession_eq] at e ⊢
    exact ⟨e.watches, e.created, e.running, e.idle, by simp, e.budget⟩
  | scheduled p _ current =>
    refine ⟨s.watches, s.created, s.running, fun _ => rfl, s.unnotified, fun _ => ?_⟩
    exact Nat.lt_of_lt_of_le Nat.one_pos (Nat.le_max_left 1 _)
  | pinged p request n _ current watched left =>
    exact ⟨s.watches, s.created, s.running, by simp [watched], s.unnotified, fun _ => left⟩
  | connecting p leader _ _ _ => exact s
  | reconnected p current =>
    obtain ⟨leader, watched⟩ := s.leader_of_pinger current
    refine startPinger_sound (d.stopPinger p) ?_ (by simp [stopPinger, watched])
      (s.unnotified (by simp [watched])) _
    intro q hq
    simp only [stopPinger, List.mem_filter, bne_iff_ne, not_and, s.running q hq]
    exact fun h other => other (Option.some.inj (h.symm.trans current))

theorem Outcome.settings {d d' : Detector κ} {run : Option PingerId} {asked : List (Effect κ)}
    (h : Outcome d run d' asked) : d'.settings = d.settings := by
  cases h <;>
    simp [endSession_eq, startSession, startPinger, stopPinger, addListener, removeListener]

theorem Outcome.created_le {d d' : Detector κ} {run : Option PingerId} {asked : List (Effect κ)}
    (h : Outcome d run d' asked) : d.created ≤ d'.created := by
  cases h <;>
    simp [endSession_eq, startSession, startPinger, stopPinger, addListener, removeListener]

/-- Only the live chain pings, and it pings the leader of the session. -/
theorem Outcome.ping_live {d d' : Detector κ} {run : Option PingerId} {asked : List (Effect κ)}
    (h : Outcome d run d' asked) {p : PingerId} {request : PingRequest}
    (ping : .ping p request ∈ asked) :
    d.session.pinger = some p ∧ d.session.leader = some request.leader := by
  cases h <;>
    simp only [List.mem_singleton, List.not_mem_nil, reduceCtorEq, Effect.ping.injEq] at ping
  next q request' n _ current watched _ =>
  obtain ⟨rfl, rfl⟩ := ping
  exact ⟨current, watched⟩

/-- A chain that was there before and is live now was live before, for the same leader. -/
theorem Outcome.keeps {d d' : Detector κ} {run : Option PingerId} {asked : List (Effect κ)}
    (h : Outcome d run d' asked) {p : PingerId} (old : p < d.created)
    (live : d'.session.pinger = some p) :
    d.session.pinger = some p ∧ d'.session.leader = d.session.leader := by
  cases h with
  | ignored _ => exact ⟨live, rfl⟩
  | started leader _ =>
    -- A new chain has a number that no chain had before.
    have new : d.created = p := by
      simpa [startSession, startPinger, endSession_eq] using live
    exact absurd new (Nat.ne_of_gt old)
  | ended closed attached listeners _ _ => simp [endSession_eq] at live
  | joined listener _ => exact ⟨live, rfl⟩
  | left id _ => exact ⟨live, rfl⟩
  | failed leader cause reason _ => simp [endSession_eq] at live
  | scheduled q _ _ => exact ⟨live, rfl⟩
  | pinged q request n _ _ _ _ => exact ⟨live, rfl⟩
  | connecting q leader _ _ _ => exact ⟨live, rfl⟩
  | reconnected q _ =>
    have new : d.created = p := by
      simpa [startPinger, stopPinger] using live
    exact absurd new (Nat.ne_of_gt old)

end Detector

/-- Work suits a detector if it is that of a chain which was started, and if what the live chain is
doing is meant for the leader of the session. -/
def Activity.Fits {κ : Type} (d : Detector κ) : Activity κ → Prop
  | .scheduled p _ => p < d.created
  | .pinging p request _ =>
    p < d.created ∧ (d.session.pinger = some p → d.session.leader = some request.leader)
  | .connecting run before leader =>
    (∃ p < d.created, before = some p ∧
      (d.session.pinger = some p → d.session.leader = some leader)) ∧
    -- The chain whose run this is may be an earlier one, but not a later one.
    ∀ q, run = some q → q < d.created ∧ (d.session.pinger = some q → before = some q)
  | .lost run node =>
    ∀ p, run = some p →
      p < d.created ∧ (d.session.pinger = some p → d.session.leader = some node)
  | .calling .. => True

theorem Activity.Fits.started {κ : Type} {d : Detector κ} {a : Activity κ} (fits : a.Fits d)
    {p : PingerId} (h : a.run = some p) : p < d.created := by
  cases a with
  | scheduled q delay => exact Option.some.inj h ▸ fits
  | pinging q request sent => exact Option.some.inj h ▸ fits.1
  | connecting run before leader => exact (fits.2 p h).1
  | lost run node => exact (fits p h).1
  | calling session rest failure => cases h

namespace Detector

variable {κ : Type}

theorem Outcome.fits {d d' : Detector κ} {run : Option PingerId} {asked : List (Effect κ)}
    (h : Outcome d run d' asked) {a : Activity κ} (fits : a.Fits d) : a.Fits d' := by
  have bound := h.created_le
  cases a with
  | scheduled p delay => exact Nat.lt_of_lt_of_le fits bound
  | pinging p request sent =>
    obtain ⟨old, watched⟩ := fits
    refine ⟨Nat.lt_of_lt_of_le old bound, fun live => ?_⟩
    obtain ⟨before, same⟩ := h.keeps old live
    exact same.trans (watched before)
  | connecting run' before leader =>
    obtain ⟨⟨p, old, hb, watched⟩, known⟩ := fits
    refine ⟨⟨p, Nat.lt_of_lt_of_le old bound, hb, fun live => ?_⟩, fun q hq => ?_⟩
    · obtain ⟨before, same⟩ := h.keeps old live
      exact same.trans (watched before)
    · obtain ⟨old, own⟩ := known q hq
      exact ⟨Nat.lt_of_lt_of_le old bound, fun live => own (h.keeps old live).1⟩
  | lost run' node =>
    intro p hp
    obtain ⟨old, watched⟩ := fits p hp
    refine ⟨Nat.lt_of_lt_of_le old bound, fun live => ?_⟩
    obtain ⟨before, same⟩ := h.keeps old live
    exact same.trans (watched before)
  | calling session rest failure => trivial

/-- Whatever goes on, it has one of the outcomes. -/
theorem goOn_outcome {d : Detector κ} (s : d.Sound) {a : Activity κ} (fits : a.Fits d)
    (source : Node) (result : Except TransportError Unit) :
    Outcome d a.run (d.goOn source result a).1 (requests (d.goOn source result a).2) := by
  cases a with
  | scheduled p delay => exact beginRound_outcome s p source
  | pinging p request sent => exact pinged_outcome s p request result fits.2
  | connecting run before leader =>
    obtain ⟨⟨p, _, rfl, watched⟩, known⟩ := fits
    refine connected_outcome s run (some p) leader result fun q hq live => ?_
    have own := (known q hq).2 live
    exact ⟨own, watched (live.trans own.symm)⟩
  | lost run node => exact disconnected_outcome s run node fits
  | calling session rest failure => exact .ignored (by simp [Activity.run])

theorem notifyFailure_leader (d : Detector κ) (leader : Node) (cause : Option TransportError)
    (reason : String) (node : Node)
    (h : (d.notifyFailure leader cause reason).1.session.leader = some node) :
    d.session.leader = some node := by
  unfold notifyFailure at h
  split at h
  · exact h
  · simp [endSession_eq] at h

theorem disconnected_leader (d : Detector κ) (lost node : Node)
    (h : (d.disconnected lost).1.session.leader = some node) : d.session.leader = some node := by
  unfold disconnected at h
  split at h
  · exact h
  · split at h
    · exact h
    · exact d.notifyFailure_leader lost none _ node h

theorem pingFailed_leader (d : Detector κ) (p : PingerId) (request : PingRequest)
    (e : TransportError) (node : Node)
    (h : (d.pingFailed p request e).1.session.leader = some node) :
    d.session.leader = some node := by
  have counted (h : (d.attemptFailed p request e).1.session.leader = some node) :
      d.session.leader = some node := by
    unfold attemptFailed at h
    dsimp only at h
    split at h
    · exact h
    · have watched := notifyFailure_leader _ _ _ _ node h
      exact watched
  unfold pingFailed at h
  dsimp only at h
  split at h
  · exact h
  · cases e with
    | disconnected n m => exact d.disconnected_leader request.leader node h
    | rejected n rejection => exact d.notifyFailure_leader request.leader _ _ node h
    | timeout n limit => exact counted h
    | remote n m => exact counted h

/-- What goes on may end a session, but starts none. -/
theorem goOn_leader (d : Detector κ) (source : Node) (result : Except TransportError Unit)
    (a : Activity κ) (node : Node)
    (h : (d.goOn source result a).1.session.leader = some node) : d.session.leader = some node := by
  cases a with
  | scheduled p delay =>
    simp only [goOn, beginRound] at h
    split at h
    · exact h
    · split at h <;> exact h
  | pinging p request sent =>
    simp only [goOn, pinged] at h
    split at h
    · exact h
    · cases result with
      | ok _ =>
        dsimp only at h
        split at h <;> exact h
      | error e => exact d.pingFailed_leader p request e node h
  | connecting run before leader =>
    simp only [goOn, connected] at h
    split at h
    · exact h
    · cases result with
      | ok _ => cases before <;> exact h
      | error e => exact d.notifyFailure_leader leader _ _ node h
  | lost run lost => exact d.disconnected_leader lost node h
  | calling session rest failure => exact h

end Detector

end Vigil

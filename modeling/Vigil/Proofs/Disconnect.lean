import Vigil.Proofs.Notification
import Vigil.Proofs.Stale

/-!
What work that was begun before a session can do to it. Pings and new connections are known by their
chain, which no later session has. A loss is known by its node only, whether it was reported or
found by a ping, so it counts against whatever session watches that node once the loss is handled.
-/

namespace Vigil

namespace Watch

variable {κ : Type}

theorem update_sessions (w : Watch κ) (cause : Option (Activity κ)) (takes : Bool)
    (r : Detector κ × List (Effect κ)) : (w.update cause takes r).sessions = w.sessions := by
  refine update_preserves (P := (·.sessions = w.sessions)) cause takes r rfl fun v e _ h => ?_
  cases e <;> cases takes <;> exact h

theorem spawn_activities (w : Watch κ) (a : Activity κ) :
    ∀ x ∈ (w.spawn a).activities, x ∈ w.activities ∨ w.begun ≤ x.1 := by
  intro x hx
  rcases List.mem_append.mp hx with old | new
  · exact .inl old
  · exact .inr (Nat.le_of_eq (congrArg Prod.fst (List.mem_singleton.mp new)).symm)

theorem submit_activities (w : Watch κ) (takes : Bool) (a : Activity κ) :
    ∀ x ∈ (w.submit takes a).activities, x ∈ w.activities ∨ w.begun ≤ x.1 := by
  cases takes with
  | true => exact w.spawn_activities a
  | false => exact fun x hx => .inl hx

theorem perform_activities (cause : Option (Activity κ)) (takes : Bool) (w : Watch κ)
    (e : Effect κ) :
    ∀ x ∈ (perform cause takes w e).activities, x ∈ w.activities ∨ w.begun ≤ x.1 := by
  cases e with
  | tell notice => exact fun x hx => .inl hx
  | count series => exact fun x hx => .inl hx
  | schedule p delay => exact (w.note _).submit_activities takes _
  | dispatch listeners failure => exact ((w.note _).raise failure takes).submit_activities takes _
  | ping p request => exact (w.note _).spawn_activities _
  | connect before leader => exact (w.note _).spawn_activities _

theorem update_activities (w : Watch κ) (cause : Option (Activity κ)) (takes : Bool)
    (r : Detector κ × List (Effect κ)) :
    ∀ x ∈ (w.update cause takes r).activities, x ∈ w.activities ∨ w.begun ≤ x.1 := by
  let P (v : Watch κ) : Prop :=
    w.begun ≤ v.begun ∧ ∀ x ∈ v.activities, x ∈ w.activities ∨ w.begun ≤ x.1
  have all : P (w.update cause takes r) := by
    refine update_preserves cause takes r ⟨Nat.le_refl _, fun x hx => .inl hx⟩ ?_
    intro v e _ ⟨older, known⟩
    refine ⟨Nat.le_trans older (begun_le_perform cause takes v e), fun x hx => ?_⟩
    rcases perform_activities cause takes v e x hx with there | new
    · exact known x there
    · exact .inr (Nat.le_trans older new)
  exact all.2

theorem Valid.step_activities {w : Watch κ} (v : w.Valid) (takes : Bool) (m : Move κ) :
    ∀ x ∈ (w.step takes m).activities, x ∈ w.activities ∨ w.begun ≤ x.1 := by
  have h := step_cases v.sound takes m
  generalize w.step takes m = w' at h ⊢
  cases h with
  | idle => exact fun x hx => .inl hx
  | entered leader reason =>
    have same : (w.enter leader).activities = w.activities := by
      unfold Watch.enter
      split <;> rfl
    have entered := (w.enter leader).update_activities none takes (w.detector.restart leader reason)
    rwa [same, enter_begun] at entered
  | told r _ _ => exact w.update_activities none takes r
  | reported node => exact w.submit_activities takes _
  | went id source result a here =>
    intro x hx
    -- Calls that are left after the first one of a failure count as new work.
    let u := (w.without id).update (some a) takes (w.detector.goOn source result a)
    have delivered : x ∈ u.activities ∨ u.begun ≤ x.1 := by
      cases a with
      | calling session rest failure =>
        cases rest with
        | nil => exact .inl hx
        | cons listener rest => exact spawn_activities _ _ x hx
      | _ => exact .inl hx
    rcases delivered with old | new
    · rcases (w.without id).update_activities _ takes _ x old with old | new
      · exact .inl (List.mem_filter.mp old).1
      · exact .inr new
    · exact .inr (Nat.le_trans ((w.without id).begun_le_update _ takes _) new)
  | accepted id p request sent e _ _ =>
    intro x hx
    rcases List.mem_append.mp hx with old | new
    · exact .inl (List.mem_filter.mp old).1
    · exact .inr (Nat.le_of_eq (congrArg Prod.fst (List.mem_singleton.mp new)).symm)

theorem Valid.run_activities {w : Watch κ} (v : w.Valid) (moves : List (Bool × Move κ)) :
    ∀ x ∈ (w.run moves).activities, x ∈ w.activities ∨ w.begun ≤ x.1 := by
  induction moves generalizing w with
  | nil => exact fun x hx => .inl hx
  | cons m moves ih =>
    intro x hx
    rcases ih (v.step m.1 m.2) x hx with old | new
    · exact v.step_activities m.1 m.2 x old
    · exact .inr (Nat.le_trans (w.begun_le_step m.1 m.2) new)

theorem perform_kept (cause : Option (Activity κ)) (takes : Bool) (w : Watch κ) (e : Effect κ) :
    w.activities ⊆ (perform cause takes w e).activities := by
  have spawned (v : Watch κ) (a : Activity κ) : v.activities ⊆ (v.spawn a).activities :=
    List.subset_append_left ..
  have submitted (v : Watch κ) (a : Activity κ) : v.activities ⊆ (v.submit takes a).activities := by
    cases takes with
    | true => exact spawned v a
    | false => exact List.Subset.refl _
  cases e with
  | tell notice => exact List.Subset.refl _
  | count series => exact List.Subset.refl _
  | schedule p delay => exact submitted (w.note _) _
  | dispatch listeners failure => exact submitted ((w.note _).raise failure takes) _
  | ping p request => exact spawned (w.note _) _
  | connect before leader => exact spawned (w.note _) _

theorem update_kept (w : Watch κ) (cause : Option (Activity κ)) (takes : Bool)
    (r : Detector κ × List (Effect κ)) : w.activities ⊆ (w.update cause takes r).activities := by
  refine update_preserves (P := (w.activities ⊆ ·.activities)) cause takes r (.refl _) ?_
  exact fun v e _ kept => List.Subset.trans kept (perform_kept cause takes v e)

theorem deliver_kept (w : Watch κ) (a : Activity κ) :
    w.activities ⊆ (w.deliver a).activities := by
  unfold deliver
  split
  · exact List.subset_append_left ..
  · exact List.Subset.refl _

theorem without_kept {w : Watch κ} {x : Nat × Activity κ} (there : x ∈ w.activities) {id : Nat}
    (other : id ≠ x.1) : x ∈ (w.without id).activities :=
  List.mem_filter.mpr ⟨there, bne_iff_ne.mpr other.symm⟩

/-- What is under way stays so until it goes on. -/
theorem step_kept {w : Watch κ} {x : Nat × Activity κ} (there : x ∈ w.activities) (takes : Bool)
    {m : Move κ} (other : m.lets ≠ some x.1) : x ∈ (w.step takes m).activities := by
  have goes (id : Nat) (source : Node) (result : Except TransportError Unit) (other : id ≠ x.1) :
      x ∈ (w.step takes (.proceed id source result)).activities := by
    simp only [step]
    split
    · exact deliver_kept _ _ (update_kept _ _ takes _ (without_kept there other))
    · exact there
  cases m with
  | restart leader reason =>
    have entered : (w.enter leader).activities = w.activities := by
      unfold enter
      split <;> rfl
    exact update_kept _ none takes _ (entered ▸ there)
  | stop reason => exact w.update_kept none takes _ there
  | shutdown => exact w.update_kept none takes _ there
  | drop => exact there
  | addListener listener => exact there
  | removeListener id => exact there
  | lose node =>
    cases takes with
    | true => exact List.mem_append_left _ there
    | false => exact there
  | handle node => exact w.update_kept none takes _ there
  | proceed id source result => exact goes id source result fun same => other (congrArg some same)
  | accept id source node message =>
    have ne : id ≠ x.1 := fun same => other (congrArg some same)
    refine accept_cases (P := (x ∈ ·.activities)) takes id source node message
      (goes id source _ ne) fun _ _ _ _ _ => ?_
    exact List.mem_append_left _ (without_kept there ne)

theorem run_kept {w : Watch κ} {x : Nat × Activity κ} (there : x ∈ w.activities)
    {moves : List (Bool × Move κ)} (others : ∀ m ∈ moves, m.2.lets ≠ some x.1) :
    x ∈ (w.run moves).activities := by
  induction moves generalizing w with
  | nil => exact there
  | cons m moves ih =>
    exact ih (step_kept there m.1 (others m List.mem_cons_self)) fun n hn =>
      others n (List.mem_cons_of_mem _ hn)

theorem Valid.step_live {w : Watch κ} (v : w.Valid) (takes : Bool) (m : Move κ) {p : PingerId}
    (old : p < w.detector.created) (live : (w.step takes m).detector.session.pinger = some p) :
    w.detector.session.pinger = some p ∧ (w.step takes m).sessions = w.sessions := by
  obtain ⟨run, effects, outcome, _⟩ := step_outcome v takes m
  refine ⟨(outcome.keeps old live).1, ?_⟩
  have h := step_cases v.sound takes m
  generalize w.step takes m = w' at h live ⊢
  cases h with
  | idle => rfl
  | entered leader reason =>
    rw [update_sessions, Watch.enter]
    split
    · rfl
    · next closed =>
      -- A session that starts has a chain of its own, newer than `p`.
      have new : (w.detector.restart leader reason).1.session.pinger = some w.detector.created := by
        simp [Detector.restart, closed, Detector.startSession, Detector.startPinger,
          Detector.endSession_eq]
      rw [update_detector, new, Option.some.injEq] at live
      exact absurd live (Nat.ne_of_gt old)
  | told r _ _ => exact w.update_sessions none takes r
  | reported node => cases takes <;> rfl
  | went id source result a here =>
    have delivered (u : Watch κ) : (u.deliver a).sessions = u.sessions := by
      unfold Watch.deliver
      split <;> rfl
    rw [Watch.proceed, delivered, update_sessions]
    rfl
  | accepted id p request sent e _ _ => rfl

theorem Valid.created_le_step {w : Watch κ} (v : w.Valid) (takes : Bool) (m : Move κ) :
    w.detector.created ≤ (w.step takes m).detector.created := by
  obtain ⟨_, _, outcome, _⟩ := step_outcome v takes m
  exact outcome.created_le

theorem Valid.run_live {w : Watch κ} (v : w.Valid) (moves : List (Bool × Move κ)) {p : PingerId}
    (old : p < w.detector.created) (live : (w.run moves).detector.session.pinger = some p) :
    w.detector.session.pinger = some p ∧ (w.run moves).sessions = w.sessions := by
  induction moves generalizing w with
  | nil => exact ⟨live, rfl⟩
  | cons m moves ih =>
    have older := Nat.lt_of_lt_of_le old (v.created_le_step m.1 m.2)
    obtain ⟨before, same⟩ := ih (v.step m.1 m.2) older live
    obtain ⟨first, same'⟩ := v.step_live m.1 m.2 old before
    exact ⟨first, same.trans same'⟩

theorem Valid.stale_of_earlier {w : Watch κ} (v : w.Valid) (between : List (Bool × Move κ))
    (started : w.sessions.length < (w.run between).sessions.length) {a : Activity κ}
    (fits : a.Fits w.detector) (quiet : a.callsFor = none)
    (unlost : ∀ run node, a ≠ .lost run node) :
    a.Stale (w.run between).detector := by
  -- A chain from before would still be live only if no session had started since.
  have other {p : PingerId} (old : p < w.detector.created) :
      (w.run between).detector.session.pinger ≠ some p := by
    intro live
    rw [(v.run_live between old live).2] at started
    exact Nat.lt_irrefl _ started
  cases a with
  | scheduled p delay => exact other fits
  | pinging p request sent => exact other fits.1
  | connecting run before leader =>
    obtain ⟨⟨p, old, rfl, _⟩, _⟩ := fits
    exact .inr (other old)
  | lost run node => exact absurd rfl (unlost run node)
  | calling session rest failure => cases quiet

theorem step_lost {w : Watch κ} {id : Nat} {run : Option PingerId} {node : Node}
    (here : w.activities.lookup id = some (.lost run node)) (takes : Bool) (source : Node)
    (result : Except TransportError Unit) :
    w.step takes (.proceed id source result) =
      (w.without id).update (some (.lost run node)) takes (w.detector.disconnected node) :=
  step_proceed here takes source result

/-- A loss that is accepted and handled before others come in comes to what it does when the ping
that found it goes on. -/
theorem Valid.accept_handled {w : Watch κ} (v : w.Valid) {id : Nat} {p : PingerId}
    {request : PingRequest} {sent : Nat}
    (here : w.activities.lookup id = some (.pinging p request sent))
    (owns : w.detector.owns p request.leader = true) (takes : Bool) (source : Node)
    (node message : String) (result : Except TransportError Unit) :
    let once := w.step takes (.proceed id source (.error (.disconnected node message)))
    let twice := (w.step takes (.accept id source node message)).step takes
      (.proceed w.begun source result)
    twice.detector = once.detector ∧ twice.asked = once.asked ∧ twice.metrics = once.metrics ∧
      twice.notifications = once.notifications ∧
      twice.activities.map (·.2) = once.activities.map (·.2) := by
  intro once twice
  obtain ⟨live, watched⟩ := (v.sound.owns_iff p _).mp owns
  have runs : p ∈ w.detector.running := (Detector.owned_running owns).1
  let lost := w.detector.disconnected request.leader
  let e : TransportError := .disconnected node message
  let counted := (w.without id).update none true (w.detector, [.count (.pingFailures e.kind)])
  have first : w.step takes (.accept id source node message) =
      counted.spawn (.lost (some p) request.leader) := by
    simp only [Watch.step, here, if_pos owns]
    rfl
  have valid : counted.Valid := (v.without id).update none true _ (.ignored (by simp))
  have atOnce : once = (w.without id).update (some (.pinging p request sent)) takes
      (lost.1, .count (.pingFailures e.kind) :: lost.2) := by
    have failed : w.detector.pinged p request (.error e) =
        (lost.1, .count (.pingFailures e.kind) :: lost.2) := by
      simp only [Detector.pinged, runs, not_true_eq_false, if_false, Detector.pingFailed, owns,
        Bool.not_true, Bool.false_eq_true, e, lost]
    rw [← failed]
    exact step_proceed here takes source _
  have later : twice = Watch.update { counted with begun := w.begun + 1 }
      (some (.lost (some p) request.leader)) takes lost := by
    have gone := valid.without_spawn (.lost (some p) request.leader)
    have known := valid.lookup_spawn (.lost (some p) request.leader)
    have next := step_lost known takes source result
    rw [gone] at next
    have same : twice = (counted.spawn (.lost (some p) request.leader)).step takes
        (.proceed w.begun source result) := by
      rw [← first]
    exact same.trans next
  by_cases connects : w.detector.settings.connectOnNetworkDisconnect = true
  · have asks : lost = (w.detector, [.connect (some p) request.leader]) := by
      simp [lost, Detector.disconnected, watched, live, connects]
    rw [atOnce, later, asks]
    refine ⟨rfl, rfl, rfl, rfl, ?_⟩
    simp [Watch.update, perform, note, Watch.spawn, counted, Watch.without, Activity.run]
  · have fails := v.sound.notifies.disconnected request.leader watched (by simpa using connects)
    have same : lost = _ := fails
    rw [atOnce, later, same]
    cases takes
    · exact ⟨rfl, rfl, rfl, rfl, rfl⟩
    · refine ⟨rfl, rfl, rfl, rfl, ?_⟩
      simp [Watch.update, Detector.failing, perform, note, Watch.submit, Watch.raise, Watch.spawn,
        counted, Watch.without, latest]

theorem update_failing (w : Watch κ) (cause : Option (Activity κ)) (takes : Bool) (leader : Node)
    (e : Option TransportError) (reason : String) (n : Notice) :
    let failing := w.detector.failing leader e reason
    (w.update cause takes (failing.1, .tell n :: failing.2)).notifications =
      w.notifications ++ [⟨w.latest, w.detector.listeners, ⟨leader, e, reason⟩, takes⟩] := by
  cases takes <;>
    simp [update, perform, note, Detector.failing, Detector.endSession_eq, submit, raise, spawn,
      latest]

/-- Once a session has started, nothing that was begun before it touches it, neither pings nor new
connections; but the loss of its leader does, whenever it was reported or accepted. -/
theorem only_losses_outlive_sessions (settings : FaultDetectionConfig) (clusterName : ClusterName)
    (before between : List (Bool × Move κ)) :
    let w := (create settings clusterName).run before
    let v := w.run between
    w.sessions.length < v.sessions.length →
    ∀ id a takes source result, id < w.begun → v.activities.lookup id = some a →
      let v' := v.step takes (.proceed id source result)
      (a.callsFor = none → (∀ run node, a ≠ .lost run node) →
        v' = v.without id ∧
        ∀ node message, v.step takes (.accept id source node message) = v.without id) ∧
      ∀ run node, a = .lost run node →
        (v.detector.session.leader ≠ some node → v' = v.without id) ∧
        (v.detector.session.leader = some node →
          (settings.connectOnNetworkDisconnect = true →
            v'.detector = v.detector ∧
            v'.asked = v.asked ++ [.connect v.detector.session.pinger node]) ∧
          (settings.connectOnNetworkDisconnect = false →
            v'.detector.session.leader = none ∧
            v'.notifications = v.notifications ++
              [⟨v.latest, v.detector.listeners, ⟨node, none, "transport disconnected"⟩, takes⟩])) := by
  intro w v started id a takes source result old here
  have valid : w.Valid := run_valid settings clusterName before
  have valid' : v.Valid := valid.run between
  have same : v.detector.settings = settings :=
    (run_settings valid between).trans (run_settings (create_valid settings clusterName) before)
  refine ⟨fun quiet unlost => ?_, ?_⟩
  · have begun : (id, a) ∈ w.activities := by
      rcases valid.run_activities between (id, a) (mem_of_lookup here) with before | new
      · exact before
      · exact absurd old (Nat.not_lt_of_le new)
    have stale := valid.stale_of_earlier between started (valid.fits (id, a) begun) quiet unlost
    exact ⟨step_stale valid' here stale takes rfl, fun node message =>
      step_stale valid' here stale takes rfl⟩
  · rintro run node rfl
    rw [step_lost here]
    refine ⟨fun other => ?_, fun watched => ⟨fun connects => ?_, fun direct => ?_⟩⟩
    · rw [v.detector.disconnected_other other]
      rfl
    · have asks : v.detector.disconnected node =
          (v.detector, [.connect v.detector.session.pinger node]) := by
        simp [Detector.disconnected, watched, same, connects]
      rw [asks, update_detector, update_asked]
      exact ⟨rfl, rfl⟩
    · have fails := valid'.sound.notifies.disconnected node watched (by rw [same, direct])
      rw [fails, update_detector]
      refine ⟨by simp [Detector.failing, Detector.endSession_eq], ?_⟩
      exact (v.without id).update_failing _ takes node none _ _

/-- The answer to a ping that an earlier session sent, when the leader is watched again. -/
theorem earlier_ping_spares_session :
    let a : Node := ⟨"a", "1", "http://a"⟩
    let w := (create {} "c" : Watch Unit).run
      [(true, .restart a "elected"), (true, .proceed 0 a (.ok ()))]
    let v := w.run [(true, .stop "retired"), (true, .restart a "again")]
    v.detector.session.leader = some a ∧
      ∀ takes result, v.step takes (.proceed 1 a result) = v.without 1 ∧
        ∀ message, v.step takes (.accept 1 a "a" message) = v.without 1 := by
  intro a w v
  refine ⟨by decide, fun takes result => ?_⟩
  have spared := only_losses_outlive_sessions (κ := Unit) {} "c"
    [(true, .restart a "elected"), (true, .proceed 0 a (.ok ()))]
    [(true, .stop "retired"), (true, .restart a "again")] (by decide)
    1 (.pinging 0 ⟨a, a, some "c"⟩ 1) takes a result (by decide) rfl
  obtain ⟨answered, accepted⟩ := spared.1 rfl nofun
  exact ⟨answered, accepted "a"⟩

/-- The leader's loss is reported, or accepted by the run that pings it, while one session watches
it and handled when the next one does; that one fails, and would not have failed otherwise. -/
theorem late_loss_ends_next_session :
    let a : Node := ⟨"a", "1", "http://a"⟩
    let fails (first : List (Bool × Move Unit)) (id : Nat) : Prop :=
      let w := (create {} "c" : Watch Unit).run first
      let v := w.run [(true, .stop "retired"), (true, .restart a "again")]
      w.sessions = [a] ∧ v.sessions = [a, a] ∧ v.detector.session.leader = some a ∧
        (v.without id).detector.session.leader = some a ∧
        (v.step true (.proceed id a (.ok ()))).detector.session.leader = none ∧
        (v.step true (.proceed id a (.ok ()))).notifications.map (·.session) = [1]
    fails [(true, .restart a "elected"), (true, .lose a)] 1 ∧
      fails [(true, .restart a "elected"), (true, .proceed 0 a (.ok ())),
        (true, .accept 1 a "a" "reset")] 2 := by
  decide

end Watch

end Vigil

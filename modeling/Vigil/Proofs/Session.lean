import Vigil.Proofs.Outcome

/-!
What holds of a detector in every run: its session is sound, and all work under way suits it. So no
failure is ever held back by an earlier one, no chain runs without a leader, and the attempts that
are counted fit their number.
-/

namespace Vigil

namespace Detector

variable {κ : Type}

/-- Each of the ways to fail is notified; none finds that a failure was notified before. -/
structure Notifies (d : Detector κ) : Prop where
  disconnected : ∀ node, d.session.leader = some node →
    d.settings.connectOnNetworkDisconnect = false →
    let failing := d.failing node none "transport disconnected"
    d.disconnected node = (failing.1, .tell (.connectionLost node) :: failing.2)
  reconnectFailed : ∀ node e, d.session.leader = some node →
    let failing := d.failing node (some e) "transport disconnected (with verified connect)"
    d.connected d.session.pinger node (.error e) =
      (failing.1, .tell (.reconnectFailed node) :: failing.2)
  rejected : ∀ p request n rejection, d.owns p request.leader = true →
    let e := .rejected n rejection
    let failing := d.failing request.leader (some e) rejection.reason
    d.pinged p request (.error e) =
      (failing.1, .count (.pingFailures e.kind) ::
        .tell (.pingRejected request.leader rejection) :: failing.2)
  attemptsUsedUp : ∀ p request e, d.owns p request.leader = true →
    (∀ n m, e ≠ .disconnected n m) → (∀ n rejection, e ≠ .rejected n rejection) →
    ¬ d.session.retryCount + 1 < d.settings.pingRetries →
    let failing := d.failing request.leader (some e) (usedUpReason d.settings)
    d.pinged p request (.error e) =
      (failing.1, .count (.pingFailures e.kind) ::
        .tell (.pingFailed request.leader (d.session.retryCount + 1) d.settings.pingRetries e) ::
        .tell (.attemptsUsedUp request.leader d.settings.pingRetries d.settings.pingTimeout) ::
        failing.2)

theorem owned_running {d : Detector κ} {p : PingerId} {leader : Node}
    (owns : d.owns p leader = true) : p ∈ d.running ∧ d.session.leader = some leader := by
  rw [owns_iff] at owns
  exact ⟨owns.1.1, owns.2⟩

theorem Sound.notifies {d : Detector κ} (s : d.Sound) : d.Notifies where
  disconnected := by
    intro node watched direct
    simp only [Detector.disconnected, watched, direct, ne_eq, not_true_eq_false, if_false,
      Bool.false_eq_true, s.notifyFailure_eq watched]
  reconnectFailed := by
    intro node e watched
    simp only [connected, watched, ne_eq, not_true_eq_false, or_self, if_false,
      s.notifyFailure_eq watched]
  rejected := by
    intro p request n rejection owns
    obtain ⟨runs, watched⟩ := owned_running owns
    simp only [pinged, runs, not_true_eq_false, if_false, pingFailed, owns, Bool.not_true,
      Bool.false_eq_true, s.notifyFailure_eq watched]
  attemptsUsedUp := by
    intro p request e owns other other' last
    obtain ⟨runs, watched⟩ := owned_running owns
    have failed := s.attemptFailed_last p request e watched last
    simp only [pinged, runs, not_true_eq_false, if_false, pingFailed, owns, Bool.not_true,
      Bool.false_eq_true]
    cases e with
    | disconnected n m => exact absurd rfl (other n m)
    | rejected n rejection => exact absurd rfl (other' n rejection)
    | timeout n limit => simp only [failed]
    | remote n m => simp only [failed]

theorem Sound.beginRound_eq {d : Detector κ} (s : d.Sound) {p : PingerId}
    (live : d.isCurrent p = true) (source : Node) :
    ∃ leader, d.session.leader = some leader ∧
      d.beginRound p source =
        (d, [.count .pingsSent, .ping p ⟨source, leader, some d.clusterName⟩]) := by
  obtain ⟨leader, watched⟩ := s.leader_of_pinger ((s.current_iff p).mp live)
  refine ⟨leader, watched, ?_⟩
  simp only [beginRound, live, Bool.not_true, Bool.false_eq_true, if_false, watched]

theorem Sound.retryCount_succ {d : Detector κ} (s : d.Sound) (watched : d.session.leader.isSome) :
    (d.session.retryCount + 1).toNat = d.session.retryCount.toNat + 1 := by
  have left := s.budget watched
  have bound := d.settings.pingRetries.toNat_lt
  rw [UInt32.toNat_add]
  exact Nat.mod_eq_of_lt (by simp; omega)

end Detector

namespace Watch

variable {κ : Type}

/-- A sound detector whose work under way suits it, each piece under a number of its own. -/
structure Valid (w : Watch κ) : Prop where
  sound : w.detector.Sound
  fits : ∀ x ∈ w.activities, x.2.Fits w.detector
  numbered : (w.activities.map (·.1)).Nodup
  below : ∀ x ∈ w.activities, x.1 < w.begun

theorem create_valid (settings : FaultDetectionConfig) (clusterName : ClusterName) :
    (create settings clusterName : Watch κ).Valid where
  sound := Detector.create_sound settings clusterName
  fits := by simp [create]
  numbered := by simp [create]
  below := by simp [create]

theorem valid_work {w : Watch κ} : w.work.Valid ↔ w.Valid :=
  ⟨fun v => ⟨v.sound, v.fits, v.numbered, v.below⟩,
    fun v => ⟨v.sound, v.fits, v.numbered, v.below⟩⟩

theorem Valid.replace {w : Watch κ} (v : w.Valid) {d : Detector κ} (s : d.Sound)
    (fits : ∀ a : Activity κ, a.Fits w.detector → a.Fits d) :
    Valid { w with detector := d } :=
  ⟨s, fun x hx => fits x.2 (v.fits x hx), v.numbered, v.below⟩

theorem Valid.spawn {w : Watch κ} (v : w.Valid) (a : Activity κ) (fits : a.Fits w.detector) :
    (w.spawn a).Valid where
  sound := v.sound
  fits := by
    intro x hx
    rcases List.mem_append.mp hx with hx | hx
    · exact v.fits x hx
    · rw [List.mem_singleton.mp hx]
      exact fits
  numbered := by
    simp only [Watch.spawn, List.map_append, List.map_cons, List.map_nil]
    refine List.nodup_append.mpr ⟨v.numbered, by simp, ?_⟩
    intro n hn m hm
    obtain ⟨x, hx, rfl⟩ := List.mem_map.mp hn
    rw [List.mem_singleton.mp hm]
    exact Nat.ne_of_lt (v.below x hx)
  below := by
    intro x hx
    rcases List.mem_append.mp hx with hx | hx
    · exact Nat.lt_succ_of_lt (v.below x hx)
    · rw [List.mem_singleton.mp hx]
      exact Nat.lt_succ_self _

theorem Valid.submit {w : Watch κ} (v : w.Valid) (takes : Bool) (a : Activity κ)
    (fits : a.Fits w.detector) : (w.submit takes a).Valid := by
  cases takes with
  | true => exact v.spawn a fits
  | false => exact ⟨v.sound, v.fits, v.numbered, v.below⟩

theorem Valid.raise {w : Watch κ} (v : w.Valid) (failure : LeaderFailure) (taken : Bool) :
    (w.raise failure taken).Valid :=
  ⟨v.sound, v.fits, v.numbered, v.below⟩

theorem Valid.without {w : Watch κ} (v : w.Valid) (id : Nat) : (w.without id).Valid where
  sound := v.sound
  fits x hx := v.fits x (List.mem_filter.mp hx).1
  numbered := v.numbered.sublist ((List.filter_sublist).map _)
  below x hx := v.below x (List.mem_filter.mp hx).1

/-- Whatever an event makes of the detector, and whatever it asks for, suits the work under way. -/
theorem Valid.update {w : Watch κ} (v : w.Valid) (cause : Option (Activity κ)) (takes : Bool)
    (r : Detector κ × List (Effect κ))
    (h : w.detector.Outcome (cause.bind Activity.run) r.1 (requests r.2)) :
    (w.update cause takes r).Valid := by
  have base : Valid { w with detector := r.1 } := v.replace (h.sound v.sound) fun _ => h.fits
  have bound := h.created_le
  rw [← valid_work, update_work]
  obtain ⟨d', effects⟩ := r
  dsimp only at h base bound ⊢
  generalize requests effects = asked at h ⊢
  rw [← valid_work] at base
  cases h with
  | ignored _ => exact base
  | started leader _ =>
    rw [performAll_schedule]
    refine base.submit takes _ ?_
    simp [Activity.Fits, work, Detector.startSession, Detector.startPinger, Detector.endSession_eq]
  | ended closed attached listeners _ _ => exact base
  | joined listener _ => exact base
  | left id _ => exact base
  | failed leader cause' reason _ =>
    rw [performAll_dispatch]
    exact (base.raise _ takes).submit takes _ trivial
  | scheduled p _ current =>
    rw [performAll_schedule]
    exact base.submit takes _ (v.sound.created p current)
  | pinged p request n _ current watched _ =>
    exact base.spawn (.pinging p request _) ⟨v.sound.created p current, fun _ => watched⟩
  | connecting p leader known current watched =>
    exact base.spawn (.connecting _ (some p) leader)
      ⟨⟨p, v.sound.created p current, rfl, fun _ => watched⟩,
        fun q hq => ⟨known q hq, fun live => current.symm.trans live⟩⟩
  | reconnected p _ =>
    rw [performAll_schedule]
    exact base.submit takes _ (Nat.lt_succ_self _)

theorem Valid.deliver {w : Watch κ} (v : w.Valid) (a : Activity κ) : (w.deliver a).Valid := by
  unfold Watch.deliver
  split
  · next session listener rest failure =>
    refine Valid.spawn ?_ (.calling session rest failure) trivial
    exact ⟨v.sound, v.fits, v.numbered, v.below⟩
  · exact v

theorem Valid.proceed {w : Watch κ} (v : w.Valid) (takes : Bool) (source : Node)
    (result : Except TransportError Unit) {a : Activity κ} (fits : a.Fits w.detector) :
    (w.proceed takes source result a).Valid := by
  have h := Detector.goOn_outcome v.sound fits source result
  exact Valid.deliver (v.update (some a) takes _ h) a

theorem mem_of_lookup {w : Watch κ} {id : Nat} {a : Activity κ}
    (h : w.activities.lookup id = some a) : (id, a) ∈ w.activities := by
  obtain ⟨l₁, l₂, split, _⟩ := List.lookup_eq_some_iff.mp h
  simp [split]

theorem Valid.fits_of_lookup {w : Watch κ} (v : w.Valid) {id : Nat} {a : Activity κ}
    (h : w.activities.lookup id = some a) : a.Fits w.detector :=
  v.fits (id, a) (mem_of_lookup h)

theorem Valid.lookup_of_mem {w : Watch κ} (v : w.Valid) {id : Nat} {a : Activity κ}
    (h : (id, a) ∈ w.activities) : w.activities.lookup id = some a := by
  obtain ⟨l₁, l₂, split⟩ := List.append_of_mem h
  have numbered := v.numbered
  rw [split, List.map_append, List.map_cons, List.nodup_append] at numbered
  refine List.lookup_eq_some_iff.mpr ⟨l₁, l₂, split, fun x hx => ?_⟩
  have other := numbered.2.2 x.1 (List.mem_map_of_mem hx) id (by simp)
  simpa using fun same => other same.symm

theorem Valid.lookup_spawn {w : Watch κ} (v : w.Valid) (a : Activity κ) :
    (w.spawn a).activities.lookup w.begun = some a := by
  refine List.lookup_eq_some_iff.mpr ⟨w.activities, [], rfl, fun x hx => ?_⟩
  simpa using Nat.ne_of_gt (v.below x hx)

theorem Valid.without_spawn {w : Watch κ} (v : w.Valid) (a : Activity κ) :
    (w.spawn a).without w.begun = { w with begun := w.begun + 1 } := by
  have old : w.activities.filter (·.1 != w.begun) = w.activities := by
    refine List.filter_eq_self.mpr fun x hx => ?_
    simpa using Nat.ne_of_lt (v.below x hx)
  simp [Watch.spawn, Watch.without, old]

/-- A number stands for one activity, and all others are left without it. -/
theorem Valid.split {w : Watch κ} (v : w.Valid) {id : Nat} {a : Activity κ}
    (h : w.activities.lookup id = some a) :
    ∃ l₁ l₂, w.activities = l₁ ++ (id, a) :: l₂ ∧ (w.without id).activities = l₁ ++ l₂ := by
  obtain ⟨l₁, l₂, split, _⟩ := List.lookup_eq_some_iff.mp h
  have numbered := v.numbered
  rw [split, List.map_append, List.map_cons, List.nodup_append, List.nodup_cons] at numbered
  obtain ⟨_, ⟨after, _⟩, before⟩ := numbered
  have others : ∀ x ∈ l₁ ++ l₂, (x.1 != id) = true := by
    intro x hx
    rw [bne_iff_ne]
    rcases List.mem_append.mp hx with hx | hx
    · exact before x.1 (List.mem_map_of_mem hx) id (by simp)
    · exact fun same => after (List.mem_map.mpr ⟨x, hx, same⟩)
  refine ⟨l₁, l₂, split, ?_⟩
  rw [Watch.without, split, List.filter_append, List.filter_cons_of_neg (by simp),
    ← List.filter_append]
  exact List.filter_eq_self.mpr others

theorem Valid.countP_without {w : Watch κ} (v : w.Valid) {id : Nat} {a : Activity κ}
    (h : w.activities.lookup id = some a) (kind : Activity κ → Bool) :
    w.activities.countP (kind ·.2) =
      (w.without id).activities.countP (kind ·.2) + if kind a then 1 else 0 := by
  obtain ⟨l₁, l₂, split, rest⟩ := v.split h
  rw [split, rest, List.perm_middle.countP_eq, List.countP_cons]

theorem Valid.enter {w : Watch κ} (v : w.Valid) (leader : Node) : (w.enter leader).Valid := by
  unfold Watch.enter
  split
  · exact v
  · exact ⟨v.sound, v.fits, v.numbered, v.below⟩

theorem Valid.accept {w : Watch κ} (v : w.Valid) {p : PingerId} {leader : Node}
    (e : TransportError) (owns : w.detector.owns p leader = true) :
    (w.accept p leader e).Valid := by
  obtain ⟨live, watched⟩ := (v.sound.owns_iff p leader).mp owns
  have counted := v.update none true (w.detector, [.count (.pingFailures e.kind)])
    (.ignored (by simp))
  refine counted.spawn (.lost (some p) leader) fun q hq => ?_
  cases hq
  exact ⟨v.sound.created p live, fun _ => watched⟩

/-- What a move can come to. -/
inductive Step (w : Watch κ) (takes : Bool) : Watch κ → Prop where
  | idle : Step w takes w
  | entered (leader : Node) (reason : String) :
      Step w takes ((w.enter leader).update none takes (w.detector.restart leader reason))
  /-- The detector is told something that starts no session. -/
  | told (r : Detector κ × List (Effect κ)) : w.detector.Outcome none r.1 (requests r.2) →
      (∀ leader, r.1.session.leader = some leader → w.detector.session.leader = some leader) →
      Step w takes (w.update none takes r)
  | reported (node : Node) : Step w takes (w.submit takes (.lost none node))
  | went (id : Nat) (source : Node) (result : Except TransportError Unit) (a : Activity κ) :
      w.activities.lookup id = some a →
      Step w takes ((w.without id).proceed takes source result a)
  /-- The live chain has yet to handle that it lost its leader. -/
  | accepted (id : Nat) (p : PingerId) (request : PingRequest) (sent : Nat) (e : TransportError) :
      w.activities.lookup id = some (.pinging p request sent) →
      w.detector.owns p request.leader = true →
      Step w takes ((w.without id).accept p request.leader e)

theorem step_cases {w : Watch κ} (s : w.detector.Sound) (takes : Bool) (m : Move κ) :
    Step w takes (w.step takes m) := by
  have ended {d : Detector κ} (leader : Node) (h : d.endSession.session.leader = some leader) :
      d.session.leader = some leader := by
    simp [Detector.endSession_eq] at h
  have goes (id : Nat) (source : Node) (result : Except TransportError Unit) :
      Step w takes (w.step takes (.proceed id source result)) := by
    simp only [Watch.step]
    split
    · next a here => exact .went id source result a here
    · exact .idle
  cases m with
  | restart leader reason => exact .entered leader reason
  | stop reason => exact .told _ (w.detector.stop_outcome reason) ended
  | shutdown => exact .told _ w.detector.shutdown_outcome ended
  | drop => exact .told (_, []) w.detector.endSession_outcome ended
  | addListener listener => exact .told (_, []) (.joined listener rfl) fun _ h => h
  | removeListener id => exact .told (_, []) (.left id rfl) fun _ h => h
  | lose node => exact .reported node
  | handle node =>
    exact .told _ (Detector.disconnected_outcome s none node (by simp))
      (w.detector.disconnected_leader node)
  | proceed id source result => exact goes id source result
  | accept id source node message =>
    exact accept_cases takes id source node message (goes id source _) fun p request sent here owns =>
      .accepted id p request sent _ here owns

theorem Valid.step {w : Watch κ} (v : w.Valid) (takes : Bool) (m : Move κ) :
    (w.step takes m).Valid := by
  have h := step_cases v.sound takes m
  generalize w.step takes m = w' at h ⊢
  cases h with
  | idle => exact v
  | entered leader reason =>
    refine (v.enter leader).update none takes _ ?_
    rw [enter_detector]
    exact w.detector.restart_outcome leader reason
  | told r h _ => exact v.update none takes r h
  | reported node => exact v.submit takes (.lost none node) nofun
  | went id source result a here =>
    exact (v.without id).proceed takes source result (v.fits_of_lookup here)
  | accepted id p request sent e _ owns => exact (v.without id).accept e owns

theorem Valid.run {w : Watch κ} (v : w.Valid) (moves : List (Bool × Move κ)) :
    (w.run moves).Valid := by
  induction moves generalizing w with
  | nil => exact v
  | cons m moves ih => exact ih (v.step m.1 m.2)

theorem run_valid (settings : FaultDetectionConfig) (clusterName : ClusterName)
    (moves : List (Bool × Move κ)) : ((create settings clusterName).run moves).Valid :=
  (create_valid settings clusterName).run moves

/-- Every move makes of the detector what some event can make of it, and asks for what follows. -/
theorem step_outcome {w : Watch κ} (v : w.Valid) (takes : Bool) (m : Move κ) :
    ∃ run effects, w.detector.Outcome run (w.step takes m).detector (requests effects) ∧
      (w.step takes m).asked = w.asked ++ effects := by
  have h := step_cases v.sound takes m
  generalize w.step takes m = w' at h ⊢
  cases h with
  | idle => exact ⟨none, [], .ignored (by simp), (List.append_nil _).symm⟩
  | entered leader reason =>
    simp only [update_detector, update_asked, enter_asked]
    exact ⟨_, _, w.detector.restart_outcome leader reason, rfl⟩
  | told r h _ =>
    simp only [update_detector, update_asked]
    exact ⟨_, _, h, rfl⟩
  | reported node =>
    cases takes <;> exact ⟨none, [], .ignored (by simp), (List.append_nil _).symm⟩
  | went id source result a here =>
    simp only [proceed, deliver_detector, deliver_asked, update_detector, update_asked]
    exact ⟨_, _, Detector.goOn_outcome v.sound (v.fits_of_lookup here) source result, rfl⟩
  | accepted id p request sent e _ _ =>
    exact ⟨none, [.count (.pingFailures e.kind)], .ignored (by simp), rfl⟩

theorem run_settings {w : Watch κ} (v : w.Valid) (moves : List (Bool × Move κ)) :
    (w.run moves).detector.settings = w.detector.settings := by
  induction moves generalizing w with
  | nil => rfl
  | cons m moves ih =>
    obtain ⟨_, _, h, _⟩ := step_outcome v m.1 m.2
    exact (ih (v.step m.1 m.2)).trans h.settings

/-- Whatever happens, in any order: the session is sound and every failure is notified; the chain
that is live has a leader to ping; and no attempt is one too many to be counted. -/
theorem session_sound (settings : FaultDetectionConfig) (clusterName : ClusterName)
    (moves : List (Bool × Move κ)) :
    let d := ((create settings clusterName).run moves).detector
    d.settings = settings ∧ d.Sound ∧ d.Notifies ∧
      (∀ p source, d.isCurrent p = true → ∃ leader, d.session.leader = some leader ∧
        d.beginRound p source =
          (d, [.count .pingsSent, .ping p ⟨source, leader, some d.clusterName⟩])) ∧
      (d.session.leader.isSome →
        (d.session.retryCount + 1).toNat = d.session.retryCount.toNat + 1) := by
  have s := (run_valid settings clusterName moves).sound
  refine ⟨run_settings (create_valid settings clusterName) moves, s, s.notifies, ?_, ?_⟩
  · exact fun p source live => s.beginRound_eq live source
  · exact s.retryCount_succ

/-- The last attempt but one has failed. -/
theorem last_attempt_left :
    let a : Node := ⟨"a", "1", "http://a"⟩
    let moves : List (Bool × Move Unit) :=
      [(true, .restart a "elected"), (true, .proceed 0 a (.ok ())),
        (true, .proceed 1 a (.error (.timeout "a" ⟨0⟩)))]
    let d := ((create { pingRetries := 2 } "c").run moves).detector
    d.session.retryCount = 1 ∧ (d.session.retryCount + 1).toNat = d.session.retryCount.toNat + 1 ∧
      ∀ source, ∃ leader, d.session.leader = some leader ∧ d.beginRound 0 source =
        (d, [.count .pingsSent, .ping 0 ⟨source, leader, some d.clusterName⟩]) := by
  intro a moves
  obtain ⟨_, _, _, pings, counts⟩ := session_sound { pingRetries := 2 } "c" moves
  exact ⟨by decide, counts (by decide), fun source => pings 0 source (by decide)⟩

end Watch

end Vigil

import Vigil.Proofs.Clock

/-!
Listeners that call back. The call of the listeners goes through in one step: each of them is called
in turn, and before the next one is called it may restart, stop or shut down the detector that it
listens to, or remove listeners from it. All this comes to a detector whose session was torn down
before, so it is the same as if an idle detector were told one thing after the other, and no session
that a listener starts falls to the failure it was called for.
-/

namespace Vigil

/-- What a listener that is called may do to its detector. -/
inductive Callback where
  | restart (leader : Node) (reason : String)
  | stop (reason : String)
  | shutdown
  | remove (id : Nat)
deriving DecidableEq

namespace Callback

variable {κ : Type}

def move : Callback → Move κ
  | restart leader reason => .restart leader reason
  | stop reason => .stop reason
  | shutdown => .shutdown
  | remove id => .removeListener id

/-- What it makes of the detector. -/
def apply (d : Detector κ) : Callback → Detector κ
  | restart leader reason => (d.restart leader reason).1
  | stop reason => (d.stop reason).1
  | shutdown => d.shutdown.1
  | remove id => (d.removeListener id).1

theorem move_lets (c : Callback) : (c.move : Move κ).lets = none := by
  cases c <;> rfl

theorem apply_settings (d : Detector κ) (c : Callback) : (c.apply d).settings = d.settings := by
  cases c with
  | restart leader reason =>
    rw [apply, Detector.restart]
    split
    · rfl
    · simp [Detector.startSession, Detector.startPinger, Detector.endSession_eq]
  | stop reason => simp [apply, Detector.stop, Detector.endSession_eq]
  | shutdown => simp [apply, Detector.shutdown, Detector.endSession_eq]
  | remove id => rfl

theorem all_settings (d : Detector κ) (cs : List Callback) :
    (cs.foldl apply d).settings = d.settings := by
  induction cs generalizing d with
  | nil => rfl
  | cons c cs ih => exact (ih _).trans (apply_settings d c)

/-- Only a shutdown closes a detector. -/
theorem apply_open {d : Detector κ} (opened : d.closed = false) {c : Callback}
    (spared : c ≠ .shutdown) : (c.apply d).closed = false := by
  cases c with
  | restart leader reason =>
    simp [apply, Detector.restart, opened, Detector.startSession, Detector.startPinger,
      Detector.endSession_eq]
  | stop reason => simpa [apply, Detector.stop, Detector.endSession_eq] using opened
  | shutdown => exact absurd rfl spared
  | remove id => exact opened

theorem all_open {d : Detector κ} (opened : d.closed = false) {cs : List Callback}
    (spared : .shutdown ∉ cs) : (cs.foldl apply d).closed = false := by
  induction cs generalizing d with
  | nil => exact opened
  | cons c cs ih =>
    rw [List.mem_cons, not_or] at spared
    exact ih (apply_open opened (Ne.symm spared.1)) spared.2

theorem all_removals (d : Detector κ) {cs : List Callback}
    (removals : ∀ c ∈ cs, ∃ id, c = .remove id) :
    (cs.foldl apply d).session = d.session := by
  induction cs generalizing d with
  | nil => rfl
  | cons c cs ih =>
    obtain ⟨id, rfl⟩ := removals c List.mem_cons_self
    exact ih _ fun c hc => removals c (List.mem_cons_of_mem _ hc)

/-- What a restart begins that counts. -/
theorem restart_session {d : Detector κ} (opened : d.closed = false) (leader : Node)
    (reason : String) :
    (apply d (.restart leader reason)).session = ⟨some leader, 0, some d.created, false⟩ := by
  simp [apply, Detector.restart, opened, Detector.startSession, Detector.startPinger,
    Detector.endSession_eq]

/-- The session of the last restart is left, if no one stops it or shut the detector down before. -/
theorem last_restart {d : Detector κ} (opened : d.closed = false) {earlier later : List Callback}
    (spared : .shutdown ∉ earlier) (leader : Node) (reason : String)
    (removals : ∀ c ∈ later, ∃ id, c = .remove id) :
    ((earlier ++ .restart leader reason :: later).foldl apply d).session =
      ⟨some leader, 0, some (earlier.foldl apply d).created, false⟩ := by
  rw [List.foldl_append, List.foldl_cons, all_removals _ removals]
  exact restart_session (all_open opened spared) leader reason

end Callback

namespace Watch

variable {κ : Type}

/-- The moves in which an activity calls the listeners it has yet to call, as one step: whoever is
called makes his own before the next one is called. With each of them goes whether the scheduler
takes what it hands over. -/
def dispatch (w : Watch κ) (source : Node) (does : Nat × κ → List (Bool × Callback)) (id : Nat) :
    List (Nat × κ) → List (Bool × Move κ)
  | [] => [(true, .proceed id source (.ok ()))]
  | listener :: rest =>
    let first := (true, .proceed id source (.ok ())) :: (does listener).map fun c => (c.1, c.2.move)
    first ++ (w.run first).dispatch source does w.begun rest

theorem update_deliveries (w : Watch κ) (cause : Option (Activity κ)) (takes : Bool)
    (r : Detector κ × List (Effect κ)) :
    (w.update cause takes r).deliveries = w.deliveries := by
  refine update_preserves (P := (·.deliveries = w.deliveries)) cause takes r rfl fun v e _ h => ?_
  cases e <;> cases takes <;> exact h

theorem enter_deliveries (w : Watch κ) (leader : Node) :
    (w.enter leader).deliveries = w.deliveries := by
  unfold enter
  split <;> rfl

theorem step_callback (w : Watch κ) (takes : Bool) (c : Callback) :
    (w.step takes c.move).detector = c.apply w.detector ∧
      (w.step takes c.move).deliveries = w.deliveries := by
  cases c with
  | restart leader reason =>
    exact ⟨update_detector .., (update_deliveries ..).trans (w.enter_deliveries leader)⟩
  | stop reason => exact ⟨update_detector .., update_deliveries ..⟩
  | shutdown => exact ⟨update_detector .., update_deliveries ..⟩
  | remove id => exact ⟨rfl, rfl⟩

/-- A session that a listener starts waits for its first ping, if the scheduler took it over. -/
theorem step_restart {w : Watch κ} (opened : w.detector.closed = false) (leader : Node)
    (reason : String) :
    (w.begun, .scheduled w.detector.created w.detector.settings.pingInterval) ∈
      (w.step true (.restart leader reason)).activities := by
  have effects : (w.detector.restart leader reason).2 =
      [.tell (.restarting leader reason),
        .schedule w.detector.created w.detector.settings.pingInterval] := by
    simp [Detector.restart, opened, Detector.startSession, Detector.startPinger,
      Detector.endSession_eq]
  rw [step, update, effects, enter, opened]
  exact List.mem_append_right _ (List.mem_singleton_self _)

theorem run_append (w : Watch κ) (moves more : List (Bool × Move κ)) :
    w.run (moves ++ more) = (w.run moves).run more :=
  List.foldl_append

section reached

variable {session : Nat} {failure : LeaderFailure}

/-- From `x` to `w` the listeners `called` were called for a failure, and did what `done` says. -/
structure Reached (x : Watch κ) (session : Nat) (failure : LeaderFailure)
    (called : List (Nat × κ)) (done : List (Bool × Callback)) (w : Watch κ) : Prop where
  valid : w.Valid
  detector : w.detector = (done.map (·.2)).foldl Callback.apply x.detector
  deliveries : w.deliveries = x.deliveries ++ called.map (⟨session, ·, failure⟩)
  begun : x.begun ≤ w.begun
  /-- Each session that was started waits for its first ping. -/
  started : ∀ earlier leader reason later,
    done = earlier ++ (true, .restart leader reason) :: later →
    let d := (earlier.map (·.2)).foldl Callback.apply x.detector
    d.closed = false → ∃ id, x.begun ≤ id ∧
      (id, .scheduled d.created d.settings.pingInterval) ∈ w.activities

variable {x w : Watch κ} {called : List (Nat × κ)} {done : List (Bool × Callback)}

theorem Reached.start (v : x.Valid) : Reached x session failure [] [] x where
  valid := v
  detector := rfl
  deliveries := (List.append_nil _).symm
  begun := Nat.le_refl _
  started := by simp

theorem Reached.back (h : Reached x session failure called done w) (c : Bool × Callback) :
    Reached x session failure called (done ++ [c]) (w.step c.1 c.2.move) := by
  obtain ⟨detector, deliveries⟩ := w.step_callback c.1 c.2
  constructor
  case valid => exact h.valid.step c.1 c.2.move
  case detector => rw [detector, h.detector, List.map_append, List.foldl_append]; rfl
  case deliveries => exact deliveries.trans h.deliveries
  case begun => exact Nat.le_trans h.begun (w.begun_le_step c.1 c.2.move)
  case started =>
    intro earlier leader reason later split d opened
    rcases List.eq_nil_or_concat later with rfl | ⟨before, last, rfl⟩
    · -- It is the session that starts now.
      obtain ⟨same, rfl⟩ := List.append_inj' split rfl |>.imp id List.singleton_inj.mp
      have now : w.detector = d := h.detector.trans (by rw [same])
      refine ⟨w.begun, h.begun, ?_⟩
      rw [← now] at opened ⊢
      exact step_restart opened leader reason
    · rw [List.concat_eq_append, ← List.cons_append, ← List.append_assoc] at split
      obtain ⟨id, new, there⟩ :=
        h.started earlier leader reason before (List.append_inj' split rfl).1 opened
      exact ⟨id, new, step_kept there c.1 (by simp [c.2.move_lets])⟩

theorem Reached.backs (h : Reached x session failure called done w) (cs : List (Bool × Callback)) :
    Reached x session failure called (done ++ cs) (w.run (cs.map fun c => (c.1, c.2.move))) := by
  induction cs generalizing w done with
  | nil =>
    rw [List.append_nil]
    exact h
  | cons c cs ih =>
    have rest := ih (h.back c)
    rw [List.append_assoc] at rest
    exact rest

theorem Reached.unscheduled (h : Reached x session failure called done w) {id : Nat}
    {rest : List (Nat × κ)} (here : w.activities.lookup id = some (.calling session rest failure))
    {p : PingerId} {delay : Duration} {other : Nat}
    (there : (other, .scheduled p delay) ∈ w.activities) (source : Node)
    (result : Except TransportError Unit) :
    (other, .scheduled p delay) ∈ (w.step true (.proceed id source result)).activities := by
  refine step_kept there true fun same => ?_
  rw [Option.some.inj same, h.valid.lookup_of_mem there] at here
  cases here

/-- The next listener is called. -/
theorem Reached.call (h : Reached x session failure called done w) {id : Nat}
    {listener : Nat × κ} {rest : List (Nat × κ)}
    (here : w.activities.lookup id = some (.calling session (listener :: rest) failure))
    (source : Node) :
    Reached x session failure (called ++ [listener]) done
      (w.step true (.proceed id source (.ok ()))) := by
  have now : w.step true (.proceed id source (.ok ())) =
      ((w.without id).call ⟨session, listener, failure⟩).spawn (.calling session rest failure) :=
    step_proceed here true source (.ok ())
  constructor
  case valid => exact h.valid.step true _
  case detector => rw [now]; exact h.detector
  case deliveries =>
    rw [now, List.map_append, ← List.append_assoc, ← h.deliveries]
    rfl
  case begun => exact Nat.le_trans h.begun (w.begun_le_step true _)
  case started =>
    intro earlier leader reason later split d opened
    obtain ⟨other, new, there⟩ := h.started earlier leader reason later split opened
    exact ⟨other, new, h.unscheduled here there source _⟩

/-- No listener is left to be called. -/
theorem Reached.finish (h : Reached x session failure called done w) {id : Nat}
    (here : w.activities.lookup id = some (.calling session [] failure)) (source : Node) :
    Reached x session failure called done (w.step true (.proceed id source (.ok ()))) := by
  have now : w.step true (.proceed id source (.ok ())) = w.without id :=
    step_proceed here true source (.ok ())
  constructor
  case valid => exact h.valid.step true _
  case detector => rw [now]; exact h.detector
  case deliveries => rw [now]; exact h.deliveries
  case begun => exact Nat.le_trans h.begun (w.begun_le_step true _)
  case started =>
    intro earlier leader reason later split d opened
    obtain ⟨other, new, there⟩ := h.started earlier leader reason later split opened
    exact ⟨other, new, h.unscheduled here there source _⟩

/-- After the first listener was called and has done what it does, the others are yet to be
called. -/
theorem Valid.calls_on (v : w.Valid) {id : Nat} {listener : Nat × κ} {rest : List (Nat × κ)}
    (here : w.activities.lookup id = some (.calling session (listener :: rest) failure))
    (source : Node) (cs : List (Bool × Callback)) :
    (((w.step true (.proceed id source (.ok ()))).run
      (cs.map fun c => (c.1, c.2.move))).activities.lookup w.begun) =
        some (.calling session rest failure) := by
  have valid := v.step true (.proceed id source (.ok ()))
  have now : w.step true (.proceed id source (.ok ())) =
      ((w.without id).call ⟨session, listener, failure⟩).spawn (.calling session rest failure) :=
    step_proceed here true source (.ok ())
  have there : (w.begun, .calling session rest failure) ∈
      (w.step true (.proceed id source (.ok ()))).activities := by
    rw [now]
    exact List.mem_append_right _ (List.mem_singleton_self _)
  refine (valid.run _).lookup_of_mem (run_kept there fun m hm => ?_)
  obtain ⟨c, _, rfl⟩ := List.mem_map.mp hm
  simp [c.2.move_lets]

/-- All are called, and all do what they do. -/
theorem Reached.dispatch (h : Reached x session failure called done w) {id : Nat}
    {rest : List (Nat × κ)} (here : w.activities.lookup id = some (.calling session rest failure))
    (source : Node) (does : Nat × κ → List (Bool × Callback)) :
    Reached x session failure (called ++ rest) (done ++ rest.flatMap does)
      (w.run (w.dispatch source does id rest)) := by
  induction rest generalizing w id called done with
  | nil =>
    rw [List.append_nil, List.flatMap_nil, List.append_nil]
    exact h.finish here source
  | cons listener rest ih =>
    have first := (h.call here source).backs (does listener)
    have others := ih first (h.valid.calls_on here source (does listener))
    rw [List.append_assoc, List.append_assoc] at others
    rw [Watch.dispatch, run_append, List.flatMap_cons]
    exact others

end reached

/-- From `w` to `u` the failure `n` was raised: the session is torn down, and the call of those who
listened is under way, if the scheduler took it over. -/
structure Raised (w : Watch κ) (n : Notification κ) (u : Watch κ) : Prop where
  watched : w.detector.session.leader = some n.failure.leader
  session : n.session = w.latest
  listeners : n.listeners = w.detector.listeners
  torn : u.detector =
    { w.detector with session := { w.detector.session with notified := true } }.endSession
  pending : n.taken = true →
    (w.begun, .calling n.session n.listeners n.failure) ∈ u.activities

theorem update_raised (w : Watch κ) (cause : Option (Activity κ)) (takes : Bool)
    (r : Detector κ × List (Effect κ)) {run : Option PingerId}
    (h : w.detector.Outcome run r.1 (requests r.2)) {n : Notification κ}
    (raised : (w.update cause takes r).notifications = w.notifications ++ [n]) :
    w.Raised n (w.update cause takes r) := by
  have torn := w.update_detector cause takes r
  suffices done : w.Raised n (w.update cause takes r).work from
    ⟨done.watched, done.session, done.listeners, done.torn, done.pending⟩
  change (w.update cause takes r).work.notifications = _ at raised
  rw [update_work] at raised ⊢
  obtain ⟨d', effects⟩ := r
  dsimp only at h raised torn ⊢
  generalize requests effects = asked at h raised ⊢
  cases h with
  | failed leader cause' reason watched =>
    rw [performAll_dispatch] at raised ⊢
    have same := (submit_notifications _ takes _).symm.trans raised
    obtain ⟨_, rfl⟩ := List.append_inj' same rfl |>.imp id List.singleton_inj.mp
    refine ⟨watched, rfl, ?_, ?_, fun taken => ?_⟩
    · simp [work, Detector.endSession_eq]
    · cases takes <;> rfl
    · obtain rfl : takes = true := taken
      refine List.mem_append_right _ (List.mem_singleton.mpr ?_)
      simp [work, raise, latest, Detector.endSession_eq]
  | _ => simp [work, perform, submit_notifications, note, spawn] at raised

theorem step_raised {w : Watch κ} (v : w.Valid) (takes : Bool) (m : Move κ) {n : Notification κ}
    (raised : (w.step takes m).notifications = w.notifications ++ [n]) :
    w.Raised n (w.step takes m) := by
  have h := step_cases v.sound takes m
  generalize w.step takes m = u at h raised ⊢
  cases h with
  | idle => simp at raised
  | entered leader reason =>
    -- A restart leaves a session, which no failure does.
    have outcome := w.detector.restart_outcome leader reason
    have same : (w.enter leader).notifications = w.notifications := by
      unfold enter
      split <;> rfl
    rw [← w.enter_detector leader] at outcome
    rw [← w.enter_detector leader, ← same] at raised
    have failed := (w.enter leader).update_raised none takes _ outcome raised
    have torn := congrArg (·.session.leader) failed.torn
    have watched := failed.watched
    rw [update_detector, w.enter_detector] at torn
    rw [w.enter_detector] at watched
    by_cases closed : w.detector.closed = true <;>
      simp [Detector.restart, closed, watched, Detector.startSession, Detector.startPinger,
        Detector.endSession_eq] at torn
  | told r h _ => exact w.update_raised none takes r h raised
  | reported node => simp [submit_notifications] at raised
  | went id source result a here =>
    have same (u : Watch κ) : (u.deliver a).notifications = u.notifications := by
      unfold deliver
      split <;> rfl
    rw [proceed, same] at raised
    have failed := (w.without id).update_raised (some a) takes _
      (Detector.goOn_outcome v.sound (v.fits_of_lookup here) source result) raised
    refine ⟨failed.watched, failed.session, failed.listeners, ?_, fun taken => ?_⟩
    · rw [proceed, deliver_detector]
      exact failed.torn
    · exact deliver_kept _ a (failed.pending taken)
  | accepted id p request sent e _ _ =>
    have none : ((w.without id).accept p request.leader e).notifications = w.notifications := rfl
    simp [none] at raised

/-- A detector that is closed watches no one. -/
def Shut (d : Detector κ) : Prop := d.closed = true → d.session.leader = none

/-- A failure is raised by a detector that is open, and it stays so. -/
theorem Raised.opened {w u : Watch κ} {n : Notification κ} (h : w.Raised n u)
    (shut : Shut w.detector) : u.detector.closed = false := by
  have watched := h.watched
  rw [h.torn, Detector.endSession_eq]
  cases closed : w.detector.closed with
  | false => rfl
  | true => simp [shut closed] at watched

theorem shut_outcome {d d' : Detector κ} {run : Option PingerId} {asked : List (Effect κ)}
    (h : d.Outcome run d' asked) (shut : Shut d)
    (latest : ∀ leader, d'.session.leader = some leader → d.session.leader = some leader) :
    Shut d' := by
  have same : d'.closed = d.closed ∨ d'.session.leader = none := by
    cases h with
    | ended closed attached listeners _ _ => exact .inr (by simp [Detector.endSession_eq])
    | _ => left; simp [Detector.endSession_eq, Detector.startSession, Detector.startPinger,
        Detector.stopPinger, Detector.addListener, Detector.removeListener]
  intro closed
  rcases same with same | idle
  · rw [Option.eq_none_iff_forall_ne_some]
    intro leader watched
    rw [same] at closed
    exact absurd (latest leader watched) (by simp [shut closed])
  · exact idle

theorem shut_step {w : Watch κ} (v : w.Valid) (shut : Shut w.detector) (takes : Bool)
    (m : Move κ) : Shut (w.step takes m).detector := by
  have h := step_cases v.sound takes m
  generalize w.step takes m = u at h ⊢
  cases h with
  | idle => exact shut
  | entered leader reason =>
    rw [update_detector]
    by_cases closed : w.detector.closed = true
    · rw [Detector.restart, if_pos closed]
      exact shut
    · intro opened
      simp [Detector.restart, closed, Detector.startSession, Detector.startPinger,
        Detector.endSession_eq] at opened
  | told r h latest =>
    rw [update_detector]
    exact shut_outcome h shut latest
  | reported node => cases takes <;> exact shut
  | went id source result a here =>
    rw [proceed, deliver_detector, update_detector]
    exact shut_outcome (Detector.goOn_outcome v.sound (v.fits_of_lookup here) source result) shut
      (w.detector.goOn_leader source result a)
  | accepted id p request sent e _ _ => exact shut

theorem shut_run {w : Watch κ} (v : w.Valid) (shut : Shut w.detector)
    (moves : List (Bool × Move κ)) : Shut (w.run moves).detector := by
  induction moves generalizing w with
  | nil => exact shut
  | cons m moves ih => exact ih (v.step m.1 m.2) (shut_step v shut m.1 m.2)

theorem step_delivered {w : Watch κ} (v : w.Valid) (takes : Bool) (m : Move κ) :
    w.deliveries <+: (w.step takes m).deliveries := by
  have h := step_cases v.sound takes m
  generalize w.step takes m = u at h ⊢
  cases h with
  | idle => exact List.prefix_refl _
  | entered leader reason =>
    have same := ((w.enter leader).update_deliveries none takes
      (w.detector.restart leader reason)).trans (w.enter_deliveries leader)
    exact same.symm ▸ List.prefix_refl _
  | told r _ _ =>
    have same := w.update_deliveries none takes r
    exact same.symm ▸ List.prefix_refl _
  | reported node => cases takes <;> exact List.prefix_refl _
  | went id source result a here =>
    have before := (w.without id).update_deliveries (some a) takes (w.detector.goOn source result a)
    unfold proceed deliver
    split
    · exact (List.prefix_append_of_prefix (before ▸ List.prefix_refl _))
    · exact before ▸ List.prefix_refl _
  | accepted id p request sent e _ _ => exact List.prefix_refl _

/-- What was noted stays. -/
theorem run_noted {w : Watch κ} (v : w.Valid) (later : List (Bool × Move κ)) :
    w.deliveries <+: (w.run later).deliveries ∧
      ∀ n ∈ w.notifications, n ∈ (w.run later).notifications := by
  induction later generalizing w with
  | nil => exact ⟨List.prefix_refl _, fun _ h => h⟩
  | cons m later ih =>
    obtain ⟨delivered, noted⟩ := ih (v.step m.1 m.2)
    obtain ⟨raised, same, _⟩ := step_notifications v m.1 m.2
    refine ⟨(step_delivered v m.1 m.2).trans delivered, fun n hn => noted n ?_⟩
    rw [same]
    exact List.mem_append_left _ hn

/-- As long as all calls for a failure are ahead, none was made. -/
theorem Accounted.uncalled {w : Watch κ} (t : w.Accounted) {n : Notification κ}
    (noted : n ∈ w.notifications) (taken : n.taken = true) {id : Nat}
    (pending : (id, .calling n.session n.listeners n.failure) ∈ w.activities) :
    callsFor n.session w.deliveries = [] := by
  have told := t.told n.session
  rw [t.ahead_eq pending rfl, t.owed_eq noted taken] at told
  exact List.append_left_eq_self.mp told

/-- Once all calls for a failure were made, none is made any more. -/
theorem Accounted.all_called {w : Watch κ} (v : w.Valid) (t : w.Accounted) {n : Notification κ}
    (here : n ∈ w.notifications) (taken : n.taken = true)
    (called : callsFor n.session w.deliveries = n.calls) (later : List (Bool × Move κ)) :
    callsFor n.session (w.run later).deliveries = n.calls := by
  obtain ⟨delivered, noted⟩ := run_noted v later
  have t' := t.run v later
  have bound : callsFor n.session (w.run later).deliveries <+: n.calls :=
    ⟨_, (t'.told n.session).trans (t'.owed_eq (noted n here) taken)⟩
  have least : n.calls <+: callsFor n.session (w.run later).deliveries :=
    called ▸ delivered.filter _
  exact bound.eq_of_length_le least.length_le

/-- The session with a leader goes on as it was started, with the chain `p`. -/
structure Fresh (w : Watch κ) (leader : Node) (p : PingerId) : Prop where
  session : w.detector.session =
    { leader := some leader, retryCount := 0, pinger := some p, notified := false }
  live : w.detector.isCurrent p = true

/-- The session of the last restart is left when the listeners were called, and if the scheduler
took it over, its first ping was scheduled while they were. -/
theorem Reached.last_restart {x w : Watch κ} {session : Nat} {failure : LeaderFailure}
    {called : List (Nat × κ)} {done : List (Bool × Callback)}
    (h : Reached x session failure called done w) (opened : x.detector.closed = false)
    {earlier later : List (Bool × Callback)} {taken : Bool} {leader : Node} {reason : String}
    (split : done = earlier ++ (taken, .restart leader reason) :: later)
    (unshut : ∀ c ∈ earlier, c.2 ≠ .shutdown) (removals : ∀ c ∈ later, ∃ id, c.2 = .remove id) :
    ∃ p, w.Fresh leader p ∧ (taken = true → ∃ id, x.begun ≤ id ∧
      (id, .scheduled p x.detector.settings.pingInterval) ∈ w.activities) := by
  have spared : Callback.shutdown ∉ earlier.map (·.2) := fun there => by
    obtain ⟨c, hc, same⟩ := List.mem_map.mp there
    exact unshut c hc same
  let d := (earlier.map (·.2)).foldl Callback.apply x.detector
  have session : w.detector.session = ⟨some leader, 0, some d.created, false⟩ := by
    rw [h.detector, split, List.map_append, List.map_cons]
    refine Callback.last_restart opened spared leader reason fun callback there => ?_
    obtain ⟨c, hc, rfl⟩ := List.mem_map.mp there
    exact removals c hc
  have live : w.detector.isCurrent d.created = true :=
    (h.valid.sound.current_iff _).mpr (by rw [session])
  refine ⟨d.created, ⟨session, live⟩, fun yes => ?_⟩
  subst yes
  have started := h.started earlier leader reason later split (Callback.all_open opened spared)
  rwa [Callback.all_settings] at started

end Watch

namespace Timed

variable {κ : Type} {t t' : Timed κ}

/-- From `t` to `t'` no time passed: what was begun in between was begun at that moment. -/
structure Instant (t t' : Timed κ) : Prop where
  now : t'.now = t.now
  since : ∀ id, t.watch.begun ≤ id → id < t'.watch.begun → t'.since id = t.now

theorem Instant.refl (t : Timed κ) : t.Instant t :=
  ⟨rfl, fun _ new old => absurd old (Nat.not_lt_of_le new)⟩

theorem Instant.go (h : t.Instant t') (m : Move κ) : t.Instant (t'.go m) where
  now := h.now
  since id new _ := by
    change (if id < t'.watch.begun then t'.since id else t'.now) = t.now
    split
    · next old => exact h.since id new old
    · exact h.now

/-- A ping that was scheduled meanwhile is due after its delay. -/
theorem Instant.due (h : t.Instant t') {id : Nat} (new : t.watch.begun ≤ id)
    (old : id < t'.watch.begun) (p : PingerId) (delay : Duration) :
    t'.due id (.scheduled p delay) = some (t.now + delay.millis) := by
  rw [Timed.due, h.since id new old]

/-- A move that lets nothing go on that waits for the clock is made at once. -/
theorem step_prompt {m : Move κ} (prompt : ∀ id, m.lets = some id → ∀ a,
    t.watch.activities.lookup id = some a → t.due id a = none) : t.step (.move m) = t.go m := by
  have permitted : t.permits m = true := by
    unfold permits
    split
    · rfl
    · next id lets =>
      split
      · rfl
      · next a here =>
        rw [prompt id lets a here]
        rfl
  rw [step, if_pos permitted]

theorem Instant.backs (h : t.Instant t') (cs : List (Bool × Callback))
    (taken : ∀ c ∈ cs, c.1 = true) :
    let moves : List (Bool × Move κ) := cs.map fun c => (c.1, c.2.move)
    let u := t'.run (moves.map (.move ·.2))
    t.Instant u ∧ u.watch = t'.watch.run moves := by
  induction cs generalizing t' with
  | nil => exact ⟨h, rfl⟩
  | cons c cs ih =>
    have now : t'.step (.move c.2.move) = t'.go c.2.move :=
      step_prompt fun id lets => by simp [c.2.move_lets] at lets
    obtain ⟨rest, same⟩ := ih (h.go c.2.move) fun c hc => taken c (List.mem_cons_of_mem _ hc)
    have first : t'.watch.step c.1 c.2.move = (t'.go c.2.move).watch := by
      rw [taken c List.mem_cons_self]
      rfl
    simp only [List.map_cons, run, List.foldl_cons, now, Watch.run, first]
    exact ⟨rest, same⟩

/-- The call of the listeners takes no time. -/
theorem Instant.dispatch (h : t.Instant t') (v : t'.watch.Valid) {id session : Nat}
    {failure : LeaderFailure} {rest : List (Nat × κ)}
    (here : t'.watch.activities.lookup id = some (.calling session rest failure)) (source : Node)
    (does : Nat × κ → List (Bool × Callback)) (taken : ∀ c ∈ rest.flatMap does, c.1 = true) :
    let moves := t'.watch.dispatch source does id rest
    let u := t'.run (moves.map (.move ·.2))
    t.Instant u ∧ u.watch = t'.watch.run moves := by
  have prompt {t' : Timed κ} {id : Nat} {rest : List (Nat × κ)}
      (here : t'.watch.activities.lookup id = some (.calling session rest failure)) :
      t'.step (.move (.proceed id source (.ok ()))) = t'.go (.proceed id source (.ok ())) :=
    step_prompt fun other lets a there => by
      obtain rfl := Option.some.inj lets
      obtain rfl := Option.some.inj (here.symm.trans there)
      rfl
  induction rest generalizing t' id with
  | nil =>
    simp only [Watch.dispatch, List.map_cons, List.map_nil, run, List.foldl_cons, List.foldl_nil,
      prompt here]
    exact ⟨h.go _, rfl⟩
  | cons listener rest ih =>
    let m : Move κ := .proceed id source (.ok ())
    let backs : List (Bool × Move κ) := (does listener).map fun c => (c.1, c.2.move)
    let u := (t'.go m).run (backs.map (.move ·.2))
    obtain ⟨first, same⟩ := (h.go m).backs (does listener) fun c hc =>
      taken c (List.mem_flatMap.mpr ⟨listener, List.mem_cons_self, hc⟩)
    have reached : t'.watch.run ((true, m) :: backs) = u.watch := same.symm
    have goes : t'.run (((true, m) :: backs).map (.move ·.2)) = u := by
      rw [run, List.map_cons, List.foldl_cons, prompt here]
      rfl
    have moves : t'.watch.dispatch source does id (listener :: rest) =
        ((true, m) :: backs) ++ u.watch.dispatch source does t'.watch.begun rest := by
      rw [Watch.dispatch, reached]
    have valid : u.watch.Valid := reached ▸ v.run _
    have left : u.watch.activities.lookup t'.watch.begun =
        some (.calling session rest failure) := by
      rw [← reached]
      exact v.calls_on here source (does listener)
    obtain ⟨others, called⟩ := ih first valid left fun c hc => by
      obtain ⟨x, hx, hc⟩ := List.mem_flatMap.mp hc
      exact taken c (List.mem_flatMap.mpr ⟨x, List.mem_cons_of_mem _ hx, hc⟩)
    have apart (more : List (Tick κ)) :
        t'.run (((true, m) :: backs).map (.move ·.2) ++ more) = u.run more := by
      rw [← goes]
      exact List.foldl_append
    dsimp only
    rw [moves, List.map_append, apart, Watch.run_append, reached]
    exact ⟨others, called⟩

end Timed

namespace Watch

variable {κ : Type}

/-- Listeners may call back. When a failure `n` is raised whose call the scheduler takes over, no
listener has been called for it once its session is torn down, and none is until the call goes on.
When it does, whatever happened meanwhile, all those are called who listened when the failure was
raised, each once, and no one is ever called for it again; and the detector is what the callbacks
make of it, one after the other. If no one else told it anything since the failure, it is idle when
they begin, so the session of the last restart is left unless it was ignored after a shutdown or a
later callback stopped it: none of its attempts failed, its failure was not notified, and its first
ping is due one interval later, if the scheduler took it over. -/
theorem callbacks_follow_teardown (settings : FaultDetectionConfig) (clusterName : ClusterName)
    (before : List (Bool × Move κ)) (takes : Bool) (m : Move κ) (n : Notification κ) :
    let w := (create settings clusterName).run before
    let u := w.step takes m
    u.notifications = w.notifications ++ [n] → n.taken = true →
      (n.session = w.latest ∧ n.listeners = w.detector.listeners ∧
        u.detector =
          { w.detector with session := { w.detector.session with notified := true } }.endSession ∧
        u.detector.session.leader = none ∧ u.detector.session.pinger = none) ∧
      ∀ meanwhile : List (Bool × Move κ), (∀ m ∈ meanwhile, m.2.lets ≠ some w.begun) →
        ∀ source (does : Nat × κ → List (Bool × Callback)),
          let x := u.run meanwhile
          let moves := x.dispatch source does w.begun n.listeners
          let done := n.listeners.flatMap does
          let v := x.run moves
          callsFor n.session x.deliveries = [] ∧
          v.deliveries = x.deliveries ++ n.calls ∧
          (∀ later, callsFor n.session (v.run later).deliveries = n.calls) ∧
          v.detector = (done.map (·.2)).foldl Callback.apply x.detector ∧
          (x.detector = u.detector → ∀ earlier taken leader reason later,
            done = earlier ++ (taken, .restart leader reason) :: later →
            (∀ c ∈ earlier, c.2 ≠ .shutdown) → (∀ c ∈ later, ∃ id, c.2 = .remove id) →
            ∃ p, v.Fresh leader p ∧
              (taken = true → ∃ id,
                v.activities.lookup id = some (.scheduled p settings.pingInterval) ∧
                ∀ t : Timed κ, t.watch = x → (∀ c ∈ done, c.1 = true) →
                  let t' := t.run (moves.map (.move ·.2))
                  t'.watch = v ∧ t'.now = t.now ∧
                    t'.due id (.scheduled p settings.pingInterval) =
                      some (t.now + settings.pingInterval.millis))) := by
  intro w u raised takenOver
  have valid : w.Valid := run_valid settings clusterName before
  have accounted : w.Accounted :=
    (create_accounted settings clusterName).run (create_valid settings clusterName) before
  have shut : Shut w.detector :=
    shut_run (create_valid settings clusterName) (fun _ => rfl) before
  have failed := step_raised valid takes m raised
  have idle : u.detector.session.leader = none ∧ u.detector.session.pinger = none := by
    rw [failed.torn]
    simp [Detector.endSession_eq]
  refine ⟨⟨failed.session, failed.listeners, failed.torn, idle⟩, ?_⟩
  intro meanwhile spared source does x moves done v
  have valid' : x.Valid := (valid.step takes m).run meanwhile
  have accounted' : x.Accounted := (accounted.step valid takes m).run (valid.step takes m) meanwhile
  have pending : (w.begun, .calling n.session n.listeners n.failure) ∈ x.activities :=
    run_kept (failed.pending takenOver) spared
  have noted : n ∈ x.notifications := by
    refine (run_noted (valid.step takes m) meanwhile).2 n ?_
    rw [raised]
    exact List.mem_append_right _ (List.mem_singleton_self n)
  have uncalled := accounted'.uncalled noted takenOver pending
  have reached : Reached x n.session n.failure n.listeners done v :=
    (Reached.start valid').dispatch (valid'.lookup_of_mem pending) source does
  have called : callsFor n.session v.deliveries = n.calls := by
    rw [reached.deliveries, callsFor_append, uncalled, List.nil_append]
    exact callsFor_same fun _ hd => Notification.session_of_mem hd
  have noted' : n ∈ v.notifications := (run_noted valid' moves).2 n noted
  refine ⟨uncalled, reached.deliveries,
    (accounted'.run valid' moves).all_called reached.valid noted' takenOver called,
    reached.detector, ?_⟩
  intro alone earlier taken leader reason later split unshut removals
  have opened : x.detector.closed = false := by
    rw [alone]
    exact failed.opened shut
  have same : x.detector.settings = settings :=
    (run_settings (valid.step takes m) meanwhile).trans <|
      (run_settings valid [(takes, m)]).trans <|
        run_settings (create_valid settings clusterName) before
  obtain ⟨p, fresh, scheduled⟩ := reached.last_restart opened split unshut removals
  rw [same] at scheduled
  refine ⟨p, fresh, fun yes => ?_⟩
  obtain ⟨id, new, there⟩ := scheduled yes
  refine ⟨id, reached.valid.lookup_of_mem there, fun t at' all => ?_⟩
  obtain ⟨instant, watch⟩ := (Timed.Instant.refl t).dispatch (at' ▸ valid')
    (at' ▸ valid'.lookup_of_mem pending) source does all
  rw [at'] at instant watch
  have young : id < v.begun := reached.valid.below _ there
  exact ⟨watch, instant.now, instant.due (at' ▸ new) (watch ▸ young) p _⟩

/-- The first of two listeners follows another leader at once and is rid of the second, who is
called all the same and changes its mind about whom to follow. -/
theorem second_listener_decides :
    let a : Node := ⟨"a", "1", "http://a"⟩
    let b : Node := ⟨"b", "1", "http://b"⟩
    let moves : List (Bool × Move String) :=
      [(true, .addListener "x"), (true, .addListener "y"), (true, .restart a "elected"),
        (true, .proceed 0 a (.ok ()))]
    let fails : Move String := .proceed 1 a (.error (.rejected "a" .noLongerLeader))
    let n : Notification String :=
      ⟨0, [(0, "x"), (1, "y")], ⟨a, some (.rejected "a" .noLongerLeader), "no longer leader"⟩, true⟩
    let does : Nat × String → List (Bool × Callback)
      | (0, _) => [(true, .restart a "again"), (true, .remove 1)]
      | _ => [(true, .stop "enough"), (true, .restart b "elected")]
    let w := (create {} "c").run moves
    let u := w.step true fails
    let x := u.run [(true, .lose a)]
    let v := x.run (x.dispatch a does w.begun n.listeners)
    (u.notifications = w.notifications ++ [n] ∧ n.taken = true) ∧
      v.deliveries.map (·.listener) = [(0, "x"), (1, "y")] ∧ v.detector.listeners = [(0, "x")] ∧
      ∃ p, v.Fresh b p := by
  intro a b moves fails n does w u x v
  have raised : u.notifications = w.notifications ++ [n] := rfl
  have goesOn := (callbacks_follow_teardown {} "c" moves true fails n raised rfl).2
  have called := goesOn [(true, .lose a)] (by decide) a does
  have made : v.deliveries = x.deliveries ++ n.calls := called.2.1
  have silent : x.deliveries = [] := rfl
  have alone : x.detector = u.detector := rfl
  have last := called.2.2.2.2 alone
    [(true, .restart a "again"), (true, .remove 1), (true, .stop "enough")] true b "elected" []
    rfl (by decide) (by simp)
  refine ⟨⟨raised, rfl⟩, ?_, by decide, last.imp fun p left => left.1⟩
  rw [made, silent]
  rfl

end Watch

end Vigil

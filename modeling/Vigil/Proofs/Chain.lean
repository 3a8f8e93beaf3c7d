import Vigil.Proofs.Session

/-!
The runs of a chain. A chain passes its one run on from timer to ping to new connection and never
has two of them; the chain of a session loses its run only if the scheduler refuses it.
-/

namespace Vigil

namespace Watch

variable {κ : Type}

/-- How many runs of a chain are under way. -/
def runs (w : Watch κ) (p : PingerId) : Nat :=
  w.activities.countP fun x => x.2.run == some p

theorem runs_spawn (w : Watch κ) (a : Activity κ) (p : PingerId) :
    (w.spawn a).runs p = w.runs p + if a.run = some p then 1 else 0 := by
  simp [runs, spawn, List.countP_append, List.countP_singleton]

theorem Valid.runs_without {w : Watch κ} (v : w.Valid) {id : Nat} {a : Activity κ}
    (h : w.activities.lookup id = some a) (p : PingerId) :
    w.runs p = (w.without id).runs p + if a.run = some p then 1 else 0 := by
  simpa [runs] using v.countP_without h (·.run == some p)

/-- A chain that was not started has no runs. -/
theorem Valid.runs_unborn {w : Watch κ} (v : w.Valid) {p : PingerId} (h : w.detector.created ≤ p) :
    w.runs p = 0 := by
  refine List.countP_eq_zero.mpr fun x hx run => ?_
  exact Nat.not_lt_of_le h ((v.fits x hx).started (by simpa using run))

/-- Every chain has at most one run, and the live one has one as long as the scheduler takes what it
is handed. A run that goes on is counted beside those under way. -/
structure Chained (w : Watch κ) (goesOn : Option PingerId) : Prop where
  single : ∀ p, w.runs p + (if goesOn = some p then 1 else 0) ≤ 1
  kept : w.refused = false → ∀ p, w.detector.session.pinger = some p →
    w.runs p + (if goesOn = some p then 1 else 0) = 1

theorem chained_work {w : Watch κ} {goesOn : Option PingerId} :
    w.work.Chained goesOn ↔ w.Chained goesOn :=
  ⟨fun c => ⟨c.single, c.kept⟩, fun c => ⟨c.single, c.kept⟩⟩

theorem create_chained (settings : FaultDetectionConfig) (clusterName : ClusterName) :
    (create settings clusterName : Watch κ).Chained none where
  single := by simp [create, runs]
  kept := by simp [create, Detector.create]

theorem Chained.spawn {w : Watch κ} {a : Activity κ} (c : w.Chained a.run) :
    (w.spawn a).Chained none where
  single p := by
    have one := c.single p
    rw [runs_spawn]
    simpa using one
  kept taken p live := by
    have one := c.kept taken p live
    rw [runs_spawn]
    simpa using one

theorem Chained.submit {w : Watch κ} {a : Activity κ} (c : w.Chained a.run) (takes : Bool) :
    (w.submit takes a).Chained none := by
  cases takes with
  | true => exact c.spawn
  | false =>
    refine ⟨fun p => ?_, fun taken => by simp [Watch.submit] at taken⟩
    have one := c.single p
    simp only [Watch.submit, runs, reduceCtorEq, if_false, Bool.false_eq_true] at one ⊢
    omega

theorem Chained.single_left {w : Watch κ} {goesOn : Option PingerId} (c : w.Chained goesOn)
    (p : PingerId) : w.runs p + (if (none : Option PingerId) = some p then 1 else 0) ≤ 1 := by
  have one := c.single p
  simp only [reduceCtorEq, if_false]
  omega

/-- A chain that starts has no run but the one that is now handed over. -/
theorem Chained.start {w : Watch κ} (v : w.Valid) {goesOn : Option PingerId}
    (c : w.Chained goesOn) {d : Detector κ} (live : d.session.pinger = some w.detector.created) :
    Chained { w with detector := d } (some w.detector.created) := by
  have unborn := v.runs_unborn (Nat.le_refl w.detector.created)
  constructor
  · intro p
    have one := c.single_left p
    by_cases new : w.detector.created = p
    · subst new
      simp only [runs] at unborn ⊢
      simp [unborn]
    · simpa [runs, new] using one
  · intro _ p current
    rw [live, Option.some.injEq] at current
    subst current
    simp only [runs] at unborn ⊢
    simp [unborn]

/-- An event hands the run that goes on over, or else the chain is live no longer. -/
theorem Chained.update {w : Watch κ} (v : w.Valid) (cause : Option (Activity κ))
    (c : w.Chained (cause.bind Activity.run)) (takes : Bool) (r : Detector κ × List (Effect κ))
    (h : w.detector.Outcome (cause.bind Activity.run) r.1 (requests r.2)) :
    (w.update cause takes r).Chained none := by
  rw [← chained_work, update_work]
  obtain ⟨d', effects⟩ := r
  dsimp only at h ⊢
  generalize requests effects = asked at h ⊢
  generalize hr : cause.bind Activity.run = run at c h
  cases h with
  | ignored other =>
    refine ⟨c.single_left, fun taken p live => ?_⟩
    have one := c.kept taken p live
    rwa [if_neg fun same => other p same live] at one
  | started leader _ =>
    rw [performAll_schedule]
    refine Chained.submit (chained_work.mpr (c.start v ?_)) takes
    simp [Detector.startSession, Detector.startPinger, Detector.endSession_eq]
  | ended closed attached listeners _ _ =>
    -- The run that goes on is lost here, but so is the session that it kept alive.
    refine ⟨c.single_left, fun _ p live => ?_⟩
    simp [work, Detector.endSession_eq] at live
  | joined listener none =>
    subst none
    exact ⟨c.single, c.kept⟩
  | left id none =>
    subst none
    exact ⟨c.single, c.kept⟩
  | failed leader cause' reason _ =>
    rw [performAll_dispatch]
    refine Chained.submit ⟨c.single_left, fun _ p live => ?_⟩ takes
    simp [work, raise, Detector.endSession_eq] at live
  | scheduled p same _ =>
    rw [performAll_schedule]
    subst same
    exact Chained.submit ⟨c.single, c.kept⟩ takes
  | pinged p request n same _ _ _ =>
    subst same
    exact chained_work.mpr (Chained.spawn ⟨c.single, c.kept⟩)
  | connecting p leader _ _ _ =>
    subst hr
    exact chained_work.mpr (Chained.spawn ⟨c.single, c.kept⟩)
  | reconnected p _ =>
    rw [performAll_schedule]
    exact Chained.submit (chained_work.mpr (c.start v rfl)) takes

theorem Chained.deliver {w : Watch κ} (c : w.Chained none) (a : Activity κ) :
    (w.deliver a).Chained none := by
  unfold Watch.deliver
  split
  · exact Chained.spawn ⟨c.single, c.kept⟩
  · exact c

theorem Chained.enter {w : Watch κ} (c : w.Chained none) (leader : Node) :
    (w.enter leader).Chained none := by
  unfold Watch.enter
  split
  · exact c
  · exact ⟨c.single, c.kept⟩

theorem Chained.without {w : Watch κ} (v : w.Valid) (c : w.Chained none) {id : Nat}
    {a : Activity κ} (h : w.activities.lookup id = some a) : (w.without id).Chained a.run where
  single p := by
    have one := c.single p
    rw [v.runs_without h p] at one
    simpa using one
  kept taken p live := by
    have one := c.kept taken p live
    rw [v.runs_without h p] at one
    simpa using one

theorem Chained.step {w : Watch κ} (v : w.Valid) (c : w.Chained none) (takes : Bool)
    (m : Move κ) : (w.step takes m).Chained none := by
  have h := step_cases v.sound takes m
  generalize w.step takes m = w' at h ⊢
  cases h with
  | idle => exact c
  | entered leader reason =>
    refine (c.enter leader).update (v.enter leader) none takes _ ?_
    rw [enter_detector]
    exact w.detector.restart_outcome leader reason
  | told r h _ => exact c.update v none takes r h
  | reported node => exact Chained.submit (a := .lost none node) c takes
  | went id source result a here =>
    refine (Chained.update (v.without id) (some a) (c.without v here) takes _ ?_).deliver a
    exact Detector.goOn_outcome v.sound (v.fits_of_lookup here) source result
  | accepted id p request sent e here _ =>
    -- The run goes on as the one that handles the loss.
    have own : (w.without id).work.Chained (some p) := chained_work.mpr (c.without v here)
    rw [← chained_work, accept_work]
    exact Chained.spawn own

theorem Chained.run {w : Watch κ} (v : w.Valid) (c : w.Chained none)
    (moves : List (Bool × Move κ)) : (w.run moves).Chained none := by
  induction moves generalizing w with
  | nil => exact c
  | cons m moves ih => exact ih (v.step m.1 m.2) (c.step v m.1 m.2)

/-- No chain ever has two runs under way. A leader that is watched is pinged by one run, that of the
live chain, unless the scheduler refused something; and whoever pings is the live chain and pings
that leader. -/
theorem one_run_per_chain (settings : FaultDetectionConfig) (clusterName : ClusterName)
    (moves : List (Bool × Move κ)) :
    let w := (create settings clusterName).run moves
    (∀ p, w.runs p ≤ 1) ∧
      (w.refused = false → ∀ leader, w.detector.session.leader = some leader →
        ∃ p, w.detector.session.pinger = some p ∧ w.runs p = 1) ∧
      ∀ takes m, ∃ effects, (w.step takes m).asked = w.asked ++ effects ∧
        ∀ p request, .ping p request ∈ effects →
          w.detector.session.pinger = some p ∧ w.detector.session.leader = some request.leader := by
  intro w
  have v : w.Valid := run_valid settings clusterName moves
  have c : w.Chained none :=
    (create_chained settings clusterName).run (create_valid settings clusterName) moves
  refine ⟨fun p => by simpa using c.single p, ?_, ?_⟩
  · intro taken leader watched
    obtain ⟨p, live⟩ := v.sound.pinger_of_leader watched
    exact ⟨p, live, by simpa using c.kept taken p live⟩
  · intro takes m
    obtain ⟨run, effects, h, asked⟩ := step_outcome v takes m
    refine ⟨effects, asked, fun p request ping => h.ping_live ?_⟩
    exact List.mem_filter.mpr ⟨ping, rfl⟩

/-- Two activities connect anew; the first of them that succeeds hands over to a new chain. -/
theorem reconnected_chain_runs :
    let a : Node := ⟨"a", "1", "http://a"⟩
    let settings : FaultDetectionConfig := { connectOnNetworkDisconnect := true }
    let moves : List (Bool × Move Unit) :=
      [(true, .restart a "elected"), (true, .proceed 0 a (.ok ())),
        (true, .proceed 1 a (.error (.disconnected "a" "reset"))), (true, .handle a),
        (true, .proceed 3 a (.ok ()))]
    let w := (create settings "c").run moves
    w.activities.length = 2 ∧ ∃ p, w.detector.session.pinger = some p ∧ w.runs p = 1 := by
  intro a settings moves
  obtain ⟨_, kept, _⟩ := one_run_per_chain settings "c" moves
  exact ⟨by decide, kept (by decide) a (by decide)⟩

end Watch

end Vigil

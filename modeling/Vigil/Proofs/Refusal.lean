import Vigil.Proofs.Chain
import Vigil.Proofs.Stale

/-!
What is left when the scheduler refuses what it is handed. A session whose failure is refused has
ended all the same. A session whose next ping is refused goes on, with a chain that has no run: if
no loss of its leader is under way, nothing will ever come of it unless the owner intervenes.
-/

namespace Vigil

namespace Detector

variable {κ : Type}

theorem Outcome.dispatch_ends {d d' : Detector κ} {run : Option PingerId}
    {asked : List (Effect κ)} (h : Outcome d run d' asked) {listeners : List (Nat × κ)}
    {failure : LeaderFailure} (dispatch : .dispatch listeners failure ∈ asked) :
    d'.session.leader = none := by
  cases h with
  | failed leader cause reason _ => rw [endSession_eq]
  | _ => simp at dispatch

/-- Only the live chain is handed over, and it is a new one or the one whose run goes on. -/
theorem Outcome.schedule_live {d d' : Detector κ} {run : Option PingerId}
    {asked : List (Effect κ)} (h : Outcome d run d' asked) {p : PingerId} {delay : Duration}
    (schedule : .schedule p delay ∈ asked) :
    asked = [.schedule p delay] ∧ d'.session.pinger = some p ∧
      (p = d.created ∨ run = some p) := by
  cases h with
  | started leader _ =>
    obtain ⟨rfl, rfl⟩ : p = d.created ∧ delay = d.settings.pingInterval := by
      simpa using schedule
    exact ⟨rfl, by simp [startSession, startPinger, endSession_eq], .inl rfl⟩
  | scheduled q same live =>
    obtain ⟨rfl, rfl⟩ : p = q ∧ delay = d.settings.pingInterval := by simpa using schedule
    exact ⟨rfl, live, .inr same⟩
  | reconnected q _ =>
    obtain ⟨rfl, rfl⟩ : p = d.created ∧ delay = ⟨0⟩ := by simpa using schedule
    exact ⟨rfl, rfl, .inl rfl⟩
  | _ => simp at schedule

end Detector

namespace Watch

variable {κ : Type}

theorem Chained.refused {w : Watch κ} (v : w.Valid) (cause : Option (Activity κ))
    (c : w.Chained (cause.bind Activity.run)) (r : Detector κ × List (Effect κ))
    (h : w.detector.Outcome (cause.bind Activity.run) r.1 (requests r.2)) {p : PingerId}
    {delay : Duration} (schedule : .schedule p delay ∈ r.2) :
    (w.update cause false r).detector.session.pinger = some p ∧
      (w.update cause false r).runs p = 0 := by
  obtain ⟨asked, live, own⟩ := h.schedule_live (List.mem_filter.mpr ⟨schedule, rfl⟩)
  -- What is refused never gets under way.
  have same : (w.update cause false r).work.activities = w.activities := by
    rw [update_work, asked, performAll_schedule]
    rfl
  have left : (w.update cause false r).runs p = w.runs p :=
    congrArg (List.countP fun x : Nat × Activity κ => x.2.run == some p) same
  refine ⟨(congrArg (·.session.pinger) (w.update_detector cause false r)).trans live, ?_⟩
  rw [left]
  rcases own with rfl | goesOn
  · exact v.runs_unborn (Nat.le_refl _)
  · -- The one run of this chain is the one that goes on.
    have one := c.single p
    rw [if_pos goesOn] at one
    omega

theorem Chained.step_refused {w : Watch κ} (v : w.Valid) (c : w.Chained none) (m : Move κ) :
    ∃ effects, (w.step false m).asked = w.asked ++ effects ∧
      (∀ listeners failure, .dispatch listeners failure ∈ effects →
        (w.step false m).detector.session.leader = none) ∧
      ∀ p delay, .schedule p delay ∈ effects →
        (w.step false m).detector.session.pinger = some p ∧ (w.step false m).runs p = 0 := by
  obtain ⟨run, effects, outcome, asked⟩ := step_outcome v false m
  refine ⟨effects, asked, fun listeners failure dispatch => ?_, fun p delay schedule => ?_⟩
  · exact outcome.dispatch_ends (List.mem_filter.mpr ⟨dispatch, rfl⟩)
  have h := step_cases v.sound false m
  generalize w.step false m = w' at h asked outcome ⊢
  cases h with
  | idle =>
    have none : effects = [] := List.append_right_eq_self.mp asked.symm
    simp [none] at schedule
  | entered leader reason =>
    have same : effects = (w.detector.restart leader reason).2 := by
      rw [update_asked, enter_asked] at asked
      exact (List.append_cancel_left asked).symm
    refine Chained.refused (v.enter leader) none (c.enter leader) _ ?_ (same ▸ schedule)
    rw [enter_detector]
    exact w.detector.restart_outcome leader reason
  | told r h _ =>
    have same : effects = r.2 := by
      rw [update_asked] at asked
      exact (List.append_cancel_left asked).symm
    exact Chained.refused v none c r h (same ▸ schedule)
  | reported node =>
    have none : effects = [] := List.append_right_eq_self.mp asked.symm
    simp [none] at schedule
  | went id source result a here =>
    have same : effects = (w.detector.goOn source result a).2 := by
      rw [proceed, deliver_asked, update_asked] at asked
      exact (List.append_cancel_left asked).symm
    have h := Detector.goOn_outcome v.sound (v.fits_of_lookup here) source result
    have refused := Chained.refused (v.without id) (some a) (c.without v here) _ h (same ▸ schedule)
    cases a with
    | calling session rest failure => simp [same, Detector.goOn] at schedule
    | _ => exact refused
  | accepted id q request sent e _ _ =>
    have same : effects = [.count (.pingFailures e.kind)] :=
      (List.append_cancel_left asked).symm
    simp [same] at schedule

/-- A leader is watched, but nothing that is under way concerns its session. -/
def Stranded (w : Watch κ) : Prop :=
  w.detector.session.leader.isSome = true ∧
    ∀ x ∈ w.activities, x.2.Stale w.detector ∨ x.2.callsFor.isSome = true

/-- A chain that has no run is of no use any more, unless a loss of the leader is under way. -/
theorem Valid.stranded {w : Watch κ} (v : w.Valid) {p : PingerId}
    (live : w.detector.session.pinger = some p) (none : w.runs p = 0)
    (unlost : ∀ x ∈ w.activities, ∀ leader, w.detector.session.leader = some leader → ∀ run,
      x.2 ≠ .lost run leader ∧ x.2 ≠ .connecting run (some p) leader) : w.Stranded := by
  obtain ⟨leader, watched⟩ := v.sound.leader_of_pinger live
  refine ⟨by rw [watched]; rfl, fun x hx => ?_⟩
  have other : x.2.run ≠ some p := by
    simpa using List.countP_eq_zero.mp none x hx
  have fits := v.fits x hx
  have unlost := unlost x hx leader watched
  cases h : x.2 with
  | scheduled q delay =>
    refine .inl fun same => other ?_
    rw [h, ← live, same]
    rfl
  | pinging q request sent =>
    refine .inl fun same => other ?_
    rw [h, ← live, same]
    rfl
  | connecting run before node =>
    rw [h] at fits unlost
    obtain ⟨⟨q, _, rfl, suits⟩, _⟩ := fits
    refine .inl (.inr fun same => ?_)
    rw [live, Option.some.injEq] at same
    subst same
    have aim := suits live
    rw [watched, Option.some.injEq] at aim
    exact (unlost run).2 (by rw [aim])
  | lost run node =>
    refine .inl fun same => (unlost run).1 ?_
    rw [watched, Option.some.injEq] at same
    rw [h, same]
  | calling session rest failure => exact .inr rfl

theorem Stranded.proceed {w : Watch κ} (v : w.Valid) (s : w.Stranded) (takes : Bool) {m : Move κ}
    (lets : m.lets.isSome = true) :
    (w.step takes m).detector = w.detector ∧ (w.step takes m).asked = w.asked ∧
      (w.step takes m).Stranded := by
  obtain ⟨watched, idle⟩ := s
  have goes (id : Nat) (source : Node) (result : Except TransportError Unit) :
      (w.step takes (.proceed id source result)).detector = w.detector ∧
        (w.step takes (.proceed id source result)).asked = w.asked ∧
        (w.step takes (.proceed id source result)).Stranded := by
    cases here : w.activities.lookup id with
    | none =>
      have same : w.step takes (.proceed id source result) = w := by simp only [step, here]
      rw [same]
      exact ⟨rfl, rfl, watched, idle⟩
    | some a =>
      have others : ∀ x ∈ (w.without id).activities,
          x.2.Stale w.detector ∨ x.2.callsFor.isSome = true :=
        fun x hx => idle x (List.mem_filter.mp hx).1
      rw [step_proceed here]
      rcases idle (id, a) (mem_of_lookup here) with stale | calls
      · rw [proceed_stale (v.without id) takes source result stale]
        exact ⟨rfl, rfl, watched, others⟩
      · cases a with
        | calling session rest failure =>
          -- A listener is called, and the calls to the others are still to be made.
          cases rest with
          | nil => exact ⟨rfl, rfl, watched, others⟩
          | cons listener rest =>
            refine ⟨rfl, rfl, watched, fun x hx => ?_⟩
            rcases List.mem_append.mp hx with hx | hx
            · exact others x hx
            · rw [List.mem_singleton.mp hx]
              exact .inr rfl
        | _ => cases calls
  cases m with
  | proceed id source result => exact goes id source result
  | accept id source node message =>
    refine accept_cases (P := fun u => u.detector = w.detector ∧ u.asked = w.asked ∧ u.Stranded)
      takes id source node message (goes id source _) fun p request sent here owns => ?_
    have stale := (idle _ (mem_of_lookup here)).resolve_right (by simp [Activity.callsFor])
    exact absurd ((v.sound.owns_iff p _).mp owns).1 stale
  | _ => cases lets

theorem Stranded.run {w : Watch κ} (v : w.Valid) (s : w.Stranded) (moves : List (Bool × Move κ))
    (lets : ∀ m ∈ moves, m.2.lets.isSome = true) :
    (w.run moves).detector = w.detector ∧ (w.run moves).asked = w.asked := by
  induction moves generalizing w with
  | nil => exact ⟨rfl, rfl⟩
  | cons m moves ih =>
    obtain ⟨same, asked, stranded⟩ := s.proceed v m.1 (lets m List.mem_cons_self)
    obtain ⟨same', asked'⟩ := ih (v.step m.1 m.2) stranded fun n hn =>
      lets n (List.mem_cons_of_mem m hn)
    exact ⟨same'.trans same, asked'.trans asked⟩

/-- A failure that the scheduler refuses to have told ends its session all the same. A ping that it
refuses leaves the leader watched by a chain that has no run left; and if no loss of that leader is
under way, nothing that is still under way pings it, ends its session or asks for anything. -/
theorem refusal_ends_or_strands (settings : FaultDetectionConfig) (clusterName : ClusterName)
    (moves : List (Bool × Move κ)) (m : Move κ) :
    let w := (create settings clusterName).run moves
    let v := w.step false m
    ∃ effects, v.asked = w.asked ++ effects ∧
      (∀ listeners failure, .dispatch listeners failure ∈ effects →
        v.detector.session.leader = none) ∧
      ∀ p delay, .schedule p delay ∈ effects →
        ∃ leader, v.detector.session.leader = some leader ∧
          v.detector.session.pinger = some p ∧ v.runs p = 0 ∧
          ((∀ x ∈ v.activities, ∀ run,
              x.2 ≠ .lost run leader ∧ x.2 ≠ .connecting run (some p) leader) →
            ∀ later, (∀ n ∈ later, n.2.lets.isSome = true) →
              (v.run later).detector = v.detector ∧ (v.run later).asked = v.asked) := by
  intro w v
  have valid : w.Valid := run_valid settings clusterName moves
  have chained : w.Chained none :=
    (create_chained settings clusterName).run (create_valid settings clusterName) moves
  have valid' : v.Valid := valid.step false m
  obtain ⟨effects, asked, ends, refused⟩ := chained.step_refused valid m
  refine ⟨effects, asked, ends, fun p delay schedule => ?_⟩
  obtain ⟨live, gone⟩ := refused p delay schedule
  obtain ⟨leader, watched⟩ := valid'.sound.leader_of_pinger live
  refine ⟨leader, watched, live, gone, fun unlost later lets => ?_⟩
  have stranded : v.Stranded := valid'.stranded live gone fun x hx node same => by
    rw [watched, Option.some.injEq] at same
    exact same ▸ unlost x hx
  exact stranded.run valid' later lets

/-- The next ping after a success is refused. -/
theorem refused_next_ping_strands :
    let a : Node := ⟨"a", "1", "http://a"⟩
    let w := (create {} "c" : Watch Unit).run
      [(true, .restart a "elected"), (true, .proceed 0 a (.ok ()))]
    let v := w.step false (.proceed 1 a (.ok ()))
    v.detector.session.leader = some a ∧ ∀ later, (∀ n ∈ later, n.2.lets.isSome = true) →
      (v.run later).detector = v.detector ∧ (v.run later).asked = v.asked := by
  intro a w v
  obtain ⟨effects, asked, _, refused⟩ := refusal_ends_or_strands (κ := Unit) {} "c"
    [(true, .restart a "elected"), (true, .proceed 0 a (.ok ()))] (.proceed 1 a (.ok ()))
  have here : .schedule 0 w.detector.settings.pingInterval ∈ effects := by
    have same : v.asked = w.asked ++ [.schedule 0 w.detector.settings.pingInterval] := rfl
    rw [List.append_cancel_left (asked.symm.trans same)]
    exact List.mem_singleton_self _
  obtain ⟨leader, watched, _, _, strands⟩ := refused 0 _ here
  have same : leader = a := by
    have aim : v.detector.session.leader = some a := by decide
    exact Option.some.inj (watched.symm.trans aim)
  have empty : v.activities = [] := rfl
  subst same
  exact ⟨watched, strands (by rw [empty]; simp)⟩

/-- The first ping of a session is refused, and its leader is watched for ever. -/
theorem refused_first_ping_keeps_leader :
    let a : Node := ⟨"a", "1", "http://a"⟩
    let w := (create {} "c" : Watch Unit).step false (.restart a "elected")
    w.detector.session.leader = some a ∧ ∀ later, (∀ n ∈ later, n.2.lets.isSome = true) →
      (w.run later).detector.session.leader = some a := by
  intro a w
  have valid : w.Valid := (create_valid {} "c").step false (.restart a "elected")
  have stranded : w.Stranded := ⟨by decide, fun x hx => absurd hx List.not_mem_nil⟩
  refine ⟨by decide, fun later lets => ?_⟩
  rw [(stranded.run valid later lets).1]
  decide

end Watch

end Vigil

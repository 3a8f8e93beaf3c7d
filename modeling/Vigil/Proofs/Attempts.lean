import Mathlib.Data.Nat.Pairing
import Vigil.Proofs.Clock
import Vigil.Proofs.Course

/-!
The attempts of one run. A run of a chain sends its ping again as long as attempts are left, but it
keeps no count of them: that is the session's, and others may reset it while a ping is under way.
Whoever does so stops the chain as well. So a run never makes more attempts than there are, and it
ends if each of its pings is answered.
-/

namespace Vigil

section counts

variable {κ : Type}

/-- What the session counts is what the live chain has tried: no attempt has failed while a ping is
scheduled, and all but the last while one awaits its answer. No run makes more than are allowed. -/
def Activity.Tallies (d : Detector κ) : Activity κ → Prop
  | .scheduled p _ => d.session.pinger = some p → d.session.retryCount = 0
  | .pinging p _ sent =>
    sent ≤ max 1 d.settings.pingRetries.toNat ∧
      (d.session.pinger = some p → d.session.retryCount.toNat + 1 = sent)
  | _ => True

theorem Activity.Tallies.kept {d d' : Detector κ} {a : Activity κ} (h : a.Tallies d)
    (settings : d'.settings = d.settings)
    (same : ∀ p, a.run = some p → d'.session.pinger = some p → d'.session = d.session) :
    a.Tallies d' := by
  cases a with
  | scheduled p delay =>
    intro live
    have session := same p rfl live
    rw [session] at live ⊢
    exact h live
  | pinging p request sent =>
    obtain ⟨bound, counted⟩ := h
    refine ⟨by rw [settings]; exact bound, ?_⟩
    intro live
    have session := same p rfl live
    rw [session] at live ⊢
    exact counted live
  | connecting run before leader => trivial
  | lost run node => trivial
  | calling session rest failure => trivial

end counts

/-- The automaton waits for an answer to its first ping, or to one that it has sent again. -/
theorem Stage.next_waiting {settings : FaultDetectionConfig} {clusterName : ClusterName}
    {leader source : Node} {result : Except TransportError Unit} {stage : Stage} {failures : Nat}
    {request : PingRequest}
    (waits : (stage.next settings clusterName leader source result).1 =
      .waiting failures request) :
    stage = .resting ∧ failures = 0 ∨
      ∃ before, stage = .waiting before request ∧ failures = before + 1 := by
  cases stage with
  | resting =>
    simp only [next, waiting.injEq] at waits
    exact .inl ⟨rfl, waits.1.symm⟩
  | waiting before asked =>
    right
    cases result with
    | ok _ => simp [next] at waits
    | error e =>
      cases e with
      | timeout n limit | remote n m =>
        simp only [next] at waits
        split at waits
        · simp only [waiting.injEq] at waits
          exact ⟨before, by rw [waits.2], waits.1.symm⟩
        · simp [fail] at waits
      | rejected n rejection => cases rejection <;> simp [next, fail] at waits
      | disconnected n m =>
        simp only [next] at waits
        split at waits <;> simp [fail] at waits
  | reconnecting before => cases result <;> simp [next, fail] at waits
  | failed failure => simp [next] at waits

namespace Detector

variable {κ : Type} {d d' : Detector κ} {a : Activity κ} {p : PingerId}

/-- Whatever happens beside the run of a chain leaves the session as it is, if the chain is live
afterwards. -/
theorem Outcome.session_kept {run : Option PingerId} {asked : List (Effect κ)}
    (h : Outcome d run d' asked) (old : p < d.created) (live : d'.session.pinger = some p)
    (other : run ≠ some p) : d'.session = d.session := by
  have same {q : PingerId} (own : run = some q) (current : d.session.pinger = some q)
      (pinger : d'.session.pinger = d.session.pinger) : d'.session = d.session := by
    rw [pinger, current] at live
    rw [own] at other
    exact absurd live other
  cases h with
  | ignored _ => rfl
  | started leader _ =>
    have new : d.created = p := by
      simpa [startSession, startPinger, endSession_eq] using live
    exact absurd new (Nat.ne_of_gt old)
  | ended closed attached listeners _ _ => simp [endSession_eq] at live
  | joined listener _ => rfl
  | left id _ => rfl
  | failed leader cause reason _ => simp [endSession_eq] at live
  | scheduled q own current => exact same own current rfl
  | pinged q request n own current _ _ => exact same own current rfl
  | connecting q leader _ _ _ => rfl
  | reconnected q _ =>
    have new : d.created = p := by
      simpa [startPinger, stopPinger] using live
    exact absurd new (Nat.ne_of_gt old)

/-- What the live chain does for its pings is what the automaton does at some stage. -/
theorem doing_of_live (fits : a.Fits d) (tallies : a.Tallies d) (round : a.round = some p)
    (live : d.session.pinger = some p) {leader : Node} (watched : d.session.leader = some leader) :
    ∃ stage : Stage, d.session.retryCount.toNat = stage.retryCount ∧ stage.Doing leader p a := by
  cases a with
  | scheduled q delay =>
    obtain rfl := Option.some.inj round
    have none : d.session.retryCount = 0 := tallies live
    exact ⟨.resting, by simp [none, Stage.retryCount], .resting delay⟩
  | pinging q request sent =>
    obtain rfl := Option.some.inj round
    have target : request.leader = leader := by
      have meant := fits.2 live
      rw [watched] at meant
      exact (Option.some.inj meant).symm
    exact ⟨.waiting d.session.retryCount.toNat request, rfl, .waiting _ request sent target⟩
  | _ => cases round

end Detector

/-- Whether a run that asks for this is suspended until it is done. -/
def Effect.suspends {κ : Type} : Effect κ → Bool
  | ping .. | connect .. => true
  | _ => false

/-- What a run of chain `p` comes to when it goes on as `a`. -/
inductive Detector.Resumes {κ : Type} (d : Detector κ) (p : PingerId) (a : Activity κ)
    (d' : Detector κ) : List (Effect κ) → Prop where
  /-- It makes one more attempt, and as many as it made before have failed. -/
  | pings (request : PingRequest) : d.session.pinger = some p → a.round = some p →
      d'.session.retryCount.toNat = a.sent → Resumes d p a d' [.ping p request]
  | connects (before : Option PingerId) (leader : Node) :
      Resumes d p a d' [.connect before leader]
  /-- It is over, and asks for nothing that it would wait for. -/
  | leaves (asked : List (Effect κ)) : (∀ e ∈ asked, e.suspends = false) →
      Resumes d p a d' asked

namespace Detector

variable {κ : Type} {d : Detector κ} {a : Activity κ} {p : PingerId}

theorem stale_of_round (round : a.round = some p) (dead : d.session.pinger ≠ some p) :
    a.Stale d := by
  cases a with
  | scheduled q delay =>
    obtain rfl := Option.some.inj round
    exact dead
  | pinging q request sent =>
    obtain rfl := Option.some.inj round
    exact dead
  | _ => cases round

theorem notifyFailure_leaves (d : Detector κ) (leader : Node) (cause : Option TransportError)
    (reason : String) : ∀ e ∈ (d.notifyFailure leader cause reason).2, e.suspends = false := by
  unfold notifyFailure
  split <;> simp [Effect.suspends]

/-- A run of any chain that handles a loss leaves it at that, or connects. -/
theorem disconnected_resumes (d : Detector κ) (p : PingerId) (a : Activity κ) (node : Node) :
    d.Resumes p a (d.disconnected node).1 (requests (d.disconnected node).2) := by
  unfold disconnected
  split
  · exact .leaves [] (by simp)
  · split
    · exact .connects d.session.pinger node
    · refine .leaves _ fun e he => ?_
      rcases List.mem_cons.mp (List.mem_filter.mp he).1 with rfl | told
      · rfl
      · exact d.notifyFailure_leaves node none _ e told

theorem connected_resumes (d : Detector κ) (p : PingerId) (a : Activity κ)
    (before : Option PingerId) (node : Node) (result : Except TransportError Unit) :
    d.Resumes p a (d.connected before node result).1
      (requests (d.connected before node result).2) := by
  refine .leaves _ fun e he => ?_
  have asked := (List.mem_filter.mp he).1
  unfold connected at asked
  split at asked
  · cases asked
  · cases result with
    | ok _ =>
      cases before <;> rcases List.mem_cons.mp asked with rfl | next
      · rfl
      · rw [List.mem_singleton.mp next]
        rfl
      · rfl
      · rw [List.mem_singleton.mp next]
        rfl
    | error failure =>
      rcases List.mem_cons.mp asked with rfl | told
      · rfl
      · exact d.notifyFailure_leaves node (some failure) _ e told

theorem round_resumes (s : d.Sound) (fits : a.Fits d) (tallies : a.Tallies d)
    (round : a.round = some p) (source : Node) (result : Except TransportError Unit) :
    d.Resumes p a (d.goOn source result a).1 (requests (d.goOn source result a).2) := by
  by_cases live : d.session.pinger = some p
  case neg =>
    have stale := goOn_stale s (stale_of_round round live) source result
    rw [stale]
    exact .leaves [] (by simp)
  obtain ⟨leader, watched⟩ := s.leader_of_pinger live
  -- The live run is at a stage of the automaton, and the session's count is that of the stage.
  obtain ⟨stage, counted, doing⟩ := doing_of_live fits tallies round live watched
  obtain ⟨e, only, _, reached⟩ := goOn_answers s live watched counted doing source result
  have outcome := goOn_outcome s fits source result
  rw [only] at outcome ⊢
  generalize course : (stage.next d.settings d.clusterName leader source result).1 = last at reached
  cases reached with
  | resting q delay _ _ _ => exact .leaves _ (by simp [Effect.suspends])
  | failed failure _ _ => exact .leaves _ (by simp [Effect.suspends])
  | reconnecting q _ _ _ => exact .connects (some q) leader
  | waiting q request _ _ _ =>
    have current := (outcome.ping_live (List.mem_singleton_self _)).1
    rw [live] at current
    obtain rfl := Option.some.inj current
    rcases Stage.next_waiting course with ⟨rfl, first⟩ | ⟨before, rfl, again⟩
    · cases doing with
      | resting delay => exact .pings request live rfl first
    · cases doing with
      | waiting _ _ sent _ =>
        have tried : d.session.retryCount.toNat + 1 = sent := tallies.2 live
        have same : d.session.retryCount.toNat = before := counted
        refine .pings request live rfl ?_
        rw [again, ← same]
        exact tried

theorem goOn_resumes (s : d.Sound) (fits : a.Fits d) (tallies : a.Tallies d)
    (run : a.run = some p) (source : Node) (result : Except TransportError Unit) :
    d.Resumes p a (d.goOn source result a).1 (requests (d.goOn source result a).2) := by
  cases a with
  | scheduled q delay => exact round_resumes s fits tallies run source result
  | pinging q request sent => exact round_resumes s fits tallies run source result
  | connecting own before node => exact d.connected_resumes p _ before node result
  | lost own node => exact d.disconnected_resumes p _ node
  | calling session rest failure => cases run

end Detector

namespace Watch

variable {κ : Type} {w : Watch κ}

/-- All work under way tallies with what the session counts. -/
def Tallied (w : Watch κ) : Prop := ∀ x ∈ w.activities, x.2.Tallies w.detector

theorem tallied_work : w.work.Tallied ↔ w.Tallied := Iff.rfl

theorem create_tallied (settings : FaultDetectionConfig) (clusterName : ClusterName) :
    (create settings clusterName : Watch κ).Tallied := by
  simp [Tallied, create]

theorem Tallied.spawn (t : w.Tallied) {a : Activity κ} (tallies : a.Tallies w.detector) :
    (w.spawn a).Tallied := by
  intro x hx
  rcases List.mem_append.mp hx with old | new
  · exact t x old
  · rw [List.mem_singleton.mp new]
    exact tallies

theorem Tallied.submit (t : w.Tallied) (takes : Bool) {a : Activity κ}
    (tallies : a.Tallies w.detector) : (w.submit takes a).Tallied := by
  cases takes with
  | true => exact t.spawn tallies
  | false => exact t

theorem Tallied.raise (t : w.Tallied) (failure : LeaderFailure) (taken : Bool) :
    (w.raise failure taken).Tallied := t

theorem Tallied.without (t : w.Tallied) (id : Nat) : (w.without id).Tallied :=
  fun x hx => t x (List.mem_filter.mp hx).1

/-- An event keeps the tally: `single` says that no run is left beside the one that goes on, and
`counts` that the attempt it makes, if it does, is the next one. -/
theorem Tallied.update (v : w.Valid) (t : w.Tallied) (cause : Option (Activity κ)) (takes : Bool)
    (r : Detector κ × List (Effect κ))
    (h : w.detector.Outcome (cause.bind Activity.run) r.1 (requests r.2))
    (single : ∀ p, cause.bind Activity.run = some p → ∀ x ∈ w.activities, x.2.run ≠ some p)
    (counts : ∀ p request, cause.bind Activity.run = some p → .ping p request ∈ requests r.2 →
      r.1.session.retryCount.toNat = cause.elim 0 Activity.sent) :
    (w.update cause takes r).Tallied := by
  have base : Tallied { w with detector := r.1 } := by
    intro x hx
    refine (t x hx).kept h.settings fun p run live => ?_
    have old : p < w.detector.created := (v.fits x hx).started run
    exact h.session_kept old live fun own => single p own x hx run
  rw [← tallied_work, update_work]
  rw [← tallied_work] at base
  obtain ⟨d', effects⟩ := r
  dsimp only at h counts base ⊢
  generalize requests effects = asked at h counts ⊢
  cases h with
  | ignored _ => exact base
  | started leader _ =>
    rw [performAll_schedule]
    refine base.submit takes (a := .scheduled _ _) fun _ => ?_
    simp [work, Detector.startSession, Detector.startPinger, Detector.endSession_eq]
  | ended closed attached listeners _ _ => exact base
  | joined listener _ => exact base
  | left id _ => exact base
  | failed leader cause' reason _ =>
    rw [performAll_dispatch]
    exact (base.raise _ takes).submit takes (a := .calling _ _ _) trivial
  | scheduled p _ _ =>
    rw [performAll_schedule]
    exact base.submit takes (a := .scheduled _ _) fun _ => rfl
  | pinged p request n own _ _ left =>
    have next := counts p request own (List.mem_singleton_self _)
    refine Tallied.spawn base (a := .pinging _ _ _) ⟨?_, fun _ => ?_⟩
    · rw [← next]
      exact left
    · rw [← next]
      rfl
  | connecting p leader _ _ _ => exact Tallied.spawn base (a := .connecting _ _ _) trivial
  | reconnected p _ =>
    rw [performAll_schedule]
    exact base.submit takes (a := .scheduled _ _) fun _ => rfl

theorem Tallied.deliver (t : w.Tallied) (a : Activity κ) : (w.deliver a).Tallied := by
  unfold Watch.deliver
  split
  · exact Tallied.spawn t (a := .calling _ _ _) trivial
  · exact t

theorem Tallied.enter (t : w.Tallied) (leader : Node) : (w.enter leader).Tallied := by
  unfold Watch.enter
  split
  · exact t
  · exact t

theorem Tallied.step (v : w.Valid) (c : w.Chained none) (t : w.Tallied) (takes : Bool)
    (m : Move κ) : (w.step takes m).Tallied := by
  have h := step_cases v.sound takes m
  generalize w.step takes m = w' at h ⊢
  cases h with
  | idle => exact t
  | entered leader reason =>
    refine (t.enter leader).update (v.enter leader) none takes _ ?_ nofun nofun
    rw [enter_detector]
    exact w.detector.restart_outcome leader reason
  | told r h _ => exact t.update v none takes r h nofun nofun
  | reported node => exact t.submit takes (a := .lost none node) trivial
  | went id source result a here =>
    have fits := v.fits_of_lookup here
    have tallies : a.Tallies w.detector := t (id, a) (mem_of_lookup here)
    have outcome := Detector.goOn_outcome v.sound fits source result
    refine ((t.without id).update (v.without id) (some a) takes _ outcome ?_ ?_).deliver a
    · intro p run
      exact c.others_run v (m := .proceed id source result) rfl here run
    · intro p request run ping
      have resumes := Detector.goOn_resumes v.sound fits tallies run source result
      generalize requests (w.detector.goOn source result a).2 = asked at resumes ping
      cases resumes with
      | pings _ _ _ next => exact next
      | connects _ _ => simp at ping
      | leaves _ leaves => cases leaves _ ping
  | accepted id p request sent e _ _ =>
    exact (t.without id).spawn (a := .lost (some p) request.leader) trivial

theorem Tallied.run (v : w.Valid) (c : w.Chained none) (t : w.Tallied)
    (moves : List (Bool × Move κ)) : (w.run moves).Tallied := by
  induction moves generalizing w with
  | nil => exact t
  | cons m moves ih => exact ih (v.step m.1 m.2) (c.step v m.1 m.2) (t.step v c m.1 m.2)

end Watch

/-- Whether a run has begun and is suspended: it awaits an answer or a connection, or has yet to
handle a loss that it accepted. -/
def Activity.suspended {κ : Type} : Activity κ → Bool
  | pinging .. | connecting .. | lost (some _) _ => true
  | _ => false

/-- A watch in which the attempts of one run are followed. -/
structure Attempts (κ : Type) where
  watch : Watch κ
  /-- The activity as which the run goes on, until it is over. -/
  place : Option Nat
  /-- How many pings the run has sent. -/
  made : Nat := 0

namespace Watch

variable {κ : Type} {w w' : Watch κ}

/-- The activity as which a run goes on that was let go on from `w` to `w'`. -/
def resumed (w w' : Watch κ) : Option Nat :=
  (w'.activities.find? fun x => decide (w.begun ≤ x.1) && x.2.suspended).map (·.1)

theorem resumed_concat {old : List (Nat × Activity κ)} {a : Activity κ}
    (earlier : ∀ x ∈ old, x.1 < w.begun) (activities : w'.activities = old ++ [(w.begun, a)])
    (suspended : a.suspended = true) : w.resumed w' = some w.begun := by
  have none : old.find? (fun x => decide (w.begun ≤ x.1) && x.2.suspended) = none := by
    rw [List.find?_eq_none]
    intro x hx
    have before := earlier x hx
    simp [Nat.not_le_of_lt before]
  simp [resumed, activities, List.find?_append, none, suspended]

theorem resumed_none (past : ∀ x ∈ w'.activities, x.1 < w.begun ∨ x.2.suspended = false) :
    w.resumed w' = none := by
  have none : w'.activities.find? (fun x => decide (w.begun ≤ x.1) && x.2.suspended) = none := by
    rw [List.find?_eq_none]
    intro x hx
    rcases past x hx with before | done
    · simp [Nat.not_le_of_lt before]
    · simp [done]
  simp [resumed, none]

end Watch

namespace Attempts

variable {κ : Type}

/-- One move: the pings sent in it are attempts of the run if it is the run that goes on. -/
def step (r : Attempts κ) (takes : Bool) (m : Move κ) : Attempts κ :=
  let next := r.watch.step takes m
  if r.place.isSome ∧ m.lets = r.place then
    { watch := next
      place := r.watch.resumed next
      made := r.made + (r.watch.pingedSince next).length }
  else { r with watch := next }

/-- The run begins that the activity `id` is, when its time has come. -/
def begin (w : Watch κ) (takes : Bool) (id : Nat) (source : Node)
    (result : Except TransportError Unit) : Attempts κ :=
  step { watch := w, place := some id } takes (.proceed id source result)

def run (r : Attempts κ) (moves : List (Bool × Move κ)) : Attempts κ :=
  moves.foldl (fun r m => r.step m.1 m.2) r

/-- What there is after so many moves of an endless course. -/
def after (r : Attempts κ) (course : Nat → Bool × Move κ) : Nat → Attempts κ
  | 0 => r
  | n + 1 => (r.after course n).step (course n).1 (course n).2

/-- The attempt that is under way: the activity that awaits the answer to the run's last ping. -/
def inFlight (r : Attempts κ) : Option Nat :=
  r.place.filter fun id => (r.watch.activities.lookup id).any Activity.asks

end Attempts

namespace Watch

variable {κ : Type} {w : Watch κ} {id : Nat} {a : Activity κ} {p : PingerId}

theorem deliver_run (w : Watch κ) (run : a.run = some p) : w.deliver a = w := by
  cases a with
  | calling session rest failure => cases run
  | scheduled q delay => rfl
  | pinging q request sent => rfl
  | connecting own before leader => rfl
  | lost own node => rfl

/-- What a run asks for is done where the run was let go on. -/
theorem step_run (here : w.activities.lookup id = some a) (run : a.run = some p) (takes : Bool)
    (source : Node) (result : Except TransportError Unit) :
    w.step takes (.proceed id source result) =
      (w.without id).update (some a) takes (w.detector.goOn source result a) := by
  rw [step_proceed here, proceed, deliver_run _ run]
  rfl

theorem step_run_pinged (here : w.activities.lookup id = some a) (run : a.run = some p)
    (takes : Bool) (source : Node) (result : Except TransportError Unit) :
    w.pingedSince (w.step takes (.proceed id source result)) =
      (requests (w.detector.goOn source result a).2).filterMap Effect.pings := by
  rw [pings_requests]
  apply pingedSince_of_asked
  rw [step_run here run, update_asked]
  rfl

theorem submit_leaves (takes : Bool) (done : a.suspended = false) :
    ∀ x ∈ (w.submit takes a).activities, x ∈ w.activities ∨ x.2.suspended = false := by
  intro x hx
  cases takes with
  | true =>
    rcases List.mem_append.mp hx with old | new
    · exact .inl old
    · rw [List.mem_singleton.mp new]
      exact .inr done
  | false => exact .inl hx

theorem perform_leaves (cause : Option (Activity κ)) (takes : Bool) {e : Effect κ}
    (leaves : e.suspends = false) :
    ∀ x ∈ (perform cause takes w e).activities, x ∈ w.activities ∨ x.2.suspended = false := by
  cases e with
  | tell notice => exact fun x hx => .inl hx
  | count series => exact fun x hx => .inl hx
  | schedule q delay => exact submit_leaves (w := w.note _) takes (a := .scheduled q delay) rfl
  | dispatch listeners failure =>
    exact submit_leaves (w := (w.note _).raise failure takes) takes
      (a := .calling _ listeners failure) rfl
  | ping q request => cases leaves
  | connect before leader => cases leaves

/-- Where nothing is asked for that a run would wait for, no run begins to wait. -/
theorem update_leaves (cause : Option (Activity κ)) (takes : Bool)
    (r : Detector κ × List (Effect κ)) (leaves : ∀ e ∈ requests r.2, e.suspends = false) :
    ∀ x ∈ (w.update cause takes r).activities, x ∈ w.activities ∨ x.2.suspended = false := by
  refine update_preserves (P := fun v => ∀ x ∈ v.activities, x ∈ w.activities ∨
    x.2.suspended = false) cause takes r (fun x hx => .inl hx) fun v e there h x hx => ?_
  have moves : e.suspends = false := by
    by_cases request : e.isRequest = true
    · exact leaves e (List.mem_filter.mpr ⟨there, request⟩)
    · cases e <;> first | rfl | exact absurd rfl request
  rcases perform_leaves cause takes moves x hx with old | done
  · exact h x old
  · exact .inr done

theorem Valid.without_below (v : w.Valid) (id : Nat) :
    ∀ x ∈ (w.without id).activities, x.1 < w.begun :=
  fun x hx => v.below x (List.mem_filter.mp hx).1

/-- A run that asks for one thing which it waits for goes on as the activity that this begins. -/
theorem Valid.step_suspends (v : w.Valid) (here : w.activities.lookup id = some a)
    (run : a.run = some p) (takes : Bool) (source : Node) (result : Except TransportError Unit)
    {e : Effect κ} (only : requests (w.detector.goOn source result a).2 = [e])
    (suspends : e.suspends = true) :
    ∃ b, (w.without id).begets (some a) e = some b ∧
      w.resumed (w.step takes (.proceed id source result)) = some w.begun ∧
      (w.step takes (.proceed id source result)).activities.lookup w.begun = some b := by
  have next := step_run here run takes source result
  have valid := v.step takes (.proceed id source result)
  have work := congrArg Watch.activities
    ((w.without id).update_work (some a) takes (w.detector.goOn source result a))
  rw [← next, only] at work
  have begun (b : Activity κ) (suspended : b.suspended = true)
      (activities : (w.step takes (.proceed id source result)).activities =
        (w.without id).activities ++ [(w.begun, b)]) :
      w.resumed (w.step takes (.proceed id source result)) = some w.begun ∧
        (w.step takes (.proceed id source result)).activities.lookup w.begun = some b := by
    refine ⟨resumed_concat (v.without_below id) activities suspended, ?_⟩
    apply valid.lookup_of_mem
    simp [activities]
  cases e with
  | ping q request => exact ⟨_, rfl, begun _ rfl work⟩
  | connect before leader => exact ⟨_, rfl, begun _ rfl work⟩
  | tell notice => cases suspends
  | count series => cases suspends
  | schedule q delay => cases suspends
  | dispatch listeners failure => cases suspends

/-- What a run of chain `p` comes to in a move that lets it go on as `a`. -/
inductive Resumed (w : Watch κ) (p : PingerId) (a : Activity κ) (w' : Watch κ) : Prop where
  | pings (request : PingRequest) : w.detector.session.pinger = some p → a.round = some p →
      w.resumed w' = some w.begun →
      w'.activities.lookup w.begun = some (.pinging p request (a.sent + 1)) →
      w.pingedSince w' = [p] → Resumed w p a w'
  /-- It has a lost connection to see to. -/
  | parts (b : Activity κ) : w.resumed w' = some w.begun → w'.activities.lookup w.begun = some b →
      b.run = some p → b.round = none → w.pingedSince w' = [] → Resumed w p a w'
  | leaves : w.resumed w' = none → w.pingedSince w' = [] → Resumed w p a w'

theorem Valid.proceed_resumed (v : w.Valid) (t : w.Tallied)
    (here : w.activities.lookup id = some a) (run : a.run = some p) (takes : Bool) (source : Node)
    (result : Except TransportError Unit) :
    w.Resumed p a (w.step takes (.proceed id source result)) := by
  have tallies : a.Tallies w.detector := t (id, a) (mem_of_lookup here)
  have resumes := Detector.goOn_resumes v.sound (v.fits_of_lookup here) tallies run source result
  have pinged := step_run_pinged here run takes source result
  generalize only : requests (w.detector.goOn source result a).2 = asked at resumes pinged
  cases resumes with
  | pings request live round _ =>
    obtain ⟨b, begets, resumed, lookup⟩ :=
      v.step_suspends here run takes source result only rfl
    obtain rfl := Option.some.inj begets
    exact .pings request live round resumed lookup pinged
  | connects before leader =>
    obtain ⟨b, begets, resumed, lookup⟩ :=
      v.step_suspends here run takes source result only rfl
    obtain rfl := Option.some.inj begets
    exact .parts _ resumed lookup run rfl pinged
  | leaves _ leaves =>
    have unpinged : asked.filterMap Effect.pings = [] := by
      rw [List.filterMap_eq_nil_iff]
      intro e he
      have leaves := leaves e he
      cases e with
      | ping q request => cases leaves
      | _ => rfl
    rw [unpinged] at pinged
    refine .leaves (resumed_none fun x hx => ?_) pinged
    rw [step_run here run] at hx
    rw [← only] at leaves
    rcases update_leaves _ takes _ leaves x hx with old | done
    · exact .inl (v.without_below id x old)
    · exact .inr done

/-- A run that accepts a loss pings no more. -/
theorem Valid.accept_resumed (v : w.Valid) (id : Nat) {request : PingRequest} (sent : Nat)
    (e : TransportError) (owns : w.detector.owns p request.leader = true) :
    w.Resumed p (.pinging p request sent) ((w.without id).accept p request.leader e) := by
  have valid : ((w.without id).accept p request.leader e).Valid := (v.without id).accept e owns
  let lost : Activity κ := .lost (some p) request.leader
  have begun : ((w.without id).accept p request.leader e).activities =
      (w.without id).activities ++ [(w.begun, lost)] := rfl
  have counted : ((w.without id).accept p request.leader e).asked =
      w.asked ++ [.count (.pingFailures e.kind)] := rfl
  refine .parts lost (resumed_concat (v.without_below id) begun rfl) ?_ rfl rfl
    (pingedSince_of_asked counted)
  exact valid.lookup_of_mem (List.mem_append_right _ (List.mem_singleton_self _))

theorem Valid.step_resumed (v : w.Valid) (t : w.Tallied) (here : w.activities.lookup id = some a)
    (run : a.run = some p) (takes : Bool) {m : Move κ} (lets : m.lets = some id) :
    w.Resumed p a (w.step takes m) := by
  cases m with
  | proceed i source result =>
    obtain rfl := Option.some.inj lets
    exact v.proceed_resumed t here run takes source result
  | accept i source node message =>
    obtain rfl := Option.some.inj lets
    refine accept_cases takes i source node message
      (v.proceed_resumed t here run takes source _) fun q request sent pings owns => ?_
    obtain rfl := Option.some.inj (here.symm.trans pings)
    obtain rfl := Option.some.inj run
    exact v.accept_resumed i sent _ owns
  | _ => cases lets

end Watch

namespace Attempts

variable {κ : Type}

/-- What holds of a run of chain `p` from its first ping on. -/
structure Tracks (settings : FaultDetectionConfig) (p : PingerId) (r : Attempts κ) : Prop where
  valid : r.watch.Valid
  chained : r.watch.Chained none
  tallied : r.watch.Tallied
  same : r.watch.detector.settings = settings
  started : p < r.watch.detector.created
  bounded : r.made ≤ max 1 settings.pingRetries.toNat
  /-- It awaits the answer to the last of its pings, or else sees to a lost connection, until it is
  over. -/
  stands : ∀ id, r.place = some id →
    (∃ request, r.watch.activities.lookup id = some (.pinging p request r.made)) ∨
      ∃ a, r.watch.activities.lookup id = some a ∧ a.run = some p ∧ a.round = none

variable {settings : FaultDetectionConfig} {p : PingerId} {r : Attempts κ} {id : Nat}

theorem inFlight_of_pinging {request : PingRequest} {sent : Nat} (place : r.place = some id)
    (here : r.watch.activities.lookup id = some (.pinging p request sent)) :
    r.inFlight = some id := by
  simp [inFlight, place, here, Activity.asks]

theorem inFlight_of_apart {a : Activity κ} (place : r.place = some id)
    (here : r.watch.activities.lookup id = some a) (apart : a.round = none) :
    r.inFlight = none := by
  cases a with
  | pinging q request sent => cases apart
  | _ => simp [inFlight, place, here, Activity.asks]

theorem inFlight_of_over (past : r.place = none) : r.inFlight = none := by
  simp [inFlight, past]

theorem place_of_inFlight (flight : r.inFlight = some id) : r.place = some id := by
  have kept := Option.filter_eq_some_iff.mp flight
  exact kept.1

theorem Tracks.pinging (k : r.Tracks settings p) (flight : r.inFlight = some id) :
    ∃ request, r.watch.activities.lookup id = some (.pinging p request r.made) := by
  have place := place_of_inFlight flight
  rcases k.stands id place with asks | ⟨a, here, _, apart⟩
  · exact asks
  · have none := inFlight_of_apart place here apart
    rw [none] at flight
    cases flight

theorem step_own (place : r.place = some id) (takes : Bool) {m : Move κ}
    (lets : m.lets = some id) :
    r.step takes m =
      { watch := r.watch.step takes m
        place := r.watch.resumed (r.watch.step takes m)
        made := r.made + (r.watch.pingedSince (r.watch.step takes m)).length } := by
  simp [step, place, lets]

theorem step_other (takes : Bool) {m : Move κ} (other : ¬ (r.place.isSome ∧ m.lets = r.place)) :
    r.step takes m = { r with watch := r.watch.step takes m } := by
  rw [step, if_neg other]

theorem step_apart (place : r.place = some id) (takes : Bool) {m : Move κ}
    (other : m.lets ≠ some id) : r.step takes m = { r with watch := r.watch.step takes m } := by
  apply step_other
  rw [place]
  exact fun own => other own.2

theorem step_watch (r : Attempts κ) (takes : Bool) (m : Move κ) :
    (r.step takes m).watch = r.watch.step takes m := by
  unfold step
  dsimp only
  split <;> rfl

theorem Tracks.left (k : r.Tracks settings p) {a : Activity κ}
    (here : r.watch.activities.lookup id = some a) (takes : Bool) {m : Move κ}
    (other : m.lets ≠ some id) : (r.step takes m).watch.activities.lookup id = some a := by
  rw [step_watch]
  have kept := Watch.step_kept (Watch.mem_of_lookup here) takes other
  exact (k.valid.step takes m).lookup_of_mem kept

/-- Where the run goes on is an activity of its chain, and if that awaits an answer, it is the
attempt under way. -/
theorem Tracks.here (k : r.Tracks settings p) (place : r.place = some id) :
    ∃ a, r.watch.activities.lookup id = some a ∧ a.run = some p ∧
      (a.round = some p → r.inFlight = some id ∧ a.sent = r.made) := by
  rcases k.stands id place with ⟨request, here⟩ | ⟨a, here, own, apart⟩
  · exact ⟨_, here, rfl, fun _ => ⟨inFlight_of_pinging place here, rfl⟩⟩
  · refine ⟨a, here, own, fun round => ?_⟩
    rw [apart] at round
    cases round

/-- What a move comes to for a run: nothing, if it lets another go on; or else one more attempt, a
lost connection to see to in place of an answer, or the end of the run. -/
inductive Advance (r : Attempts κ) (p : PingerId) (m : Move κ) (r' : Attempts κ) : Prop where
  | waits : (∀ id, r.place = some id → m.lets ≠ some id) → r'.place = r.place → r'.made = r.made →
      Advance r p m r'
  | attempts (id new : Nat) (request : PingRequest) : r.inFlight = some id → m.lets = some id →
      r.watch.detector.session.pinger = some p → r'.place = some new →
      r'.watch.activities.lookup new = some (.pinging p request r'.made) →
      r'.made = r.made + 1 → Advance r p m r'
  | parts (id new : Nat) (a : Activity κ) : r.place = some id → m.lets = some id →
      r'.place = some new → r'.watch.activities.lookup new = some a → a.run = some p →
      a.round = none → r'.made = r.made → Advance r p m r'
  | ends (id : Nat) : r.place = some id → m.lets = some id → r'.place = none →
      r'.made = r.made → Advance r p m r'

theorem Tracks.advance (k : r.Tracks settings p) (takes : Bool) (m : Move κ) :
    r.Advance p m (r.step takes m) := by
  by_cases own : r.place.isSome ∧ m.lets = r.place
  case neg =>
    rw [step_other takes own]
    refine .waits (fun id place lets => own ?_) rfl rfl
    simp [place, lets]
  obtain ⟨stands, lets⟩ := own
  obtain ⟨id, place⟩ := Option.isSome_iff_exists.mp stands
  rw [place] at lets
  rw [step_own place takes lets]
  obtain ⟨a, here, run, awaits⟩ := k.here place
  cases k.valid.step_resumed k.tallied here run takes lets with
  | pings request live round next lookup pinged =>
    obtain ⟨flight, sent⟩ := awaits round
    refine .attempts id _ request flight lets live next ?_ ?_
    · rw [lookup, pinged, sent]
      rfl
    · rw [pinged]
      rfl
  | parts b next lookup own apart pinged =>
    refine .parts id _ b place lets next lookup own apart ?_
    rw [pinged]
    rfl
  | leaves next pinged =>
    refine .ends id place lets next ?_
    rw [pinged]
    rfl

theorem Tracks.step (k : r.Tracks settings p) (takes : Bool) (m : Move κ) :
    (r.step takes m).Tracks settings p := by
  have same := r.step_watch takes m
  have valid : (r.step takes m).watch.Valid := by
    rw [same]
    exact k.valid.step takes m
  have tallied : (r.step takes m).watch.Tallied := by
    rw [same]
    exact k.tallied.step k.valid k.chained takes m
  have kept : (r.step takes m).watch.detector.settings = settings := by
    rw [same, ← k.same]
    exact Watch.run_settings k.valid [(takes, m)]
  have advance := k.advance takes m
  constructor
  case valid => exact valid
  case tallied => exact tallied
  case same => exact kept
  case chained =>
    rw [same]
    exact k.chained.step k.valid takes m
  case started =>
    rw [same]
    exact Nat.lt_of_lt_of_le k.started (k.valid.created_le_step takes m)
  case bounded =>
    cases advance with
    | waits _ _ made => exact made ▸ k.bounded
    | parts _ _ _ _ _ _ _ _ _ made => exact made ▸ k.bounded
    | ends _ _ _ _ made => exact made ▸ k.bounded
    | attempts id new request _ _ _ _ here _ =>
      have tallies := tallied _ (Watch.mem_of_lookup here)
      have bound := tallies.1
      rwa [kept] at bound
  case stands =>
    intro id place
    cases advance with
    | ends _ _ _ past _ =>
      rw [past] at place
      cases place
    | attempts _ new request _ _ _ next here _ =>
      rw [next] at place
      obtain rfl := Option.some.inj place
      exact .inl ⟨request, here⟩
    | parts _ new a _ _ next here own apart _ =>
      rw [next] at place
      obtain rfl := Option.some.inj place
      exact .inr ⟨a, here, own, apart⟩
    | waits other still made =>
      rw [still] at place
      rw [made]
      rcases k.stands id place with ⟨request, here⟩ | ⟨a, here, own, apart⟩
      · exact .inl ⟨request, k.left here takes (other id place)⟩
      · exact .inr ⟨a, k.left here takes (other id place), own, apart⟩

theorem Tracks.run (k : r.Tracks settings p) (moves : List (Bool × Move κ)) :
    (r.run moves).Tracks settings p := by
  induction moves generalizing r with
  | nil => exact k
  | cons m moves ih => exact ih (k.step m.1 m.2)

theorem Tracks.after (k : r.Tracks settings p) (course : Nat → Bool × Move κ) (n : Nat) :
    (r.after course n).Tracks settings p := by
  induction n with
  | zero => exact k
  | succ n ih => exact ih.step (course n).1 (course n).2

end Attempts

namespace Attempts

variable {κ : Type} {settings : FaultDetectionConfig} {p : PingerId} {r : Attempts κ} {id : Nat}

theorem Tracks.running_iff (k : r.Tracks settings p) :
    p ∈ r.watch.detector.running ↔ r.watch.detector.session.pinger = some p :=
  k.valid.sound.running p k.started

/-- The session has counted all attempts but the one that is under way. -/
theorem Tracks.counted (k : r.Tracks settings p) (flight : r.inFlight = some id)
    (live : p ∈ r.watch.detector.running) :
    r.watch.detector.session.retryCount.toNat + 1 = r.made := by
  obtain ⟨request, here⟩ := k.pinging flight
  have tallies := k.tallied _ (Watch.mem_of_lookup here)
  exact tallies.2 (k.running_iff.mp live)

/-- Once its chain is stopped, a run makes no more attempts. -/
theorem Tracks.stopped (k : r.Tracks settings p) (dead : p ∉ r.watch.detector.running)
    (moves : List (Bool × Move κ)) : (r.run moves).made = r.made := by
  induction moves generalizing r with
  | nil => rfl
  | cons m moves ih =>
    have next := k.step m.1 m.2
    have still : p ∉ (r.step m.1 m.2).watch.detector.running := by
      rw [next.running_iff, step_watch]
      rw [k.running_iff] at dead
      exact fun live => dead (k.valid.step_live m.1 m.2 k.started live).1
    have one : (r.step m.1 m.2).made = r.made := by
      cases k.advance m.1 m.2 with
      | waits _ _ made => exact made
      | parts _ _ _ _ _ _ _ _ _ made => exact made
      | ends _ _ _ _ made => exact made
      | attempts _ _ _ _ _ live _ _ _ => exact absurd (k.running_iff.mpr live) dead
    have rest := ih next still
    rw [one] at rest
    exact rest

end Attempts

namespace Watch

variable {κ : Type} {w : Watch κ} {p : PingerId} {x : Nat × Activity κ}

theorem Valid.proceed_session_kept (v : w.Valid) (c : w.Chained none) (there : x ∈ w.activities)
    (run : x.2.run = some p) (takes : Bool) {id : Nat} (other : id ≠ x.1) (source : Node)
    (result : Except TransportError Unit)
    (live : (w.step takes (.proceed id source result)).detector.session.pinger = some p) :
    (w.step takes (.proceed id source result)).detector.session = w.detector.session := by
  cases here : w.activities.lookup id with
  | none => simp only [Watch.step, here]
  | some a =>
    have next : (w.step takes (.proceed id source result)).detector =
        (w.detector.goOn source result a).1 := by
      rw [step_proceed here, Watch.proceed, deliver_detector, update_detector]
      rfl
    have outcome := Detector.goOn_outcome v.sound (v.fits_of_lookup here) source result
    rw [next] at live ⊢
    refine outcome.session_kept ((v.fits x there).started run) live fun own => ?_
    -- A chain has one run, and that is not the one that goes on.
    exact c.others_run v (m := .proceed id source result) rfl here own x
      (without_kept there other) run

/-- The session whose chain has its run in the activity `x` is left as it is by every move that does
not let `x` go on, unless the move stops the chain. -/
theorem Valid.step_session_kept (v : w.Valid) (c : w.Chained none) (there : x ∈ w.activities)
    (run : x.2.run = some p) (takes : Bool) {m : Move κ} (other : m.lets ≠ some x.1)
    (live : (w.step takes m).detector.session.pinger = some p) :
    (w.step takes m).detector.session = w.detector.session := by
  have old : p < w.detector.created := (v.fits x there).started run
  have alone {cause : Option PingerId} {r : Detector κ × List (Effect κ)}
      (h : w.detector.Outcome cause r.1 (requests r.2)) (apart : cause ≠ some p)
      (same : (w.step takes m).detector = r.1) :
      (w.step takes m).detector.session = w.detector.session := by
    rw [same] at live ⊢
    exact h.session_kept old live apart
  cases m with
  | restart leader reason =>
    exact alone (w.detector.restart_outcome leader reason) nofun (update_detector ..)
  | stop reason => exact alone (w.detector.stop_outcome reason) nofun (update_detector ..)
  | shutdown => exact alone w.detector.shutdown_outcome nofun (update_detector ..)
  | drop => exact alone (r := (_, [])) w.detector.endSession_outcome nofun rfl
  | addListener listener => rfl
  | removeListener id => rfl
  | lose node => cases takes <;> rfl
  | handle node =>
    have outcome := Detector.disconnected_outcome v.sound none node nofun
    exact alone outcome nofun (update_detector ..)
  | proceed id source result =>
    exact v.proceed_session_kept c there run takes (fun same => other (congrArg some same)) source
      result live
  | accept id source node message =>
    have goes := v.proceed_session_kept c there run takes (fun same => other (congrArg some same))
      source (.error (.disconnected node message))
    exact accept_cases (P := fun u => u.detector.session.pinger = some p →
      u.detector.session = w.detector.session) takes id source node message goes
      (fun _ _ _ _ _ _ => rfl) live

end Watch

namespace Attempts

variable {κ : Type} {settings : FaultDetectionConfig} {p : PingerId} {r : Attempts κ} {id : Nat}

/-- Whatever others do while an attempt is under way leaves the session as it is, or it stops the
chain, and then no attempt follows. -/
theorem Tracks.others (k : r.Tracks settings p) (flight : r.inFlight = some id) (takes : Bool)
    {m : Move κ} (other : m.lets ≠ some id) :
    (r.watch.step takes m).detector.session = r.watch.detector.session ∨
      p ∉ (r.watch.step takes m).detector.running ∧
        ∀ more, ((r.step takes m).run more).made = r.made := by
  obtain ⟨request, here⟩ := k.pinging flight
  have there := Watch.mem_of_lookup here
  have next := k.step takes m
  by_cases live : p ∈ (r.watch.step takes m).detector.running
  · left
    rw [← step_watch, next.running_iff, step_watch] at live
    exact k.valid.step_session_kept k.chained there rfl takes other live
  · right
    refine ⟨live, fun more => ?_⟩
    rw [← step_watch] at live
    rw [next.stopped live more, step_apart (place_of_inFlight flight) takes other]

/-- An attempt stays under way until its answer comes. -/
theorem Tracks.unanswered (k : r.Tracks settings p) (flight : r.inFlight = some id) (takes : Bool)
    {m : Move κ} (other : m.lets ≠ some id) :
    (r.step takes m).inFlight = some id ∧ (r.step takes m).made = r.made := by
  have place := place_of_inFlight flight
  obtain ⟨request, here⟩ := k.pinging flight
  have left := k.left here takes other
  rw [step_apart place takes other] at left ⊢
  exact ⟨inFlight_of_pinging place left, rfl⟩

/-- With its answer an attempt is the last one, or one more is made. -/
theorem Tracks.answered (k : r.Tracks settings p) (flight : r.inFlight = some id) (takes : Bool)
    {m : Move κ} (lets : m.lets = some id) :
    (r.step takes m).inFlight = none ∧ (r.step takes m).made = r.made ∨
      ∃ new, (r.step takes m).inFlight = some new ∧ (r.step takes m).made = r.made + 1 := by
  cases k.advance takes m with
  | waits other _ _ => exact absurd lets (other id (place_of_inFlight flight))
  | attempts _ new request _ _ _ place here made =>
    exact .inr ⟨new, inFlight_of_pinging place here, made⟩
  | parts _ _ _ _ _ place here _ apart made =>
    exact .inl ⟨inFlight_of_apart place here apart, made⟩
  | ends _ _ _ past made => exact .inl ⟨inFlight_of_over past, made⟩

/-- Once no attempt is under way, none is made any more. -/
theorem Tracks.ended (k : r.Tracks settings p) (past : r.inFlight = none) (takes : Bool)
    (m : Move κ) : (r.step takes m).inFlight = none ∧ (r.step takes m).made = r.made := by
  cases k.advance takes m with
  | attempts id _ _ flight _ _ _ _ _ =>
    rw [past] at flight
    cases flight
  | parts _ _ _ _ _ place here _ apart made => exact ⟨inFlight_of_apart place here apart, made⟩
  | ends _ _ _ gone made => exact ⟨inFlight_of_over gone, made⟩
  | waits other still made =>
    refine ⟨?_, made⟩
    cases place : r.place with
    | none =>
      rw [place] at still
      exact inFlight_of_over still
    | some id =>
      rw [place] at still
      rcases k.stands id place with ⟨request, here⟩ | ⟨a, here, _, apart⟩
      · have flight := inFlight_of_pinging place here
        rw [past] at flight
        cases flight
      · exact inFlight_of_apart still (k.left here takes (other id place)) apart

/-- An attempt that is answered after a while is under way until the first answer comes. -/
theorem Tracks.until_answered (k : r.Tracks settings p) (course : Nat → Bool × Move κ) (wait : Nat)
    {n : Nat} (lets : (course (n + wait)).2.lets = some id)
    (flight : (r.after course n).inFlight = some id) :
    ∃ m, (course m).2.lets = some id ∧ (r.after course m).inFlight = some id ∧
      (r.after course m).made = (r.after course n).made := by
  induction wait generalizing n with
  | zero => exact ⟨n, lets, flight, rfl⟩
  | succ wait ih =>
    by_cases now : (course n).2.lets = some id
    · exact ⟨n, now, flight, rfl⟩
    · obtain ⟨still, made⟩ := (k.after course n).unanswered flight (course n).1 now
      have next : n + (wait + 1) = n + 1 + wait := by omega
      rw [next] at lets
      obtain ⟨m, lets, flight, same⟩ := ih lets still
      exact ⟨m, lets, flight, same.trans made⟩

/-- If every attempt is answered, none is under way in the end: each answer uses up one of the
attempts that are left. -/
theorem Tracks.ends (k : r.Tracks settings p) (course : Nat → Bool × Move κ)
    (answers : ∀ n id, (r.after course n).inFlight = some id →
      ∃ m, n ≤ m ∧ (course m).2.lets = some id) :
    ∃ n, (r.after course n).inFlight = none := by
  have next (n : Nat) : (∃ m, (r.after course m).inFlight = none) ∨
      ∃ m, (r.after course m).made = (r.after course n).made + 1 := by
    cases flight : (r.after course n).inFlight with
    | none => exact .inl ⟨n, flight⟩
    | some id =>
      obtain ⟨later, above, lets⟩ := answers n id flight
      obtain ⟨wait, rfl⟩ := Nat.exists_eq_add_of_le above
      obtain ⟨m, lets, flight, made⟩ := k.until_answered course wait lets flight
      rcases (k.after course m).answered flight (course m).1 lets with ⟨past, _⟩ | ⟨_, _, more⟩
      · exact .inl ⟨m + 1, past⟩
      · refine .inr ⟨m + 1, ?_⟩
        rw [← made]
        exact more
  -- By induction on the attempts that are left: with none left, the next answer is the last.
  have all (left : Nat) : ∀ n, max 1 settings.pingRetries.toNat ≤ (r.after course n).made + left →
      ∃ m, (r.after course m).inFlight = none := by
    induction left with
    | zero =>
      intro n used
      rcases next n with past | ⟨m, made⟩
      · exact past
      · have bound := (k.after course m).bounded
        omega
    | succ left ih =>
      intro n used
      rcases next n with past | ⟨m, made⟩
      · exact past
      · apply ih m
        omega
  exact all (max 1 settings.pingRetries.toNat) 0 (Nat.le_add_left _ _)

theorem Tracks.stays_ended (k : r.Tracks settings p) (course : Nat → Bool × Move κ) {n : Nat}
    (past : (r.after course n).inFlight = none) (d : Nat) :
    (r.after course (n + d)).inFlight = none ∧
      (r.after course (n + d)).made = (r.after course n).made := by
  induction d with
  | zero => exact ⟨past, rfl⟩
  | succ d ih =>
    obtain ⟨past, made⟩ := ih
    obtain ⟨still, same⟩ := (k.after course (n + d)).ended past _ (course (n + d)).2
    exact ⟨still, same.trans made⟩

/-- The run of the live chain sends its first ping when its time has come. -/
theorem begin_tracks {w : Watch κ} (v : w.Valid) (c : w.Chained none) (t : w.Tallied)
    {delay : Duration} (here : w.activities.lookup id = some (.scheduled p delay))
    (live : w.detector.session.pinger = some p) (takes : Bool) (source : Node)
    (result : Except TransportError Unit) :
    let r := begin w takes id source result
    r.Tracks w.detector.settings p ∧ r.inFlight = some w.begun ∧ r.made = 1 := by
  intro r
  have current : w.detector.isCurrent p = true := (v.sound.current_iff p).mpr live
  obtain ⟨leader, _, begun⟩ := v.sound.beginRound_eq current source
  have only : requests (w.detector.goOn source result (.scheduled p delay)).2 =
      [.ping p ⟨source, leader, some w.detector.clusterName⟩] := by
    rw [Detector.goOn, begun]
    rfl
  obtain ⟨b, begets, resumed, lookup⟩ := v.step_suspends here rfl takes source result only rfl
  obtain rfl := Option.some.inj begets
  have pinged := Watch.step_run_pinged here rfl takes source result
  rw [only] at pinged
  let m : Move κ := .proceed id source result
  have first : r = ⟨w.step takes m, some w.begun, 1⟩ := by
    rw [← resumed]
    simp [r, m, begin, step, Move.lets, pinged, Effect.pings]
  rw [first]
  refine ⟨?_, inFlight_of_pinging rfl lookup, rfl⟩
  constructor
  case valid => exact v.step takes m
  case chained => exact c.step v takes m
  case tallied => exact t.step v c takes m
  case same => exact Watch.run_settings v [(takes, m)]
  case started => exact Nat.lt_of_lt_of_le (v.sound.created p live) (v.created_le_step takes m)
  case bounded => exact Nat.le_max_left _ _
  case stands =>
    intro place same
    obtain rfl := Option.some.inj same
    exact .inl ⟨_, lookup⟩

/-- A run of the live chain begins when no failure is counted, and it sends a ping at once. Whatever
happens from then on, it sends no more pings than there are to be tried, or one if there is none to
be tried: while its chain is live the session has counted all its attempts but the one under way,
and whoever else changes anything of the session meanwhile stops the chain, so that no attempt
follows. If each attempt is answered at some time, there is a last one. -/
theorem resending_ends (settings : FaultDetectionConfig) (clusterName : ClusterName)
    (moves : List (Bool × Move κ)) :
    let w := (Watch.create settings clusterName).run moves
    ∀ id p delay, w.activities.lookup id = some (.scheduled p delay) →
      w.detector.session.pinger = some p →
      w.detector.session.retryCount = 0 ∧
      ∀ takes source result,
        let begun := begin w takes id source result
        (begun.inFlight.isSome ∧ begun.made = 1) ∧
        (∀ later,
          let r := begun.run later
          r.made ≤ max 1 settings.pingRetries.toNat ∧
          ∀ ping, r.inFlight = some ping →
            (∃ request, r.watch.activities.lookup ping = some (.pinging p request r.made)) ∧
            (p ∈ r.watch.detector.running →
              r.watch.detector.session.retryCount.toNat + 1 = r.made) ∧
            ∀ takes m, m.lets ≠ some ping →
              (r.watch.step takes m).detector.session = r.watch.detector.session ∨
                p ∉ (r.watch.step takes m).detector.running ∧
                  ∀ more, ((r.step takes m).run more).made = r.made) ∧
        ∀ course : Nat → Bool × Move κ,
          (∀ n ping, (begun.after course n).inFlight = some ping →
            ∃ m, n ≤ m ∧ (course m).2.lets = some ping) →
          ∃ n, ∀ m, n ≤ m → (begun.after course m).inFlight = none ∧
            (begun.after course m).made = (begun.after course n).made := by
  intro w id p delay here live
  have first : (Watch.create settings clusterName : Watch κ).Valid :=
    Watch.create_valid settings clusterName
  have alone : (Watch.create settings clusterName : Watch κ).Chained none :=
    Watch.create_chained settings clusterName
  have valid : w.Valid := first.run moves
  have chained : w.Chained none := alone.run first moves
  have tallied : w.Tallied := (Watch.create_tallied settings clusterName).run first alone moves
  have same : w.detector.settings = settings := Watch.run_settings first moves
  have tallies := tallied _ (Watch.mem_of_lookup here)
  refine ⟨tallies live, fun takes source result => ?_⟩
  intro begun
  obtain ⟨tracks, flight, one⟩ := begin_tracks valid chained tallied here live takes source result
  rw [same] at tracks
  refine ⟨⟨by rw [flight]; rfl, one⟩, fun later => ?_, fun course answers => ?_⟩
  · have k : (begun.run later).Tracks settings p := tracks.run later
    refine ⟨k.bounded, fun ping flight => ⟨k.pinging flight, k.counted flight, ?_⟩⟩
    intro takes m other
    exact k.others flight takes other
  · obtain ⟨n, past⟩ := tracks.ends course answers
    refine ⟨n, fun m later => ?_⟩
    obtain ⟨d, rfl⟩ := Nat.exists_eq_add_of_le later
    exact tracks.stays_ended course past d

/-- The second attempt of two is under way. If the owner starts the session anew, it stays the last
one although the count is reset. And if everything is answered again and again, the run ends. -/
theorem reset_brings_no_attempt :
    let a : Node := ⟨"a", "1", "http://a"⟩
    let settings : FaultDetectionConfig := { pingRetries := 2 }
    let failure : Except TransportError Unit := .error (.timeout "a" settings.pingTimeout)
    let elected : List (Bool × Move Unit) := [(true, .restart a "elected")]
    let failed : List (Bool × Move Unit) := [(true, .proceed 1 a failure)]
    let again : Move Unit := .restart a "again"
    let course (n : Nat) : Bool × Move Unit := (true, .proceed (Nat.unpair n).2 a failure)
    let w := (Watch.create settings "c").run elected
    let begun := begin w true 0 a (.ok ())
    let r := begun.run failed
    (w.activities.lookup 0 = some (.scheduled 0 settings.pingInterval) ∧
      w.detector.session.pinger = some 0) ∧
      (r.inFlight = some 2 ∧ r.made = 2 ∧ r.watch.detector.session.retryCount = 1) ∧
      ((r.watch.step true again).detector.session.retryCount = 0 ∧
        ∀ more, ((r.step true again).run more).made = 2) ∧
      ∃ n, ∀ m, n ≤ m → (begun.after course m).inFlight = none := by
  intro a settings failure elected failed again course
  dsimp only
  have here : ((Watch.create settings "c").run elected).activities.lookup 0 =
      some (.scheduled 0 settings.pingInterval) := rfl
  have live : ((Watch.create settings "c").run elected).detector.session.pinger = some 0 := by
    decide
  obtain ⟨_, run⟩ := resending_ends settings "c" elected 0 0 _ here live
  obtain ⟨_, bounded, ends⟩ := run true a (.ok ())
  clear run
  generalize start : (Watch.create settings "c").run elected = w at *
  generalize sent : begin w true 0 a (.ok ()) = begun at *
  have flight : (begun.run failed).inFlight = some 2 := by
    rw [← sent, ← start]
    decide
  have made : (begun.run failed).made = 2 := by
    rw [← sent, ← start]
    decide
  have counted : (begun.run failed).watch.detector.session.retryCount = 1 := by
    rw [← sent, ← start]
    decide
  have reset : ((begun.run failed).watch.step true again).detector.session.retryCount = 0 := by
    rw [← sent, ← start]
    decide
  obtain ⟨_, _, meanwhile⟩ := (bounded failed).2 2 flight
  refine ⟨⟨here, live⟩, ⟨flight, made, counted⟩, ⟨reset, fun more => ?_⟩, ?_⟩
  · rcases meanwhile true again nofun with same | ⟨_, last⟩
    · rw [same, counted] at reset
      cases reset
    · rw [last more, made]
  · obtain ⟨n, past⟩ := ends course fun n ping _ =>
      ⟨Nat.pair n ping, Nat.left_le_pair n ping, by simp [course, Move.lets]⟩
    exact ⟨n, fun m later => (past m later).1⟩

end Attempts

end Vigil

import Vigil.Proofs.Chain
import Vigil.Proofs.Turn

/-!
A watch on a clock. The clock counts milliseconds. It passes no moment for which a ping is scheduled
before that ping has had its turn, and nothing that is scheduled goes on before its moment. All else
may go on at any time: answers come when they come, and so do the owner's calls. The scheduler takes
all that it is handed. What makes pings due, and the pings that are sent, are noted with their
times.
-/

namespace Vigil

/-- What is noted of a chain. -/
inductive Mark where
  | due (occasion : Occasion)
  | ping
deriving DecidableEq, Repr

/-- What was noted of a chain, when, and in which session. -/
structure Entry where
  chain : PingerId
  session : Nat
  time : Nat
  mark : Mark
deriving DecidableEq, Repr

structure Timed (κ : Type) where
  watch : Watch κ
  now : Nat := 0
  /-- When the activity with a number was begun. -/
  since : Nat → Nat := fun _ => 0
  /-- All that was noted, the oldest first. -/
  history : List Entry := []

inductive Tick (κ : Type) where
  | move (m : Move κ)
  /-- Some milliseconds pass. -/
  | pass (time : Nat)

namespace Timed

variable {κ : Type}

def create (settings : FaultDetectionConfig) (clusterName : ClusterName) : Timed κ :=
  { watch := .create settings clusterName }

/-- The moment that an activity waits for, if it waits for the clock. A run that accepts a loss does
not wait: others may come in before it goes on, but no time passes. -/
def due (t : Timed κ) (id : Nat) : Activity κ → Option Nat
  | .scheduled _ delay => some (t.since id + delay.millis)
  | .lost (some _) _ => some (t.since id)
  | _ => none

/-- Whether a move comes no earlier than the clock lets it. -/
def permits (t : Timed κ) (m : Move κ) : Bool :=
  match m.lets with
  | none => true
  | some id =>
    match t.watch.activities.lookup id with
    | none => true
    | some a => (t.due id a).all (· ≤ t.now)

/-- Whether some time can pass without a ping that falls due before its end. -/
def allows (t : Timed κ) (time : Nat) : Bool :=
  t.watch.activities.all fun x => (t.due x.1 x.2).all (t.now + time ≤ ·)

/-- What is noted of a move. -/
def entries (t : Timed κ) (m : Move κ) : List Entry :=
  let w' := t.watch.step true m
  (t.watch.occasion m).toList.map (fun (o, p) => ⟨p, w'.latest, t.now, .due o⟩) ++
    (t.watch.pingedSince w').map (⟨·, w'.latest, t.now, .ping⟩)

/-- A move is made. -/
def go (t : Timed κ) (m : Move κ) : Timed κ where
  watch := t.watch.step true m
  now := t.now
  since id := if id < t.watch.begun then t.since id else t.now
  history := t.history ++ t.entries m

/-- A move that comes too early is not made, and time does not pass what is due. -/
def step (t : Timed κ) : Tick κ → Timed κ
  | .move m => if t.permits m then t.go m else t
  | .pass time => if t.allows time then { t with now := t.now + time } else t

def run (t : Timed κ) (ticks : List (Tick κ)) : Timed κ := ticks.foldl step t

/-- What was noted of one chain. -/
def course (t : Timed κ) (p : PingerId) : List Entry := t.history.filter (·.chain == p)

theorem go_course (t : Timed κ) (m : Move κ) (p : PingerId) :
    (t.go m).course p = t.course p ++ (t.entries m).filter (·.chain == p) :=
  List.filter_append ..

theorem entries_eq {t : Timed κ} {m : Move κ} {new : Option (Activity κ)} {pinged : List PingerId}
    (begins : t.watch.Begins m new pinged (t.watch.step true m)) :
    t.entries m = (t.watch.occasion m).toList.map
        (fun (o, p) => ⟨p, (t.watch.step true m).latest, t.now, .due o⟩) ++
      pinged.map (⟨·, (t.watch.step true m).latest, t.now, .ping⟩) := by
  rw [entries, begins.pinged]

end Timed

namespace Watch

variable {κ : Type}

theorem others_mem {w : Watch κ} {m : Move κ} {x : Nat × Activity κ}
    (h : x ∈ (w.others m).activities) : x ∈ w.activities ∧ m.lets ≠ some x.1 := by
  unfold others at h
  split at h
  · next id lets =>
    obtain ⟨there, other⟩ := List.mem_filter.mp h
    refine ⟨there, fun same => ?_⟩
    rw [lets, Option.some.injEq] at same
    simp [same] at other
  · next lets =>
    refine ⟨h, ?_⟩
    rw [lets]
    simp

/-- What is under way after a move was so before, beside what went on, or it has begun. -/
theorem Begins.mem {w w' : Watch κ} {m : Move κ} {new : Option (Activity κ)}
    {pinged : List PingerId} (h : w.Begins m new pinged w') {x : Nat × Activity κ}
    (hx : x ∈ w'.activities) :
    x ∈ (w.others m).activities ∨ ∃ a, new = some a ∧ x = (w.begun, a) := by
  rw [h.activities] at hx
  rcases List.mem_append.mp hx with old | begun
  · exact .inl old
  · obtain ⟨a, same, rfl⟩ := List.mem_map.mp begun
    exact .inr ⟨a, Option.mem_toList.mp same, rfl⟩

/-- Beside the run of a chain that goes on, no run of that chain is under way. -/
theorem Chained.others_run {w : Watch κ} (c : w.Chained none) (v : w.Valid) {m : Move κ} {id : Nat}
    {a : Activity κ} (lets : m.lets = some id) (here : w.activities.lookup id = some a)
    {p : PingerId} (run : a.run = some p) :
    ∀ x ∈ (w.others m).activities, x.2.run ≠ some p := by
  have one := c.single p
  have apart := v.runs_without here p
  have none : (w.without id).runs p = 0 := by
    simp only [run, if_true, reduceCtorEq, if_false] at one apart
    omega
  have same : w.others m = w.without id := by
    simp only [others, lets]
  intro x hx
  rw [same] at hx
  simpa using List.countP_eq_zero.mp none x hx

end Watch

namespace Timed

variable {κ : Type}

theorem go_since_old {t : Timed κ} (v : t.watch.Valid) (m : Move κ) {x : Nat × Activity κ}
    (old : x ∈ t.watch.activities) : (t.go m).since x.1 = t.since x.1 :=
  if_pos (v.below x old)

theorem go_since_new (t : Timed κ) (m : Move κ) : (t.go m).since t.watch.begun = t.now :=
  if_neg (Nat.lt_irrefl _)

theorem go_due_old {t : Timed κ} (v : t.watch.Valid) (m : Move κ) {x : Nat × Activity κ}
    (old : x ∈ t.watch.activities) : (t.go m).due x.1 x.2 = t.due x.1 x.2 := by
  obtain ⟨id, a⟩ := x
  have same : (t.go m).since id = t.since id := go_since_old v m old
  unfold due
  split <;> simp only [same]

/-- What holds in every run: nothing was refused, and no moment has passed that a ping waits for. -/
structure Steady (t : Timed κ) : Prop where
  valid : t.watch.Valid
  chained : t.watch.Chained none
  taken : t.watch.refused = false
  unpassed : ∀ x ∈ t.watch.activities, ∀ d, t.due x.1 x.2 = some d → t.now ≤ d

theorem create_steady (settings : FaultDetectionConfig) (clusterName : ClusterName) :
    (create settings clusterName : Timed κ).Steady where
  valid := Watch.create_valid settings clusterName
  chained := Watch.create_chained settings clusterName
  taken := rfl
  unpassed := by simp [create, Watch.create]

theorem Steady.go {t : Timed κ} (s : t.Steady) (m : Move κ) : (t.go m).Steady := by
  obtain ⟨new, pinged, begins, _⟩ := s.valid.step_turns m
  constructor
  case valid => exact s.valid.step true m
  case chained => exact s.chained.step s.valid true m
  case taken => exact begins.refused.trans s.taken
  case unpassed =>
    intro x hx d waits
    rcases begins.mem hx with left | ⟨a, rfl, rfl⟩
    · have old := (Watch.others_mem left).1
      rw [go_due_old s.valid m old] at waits
      exact s.unpassed x old d waits
    · unfold due at waits
      rw [go_since_new] at waits
      split at waits
      · exact Nat.le_trans (Nat.le_add_right _ _) (Nat.le_of_eq (Option.some.inj waits))
      · exact Nat.le_of_eq (Option.some.inj waits)
      · cases waits

theorem Steady.pass {t : Timed κ} (s : t.Steady) {time : Nat} (allowed : t.allows time = true) :
    Steady { t with now := t.now + time } where
  valid := s.valid
  chained := s.chained
  taken := s.taken
  unpassed := by
    intro x hx d waits
    have bound := List.all_eq_true.mp allowed x hx
    have same : t.due x.1 x.2 = some d := waits
    rw [same] at bound
    exact of_decide_eq_true bound

theorem Steady.step {t : Timed κ} (s : t.Steady) (tick : Tick κ) : (t.step tick).Steady := by
  cases tick with
  | move m =>
    rw [Timed.step]
    split
    · exact s.go m
    · exact s
  | pass time =>
    rw [Timed.step]
    split
    · next allowed => exact s.pass allowed
    · exact s

/-- The live chain has a run under way. -/
theorem Steady.live_run {t : Timed κ} (s : t.Steady) {p : PingerId}
    (live : t.watch.detector.session.pinger = some p) :
    ∃ id a, (id, a) ∈ t.watch.activities ∧ a.run = some p := by
  have one : t.watch.runs p = 1 := by simpa using s.chained.kept s.taken p live
  obtain ⟨⟨id, a⟩, under, same⟩ := List.countP_pos_iff.mp (Nat.lt_of_lt_of_eq Nat.one_pos one.symm)
  exact ⟨id, a, under, eq_of_beq same⟩

/-- What moves and the passing of time preserve holds in every run. -/
theorem Steady.run_induction {t : Timed κ} (s : t.Steady) (property : Timed κ → Prop)
    (ticks : List (Tick κ)) (start : property t)
    (go : ∀ (t : Timed κ) m, t.Steady → t.permits m = true → property t → property (t.go m))
    (pass : ∀ (t : Timed κ) time, t.Steady → t.allows time = true → property t →
      property { t with now := t.now + time }) : property (t.run ticks) := by
  induction ticks generalizing t with
  | nil => exact start
  | cons tick ticks ih =>
    refine ih (s.step tick) ?_
    cases tick with
    | move m =>
      rw [Timed.step]
      split
      · next permitted => exact go t m s permitted start
      · exact start
    | pass time =>
      rw [Timed.step]
      split
      · next allowed => exact pass t time s allowed start
      · exact start

theorem Steady.run {t : Timed κ} (s : t.Steady) (ticks : List (Tick κ)) : (t.run ticks).Steady :=
  s.run_induction Steady ticks s (fun _ m s _ _ => s.go m) fun _ _ s allowed _ => s.pass allowed

theorem go_settings {t : Timed κ} (v : t.watch.Valid) (m : Move κ) :
    (t.go m).watch.detector.settings = t.watch.detector.settings :=
  Watch.run_settings v [(true, m)]

theorem run_settings (settings : FaultDetectionConfig) (clusterName : ClusterName)
    (ticks : List (Tick κ)) :
    ((create settings clusterName).run ticks).watch.detector.settings = settings := by
  refine (create_steady settings clusterName).run_induction
    (·.watch.detector.settings = settings) ticks rfl ?_ ?_
  · intro t m s _ same
    exact (go_settings s.valid m).trans same
  · intro t time _ _ same
    exact same

/-- A scheduled ping that is let through goes on exactly at its moment. -/
theorem Steady.on_time {t : Timed κ} (s : t.Steady) {m : Move κ} (permitted : t.permits m = true)
    {id : Nat} (lets : m.lets = some id) {p : PingerId} {delay : Duration}
    (here : t.watch.activities.lookup id = some (.scheduled p delay)) :
    t.now = t.since id + delay.millis := by
  have late : t.since id + delay.millis ≤ t.now := by
    simpa [permits, lets, here, due] using permitted
  have early := s.unpassed (id, .scheduled p delay) (Watch.mem_of_lookup here) _ rfl
  exact Nat.le_antisymm early late

theorem latest_eq {w w' : Watch κ} (same : w'.sessions = w.sessions) : w'.latest = w.latest := by
  rw [Watch.latest, Watch.latest, same]

end Timed

end Vigil

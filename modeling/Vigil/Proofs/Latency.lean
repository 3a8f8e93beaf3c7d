import Vigil.Proofs.Pacing
import Vigil.Proofs.Silence

/-!
How long a leader can be silent. While no connections are made anew and every ping is answered in
time, a session has heard of its leader within one interval and the time of all its attempts; so it
fails by then, whatever the answers are.
-/

namespace Vigil

/-- Whether the leader was heard of, or the session was started, which counts as much. -/
def Entry.hears (e : Entry) : Bool := e.mark == .due .started || e.mark == .due .answered

/-- Whether the owner intervenes. -/
def Tick.intervenes {κ : Type} : Tick κ → Bool
  | move m => m.begins || m.ends
  | pass _ => false

theorem Occasion.ofAnswer_ne_started (result : Except TransportError Unit) :
    ofAnswer result ≠ some .started := by
  cases result with
  | ok _ => nofun
  | error e => cases e <;> nofun

namespace Watch

variable {κ : Type}

/-- Only the owner starts a session. -/
theorem begins_of_occasion {w : Watch κ} {m : Move κ} {p : PingerId}
    (marked : w.occasion m = some (.started, p)) : m.begins = true := by
  cases m with
  | restart leader reason => rfl
  | proceed id source result =>
    simp only [occasion] at marked
    split at marked
    · obtain ⟨o, ended, same⟩ := Option.map_eq_some_iff.mp marked
      obtain ⟨rfl, _⟩ := Prod.mk.inj same
      exact absurd ended (Occasion.ofAnswer_ne_started _)
    · split at marked <;> cases marked
    · cases marked
  | _ => cases marked

/-- A session whose last chain went on when the session ended has failed. -/
theorem update_raises {w : Watch κ} (cause : Option (Activity κ)) (takes : Bool)
    {r : Detector κ × List (Effect κ)} {p : PingerId}
    (outcome : w.detector.Outcome (some p) r.1 (requests r.2))
    (live : w.detector.session.pinger.isSome) (dead : r.1.session.pinger = none) :
    ∃ n, (w.update cause takes r).notifications = w.notifications ++ [n] ∧
      n.session = w.latest ∧ w.detector.session.leader = some n.failure.leader := by
  have kept (same : r.1.session.pinger = w.detector.session.pinger) : False := by
    rw [← same, dead] at live
    cases live
  change ∃ n, (w.update cause takes r).work.notifications = _ ∧ _
  rw [update_work]
  obtain ⟨d', effects⟩ := r
  dsimp only at outcome dead kept ⊢
  generalize requests effects = asked at outcome ⊢
  cases outcome with
  | failed leader cause' reason watched =>
    exact ⟨⟨w.latest, _, ⟨leader, cause', reason⟩, takes⟩, submit_notifications _ takes _, rfl,
      watched⟩
  | started _ none => cases none
  | ended _ _ _ none => cases none
  | joined _ none => cases none
  | left _ none => cases none
  | ignored _ => exact (kept rfl).elim
  | scheduled q _ _ => exact (kept rfl).elim
  | pinged q request n _ _ _ _ => exact (kept rfl).elim
  | connecting q leader _ _ _ => exact (kept rfl).elim
  | reconnected q _ => cases dead

theorem Valid.lost_raises {w : Watch κ} (v : w.Valid)
    (off : w.detector.settings.connectOnNetworkDisconnect = false) (cause : Option (Activity κ))
    (takes : Bool) {node : Node} (live : w.detector.session.pinger.isSome)
    (dead : (w.detector.disconnected node).1.session.pinger = none) :
    ∃ n, (w.update cause takes (w.detector.disconnected node)).notifications =
        w.notifications ++ [n] ∧
      n.session = w.latest ∧ w.detector.session.leader = some n.failure.leader := by
  by_cases watched : w.detector.session.leader = some node
  · rw [v.sound.notifies.disconnected node watched off, update_failing]
    exact ⟨_, rfl, rfl, watched⟩
  · rw [w.detector.disconnected_other watched] at dead
    rw [dead] at live
    cases live

/-- Where no connections are made anew, a session that its owner does not end ends by a failure. -/
theorem Valid.raises {w : Watch κ} (v : w.Valid)
    (off : w.detector.settings.connectOnNetworkDisconnect = false)
    (unconnected : ∀ x ∈ w.activities, x.2.connects = false) (takes : Bool) {m : Move κ}
    (calm : m.begins = false ∧ m.ends = false) (live : w.detector.session.pinger.isSome)
    (dead : (w.step takes m).detector.session.pinger = none) :
    ∃ n, (w.step takes m).notifications = w.notifications ++ [n] ∧
      n.session = w.latest ∧ w.detector.session.leader = some n.failure.leader := by
  have kept (same : w.detector.session.pinger = none) : False := by
    rw [same] at live
    cases live
  have goes (id : Nat) (source : Node) (result : Except TransportError Unit)
      (dead : (w.step takes (.proceed id source result)).detector.session.pinger = none) :
      ∃ n, (w.step takes (.proceed id source result)).notifications = w.notifications ++ [n] ∧
        n.session = w.latest ∧ w.detector.session.leader = some n.failure.leader := by
    cases here : w.activities.lookup id with
    | none =>
      simp only [Watch.step, here] at dead
      exact (kept dead).elim
    | some a =>
      rw [step_proceed here, Watch.proceed, deliver_detector, update_detector] at dead
      have runs {p : PingerId} (run : a.run = some p) :=
        (w.without id).update_raises (some a) takes (p := p)
          (run ▸ Detector.goOn_outcome v.sound (v.fits_of_lookup here) source result) live dead
      rw [step_proceed here]
      cases a with
      | scheduled p delay => exact runs rfl
      | pinging p request sent => exact runs rfl
      | lost run node => exact (v.without id).lost_raises off _ takes live dead
      | connecting run before leader => cases unconnected _ (mem_of_lookup here)
      | calling session rest failure => exact (kept dead).elim
  cases m with
  | restart leader reason => cases calm.1
  | stop reason => cases calm.2
  | shutdown => cases calm.2
  | drop => cases calm.2
  | addListener listener => exact (kept dead).elim
  | removeListener id => exact (kept dead).elim
  | lose node =>
    cases takes with
    | true => exact (kept dead).elim
    | false => exact (kept dead).elim
  | handle node =>
    rw [Watch.step, update_detector] at dead
    exact v.lost_raises off none takes live dead
  | proceed id source result => exact goes id source result dead
  | accept id source node message =>
    exact accept_cases (P := fun u => u.detector.session.pinger = none →
      ∃ n, u.notifications = w.notifications ++ [n] ∧
        n.session = w.latest ∧ w.detector.session.leader = some n.failure.leader)
      takes id source node message (goes id source _) (fun _ _ _ _ _ same => (kept same).elim) dead

end Watch

namespace Timed

variable {κ : Type}

/-- When a chain last heard of its leader. -/
def heard (t : Timed κ) (p : PingerId) : Option Entry :=
  ((t.course p).filter Entry.hears).getLast?

/-- No ping has been under way for more than `limit` milliseconds. -/
def Answering (t : Timed κ) (limit : Nat) : Prop :=
  ∀ x ∈ t.watch.activities, x.2.asks = true → t.now ≤ t.since x.1 + limit

instance (t : Timed κ) (limit : Nat) : Decidable (t.Answering limit) :=
  inferInstanceAs (Decidable
    (∀ x ∈ t.watch.activities, x.2.asks = true → t.now ≤ t.since x.1 + limit))

/-- All through a run, every ping is answered within `limit` milliseconds. -/
def AnswersWithin (limit : Nat) : Timed κ → List (Tick κ) → Prop
  | t, [] => t.Answering limit
  | t, tick :: ticks => t.Answering limit ∧ AnswersWithin limit (t.step tick) ticks

instance decidableAnswersWithin (limit : Nat) (t : Timed κ) (ticks : List (Tick κ)) :
    Decidable (t.AnswersWithin limit ticks) :=
  match ticks with
  | [] => inferInstanceAs (Decidable (t.Answering limit))
  | tick :: ticks =>
    have := decidableAnswersWithin limit (t.step tick) ticks
    inferInstanceAs (Decidable (t.Answering limit ∧ AnswersWithin limit (t.step tick) ticks))

/-- How long ago the live chain can have heard of its leader, where no connections are made anew. -/
structure Alert (t : Timed κ) : Prop where
  punctual : t.Punctual
  off : t.watch.detector.settings.connectOnNetworkDisconnect = false
  unconnected : ∀ x ∈ t.watch.activities, x.2.connects = false
  scheduled : ∀ id p delay, (id, .scheduled p delay) ∈ t.watch.activities →
    t.watch.detector.session.pinger = some p →
    t.watch.detector.session.retryCount = 0 ∧
      ∃ e, t.heard p = some e ∧ e.session = t.watch.latest ∧
        t.since id + delay.millis ≤ e.time + t.watch.detector.settings.pingInterval.millis
  pinging : ∀ id p request sent, (id, .pinging p request sent) ∈ t.watch.activities →
    t.watch.detector.session.pinger = some p →
    ∃ e, t.heard p = some e ∧ e.session = t.watch.latest ∧
      t.since id ≤ e.time + t.watch.detector.settings.pingInterval.millis +
        t.watch.detector.session.retryCount.toNat *
          t.watch.detector.settings.pingTimeout.millis
  /-- A loss is accepted within the time of an attempt. -/
  accepted : ∀ id p node, (id, .lost (some p) node) ∈ t.watch.activities →
    t.watch.detector.session.pinger = some p →
    ∃ e, t.heard p = some e ∧ e.session = t.watch.latest ∧
      t.since id ≤ e.time + t.watch.detector.settings.pingInterval.millis +
        (t.watch.detector.session.retryCount.toNat + 1) *
          t.watch.detector.settings.pingTimeout.millis

theorem create_alert (settings : FaultDetectionConfig) (clusterName : ClusterName)
    (off : settings.connectOnNetworkDisconnect = false) :
    (create settings clusterName : Timed κ).Alert where
  punctual := create_punctual settings clusterName
  off := off
  unconnected := by simp [create, Watch.create]
  scheduled := by simp [create, Watch.create]
  pinging := by simp [create, Watch.create]
  accepted := by simp [create, Watch.create]

namespace Alert

variable {t : Timed κ} {m : Move κ}

/-- The leader was heard of in what was noted last of a chain. -/
theorem heard_noted {p : PingerId} {es : List Entry} (noted : t.entries m = es)
    (same : ∀ e ∈ es, e.chain = p) :
    (t.go m).heard p = ((es.filter Entry.hears).getLast?).or (t.heard p) := by
  rw [heard, heard, Punctual.course_noted noted same, List.filter_append, List.getLast?_append]

/-- While a chain that was there before stays live, only its own run changes what was heard of its
leader and how many attempts are counted. -/
theorem left_kept (s : t.Alert) {x : Nat × Activity κ} (left : x ∈ (t.watch.others m).activities)
    {p : PingerId} (run : x.2.run = some p)
    (live : (t.go m).watch.detector.session.pinger = some p) :
    t.watch.detector.session.pinger = some p ∧
      (t.go m).watch.detector.session.retryCount = t.watch.detector.session.retryCount ∧
      (t.go m).heard p = t.heard p ∧ (t.go m).watch.latest = t.watch.latest := by
  have v := s.punctual.steady.valid
  obtain ⟨new, pinged, begins, turn⟩ := v.step_turns m
  have old : p < t.watch.detector.created := (v.fits x (Watch.others_mem left).1).started run
  have heard : (t.go m).heard p = t.heard p := by
    rw [Timed.heard, s.punctual.untouched left run, Timed.heard]
  have latest : (t.go m).watch.latest = t.watch.latest := s.punctual.latest_live m old live
  rw [← and_assoc]
  refine ⟨?_, heard, latest⟩
  have apart {id : Nat} {a : Activity κ} (lets : m.lets = some id)
      (here : t.watch.activities.lookup id = some a) : a.run ≠ some p := fun own =>
    s.punctual.steady.chained.others_run v lets here own x left run
  cases turn with
  | quiet new _ _ keeps => exact keeps p live
  | spent id q request sent o new _ _ _ _ _ keeps _ => exact keeps p live
  | opened o _ _ _ new _ => exact absurd (Option.some.inj (live.symm.trans new)) (Nat.ne_of_lt old)
  | answered id q request sent lets here _ _ still _ =>
    exact absurd (still.symm.trans live) (apart lets here)
  | resent id q request sent lets here _ _ still _ =>
    exact absurd (still.symm.trans live) (apart lets here)
  | sent id q delay request lets here _ _ still _ =>
    exact absurd (still.symm.trans live) (apart lets here)

theorem go_unconnected (s : t.Alert) : ∀ x ∈ (t.go m).watch.activities, x.2.connects = false := by
  obtain ⟨new, pinged, begins, turn⟩ := s.punctual.steady.valid.step_turns m
  intro x under
  rcases begins.mem under with left | ⟨a, begun, rfl⟩
  · exact s.unconnected x (Watch.others_mem left).1
  cases turn with
  | quiet new _ apart _ =>
    cases connects : a.connects with
    | false => rfl
    | true =>
      have on := (apart a begun).connects connects
      rw [s.off] at on
      cases on
  | spent id q request sent o new _ _ _ _ idle _ _ => exact (idle a begun).2
  | opened o _ _ _ _ _ =>
    obtain rfl := Option.some.inj begun
    rfl
  | answered id q request sent _ _ _ _ _ _ =>
    obtain rfl := Option.some.inj begun
    rfl
  | resent id q request sent _ _ _ _ _ _ =>
    obtain rfl := Option.some.inj begun
    rfl
  | sent id q delay request _ _ _ _ _ _ =>
    obtain rfl := Option.some.inj begun
    rfl

theorem go_scheduled (s : t.Alert) :
    ∀ id p delay, (id, .scheduled p delay) ∈ (t.go m).watch.activities →
      (t.go m).watch.detector.session.pinger = some p →
      (t.go m).watch.detector.session.retryCount = 0 ∧
        ∃ e, (t.go m).heard p = some e ∧ e.session = (t.go m).watch.latest ∧
          (t.go m).since id + delay.millis ≤
            e.time + (t.go m).watch.detector.settings.pingInterval.millis := by
  have v := s.punctual.steady.valid
  obtain ⟨new, pinged, begins, turn⟩ := v.step_turns m
  have noted := entries_eq begins
  intro id p delay under live
  rw [go_settings v]
  rcases begins.mem under with left | ⟨a, begun, same⟩
  · obtain ⟨before, counted, same, latest⟩ := s.left_kept left rfl live
    have old := (Watch.others_mem left).1
    obtain ⟨zero, e, heard, session, bound⟩ := s.scheduled id p delay old before
    refine ⟨counted.trans zero, e, same.trans heard, session.trans latest.symm, ?_⟩
    rw [go_since_old v m old]
    exact bound
  obtain ⟨rfl, rfl⟩ := Prod.mk.inj same
  rw [go_since_new]
  obtain ⟨o, marked, rfl, rfl, zero, first⟩ := turn.scheduled begun
  rw [marked] at noted
  have own : o = .started ∨ o = .answered := by
    rcases first with started | answered | ⟨id, a, here, connects⟩
    · exact .inl started
    · exact .inr answered
    · -- No connection is awaited that could make a session go on with a new chain.
      have none := s.unconnected (id, a) (Watch.mem_of_lookup here)
      cases connects.symm.trans none
  refine ⟨zero, ⟨p, (t.watch.step true m).latest, t.now, .due o⟩, ?_, rfl, ?_⟩
  · rw [heard_noted noted (by simp)]
    rcases own with rfl | rfl <;> rfl
  · rcases own with rfl | rfl <;> exact Nat.le_refl _

/-- A ping that failed in time leaves the time of one attempt less. -/
theorem go_pinging (s : t.Alert) (permitted : t.permits m = true)
    (answering : t.Answering t.watch.detector.settings.pingTimeout.millis) :
    ∀ id p request sent, (id, .pinging p request sent) ∈ (t.go m).watch.activities →
      (t.go m).watch.detector.session.pinger = some p →
      ∃ e, (t.go m).heard p = some e ∧ e.session = (t.go m).watch.latest ∧
        (t.go m).since id ≤ e.time + (t.go m).watch.detector.settings.pingInterval.millis +
          (t.go m).watch.detector.session.retryCount.toNat *
            (t.go m).watch.detector.settings.pingTimeout.millis := by
  have v := s.punctual.steady.valid
  obtain ⟨new, pinged, begins, turn⟩ := v.step_turns m
  have noted := entries_eq begins
  intro id p request sent under live
  rw [go_settings v]
  rcases begins.mem under with left | ⟨a, begun, same⟩
  · obtain ⟨before, counted, same, latest⟩ := s.left_kept left rfl live
    have old := (Watch.others_mem left).1
    obtain ⟨e, heard, session, bound⟩ := s.pinging id p request sent old before
    refine ⟨e, same.trans heard, session.trans latest.symm, ?_⟩
    rw [go_since_old v m old, counted]
    exact bound
  obtain ⟨rfl, rfl⟩ := Prod.mk.inj same
  rw [go_since_new]
  cases turn with
  | quiet new _ apart _ => cases (apart _ begun).round
  | spent id q request' sent' o new _ _ _ _ idle _ _ => cases (idle _ begun).1
  | opened o _ _ _ _ _ => cases begun
  | answered id q request' sent' _ _ _ _ _ _ => cases begun
  | resent id q request' sent' lets here marked before _ counted =>
    obtain ⟨rfl, rfl, rfl⟩ := Activity.pinging.inj (Option.some.inj begun)
    have under' := Watch.mem_of_lookup here
    obtain ⟨e, heard, session, bound⟩ := s.pinging id q request' sent' under' before
    rw [marked] at noted
    refine ⟨e, ?_, ?_, ?_⟩
    · rw [heard_noted noted (by simp)]
      exact heard
    · have old : q < t.watch.detector.created := v.sound.created q before
      exact session.trans (s.punctual.latest_live m old live).symm
    · obtain ⟨leader, watched⟩ := v.sound.leader_of_pinger before
      have succ := v.sound.retryCount_succ (by rw [watched]; rfl)
      have inTime : t.now ≤ t.since id + t.watch.detector.settings.pingTimeout.millis :=
        answering _ under' rfl
      have counts : (t.go m).watch.detector.session.retryCount.toNat =
          t.watch.detector.session.retryCount.toNat + 1 :=
        (congrArg UInt32.toNat counted).trans succ
      rw [counts, Nat.succ_mul]
      omega
  | sent id q delay request' lets here unmarked before _ counted =>
    obtain ⟨rfl, rfl, rfl⟩ := Activity.pinging.inj (Option.some.inj begun)
    obtain ⟨_, e, heard, session, bound⟩ :=
      s.scheduled id q delay (Watch.mem_of_lookup here) before
    rw [unmarked] at noted
    refine ⟨e, ?_, ?_, ?_⟩
    · rw [heard_noted noted (by simp)]
      exact heard
    · have old : q < t.watch.detector.created := v.sound.created q before
      exact session.trans (s.punctual.latest_live m old live).symm
    · have moment := s.punctual.steady.on_time permitted lets here
      omega

/-- The live chain has heard of its leader within the time of one attempt more than have failed, if
its run has begun. -/
theorem begun_heard (s : t.Alert)
    (answering : t.Answering t.watch.detector.settings.pingTimeout.millis) {id : Nat}
    {a : Activity κ} {p : PingerId} (under : (id, a) ∈ t.watch.activities) (run : a.run = some p)
    (begun : ∀ delay, a ≠ .scheduled p delay)
    (live : t.watch.detector.session.pinger = some p) :
    ∃ e, t.heard p = some e ∧ e.session = t.watch.latest ∧
      t.now ≤ e.time + t.watch.detector.settings.pingInterval.millis +
        (t.watch.detector.session.retryCount.toNat + 1) *
          t.watch.detector.settings.pingTimeout.millis := by
  cases a with
  | scheduled q delay =>
    obtain rfl := Option.some.inj run
    exact absurd rfl (begun delay)
  | pinging q request sent =>
    obtain rfl := Option.some.inj run
    obtain ⟨e, heard, session, bound⟩ := s.pinging id q request sent under live
    have inTime : t.now ≤ t.since id + t.watch.detector.settings.pingTimeout.millis :=
      answering _ under rfl
    refine ⟨e, heard, session, ?_⟩
    rw [Nat.succ_mul]
    omega
  | connecting own before leader => cases s.unconnected _ under
  | lost own node =>
    obtain rfl : own = some p := run
    obtain ⟨e, heard, session, bound⟩ := s.accepted id p node under live
    have unpassed : t.now ≤ t.since id :=
      s.punctual.steady.unpassed (id, .lost (some p) node) under _ rfl
    exact ⟨e, heard, session, Nat.le_trans unpassed bound⟩
  | calling session rest failure => cases run

theorem go_accepted (s : t.Alert)
    (answering : t.Answering t.watch.detector.settings.pingTimeout.millis) :
    ∀ id p node, (id, .lost (some p) node) ∈ (t.go m).watch.activities →
      (t.go m).watch.detector.session.pinger = some p →
      ∃ e, (t.go m).heard p = some e ∧ e.session = (t.go m).watch.latest ∧
        (t.go m).since id ≤ e.time + (t.go m).watch.detector.settings.pingInterval.millis +
          ((t.go m).watch.detector.session.retryCount.toNat + 1) *
            (t.go m).watch.detector.settings.pingTimeout.millis := by
  have v := s.punctual.steady.valid
  obtain ⟨new, pinged, begins, turn⟩ := v.step_turns m
  have noted := entries_eq begins
  intro id p node under live
  rw [go_settings v]
  rcases begins.mem under with left | ⟨a, begun, same⟩
  · obtain ⟨before, counted, same, latest⟩ := s.left_kept left rfl live
    have old := (Watch.others_mem left).1
    obtain ⟨e, heard, session, bound⟩ := s.accepted id p node old before
    refine ⟨e, same.trans heard, session.trans latest.symm, ?_⟩
    rw [go_since_old v m old, counted]
    exact bound
  obtain ⟨rfl, rfl⟩ := Prod.mk.inj same
  rw [go_since_new]
  cases turn with
  | quiet new unmarked apart keeps =>
    obtain ⟨id, b, _, here, run, sent⟩ := (apart _ begun).ended p rfl
    obtain ⟨before, counted⟩ := keeps p live
    obtain ⟨e, heard, session, bound⟩ :=
      s.begun_heard answering (Watch.mem_of_lookup here) run sent before
    have old : p < t.watch.detector.created := v.sound.created p before
    have kept : (t.go m).watch.detector.session.retryCount =
      t.watch.detector.session.retryCount := counted
    rw [unmarked] at noted
    refine ⟨e, ?_, session.trans (s.punctual.latest_live m old live).symm, ?_⟩
    · rw [heard_noted (p := p) noted (by simp)]
      exact heard
    · rw [kept]
      exact bound
  | spent id q request' sent' o new _ _ _ _ idle _ _ => cases (idle _ begun).1
  | opened o _ _ _ _ _ => cases begun
  | answered id q request' sent' _ _ _ _ _ _ => cases begun
  | resent id q request' sent' _ _ _ _ _ _ => cases begun
  | sent id q delay request' _ _ _ _ _ _ => cases begun

theorem go (s : t.Alert) (permitted : t.permits m = true)
    (answering : t.Answering t.watch.detector.settings.pingTimeout.millis) : (t.go m).Alert where
  punctual := s.punctual.go permitted
  off := by
    rw [go_settings s.punctual.steady.valid]
    exact s.off
  unconnected := s.go_unconnected
  scheduled := s.go_scheduled
  pinging := s.go_pinging permitted answering
  accepted := s.go_accepted answering

theorem pass (s : t.Alert) {time : Nat} (allowed : t.allows time = true) :
    Alert { t with now := t.now + time } where
  punctual :=
    ⟨s.punctual.steady.pass allowed, s.punctual.fresh, s.punctual.paced, s.punctual.scheduled,
      s.punctual.awaiting⟩
  off := s.off
  unconnected := s.unconnected
  scheduled := s.scheduled
  pinging := s.pinging
  accepted := s.accepted

theorem step (s : t.Alert) (answering : t.Answering t.watch.detector.settings.pingTimeout.millis)
    (tick : Tick κ) :
    (t.step tick).Alert ∧
      (t.step tick).watch.detector.settings = t.watch.detector.settings := by
  cases tick with
  | move m =>
    rw [Timed.step]
    split
    · next permitted =>
      exact ⟨s.go permitted answering, go_settings s.punctual.steady.valid m⟩
    · exact ⟨s, rfl⟩
  | pass time =>
    rw [Timed.step]
    split
    · next allowed => exact ⟨s.pass allowed, rfl⟩
    · exact ⟨s, rfl⟩

theorem run (s : t.Alert) {limit : Nat}
    (same : t.watch.detector.settings.pingTimeout.millis = limit) (ticks : List (Tick κ))
    (answers : t.AnswersWithin limit ticks) : (t.run ticks).Alert := by
  induction ticks generalizing t with
  | nil => exact s
  | cons tick ticks ih =>
    obtain ⟨first, rest⟩ := answers
    obtain ⟨next, settings⟩ := s.step (same ▸ first) tick
    exact ih next (settings ▸ same) rest

/-- The session has heard of its leader within an interval and the time of all its attempts. -/
theorem heard_of (s : t.Alert) (attempts : 0 < t.watch.detector.settings.pingRetries.toNat)
    (answering : t.Answering t.watch.detector.settings.pingTimeout.millis) {p : PingerId}
    (live : t.watch.detector.session.pinger = some p) :
    ∃ e, t.heard p = some e ∧ e.session = t.watch.latest ∧
      t.now ≤ e.time + (t.watch.detector.settings.pingInterval.millis +
        t.watch.detector.settings.pingRetries.toNat *
          t.watch.detector.settings.pingTimeout.millis) := by
  have steady := s.punctual.steady
  obtain ⟨id, a, under, run⟩ := steady.live_run live
  by_cases waits : ∃ delay, a = .scheduled p delay
  · obtain ⟨delay, rfl⟩ := waits
    obtain ⟨_, e, heard, session, bound⟩ := s.scheduled id p delay under live
    have unpassed : t.now ≤ t.since id + delay.millis :=
      steady.unpassed (id, .scheduled p delay) under _ rfl
    refine ⟨e, heard, session, ?_⟩
    omega
  · obtain ⟨e, heard, session, bound⟩ :=
      s.begun_heard answering under run (fun delay same => waits ⟨delay, same⟩) live
    obtain ⟨leader, watched⟩ := steady.valid.sound.leader_of_pinger live
    have budget := steady.valid.sound.budget (by rw [watched]; rfl)
    have counted : t.watch.detector.session.retryCount.toNat + 1 ≤
        t.watch.detector.settings.pingRetries.toNat := by
      omega
    have spent := Nat.mul_le_mul_right t.watch.detector.settings.pingTimeout.millis counted
    refine ⟨e, heard, session, ?_⟩
    omega

/-- If the owner does not intervene, the live chain goes on or its session fails. -/
theorem lives_or_fails (s : t.Alert) {p : PingerId} {leader : Node}
    (live : t.watch.detector.session.pinger = some p)
    (watched : t.watch.detector.session.leader = some leader)
    (calm : m.begins = false ∧ m.ends = false) :
    (t.go m).watch.detector.session.pinger = some p ∨
      ∃ n ∈ (t.go m).watch.notifications,
        n.session = t.watch.latest ∧ n.failure.leader = leader := by
  have v := s.punctual.steady.valid
  cases after : (t.go m).watch.detector.session.pinger with
  | none =>
    obtain ⟨n, raised, session, failed⟩ :=
      v.raises s.off s.unconnected true calm (by rw [live]; rfl) after
    refine .inr ⟨n, ?_, session, (Option.some.inj (watched.symm.trans failed)).symm⟩
    rw [Timed.go, raised]
    exact List.mem_append_right _ List.mem_cons_self
  | some q =>
    obtain ⟨new, pinged, begins, turn⟩ := v.step_turns m
    have before : t.watch.detector.session.pinger = some q := by
      cases turn with
      | quiet new _ _ keeps => exact (keeps q after).1
      | spent id p' request sent o new _ _ _ _ _ keeps _ => exact (keeps q after).1
      | opened o marked first _ _ _ =>
        rcases first with rfl | ⟨_, id, a, here, connects⟩
        · cases (Watch.begins_of_occasion marked).symm.trans calm.1
        · cases connects.symm.trans (s.unconnected (id, a) (Watch.mem_of_lookup here))
      | answered id p' request sent _ _ _ still still' _ =>
        exact still.trans (still'.symm.trans after)
      | resent id p' request sent _ _ _ still still' _ =>
        exact still.trans (still'.symm.trans after)
      | sent id p' delay request _ _ _ still still' _ =>
        exact still.trans (still'.symm.trans after)
    exact .inl (before.symm.trans live)

theorem step_lives_or_fails (s : t.Alert) {p : PingerId} {leader : Node}
    (live : t.watch.detector.session.pinger = some p)
    (watched : t.watch.detector.session.leader = some leader) {tick : Tick κ}
    (calm : tick.intervenes = false) :
    ((t.step tick).watch.detector.session.pinger = some p ∧
        (t.step tick).watch.detector.session.leader = some leader ∧
        (t.step tick).watch.latest = t.watch.latest) ∨
      ∃ n ∈ (t.step tick).watch.notifications,
        n.session = t.watch.latest ∧ n.failure.leader = leader := by
  have v := s.punctual.steady.valid
  cases tick with
  | pass time =>
    rw [Timed.step]
    split <;> exact .inl ⟨live, watched, rfl⟩
  | move m =>
    rw [Timed.step]
    split
    · rcases s.lives_or_fails live watched (Bool.or_eq_false_iff.mp calm) with still | failed
      · have old : p < t.watch.detector.created := v.sound.created p live
        obtain ⟨_, _, outcome, _⟩ := Watch.step_outcome v true m
        have same := (outcome.keeps old still).2
        exact .inl ⟨still, same.trans watched, s.punctual.latest_live m old still⟩
      · exact .inr failed
    · exact .inl ⟨live, watched, rfl⟩

end Alert

theorem Steady.run_notified {t : Timed κ} (s : t.Steady) {n : Notification κ}
    (raised : n ∈ t.watch.notifications) (ticks : List (Tick κ)) :
    n ∈ (t.run ticks).watch.notifications := by
  refine s.run_induction (n ∈ ·.watch.notifications) ticks raised ?_ fun _ _ _ _ h => h
  intro t m s _ raised
  obtain ⟨more, grown, _⟩ := Watch.step_notifications s.valid true m
  rw [Timed.go, grown]
  exact List.mem_append_left more raised

/-- As long as the owner does not intervene, a live chain goes on until its session fails. -/
theorem Alert.run_lives_or_fails {t : Timed κ} (s : t.Alert) {limit : Nat}
    (same : t.watch.detector.settings.pingTimeout.millis = limit) {ticks : List (Tick κ)}
    (answers : t.AnswersWithin limit ticks) (calm : ∀ tick ∈ ticks, tick.intervenes = false)
    {p : PingerId} {leader : Node} (live : t.watch.detector.session.pinger = some p)
    (watched : t.watch.detector.session.leader = some leader) :
    (t.run ticks).watch.detector.session.pinger = some p ∨
      ∃ n ∈ (t.run ticks).watch.notifications,
        n.session = t.watch.latest ∧ n.failure.leader = leader := by
  induction ticks generalizing t with
  | nil => exact .inl live
  | cons tick ticks ih =>
    obtain ⟨first, rest⟩ := answers
    obtain ⟨next, settings⟩ := s.step (same ▸ first) tick
    rcases s.step_lives_or_fails live watched (calm tick List.mem_cons_self) with
      ⟨live', watched', latest⟩ | ⟨n, raised, session, failed⟩
    · rw [← latest]
      exact ih next (settings ▸ same) rest
        (fun tick later => calm tick (List.mem_cons_of_mem _ later)) live' watched'
    · exact .inr ⟨n, next.punctual.steady.run_notified raised ticks, session, failed⟩

theorem AnswersWithin.last {limit : Nat} {t : Timed κ} {ticks : List (Tick κ)}
    (answers : t.AnswersWithin limit ticks) : (t.run ticks).Answering limit := by
  induction ticks generalizing t with
  | nil => exact answers
  | cons tick ticks ih => exact ih answers.2

theorem AnswersWithin.split {limit : Nat} {t : Timed κ} {before after : List (Tick κ)}
    (answers : t.AnswersWithin limit (before ++ after)) :
    t.AnswersWithin limit before ∧ (t.run before).AnswersWithin limit after := by
  induction before generalizing t with
  | nil =>
    refine ⟨?_, answers⟩
    cases after with
    | nil => exact answers
    | cons tick after => exact answers.1
  | cons tick before ih =>
    obtain ⟨earlier, later⟩ := ih answers.2
    exact ⟨⟨answers.1, earlier⟩, later⟩

end Timed

theorem Config.validate_pingRetries {c : Config} (accepted : c.validate = .ok ()) :
    0 < c.faultDetection.pingRetries.toNat := by
  refine Nat.pos_of_ne_zero fun none => ?_
  have zero : c.faultDetection.pingRetries = 0 := UInt32.toNat_inj.mp none
  rw [Config.validate, if_pos zero] at accepted
  cases accepted

namespace Timed

variable {κ : Type}

/-- Under a valid configuration that makes no connections anew, and while every ping is answered
within its timeout, a leader that is watched was heard of no longer ago than the interval and the
time of all attempts, or else its session was started since. A leader that is not heard of any more
has failed once that time is over, unless the owner intervenes. -/
theorem silence_bounded (c : Config) (clusterName : ClusterName) (ticks : List (Tick κ))
    (accepted : c.validate = .ok ())
    (off : c.faultDetection.connectOnNetworkDisconnect = false)
    (answers : (create c.faultDetection clusterName).AnswersWithin
      c.faultDetection.pingTimeout.millis ticks) :
    let limit := c.faultDetection.pingInterval.millis +
      c.faultDetection.pingRetries.toNat * c.faultDetection.pingTimeout.millis
    let t := (create c.faultDetection clusterName).run ticks
    (∀ leader, t.watch.detector.session.leader = some leader →
      ∃ p e, t.watch.detector.session.pinger = some p ∧ t.heard p = some e ∧
        e.session = t.watch.latest ∧ t.now ≤ e.time + limit) ∧
    ∀ before after, ticks = before ++ after →
      let s := (create c.faultDetection clusterName).run before
      ∀ p leader e, s.watch.detector.session.pinger = some p →
        s.watch.detector.session.leader = some leader → s.heard p = some e →
        (∀ tick ∈ after, tick.intervenes = false) → t.heard p = some e → e.time + limit < t.now →
        ∃ n ∈ t.watch.notifications, n.session = s.watch.latest ∧ n.failure.leader = leader := by
  intro limit t
  have start := create_alert (κ := κ) c.faultDetection clusterName off
  have alert : t.Alert := start.run rfl ticks answers
  have same : t.watch.detector.settings = c.faultDetection :=
    run_settings c.faultDetection clusterName ticks
  have attempts := Config.validate_pingRetries accepted
  have bounded {p : PingerId} (live : t.watch.detector.session.pinger = some p) :
      ∃ e, t.heard p = some e ∧ e.session = t.watch.latest ∧ t.now ≤ e.time + limit := by
    have heard := alert.heard_of (by rw [same]; exact attempts) (by rw [same]; exact answers.last)
      live
    rwa [same] at heard
  constructor
  · intro leader watched
    obtain ⟨p, live⟩ := alert.punctual.steady.valid.sound.pinger_of_leader watched
    obtain ⟨e, heard, session, bound⟩ := bounded live
    exact ⟨p, e, live, heard, session, bound⟩
  · intro before after split s p leader e live watched _ calm still late
    have joined : t = s.run after := by
      simp only [t, s, split, run, List.foldl_append]
    rw [split] at answers
    obtain ⟨earlier, later⟩ := answers.split
    have alert' : s.Alert := start.run rfl before earlier
    have same' : s.watch.detector.settings = c.faultDetection :=
      run_settings c.faultDetection clusterName before
    rcases alert'.run_lives_or_fails (by rw [same']) later calm live watched with lives | failed
    · rw [← joined] at lives
      obtain ⟨e', heard, _, bound⟩ := bounded lives
      obtain rfl := Option.some.inj (still.symm.trans heard)
      exact absurd bound (Nat.not_le_of_lt late)
    · rw [joined]
      exact failed

/-- Two attempts take all the time that they have. The answer to the last of them comes at the last
moment, and the session fails then. -/
theorem silence_ended_in_time :
    let a : Node := ⟨"a", "1", "http://a"⟩
    let c : Config :=
      { faultDetection := { pingIntervalMs := 2, pingTimeoutMs := 3, pingRetries := 2 } }
    let before : List (Tick Unit) :=
      [.move (.restart a "elected"), .pass 2, .move (.proceed 0 a (.ok ())), .pass 3,
        .move (.proceed 1 a (.error (.timeout "a" ⟨0⟩))), .pass 3]
    let after : List (Tick Unit) := [.move (.proceed 2 a (.error (.timeout "a" ⟨0⟩))), .pass 1]
    let s := (create c.faultDetection "c").run before
    let t := (create c.faultDetection "c").run (before ++ after)
    c.validate = .ok () ∧
      (create c.faultDetection "c").AnswersWithin c.faultDetection.pingTimeout.millis
        (before ++ after) ∧
      s.now = 8 ∧ s.watch.detector.session.leader = some a ∧ t.now = 9 ∧
      ∃ n ∈ t.watch.notifications, n.session = 0 ∧ n.failure.leader = a := by
  intro a c before after
  have accepted : c.validate = .ok () := rfl
  have answers : (create c.faultDetection "c").AnswersWithin c.faultDetection.pingTimeout.millis
      (before ++ after) := by decide
  have later : ((create c.faultDetection "c").run before).now = 8 := by decide
  have watched :
      ((create c.faultDetection "c").run before).watch.detector.session.leader = some a := by decide
  have first : ((create c.faultDetection "c").run before).watch.latest = 0 := by decide
  have last : ((create c.faultDetection "c").run (before ++ after)).now = 9 := by decide
  have ends := (silence_bounded c "c" (before ++ after) accepted rfl answers).2 before after rfl
  have failed := ends 0 a ⟨0, 0, 0, .due .started⟩ (by decide) watched (by decide) (by decide)
    (by decide) (by decide)
  generalize (create c.faultDetection "c").run before = s at later watched first failed ⊢
  generalize (create c.faultDetection "c").run (before ++ after) = t at last failed ⊢
  rw [first] at failed
  exact ⟨accepted, answers, later, watched, last, failed⟩

end Timed

end Vigil

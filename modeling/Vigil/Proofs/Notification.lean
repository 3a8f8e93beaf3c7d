import Vigil.Proofs.Session

/-!
Who is told of a failure. A session raises at most one failure, and for each that the scheduler took
over, those who were registered at that moment are called one after the other, and no one else. The
calls that were made and those that are still to be made are accounted for in every state.
-/

namespace Vigil

section calls

variable {κ : Type}

/-- The calls that an activity has yet to make. -/
def Activity.calls : Activity κ → List (Delivery κ)
  | calling session rest failure => rest.map (⟨session, ·, failure⟩)
  | _ => []

/-- The calls that a notification asks for. -/
def Notification.calls (n : Notification κ) : List (Delivery κ) :=
  n.listeners.map (⟨n.session, ·, n.failure⟩)

/-- The calls for the failure of one session. -/
def callsFor (session : Nat) (calls : List (Delivery κ)) : List (Delivery κ) :=
  calls.filter (·.session == session)

@[simp] theorem callsFor_append (s : Nat) (calls more : List (Delivery κ)) :
    callsFor s (calls ++ more) = callsFor s calls ++ callsFor s more :=
  List.filter_append ..

theorem callsFor_same {s : Nat} {calls : List (Delivery κ)} (same : ∀ d ∈ calls, d.session = s) :
    callsFor s calls = calls :=
  List.filter_eq_self.mpr fun d hd => by simp [same d hd]

theorem callsFor_other {s : Nat} {calls : List (Delivery κ)} (other : ∀ d ∈ calls, d.session ≠ s) :
    callsFor s calls = [] :=
  List.filter_eq_nil_iff.mpr fun d hd => by simp [other d hd]

theorem Activity.callsFor_of_mem {a : Activity κ} {d : Delivery κ} (h : d ∈ a.calls) :
    a.callsFor = some d.session := by
  cases a with
  | calling session rest failure =>
    obtain ⟨_, _, rfl⟩ := List.mem_map.mp h
    rfl
  | _ => cases h

theorem Activity.callsFor_calls {a : Activity κ} {s : Nat} (h : a.callsFor = some s) :
    Vigil.callsFor s a.calls = a.calls :=
  callsFor_same fun _ hd => Option.some.inj ((callsFor_of_mem hd).symm.trans h)

theorem Activity.calls_eq_nil {a : Activity κ} (h : a.callsFor = none) : a.calls = [] := by
  cases a with
  | calling session rest failure => cases h
  | _ => rfl

theorem Notification.session_of_mem {n : Notification κ} {d : Delivery κ} (h : d ∈ n.calls) :
    d.session = n.session := by
  obtain ⟨_, _, rfl⟩ := List.mem_map.mp h
  rfl

end calls

namespace Detector

variable {κ : Type}

/-- Listeners stand in the order in which they were added, which is that of their numbers. -/
structure Ordered (d : Detector κ) : Prop where
  sorted : (d.listeners.map (·.1)).Pairwise (· < ·)
  below : ∀ x ∈ d.listeners, x.1 < d.added

theorem Outcome.ordered {d d' : Detector κ} {run : Option PingerId} {asked : List (Effect κ)}
    (h : Outcome d run d' asked) (o : d.Ordered) : d'.Ordered := by
  have less {kept : List (Nat × κ)} (sub : kept.Sublist d.listeners) :
      (kept.map (·.1)).Pairwise (· < ·) ∧ ∀ x ∈ kept, x.1 < d.added :=
    ⟨o.sorted.sublist (sub.map _), fun x hx => o.below x (sub.mem hx)⟩
  cases h with
  | ended closed attached listeners _ sub =>
    simp only [endSession_eq]
    exact ⟨(less sub).1, (less sub).2⟩
  | joined listener _ =>
    constructor
    · simp only [addListener, List.map_append, List.map_cons, List.map_nil]
      refine List.pairwise_append.mpr ⟨o.sorted, List.pairwise_singleton _ _, ?_⟩
      intro n hn m hm
      obtain ⟨x, hx, rfl⟩ := List.mem_map.mp hn
      rw [List.mem_singleton.mp hm]
      exact o.below x hx
    · intro x hx
      rcases List.mem_append.mp hx with hx | hx
      · exact Nat.lt_succ_of_lt (o.below x hx)
      · rw [List.mem_singleton.mp hx]
        exact Nat.lt_succ_self _
  | left id _ => exact ⟨(less List.filter_sublist).1, (less List.filter_sublist).2⟩
  | started leader _ =>
    simp only [startSession, startPinger, endSession_eq]
    exact ⟨o.sorted, o.below⟩
  | failed leader cause reason _ =>
    simp only [endSession_eq]
    exact ⟨o.sorted, o.below⟩
  | _ => exact ⟨o.sorted, o.below⟩

end Detector

namespace Watch

variable {κ : Type}

/-- The calls that are still to be made. -/
def ahead (w : Watch κ) : List (Delivery κ) := w.activities.flatMap (·.2.calls)

/-- The calls that all notifications asked for which the scheduler took over. -/
def owed (w : Watch κ) : List (Delivery κ) := (w.notifications.filter (·.taken)).flatMap (·.calls)

/-- The latest session was started with a leader and has raised no failure. -/
def Watches (sessions : List Node) (notifications : List (Notification κ)) (leader : Node) : Prop :=
  ∃ earlier, sessions = earlier ++ [leader] ∧ ∀ n ∈ notifications, n.session < earlier.length

/-- What the failures have to do with the sessions that raised them. -/
structure Recorded (d : Detector κ) (sessions : List Node)
    (notifications : List (Notification κ)) : Prop where
  once : (notifications.map (·.session)).Nodup
  leaders : ∀ n ∈ notifications, sessions[n.session]? = some n.failure.leader
  current : ∀ leader, d.session.leader = some leader → Watches sessions notifications leader
  ordered : d.Ordered
  sorted : ∀ n ∈ notifications, (n.listeners.map (·.1)).Pairwise (· < ·)

/-- Every failure that was raised is accounted for. -/
structure Accounted (w : Watch κ) : Prop where
  record : Recorded w.detector w.sessions w.notifications
  /-- The listeners are called by one activity for each notification. -/
  calling : ∀ s, w.activities.countP (·.2.callsFor == some s) ≤
    w.notifications.countP (·.session == s)
  told : ∀ s, callsFor s w.deliveries ++ callsFor s w.ahead = callsFor s w.owed

theorem accounted_work {w : Watch κ} : w.work.Accounted ↔ w.Accounted :=
  ⟨fun t => ⟨t.record, t.calling, t.told⟩, fun t => ⟨t.record, t.calling, t.told⟩⟩

theorem create_accounted (settings : FaultDetectionConfig) (clusterName : ClusterName) :
    (create settings clusterName : Watch κ).Accounted where
  record := by
    constructor
    case ordered => constructor <;> simp [create, Detector.create]
    all_goals simp [create, Detector.create]
  calling := by simp [create]
  told s := rfl

theorem Watches.latest {sessions : List Node} {notifications : List (Notification κ)}
    {leader : Node} (h : Watches sessions notifications leader) :
    sessions[sessions.length - 1]? = some leader ∧
      ∀ n ∈ notifications, n.session < sessions.length - 1 := by
  obtain ⟨earlier, rfl, below⟩ := h
  have same : (earlier ++ [leader]).length - 1 = earlier.length := by simp
  rw [same]
  exact ⟨List.getElem?_concat_length, below⟩

theorem Recorded.begin {d d' : Detector κ} {sessions : List Node}
    {notifications : List (Notification κ)} (r : Recorded d sessions notifications)
    (o : d'.Ordered) {leader : Node} (begun : d'.session.leader = some leader) :
    Recorded d' (sessions ++ [leader]) notifications := by
  have started (n) (hn : n ∈ notifications) : n.session < sessions.length :=
    (List.getElem?_eq_some_iff.mp (r.leaders n hn)).1
  refine ⟨r.once, ?_, ?_, o, r.sorted⟩
  · intro n hn
    exact (List.getElem?_append_left (started n hn)).trans (r.leaders n hn)
  · intro node watched
    obtain rfl := Option.some.inj (begun.symm.trans watched)
    exact ⟨sessions, rfl, started⟩

/-- A session that was watched until now raises its failure. -/
theorem Recorded.raise {d : Detector κ} {sessions : List Node}
    {notifications : List (Notification κ)} (r : Recorded d sessions notifications)
    {failure : LeaderFailure} (watched : Watches sessions notifications failure.leader)
    (ended : d.session.leader = none) (taken : Bool) :
    Recorded d sessions
      (notifications ++ [⟨sessions.length - 1, d.listeners, failure, taken⟩]) := by
  obtain ⟨leader, below⟩ := watched.latest
  constructor
  case once =>
    rw [List.map_append, List.nodup_append]
    refine ⟨r.once, by simp, ?_⟩
    intro s hs m hm
    obtain ⟨x, hx, rfl⟩ := List.mem_map.mp hs
    rw [List.mem_singleton.mp hm]
    exact Nat.ne_of_lt (below x hx)
  case leaders =>
    intro x hx
    rcases List.mem_append.mp hx with hx | hx
    · exact r.leaders x hx
    · rw [List.mem_singleton.mp hx]
      exact leader
  case current => simp [ended]
  case ordered => exact r.ordered
  case sorted =>
    intro x hx
    rcases List.mem_append.mp hx with hx | hx
    · exact r.sorted x hx
    · rw [List.mem_singleton.mp hx]
      exact r.ordered.sorted

theorem Accounted.replace {w : Watch κ} (t : w.Accounted) {d : Detector κ} (o : d.Ordered)
    (current : ∀ leader, d.session.leader = some leader →
      Watches w.sessions w.notifications leader) :
    Accounted { w with detector := d } :=
  ⟨⟨t.record.once, t.record.leaders, current, o, t.record.sorted⟩, t.calling, t.told⟩

theorem ahead_spawn (w : Watch κ) (a : Activity κ) : (w.spawn a).ahead = w.ahead ++ a.calls := by
  simp [ahead, spawn]

theorem Accounted.spawn {w : Watch κ} (t : w.Accounted) {a : Activity κ}
    (quiet : a.callsFor = none) : (w.spawn a).Accounted where
  record := t.record
  calling s := by
    simp only [Watch.spawn, List.countP_append, List.countP_singleton, quiet]
    exact t.calling s
  told s := by
    rw [ahead_spawn, Activity.calls_eq_nil quiet, List.append_nil]
    exact t.told s

theorem Accounted.submit {w : Watch κ} (t : w.Accounted) (takes : Bool) {a : Activity κ}
    (quiet : a.callsFor = none) : (w.submit takes a).Accounted := by
  cases takes with
  | true => exact t.spawn quiet
  | false => exact ⟨t.record, t.calling, t.told⟩

/-- A failure is raised, and its listeners are handed over to be called. -/
theorem Accounted.announce {w : Watch κ} (t : w.Accounted) {failure : LeaderFailure}
    (watched : Watches w.sessions w.notifications failure.leader)
    (ended : w.detector.session.leader = none) {listeners : List (Nat × κ)}
    (same : listeners = w.detector.listeners) (takes : Bool) :
    ((w.raise failure takes).submit takes (.calling w.latest listeners failure)).Accounted := by
  subst same
  have record := t.record.raise watched ended takes
  let n : Notification κ := ⟨w.latest, w.detector.listeners, failure, takes⟩
  have count (s : Nat) : (w.raise failure takes).notifications.countP (·.session == s) =
      w.notifications.countP (·.session == s) + if w.latest = s then 1 else 0 := by
    simp [Watch.raise, List.countP_append, List.countP_singleton]
  have owed : (w.raise failure takes).owed = w.owed ++ if takes then n.calls else [] := by
    cases takes <;> simp [Watch.owed, Watch.raise, n]
  cases takes with
  | true =>
    refine ⟨record, fun s => ?_, fun s => ?_⟩
    · refine Nat.le_trans ?_ (Nat.le_of_eq (count s).symm)
      have one := t.calling s
      simp only [Watch.submit, if_true, Watch.spawn, List.countP_append, List.countP_singleton]
      simpa [Activity.callsFor, Watch.raise] using one
    · calc
        callsFor s w.deliveries ++ callsFor s ((w.raise failure true).spawn _).ahead
        _ = callsFor s w.deliveries ++ callsFor s (w.ahead ++ n.calls) := by rw [ahead_spawn]; rfl
        _ = callsFor s (w.owed ++ n.calls) := by
          rw [callsFor_append, ← List.append_assoc, t.told s, callsFor_append]
        _ = callsFor s (w.raise failure true).owed := by rw [owed, if_pos rfl]
  | false =>
    refine ⟨record, fun s => ?_, fun s => ?_⟩
    · refine Nat.le_trans ?_ (Nat.le_of_eq (count s).symm)
      exact Nat.le_add_right_of_le (t.calling s)
    · refine (t.told s).trans ?_
      rw [← List.append_nil w.owed]
      exact congrArg (callsFor s) owed.symm

/-- What an event asks for is accounted for, if the session it leaves is the latest one. -/
theorem Accounted.update {w : Watch κ} (t : w.Accounted) (cause : Option (Activity κ))
    (takes : Bool) (r : Detector κ × List (Effect κ)) {run : Option PingerId}
    (h : w.detector.Outcome run r.1 (requests r.2))
    (latest : ∀ leader, r.1.session.leader = some leader →
      w.detector.session.leader = some leader) :
    (w.update cause takes r).Accounted := by
  have base := t.replace (h.ordered t.record.ordered) fun leader watched =>
    t.record.current leader (latest leader watched)
  rw [← accounted_work, update_work]
  obtain ⟨d', effects⟩ := r
  dsimp only at h base ⊢
  generalize requests effects = asked at h ⊢
  rw [← accounted_work] at base
  cases h with
  | started leader _ =>
    rw [performAll_schedule]
    exact base.submit takes rfl
  | failed leader cause' reason watched =>
    -- Those registered are looked up after the session has ended, which leaves them as they are.
    rw [performAll_dispatch]
    refine base.announce ?_ ?_ ?_ takes
    · exact t.record.current leader watched
    · simp [work, Detector.endSession_eq]
    · simp [work, Detector.endSession_eq]
  | scheduled p _ _ =>
    rw [performAll_schedule]
    exact base.submit takes rfl
  | pinged p request n _ _ _ _ => exact base.spawn rfl
  | connecting p leader _ _ _ => exact base.spawn rfl
  | reconnected p _ =>
    rw [performAll_schedule]
    exact base.submit takes rfl
  | _ => exact base

/-- A restart begins the latest session, if it is not ignored. -/
theorem Accounted.restart {w : Watch κ} (t : w.Accounted) (takes : Bool) (leader : Node)
    (reason : String) :
    ((w.enter leader).update none takes (w.detector.restart leader reason)).Accounted := by
  have h := w.detector.restart_outcome leader reason
  by_cases closed : w.detector.closed = true
  · have ignored : (w.detector.restart leader reason).1 = w.detector := by
      rw [Detector.restart, if_pos closed]
    rw [Watch.enter, if_pos closed]
    exact t.update none takes _ h fun node watched => ignored ▸ watched
  · have asked : requests (w.detector.restart leader reason).2 =
        [.schedule w.detector.created w.detector.settings.pingInterval] := by
      simp [Detector.restart, closed, Detector.startSession, Detector.startPinger,
        Detector.endSession_eq, Effect.isRequest]
    have begun : (w.detector.restart leader reason).1.session.leader = some leader := by
      simp [Detector.restart, closed, Detector.startSession, Detector.startPinger]
    rw [← accounted_work, update_work, asked, performAll_schedule]
    rw [Watch.enter, if_neg closed]
    have opened : Accounted { w with
        detector := (w.detector.restart leader reason).1, sessions := w.sessions ++ [leader] } :=
      ⟨t.record.begin (h.ordered t.record.ordered) begun, t.calling, t.told⟩
    exact Accounted.submit (accounted_work.mpr opened) takes rfl

theorem Accounted.without {w : Watch κ} (v : w.Valid) (t : w.Accounted) {id : Nat}
    {a : Activity κ} (h : w.activities.lookup id = some a) (done : a.calls = []) :
    (w.without id).Accounted := by
  obtain ⟨l₁, l₂, split, rest⟩ := v.split h
  refine ⟨t.record, fun s => ?_, fun s => ?_⟩
  · refine Nat.le_trans (List.Sublist.countP_le ?_) (t.calling s)
    exact List.filter_sublist
  · have same : (w.without id).ahead = w.ahead := by
      simp [ahead, rest, split, done]
    rw [same]
    exact t.told s

/-- While the listeners of a session are being called, no other activity calls them. -/
theorem Accounted.alone {w : Watch κ} (t : w.Accounted) {session id : Nat} {a : Activity κ}
    {l₁ l₂ : List (Nat × Activity κ)} (split : w.activities = l₁ ++ (id, a) :: l₂)
    (calls : a.callsFor = some session) :
    callsFor session ((l₁ ++ l₂).flatMap (·.2.calls)) = [] := by
  have one : w.notifications.countP (·.session == session) ≤ 1 := by
    have once := List.nodup_iff_count.mp t.record.once session
    rwa [List.count_eq_countP, List.countP_map] at once
  have few := Nat.le_trans (t.calling session) one
  rw [split, List.perm_middle.countP_eq, List.countP_cons_of_pos (by simp [calls])] at few
  refine callsFor_other fun d hd same => ?_
  obtain ⟨x, hx, called⟩ := List.mem_flatMap.mp hd
  refine List.countP_eq_zero.mp (Nat.eq_zero_of_le_zero (Nat.le_of_succ_le_succ few)) x hx ?_
  simp [Activity.callsFor_of_mem called, same]

theorem Accounted.call {w : Watch κ} (v : w.Valid) (t : w.Accounted) {id session : Nat}
    {listener : Nat × κ} {rest : List (Nat × κ)} {failure : LeaderFailure}
    (h : w.activities.lookup id = some (.calling session (listener :: rest) failure)) :
    (((w.without id).call ⟨session, listener, failure⟩).spawn
      (.calling session rest failure)).Accounted := by
  obtain ⟨l₁, l₂, split, left⟩ := v.split h
  refine ⟨t.record, fun s => ?_, fun s => ?_⟩
  · refine Nat.le_trans (Nat.le_of_eq ?_) (t.calling s)
    simp only [Watch.spawn, Watch.call, left, split, List.countP_append, List.countP_cons,
      List.countP_nil, Activity.callsFor]
    omega
  · refine Eq.trans ?_ (t.told s)
    let d : Delivery κ := ⟨session, listener, failure⟩
    let after := (Activity.calling session rest failure).calls
    have now : (((w.without id).call d).spawn (.calling session rest failure)).ahead =
        (l₁ ++ l₂).flatMap (·.2.calls) ++ after := by
      rw [ahead_spawn]
      exact congrArg (·.flatMap (·.2.calls) ++ after) left
    have before : w.ahead =
        l₁.flatMap (·.2.calls) ++ ([d] ++ after ++ l₂.flatMap (·.2.calls)) := by
      rw [ahead, split, List.flatMap_append, List.flatMap_cons]
      rfl
    rw [now, before]
    change callsFor s (w.deliveries ++ [d]) ++ _ = _
    -- The other calls for this session would be made out of turn, if there were any.
    by_cases same : session = s
    · have alone := t.alone split rfl
      rw [same, List.flatMap_append, callsFor_append, List.append_eq_nil_iff] at alone
      simp only [List.flatMap_append, callsFor_append, alone.1, alone.2, List.nil_append,
        List.append_nil, List.append_assoc]
    · have other : callsFor s [d] = [] := callsFor_other (by simpa [d] using same)
      have later : callsFor s after = [] := callsFor_other fun x hx => by
        have calls := Activity.callsFor_of_mem hx
        exact fun hs => same ((Option.some.inj calls).trans hs)
      simp only [List.flatMap_append, callsFor_append, other, later, List.nil_append,
        List.append_nil]

theorem Accounted.step {w : Watch κ} (v : w.Valid) (t : w.Accounted) (takes : Bool)
    (m : Move κ) : (w.step takes m).Accounted := by
  have h := step_cases v.sound takes m
  generalize w.step takes m = w' at h ⊢
  cases h with
  | idle => exact t
  | entered leader reason => exact t.restart takes leader reason
  | told r h latest => exact t.update none takes r h latest
  | reported node => exact t.submit (a := .lost none node) takes rfl
  | went id source result a here =>
    have goesOn (done : a.calls = []) :
        ((w.without id).update (some a) takes (w.detector.goOn source result a)).Accounted :=
      (t.without v here done).update (some a) takes _
        (Detector.goOn_outcome v.sound (v.fits_of_lookup here) source result)
        (w.detector.goOn_leader source result a)
    cases a with
    | calling session rest failure =>
      cases rest with
      | nil => exact goesOn rfl
      | cons listener rest => exact t.call v here
    | _ => exact goesOn rfl
  | accepted id p request sent e here _ =>
    rw [← accounted_work, accept_work]
    exact (accounted_work.mpr (t.without v here rfl)).spawn rfl

theorem Accounted.run {w : Watch κ} (v : w.Valid) (t : w.Accounted)
    (moves : List (Bool × Move κ)) : (w.run moves).Accounted := by
  induction moves generalizing w with
  | nil => exact t
  | cons m moves ih => exact ih (v.step m.1 m.2) (t.step v m.1 m.2)

theorem submit_notifications (w : Watch κ) (takes : Bool) (a : Activity κ) :
    (w.submit takes a).notifications = w.notifications := by
  cases takes <;> rfl

/-- A failure that an event raises is that of the leader watched until then, and is told to those
registered. -/
theorem update_notifications (w : Watch κ) (cause : Option (Activity κ)) (takes : Bool)
    (r : Detector κ × List (Effect κ)) {run : Option PingerId}
    (h : w.detector.Outcome run r.1 (requests r.2)) :
    ∃ raised, (w.update cause takes r).notifications = w.notifications ++ raised ∧
      ∀ n ∈ raised, w.detector.session.leader = some n.failure.leader ∧
        n.listeners = w.detector.listeners ∧ n.taken = takes := by
  change ∃ raised, (w.update cause takes r).work.notifications = _ ∧ _
  rw [update_work]
  obtain ⟨d', effects⟩ := r
  dsimp only at h ⊢
  generalize requests effects = asked at h ⊢
  cases h with
  | failed leader cause' reason watched =>
    refine ⟨[⟨w.latest, _, ⟨leader, cause', reason⟩, takes⟩], submit_notifications _ takes _, ?_⟩
    simp [watched, note, Detector.endSession_eq]
  | _ => exact ⟨[], by simp [work, perform, submit_notifications, note, spawn], by simp⟩

/-- Listeners that are being called can all be called, and nothing else comes of it. -/
theorem Valid.completes {w : Watch κ} (v : w.Valid) {id session : Nat} {rest : List (Nat × κ)}
    {failure : LeaderFailure}
    (h : w.activities.lookup id = some (.calling session rest failure)) :
    ∃ later begun, (∀ m ∈ later, m.2.lets.isSome) ∧
      w.run later = { w.without id with
        begun, deliveries := w.deliveries ++ (Activity.calling session rest failure).calls } := by
  induction rest generalizing w id with
  | nil =>
    let m : Move κ := .proceed id failure.leader (.ok ())
    have called : w.step true m = w.without id := step_proceed h true failure.leader (.ok ())
    refine ⟨[(true, m)], w.begun, by simp [m, Move.lets], ?_⟩
    change w.step true m = _
    rw [called]
    exact congrArg (fun ds => { w.without id with deliveries := ds }) (List.append_nil _).symm
  | cons listener rest ih =>
    let m : Move κ := .proceed id failure.leader (.ok ())
    let v' : Watch κ := (w.without id).call ⟨session, listener, failure⟩
    have valid : v'.Valid :=
      ⟨v.sound, (v.without id).fits, (v.without id).numbered, (v.without id).below⟩
    have called : w.step true m = v'.spawn (.calling session rest failure) :=
      step_proceed h true failure.leader (.ok ())
    have here : (w.step true m).activities.lookup w.begun =
        some (.calling session rest failure) := by
      rw [called]
      exact valid.lookup_spawn _
    obtain ⟨later, begun, lets, done⟩ := ih (v.step true m) here
    refine ⟨(true, m) :: later, begun, by simpa [m, Move.lets] using lets, ?_⟩
    change (w.step true m).run later = _
    have left : (v'.spawn (.calling session rest failure)).without w.begun =
        { v' with begun := w.begun + 1 } :=
      valid.without_spawn _
    rw [done, called, left]
    exact congrArg (fun ds => { w.without id with begun, deliveries := ds })
      (List.append_assoc w.deliveries [⟨session, listener, failure⟩] _)

/-- What is still to be called for a session is what one activity has yet to call. -/
theorem Accounted.ahead_eq {w : Watch κ} (t : w.Accounted) {id session : Nat} {a : Activity κ}
    (here : (id, a) ∈ w.activities) (calls : a.callsFor = some session) :
    callsFor session w.ahead = a.calls := by
  obtain ⟨l₁, l₂, split⟩ := List.append_of_mem here
  have alone := t.alone split calls
  rw [List.flatMap_append, callsFor_append, List.append_eq_nil_iff] at alone
  have own := Activity.callsFor_calls calls
  simp only [ahead, split, List.flatMap_append, List.flatMap_cons, callsFor_append, alone.1,
    alone.2, own, List.nil_append, List.append_nil]

/-- All that a session asks to be called is what its own notification asks for. -/
theorem Accounted.owed_eq {w : Watch κ} (t : w.Accounted) {n : Notification κ}
    (here : n ∈ w.notifications) (taken : n.taken = true) :
    callsFor n.session w.owed = n.calls := by
  obtain ⟨l₁, l₂, split⟩ := List.append_of_mem here
  have once := t.record.once
  rw [split, List.map_append, List.map_cons, List.nodup_append, List.nodup_cons] at once
  obtain ⟨_, ⟨after, _⟩, before⟩ := once
  have others (l : List (Notification κ)) (other : ∀ x ∈ l, x.session ≠ n.session) :
      callsFor n.session ((l.filter (·.taken)).flatMap (·.calls)) = [] := by
    refine callsFor_other fun d hd => ?_
    obtain ⟨x, hx, called⟩ := List.mem_flatMap.mp hd
    rw [Notification.session_of_mem called]
    exact other x (List.mem_filter.mp hx).1
  have first := others l₁ fun x hx => before x.session (List.mem_map_of_mem hx) _ (by simp)
  have last := others l₂ fun x hx same => after (List.mem_map.mpr ⟨x, hx, same⟩)
  have own := callsFor_same fun d (hd : d ∈ n.calls) => Notification.session_of_mem hd
  simp only [owed, split, List.filter_append, List.filter_cons_of_pos taken, List.flatMap_append,
    List.flatMap_cons, callsFor_append, first, last, own, List.nil_append, List.append_nil]

theorem Accounted.completes {w : Watch κ} (v : w.Valid) (t : w.Accounted) (session : Nat) :
    ∃ later, (∀ m ∈ later, m.2.lets.isSome) ∧
      callsFor session (w.run later).deliveries = callsFor session w.owed := by
  by_cases none : callsFor session w.ahead = []
  · refine ⟨[], by simp, ?_⟩
    rw [← t.told session, none, List.append_nil]
    rfl
  · obtain ⟨d, hd⟩ := List.exists_mem_of_ne_nil _ none
    obtain ⟨ahead, same⟩ := List.mem_filter.mp hd
    obtain ⟨⟨id, a⟩, here, called⟩ := List.mem_flatMap.mp ahead
    have calls := Activity.callsFor_of_mem called
    rw [eq_of_beq same] at calls
    cases a with
    | calling s rest failure =>
      obtain rfl := Option.some.inj calls
      obtain ⟨later, begun, lets, done⟩ := v.completes (v.lookup_of_mem here)
      refine ⟨later, lets, ?_⟩
      rw [congrArg deliveries done, callsFor_append, Activity.callsFor_calls rfl, ← t.told s,
        t.ahead_eq here rfl]
    | _ => cases calls

theorem step_notifications {w : Watch κ} (v : w.Valid) (takes : Bool) (m : Move κ) :
    ∃ raised, (w.step takes m).notifications = w.notifications ++ raised ∧
      ∀ n ∈ raised, w.detector.session.leader = some n.failure.leader ∧
        n.listeners = w.detector.listeners ∧ n.taken = takes := by
  have h := step_cases v.sound takes m
  generalize w.step takes m = w' at h ⊢
  cases h with
  | idle => exact ⟨[], by simp⟩
  | entered leader reason =>
    have outcome := w.detector.restart_outcome leader reason
    rw [← w.enter_detector leader] at outcome
    have same : (w.enter leader).notifications = w.notifications := by
      unfold enter
      split <;> rfl
    rw [← w.enter_detector leader, ← same]
    exact (w.enter leader).update_notifications none takes _ outcome
  | told r h _ => exact w.update_notifications none takes r h
  | reported node => exact ⟨[], by simp [submit_notifications]⟩
  | went id source result a here =>
    have same (w : Watch κ) : (w.deliver a).notifications = w.notifications := by
      unfold deliver
      split <;> rfl
    rw [proceed, same]
    exact (w.without id).update_notifications (some a) takes _
      (Detector.goOn_outcome v.sound (v.fits_of_lookup here) source result)
  | accepted id p request sent e _ _ => exact ⟨[], (List.append_nil _).symm, by simp⟩

/-- A session raises one failure at most, that of the leader it was started with. If the scheduler
takes the call of the listeners over, those who were registered at that moment are called for it in
the order in which they were added, each once and no one else, whatever else happens meanwhile; and
all of them are called if the calls that are under way go on. -/
theorem notified_once (settings : FaultDetectionConfig) (clusterName : ClusterName)
    (moves : List (Bool × Move κ)) :
    let w := (create settings clusterName).run moves
    (w.notifications.map (·.session)).Nodup ∧
      (∀ n ∈ w.notifications,
        w.sessions[n.session]? = some n.failure.leader ∧
        (n.listeners.map (·.1)).Pairwise (· < ·) ∧
        (n.taken = true →
          callsFor n.session w.deliveries ++ callsFor n.session w.ahead = n.calls ∧
          ∃ later, (∀ m ∈ later, m.2.lets.isSome) ∧
            callsFor n.session (w.run later).deliveries = n.calls)) ∧
      (∀ d ∈ w.deliveries, ∃ n ∈ w.notifications, n.taken = true ∧ d ∈ n.calls) ∧
      ∀ takes m, ∃ raised, (w.step takes m).notifications = w.notifications ++ raised ∧
        ∀ n ∈ raised, w.detector.session.leader = some n.failure.leader ∧
          n.listeners = w.detector.listeners ∧ n.taken = takes := by
  intro w
  have v : w.Valid := run_valid settings clusterName moves
  have t : w.Accounted :=
    (create_accounted settings clusterName).run (create_valid settings clusterName) moves
  refine ⟨t.record.once, ?_, ?_, fun takes m => step_notifications v takes m⟩
  · intro n hn
    refine ⟨t.record.leaders n hn, t.record.sorted n hn, fun taken => ?_⟩
    have owed := t.owed_eq hn taken
    obtain ⟨later, lets, done⟩ := t.completes v n.session
    exact ⟨(t.told n.session).trans owed, later, lets, done.trans owed⟩
  · intro d hd
    have told := t.told d.session
    have mem : d ∈ callsFor d.session w.owed := by
      rw [← told]
      exact List.mem_append_left _ (List.mem_filter.mpr ⟨hd, by simp⟩)
    obtain ⟨n, hn, called⟩ := List.mem_flatMap.mp (List.mem_filter.mp mem).1
    obtain ⟨here, taken⟩ := List.mem_filter.mp hn
    exact ⟨n, here, taken, called⟩

/-- A listener that is removed before the call is called all the same. -/
theorem removed_listener_called :
    let a : Node := ⟨"a", "1", "http://a"⟩
    let moves : List (Bool × Move String) :=
      [(true, .addListener "x"), (true, .addListener "y"), (true, .restart a "elected"),
        (true, .proceed 0 a (.ok ())),
        (true, .proceed 1 a (.error (.rejected "a" .noLongerLeader))), (true, .removeListener 0)]
    let w := (create {} "c").run moves
    w.detector.listeners = [(1, "y")] ∧
      ∃ later, (∀ m ∈ later, m.2.lets.isSome) ∧
        (callsFor 0 (w.run later).deliveries).map (·.listener) = [(0, "x"), (1, "y")] := by
  intro a moves
  let n : Notification String :=
    ⟨0, [(0, "x"), (1, "y")], ⟨a, some (.rejected "a" .noLongerLeader), "no longer leader"⟩, true⟩
  have here : n ∈ ((create {} "c").run moves).notifications := List.mem_singleton_self n
  obtain ⟨_, told, _⟩ := notified_once {} "c" moves
  obtain ⟨_, _, taken⟩ := told n here
  obtain ⟨_, later, lets, called⟩ := taken rfl
  exact ⟨by decide, later, lets, congrArg (List.map (·.listener)) called⟩

end Watch

end Vigil

import Vigil.Proofs.Follower
import Vigil.Proofs.Stale

/-!
What is left of a detector once its session was ended or the detector was shut down. Whatever is
still under way may go on in any order; all that comes of it are records, and the calls of listeners
that the scheduler had taken over before.
-/

namespace Vigil

namespace Move

variable {κ : Type}

/-- Whether a move may start a session. -/
def begins : Move κ → Bool
  | restart .. => true
  | _ => false

/-- Whether the owner ends the session with a move. -/
def ends : Move κ → Bool
  | stop _ | shutdown | drop => true
  | _ => false

end Move

namespace Detector

variable {κ : Type}

theorem Sound.pingerless {d : Detector κ} (s : d.Sound) (idle : d.session.leader = none) :
    d.session.pinger = none := by
  have watches := s.watches
  rw [idle, Option.isSome_none] at watches
  exact Option.isSome_eq_false_iff.mp watches.symm |> Option.isNone_iff_eq_none.mp

theorem Sound.endSession_idle {d : Detector κ} (s : d.Sound) (idle : d.session.leader = none) :
    d.endSession = d := by
  have session : ({ d.session with leader := none, retryCount := 0, pinger := none } : Session) =
      d.session := by
    rw [← idle, ← s.idle idle, ← s.pingerless idle]
  rw [endSession, s.pingerless idle]
  exact congrArg (fun session => { d with session }) session

theorem stopNotice_idle {d : Detector κ} (idle : d.session.leader = none) (reason : String) :
    d.stopNotice reason = [] := by
  rw [stopNotice, idle]

theorem Sound.goOn_idle {d : Detector κ} (s : d.Sound) (idle : d.session.leader = none)
    (source : Node) (result : Except TransportError Unit) (a : Activity κ) :
    d.goOn source result a = (d, []) := by
  have live := s.pingerless idle
  cases a with
  | calling session rest failure => rfl
  | scheduled p delay => exact goOn_stale s (by simp [Activity.Stale, live]) source result
  | pinging p request sent => exact goOn_stale s (by simp [Activity.Stale, live]) source result
  | lost node => exact goOn_stale s (by simp [Activity.Stale, idle]) source result
  | connecting run before leader =>
    refine goOn_stale s ?_ source result
    cases before with
    | none => exact .inl rfl
    | some p => exact .inr (by simp [live])

/-- From `d` to `d'` an idle detector stayed idle; its listeners may be others. -/
structure Rests (d d' : Detector κ) : Prop where
  idle : d'.session.leader = none
  closed : d.closed = true → d'.closed = true
  attached : d.attached = false → d'.attached = false
  added : d.added ≤ d'.added
  /-- Whoever listens did so before or was added since. -/
  listeners : ∀ x ∈ d'.listeners, x ∈ d.listeners ∨ d.added ≤ x.1

theorem Rests.refl {d : Detector κ} (idle : d.session.leader = none) : d.Rests d :=
  ⟨idle, id, id, Nat.le_refl _, fun _ h => .inl h⟩

theorem Rests.trans {d e f : Detector κ} (h : d.Rests e) (h' : e.Rests f) : d.Rests f where
  idle := h'.idle
  closed := h'.closed ∘ h.closed
  attached := h'.attached ∘ h.attached
  added := Nat.le_trans h.added h'.added
  listeners x hx := by
    rcases h'.listeners x hx with old | new
    · exact h.listeners x old
    · exact .inr (Nat.le_trans h.added new)

theorem endSession_rests (d : Detector κ) : d.Rests d.endSession := by
  rw [endSession_eq]
  exact ⟨rfl, id, id, Nat.le_refl _, fun _ h => .inl h⟩

theorem shutdown_rests (d : Detector κ) : d.Rests d.shutdown.1 := by
  rw [shutdown, endSession_eq]
  exact ⟨rfl, fun _ => rfl, fun _ => rfl, Nat.le_refl _, fun _ h => absurd h List.not_mem_nil⟩

theorem addListener_rests {d : Detector κ} (idle : d.session.leader = none) (listener : κ) :
    d.Rests (d.addListener listener).1 := by
  refine ⟨idle, id, id, Nat.le_succ _, fun x hx => ?_⟩
  rcases List.mem_append.mp hx with old | new
  · exact .inl old
  · rw [List.mem_singleton.mp new]
    exact .inr (Nat.le_refl _)

theorem removeListener_rests {d : Detector κ} (idle : d.session.leader = none) (id : Nat) :
    d.Rests (d.removeListener id).1 :=
  ⟨idle, fun h => h, fun h => h, Nat.le_refl _, fun _ h => .inl (List.mem_filter.mp h).1⟩

end Detector

namespace Watch

variable {κ : Type}

/-- From `w` to `w'` nothing came of the detector but records. No failure was raised and no session
started, nothing was counted and nothing asked of the scheduler or of the transport; and of the
calls that were to be made in `w` some were made. -/
structure Silent (w w' : Watch κ) : Prop where
  records : ∃ notices : List Notice, w'.asked = w.asked ++ notices.map .tell
  metrics : w'.metrics = w.metrics
  sessions : w'.sessions = w.sessions
  notifications : w'.notifications = w.notifications
  deliveries : ∃ made, w'.deliveries = w.deliveries ++ made ∧ w.ahead.Perm (made ++ w'.ahead)

theorem Silent.refl (w : Watch κ) : w.Silent w :=
  ⟨⟨[], by simp⟩, rfl, rfl, rfl, [], by simp⟩

theorem Silent.trans {u v w : Watch κ} (h : u.Silent v) (h' : v.Silent w) : u.Silent w := by
  obtain ⟨before, asked⟩ := h.records
  obtain ⟨after, asked'⟩ := h'.records
  obtain ⟨made, delivered, left⟩ := h.deliveries
  obtain ⟨made', delivered', left'⟩ := h'.deliveries
  constructor
  · exact ⟨before ++ after, by simp [asked', asked]⟩
  · exact h'.metrics.trans h.metrics
  · exact h'.sessions.trans h.sessions
  · exact h'.notifications.trans h.notifications
  · refine ⟨made ++ made', by simp [delivered', delivered], ?_⟩
    rw [List.append_assoc]
    exact left.trans (left'.append_left made)

theorem silent_update (w : Watch κ) (cause : Option (Activity κ)) (takes : Bool) (d : Detector κ)
    (notices : List Notice) : w.Silent (w.update cause takes (d, notices.map .tell)) := by
  have told (ns : List Notice) (v : Watch κ) :
      (ns.map Effect.tell).foldl (perform cause takes) v =
        { v with asked := v.asked ++ ns.map .tell } := by
    induction ns generalizing v with
    | nil => simp
    | cons n ns ih => simp [perform, note, ih]
  rw [update, told]
  exact ⟨⟨notices, rfl⟩, rfl, rfl, rfl, [], by simp [ahead]⟩

theorem stopNotice_records (d : Detector κ) (reason : String) :
    ∃ notices : List Notice, d.stopNotice reason = notices.map .tell := by
  unfold Detector.stopNotice
  split
  · next leader _ => exact ⟨[.stopping leader reason], rfl⟩
  · exact ⟨[], rfl⟩

theorem step_ends (w : Watch κ) (takes : Bool) {m : Move κ} (ends : m.ends = true) :
    w.detector.Rests (w.step takes m).detector ∧ w.Silent (w.step takes m) := by
  cases m with
  | stop reason =>
    obtain ⟨notices, same⟩ := stopNotice_records w.detector reason
    simp only [step, Detector.stop, same, update_detector]
    exact ⟨w.detector.endSession_rests, w.silent_update none takes _ notices⟩
  | shutdown =>
    obtain ⟨notices, same⟩ := stopNotice_records w.detector "closing"
    have rests := w.detector.shutdown_rests
    simp only [step, Detector.shutdown, same, update_detector] at rests ⊢
    exact ⟨rests, w.silent_update none takes _ notices⟩
  | drop => exact ⟨w.detector.endSession_rests, w.silent_update none takes _ []⟩
  | _ => cases ends

theorem ahead_submit (w : Watch κ) (takes : Bool) {a : Activity κ} (quiet : a.calls = []) :
    (w.submit takes a).ahead = w.ahead := by
  cases takes with
  | true => rw [submit, if_pos rfl, ahead_spawn, quiet, List.append_nil]
  | false => rfl

theorem silent_lost (w : Watch κ) (takes : Bool) (node : Node) :
    w.Silent (w.submit takes (.lost none node)) := by
  have same := w.ahead_submit takes (a := .lost none node) rfl
  refine ⟨⟨[], ?_⟩, ?_, ?_, ?_, [], ?_, by rw [same, List.nil_append]⟩
  all_goals cases takes <;> simp [submit, spawn]

theorem Valid.ahead_without {w : Watch κ} (v : w.Valid) {id : Nat} {a : Activity κ}
    (here : w.activities.lookup id = some a) : w.ahead.Perm (a.calls ++ (w.without id).ahead) := by
  obtain ⟨l₁, l₂, split, rest⟩ := v.split here
  have front : w.activities.Perm ((id, a) :: (w.without id).activities) := by
    rw [split, rest]
    exact List.perm_middle
  exact front.flatMap_right _

theorem Valid.silent_deliver {w : Watch κ} (v : w.Valid) {id : Nat} {a : Activity κ}
    (here : w.activities.lookup id = some a) : w.Silent ((w.without id).deliver a) := by
  have apart := v.ahead_without here
  have gone (none : a.calls = []) : w.Silent (w.without id) := by
    rw [none] at apart
    exact ⟨⟨[], (List.append_nil _).symm⟩, rfl, rfl, rfl, [], (List.append_nil _).symm, apart⟩
  cases a with
  | calling session listeners failure =>
    cases listeners with
    | nil => exact gone rfl
    | cons listener others =>
      -- The first of its calls is made, and it is under way anew with the others.
      let now : Delivery κ := ⟨session, listener, failure⟩
      let after := (Activity.calling session others failure).calls
      refine ⟨⟨[], (List.append_nil _).symm⟩, rfl, rfl, rfl, [now], rfl, ?_⟩
      have last : ((w.without id).deliver (.calling session (listener :: others) failure)).ahead =
          (w.without id).ahead ++ after :=
        ahead_spawn ..
      rw [last]
      exact apart.trans (List.perm_append_comm.append_left [now])
  | _ => exact gone rfl

/-- An idle detector stays idle and silent, unless a restart counts. -/
theorem Valid.step_idle {w : Watch κ} (v : w.Valid) (idle : w.detector.session.leader = none)
    (takes : Bool) {m : Move κ} (ignored : m.begins = true → w.detector.closed = true) :
    w.detector.Rests (w.step takes m).detector ∧ w.Silent (w.step takes m) := by
  have rests : w.detector.Rests w.detector := .refl idle
  have goes (id : Nat) (source : Node) (result : Except TransportError Unit) :
      w.detector.Rests (w.step takes (.proceed id source result)).detector ∧
        w.Silent (w.step takes (.proceed id source result)) := by
    cases here : w.activities.lookup id with
    | none =>
      simp only [Watch.step, here]
      exact ⟨rests, .refl w⟩
    | some a =>
      have nothing : w.step takes (.proceed id source result) = (w.without id).deliver a := by
        rw [step_proceed here, Watch.proceed, (v.without id).sound.goOn_idle idle]
        rfl
      rw [nothing, deliver_detector]
      exact ⟨rests, v.silent_deliver here⟩
  cases m with
  | restart leader reason =>
    have closed := ignored rfl
    simp only [Watch.step, Watch.enter, closed, if_true, Detector.restart, update_detector]
    exact ⟨rests, w.silent_update none takes w.detector [.restartIgnored leader]⟩
  | stop reason => exact w.step_ends takes rfl
  | shutdown => exact w.step_ends takes rfl
  | drop => exact w.step_ends takes rfl
  | addListener listener =>
    exact ⟨Detector.addListener_rests idle listener, w.silent_update none takes _ []⟩
  | removeListener id =>
    exact ⟨Detector.removeListener_rests idle id, w.silent_update none takes _ []⟩
  | lose node =>
    have same : (w.submit takes (.lost none node)).detector = w.detector := by
      cases takes <;> rfl
    rw [Watch.step, same]
    exact ⟨rests, w.silent_lost takes node⟩
  | handle node =>
    have other : w.detector.disconnected node = (w.detector, []) :=
      w.detector.disconnected_other (by simp [idle])
    rw [Watch.step, other]
    exact ⟨rests, w.silent_update none takes _ []⟩
  | proceed id source result => exact goes id source result
  | accept id source node message =>
    refine accept_cases (P := fun u => w.detector.Rests u.detector ∧ w.Silent u) takes id source
      node message (goes id source _) fun p request _ _ owns => ?_
    have watched := ((v.sound.owns_iff p request.leader).mp owns).2
    cases idle.symm.trans watched

theorem Valid.run_idle {w : Watch κ} (v : w.Valid) (idle : w.detector.session.leader = none)
    (moves : List (Bool × Move κ))
    (ignored : ∀ m ∈ moves, m.2.begins = true → w.detector.closed = true) :
    w.detector.Rests (w.run moves).detector ∧ w.Silent (w.run moves) := by
  induction moves generalizing w with
  | nil => exact ⟨.refl idle, .refl w⟩
  | cons m moves ih =>
    obtain ⟨first, silent⟩ := v.step_idle idle m.1 (ignored m List.mem_cons_self)
    obtain ⟨rest, silent'⟩ := ih (v.step m.1 m.2) first.idle fun n hn begins =>
      first.closed (ignored n (List.mem_cons_of_mem m hn) begins)
    exact ⟨first.trans rest, silent.trans silent'⟩

/-- Without a session, to end it or to give the detector up changes nothing. -/
theorem Valid.ends_idle {w : Watch κ} (v : w.Valid) (idle : w.detector.session.leader = none)
    (takes : Bool) :
    (∀ reason, w.step takes (.stop reason) = w) ∧ w.step takes .drop = w ∧
      (w.step takes .shutdown) = { w with detector :=
        { w.detector with closed := true, listeners := [], attached := false } } := by
  have same := v.sound.endSession_idle idle
  refine ⟨fun reason => ?_, ?_, ?_⟩
  · rw [Watch.step, Detector.stop, same, Detector.stopNotice_idle idle]
    rfl
  · rw [Watch.step, same]
  · rw [Watch.step, Detector.shutdown, same, Detector.stopNotice_idle idle]
    rfl

theorem Valid.run_shut {w : Watch κ} (v : w.Valid) (takes : Bool) (later : List (Bool × Move κ)) :
    let u := (w.step takes .shutdown).run later
    u.detector.session.leader = none ∧ u.detector.closed = true ∧ u.detector.attached = false ∧
      (∀ x ∈ u.detector.listeners, w.detector.added ≤ x.1) ∧ w.Silent u := by
  intro u
  obtain ⟨first, silent⟩ := w.step_ends takes (m := .shutdown) rfl
  have shut : (w.step takes .shutdown).detector = w.detector.shutdown.1 := update_detector ..
  have closed : (w.step takes .shutdown).detector.closed = true := by
    rw [shut]
    rfl
  have detached : (w.step takes .shutdown).detector.attached = false := by
    rw [shut]
    rfl
  have empty : (w.step takes .shutdown).detector.listeners = [] := by
    rw [shut]
    rfl
  obtain ⟨rest, silent'⟩ := (v.step takes .shutdown).run_idle first.idle later fun _ _ _ => closed
  refine ⟨rest.idle, rest.closed closed, rest.attached detached, fun x hx => ?_,
    silent.trans silent'⟩
  rcases rest.listeners x hx with old | new
  · -- The shutdown left nobody who listens.
    rw [empty] at old
    exact absurd old List.not_mem_nil
  · exact Nat.le_trans first.added new

/-- A follower whose detector was shut down never watches a leader again and counts nothing of one,
whatever its operator, its rounds of discovery and its listeners do. -/
theorem follower_silent_once_shut (state : ClusterState) (settings : FaultDetectionConfig)
    (clusterName : ClusterName) (forget : Bool) (discovery : Option Discovery)
    (before later : List Operation) :
    let operate (v : World) (ops : List Operation) := ops.foldl (fun v op => (v.operate op).1) v
    let v := operate (World.start state settings clusterName forget discovery) before
    let v' := operate v (.shutdown :: later)
    v.operated = true →
      v'.detector.session.leader = none ∧ v'.detector.closed = true ∧
        v'.detector.attached = false ∧ v'.metrics = v.metrics := by
  intro operate v v' operated
  obtain ⟨moves, m⟩ := operations_are_moves state settings clusterName forget discovery before
  have valid := run_valid (κ := Listener) settings clusterName moves
  generalize (create settings clusterName).run moves = w at m valid
  have shut : (w.step (!v.schedulerClosed) .shutdown).Matches
      (v.update false v.detector.shutdown) [] := by
    rw [← m.detector]
    exact m.update false none _
  have next : (v.operate .shutdown).1 = (v.update false v.detector.shutdown).settle.giveUp := by
    simp only [World.operate, World.apply, operated, if_true]
  have settled : World.Leads [] (v.update false v.detector.shutdown) (v.operate .shutdown).1 :=
    next ▸ (World.leads_runUntil _ _ _).trans (World.leads_giveUp _)
  have follows : World.Leads [] (v.update false v.detector.shutdown) v' :=
    settled.trans (World.leads_operations _ later)
  obtain ⟨moves', m'⟩ := follows _ (valid.step _ .shutdown) shut
  obtain ⟨idle, closed, detached, _, silent⟩ := valid.run_shut (!v.schedulerClosed) moves'
  rw [← m'.detector, ← m'.metrics]
  exact ⟨idle, closed, detached, silent.metrics.trans m.metrics⟩

/-- After the end of its session a detector watches no one and is silent until the next restart that
counts, whatever is still under way; and none counts after a shutdown. Then the transport no longer
tells it of lost connections, and to end it again changes nothing, except that another shutdown
drops the listeners that were added since the first. -/
theorem silent_once_ended (settings : FaultDetectionConfig) (clusterName : ClusterName)
    (moves : List (Bool × Move κ)) :
    let w := (create settings clusterName).run moves
    (∀ takes m, m.ends = true → ∀ later, (∀ n ∈ later, n.2.begins = false) →
      let v := (w.step takes m).run later
      v.detector.session.leader = none ∧ w.Silent v) ∧
    ∀ takes later,
      let v := (w.step takes .shutdown).run later
      v.detector.session.leader = none ∧ w.Silent v ∧ v.detector.attached = false ∧
        (∀ x ∈ v.detector.listeners, w.detector.added ≤ x.1) ∧
        ∀ takes,
          (∀ leader reason, v.step takes (.restart leader reason) =
            v.note (.tell (.restartIgnored leader))) ∧
          (∀ reason, v.step takes (.stop reason) = v) ∧ v.step takes .drop = v ∧
          v.step takes .shutdown = { v with detector := { v.detector with listeners := [] } } ∧
          (v.detector.added = w.detector.added → v.step takes .shutdown = v) := by
  intro w
  have valid : w.Valid := run_valid settings clusterName moves
  have accounted : w.Accounted :=
    (create_accounted settings clusterName).run (create_valid settings clusterName) moves
  constructor
  · intro takes m ends later none
    obtain ⟨first, silent⟩ := w.step_ends takes ends
    obtain ⟨rest, silent'⟩ := (valid.step takes m).run_idle first.idle later fun n hn begins => by
      simp [none n hn] at begins
    exact ⟨rest.idle, silent.trans silent'⟩
  · intro takes later v
    obtain ⟨idle, closed, detached, since, silent⟩ := valid.run_shut takes later
    have ordered : v.detector.Ordered :=
      ((accounted.step valid takes .shutdown).run (valid.step takes .shutdown) later).record.ordered
    refine ⟨idle, silent, detached, since, fun takes' => ?_⟩
    obtain ⟨stop, drop, again⟩ := ((valid.step takes .shutdown).run later).ends_idle idle takes'
    have same : v.step takes' .shutdown =
        { v with detector := { v.detector with listeners := [] } } := by
      rw [again, ← closed, ← detached]
    refine ⟨fun leader reason => ?_, stop, drop, same, fun none => ?_⟩
    · have shut : v.detector.closed = true := closed
      simp only [Watch.step, Watch.enter, shut, if_true, Detector.restart]
      rfl
    · have unheard : v.detector.listeners = [] := by
        refine List.eq_nil_iff_forall_not_mem.mpr fun x hx => ?_
        exact Nat.not_lt_of_le (since x hx) (none ▸ ordered.below x hx)
      rw [same, ← unheard]

/-- The answer to a ping that was sent before the session was ended, and the loss of the leader. -/
theorem late_answer_silent :
    let a : Node := ⟨"a", "1", "http://a"⟩
    let moves : List (Bool × Move Unit) :=
      [(true, .addListener ()), (true, .restart a "elected"), (true, .proceed 0 a (.ok ()))]
    let later : List (Bool × Move Unit) :=
      [(true, .lose a), (true, .proceed 1 a (.error (.rejected "a" .noLongerLeader))),
        (true, .proceed 2 a (.ok ()))]
    let w := (create {} "c").run moves
    let v := (w.step true (.stop "retired")).run later
    w.detector.session.leader = some a ∧ v.activities.length = 0 ∧
      v.detector.session.leader = none ∧ w.Silent v := by
  intro a moves later
  have silent := (silent_once_ended {} "c" moves).1 true (.stop "retired") rfl later (by decide)
  exact ⟨by decide, by decide, silent⟩

/-- Not every further shutdown changes nothing. -/
theorem second_shutdown_drops_listeners :
    let w : Watch Unit := create {} "c"
    ¬ ∀ later, ((w.step true .shutdown).run later).step true .shutdown =
      (w.step true .shutdown).run later := by
  intro w unchanged
  have same := congrArg (·.detector.listeners) (unchanged [(true, .addListener ())])
  exact absurd same (by decide)

end Watch

end Vigil

import Vigil.Proofs.Provenance
import Vigil.Proofs.Recording

/-!
A round of discovery as a whole. Calls of a live network are answered from outside, so every peer
may answer anything, or fail to, after any time; while nothing else is due, the round asks one peer
after the other, records who answers under the right id, and at its end points the detector at the
leader.
-/

namespace Vigil

open Discovery (matching recorded strangers)

/-- The address that a handshake was made with. -/
def Event.handshake? : Event → Option String
  | handshake address => some address
  | _ => none

namespace World

/-- The addresses of all handshakes, in their order. -/
def handshakes (w : World) : List String := (w.events.filterMap (·.2.handshake?)).reverse

/-- The answers to the calls from a number on, each after some time. -/
def answering (number : Nat) : List (Nat × Except TransportError Node) → List Operation
  | [] => []
  | (time, answer) :: rest =>
    .advance time ::
      .answer (toString number) (answer.map fun _ => ()) answer.toOption [] ::
      answering (number + 1) rest

def operateAll (w : World) (ops : List Operation) : World :=
  ops.foldl (fun w op => (w.operate op).1) w

/-- A round of discovery with the answers that it gets. -/
def roundWith (w : World) (answers : List (Nat × Except TransportError Node)) : World :=
  w.operateAll (.discover :: answering w.network.calls answers)

/-- How long the answers of a round take. -/
def duration : List (Nat × Except TransportError Node) → Nat
  | [] => 0
  | (time, _) :: rest => time + duration rest

/-- Nothing is due before some moment, nor until then, but what an operator or the network begins.
-/
structure Alone (w : World) (moment : Nat) : Prop where
  operated : w.operated = true
  live : w.network.live = true
  ready : w.agenda.ready = []
  pending : w.queue.pending = []
  working : w.queue.working = true
  later : ∀ x ∈ w.agenda.timers, moment < x.1
  /-- The calls that wait were made before. -/
  numbered : ∀ x ∈ w.held, ∀ number, w.network.calls ≤ number → x.1 ≠ toString number

/-- After at most `steps` steps, for which no time passes, `w` rests as `v`. -/
def Rests (steps : Nat) (w v : World) : Prop :=
  ∀ fuel, steps ≤ fuel → runUntil w.agenda.now fuel w = v

theorem giveUp_operated {w : World} (operated : w.operated = true) : w.giveUp = w := by
  simp only [giveUp, inUse, operated, Bool.true_or, Bool.or_true, if_true]

theorem step_ready {w : World} {task : Task} {rest : List Task} (limit : Nat)
    (ready : w.agenda.ready = task :: rest) :
    w.step limit = some ({ w with agenda := { w.agenda with ready := rest } }.run task).giveUp := by
  simp only [step, Agenda.pop, ready]

theorem step_resting {w : World} {limit : Nat} (ready : w.agenda.ready = [])
    (later : ∀ x ∈ w.agenda.timers, limit < x.1) : w.step limit = none := by
  simp only [step, Agenda.pop, ready, Agenda.wake]
  split
  · rfl
  · next due t rest first =>
    have after := later (due, t) (by rw [first]; exact List.mem_cons_self)
    rw [if_pos after, Option.map_none]

theorem runUntil_resting {w : World} {limit : Nat} (fuel : Nat) (ready : w.agenda.ready = [])
    (later : ∀ x ∈ w.agenda.timers, limit < x.1) : runUntil limit fuel w = w := by
  cases fuel with
  | zero => rfl
  | succ fuel => simp only [runUntil, step_resting ready later]

namespace Rests

variable {w v : World} {steps : Nat}

theorem here (ready : w.agenda.ready = []) (later : ∀ x ∈ w.agenda.timers, w.agenda.now < x.1) :
    Rests steps w w :=
  fun fuel _ => runUntil_resting fuel ready later

theorem next {u : World} {task : Task} {rest : List Task} (ready : w.agenda.ready = task :: rest)
    (ran : { w with agenda := { w.agenda with ready := rest } }.run task = u)
    (operated : u.operated = true) (now : u.agenda.now = w.agenda.now) (h : Rests steps u v) :
    Rests (steps + 1) w v := by
  intro fuel enough
  obtain ⟨fuel, rfl⟩ : ∃ left, fuel = left + 1 := ⟨fuel - 1, by omega⟩
  have one := step_ready w.agenda.now ready
  rw [ran, giveUp_operated operated] at one
  rw [runUntil, one, ← now]
  exact h fuel (Nat.le_of_succ_le_succ enough)

theorem mono {more : Nat} (h : Rests steps w v) (le : steps ≤ more) : Rests more w v :=
  fun fuel enough => h fuel (Nat.le_trans le enough)

theorem unique {u : World} {more : Nat} (h : Rests steps w v) (h' : Rests more w u) : v = u :=
  (h (max steps more) (Nat.le_max_left ..)).symm.trans (h' _ (Nat.le_max_right ..))

theorem settle (h : Rests steps w v) (few : steps ≤ stepLimit) : w.settle = v :=
  h stepLimit few

end Rests

/-- What a round makes of a world with the answers of some peers. -/
structure Hears (w : World) (found : List (PeerConfig × Except TransportError Node))
    (w' : World) : Prop where
  applied : w'.queue.applied = found.foldl recorded w.queue.applied
  handshakes : w'.handshakes = w.handshakes ++ found.map (·.1.address)
  detector : w'.detector = w.detector
  discovery : w'.discovery = w.discovery

theorem Hears.refl (w : World) : w.Hears [] w :=
  ⟨rfl, (List.append_nil _).symm, rfl, rfl⟩

theorem Hears.trans {u v w : World} {x : PeerConfig × Except TransportError Node}
    {found : List (PeerConfig × Except TransportError Node)} (h : u.Hears [x] v)
    (h' : v.Hears found w) : u.Hears (x :: found) w where
  applied := by
    rw [h'.applied, h.applied]
    rfl
  handshakes := by
    rw [h'.handshakes, h.handshakes, List.append_assoc]
    rfl
  detector := h'.detector.trans h.detector
  discovery := h'.discovery.trans h.discovery

theorem tellAll_eq (w : World) (ns : List Notice) :
    ∃ events, w.tellAll ns = { w with events } ∧
      events.filterMap (·.2.handshake?) = w.events.filterMap (·.2.handshake?) := by
  induction ns generalizing w with
  | nil => exact ⟨w.events, rfl, rfl⟩
  | cons n ns ih =>
    obtain ⟨events, same, handshakes⟩ := ih (w.tell n)
    exact ⟨events, same, handshakes⟩

theorem findings_new {peer : PeerConfig} {s : ClusterState} {answer : Except TransportError Node}
    {n : Node} (found : Discovery.findings peer s answer = .new n) : s.contains n = false := by
  cases answer with
  | error e => cases found
  | ok m =>
    simp only [Discovery.findings] at found
    split at found
    · cases found
    · split at found
      · cases found
      · next absent =>
        obtain rfl := Discovery.Finding.new.inj found
        simpa using absent

/-- A world that is alone is so with other records, another clock that is not late, another state,
and more calls. -/
theorem Alone.go_on {w : World} {moment : Nat} (a : w.Alone moment) (now : Nat)
    (applied : ClusterState) (events : List (Nat × Event)) {number : Nat}
    (more : w.network.calls ≤ number) :
    Alone { w with
      agenda := { w.agenda with now }
      queue := { w.queue with applied }
      network := { w.network with calls := number }
      events } moment :=
  ⟨a.operated, a.live, a.ready, a.pending, a.working, a.later,
    fun x hx n later => a.numbered x hx n (Nat.le_trans more later)⟩

/-- From `w` to `v` no time passed, no handshake was made, and neither the detector nor the cluster
state changed. -/
structure Aside (w v : World) : Prop where
  now : v.agenda.now = w.agenda.now
  detector : v.detector = w.detector
  queue : v.queue = w.queue
  discovery : v.discovery = w.discovery
  operated : v.operated = w.operated
  handshakes : v.handshakes = w.handshakes

theorem Aside.refl (w : World) : w.Aside w := ⟨rfl, rfl, rfl, rfl, rfl, rfl⟩

theorem Aside.trans {u v w : World} (h : u.Aside v) (h' : v.Aside w) : u.Aside w :=
  ⟨h'.now.trans h.now, h'.detector.trans h.detector, h'.queue.trans h.queue,
    h'.discovery.trans h.discovery, h'.operated.trans h.operated, h'.handshakes.trans h.handshakes⟩

theorem aside_observe (w : World) {e : Event} (other : e.handshake? = none) :
    w.Aside (w.observe e) :=
  ⟨rfl, rfl, rfl, rfl, rfl, congrArg List.reverse (List.filterMap_cons_none other)⟩

theorem aside_after (w : World) (time : Nat) (t : Task) : w.Aside (w.after time t) := by
  unfold after
  split <;> exact ⟨rfl, rfl, rfl, rfl, rfl, rfl⟩

theorem aside_call (w : World) (c : Call) (script : Script) : w.Aside (w.call c script) := by
  unfold call
  split
  · exact ⟨rfl, rfl, rfl, rfl, rfl, rfl⟩
  · cases script with
    | reply r => exact w.aside_after _ _
    | hold key => exact ⟨rfl, rfl, rfl, rfl, rfl, rfl⟩

theorem aside_perform (keeps : Bool) (w : World) (e : Effect Listener) :
    w.Aside (w.perform keeps e) := by
  cases e with
  | tell notice => exact w.aside_observe rfl
  | count series => exact ⟨rfl, rfl, rfl, rfl, rfl, rfl⟩
  | schedule p delay =>
    simp only [perform]
    split
    · exact w.aside_observe rfl
    · exact ⟨rfl, rfl, rfl, rfl, rfl, rfl⟩
  | dispatch listeners failure =>
    simp only [perform]
    split
    · exact w.aside_observe rfl
    · exact ⟨rfl, rfl, rfl, rfl, rfl, rfl⟩
  | ping p request =>
    have called (v : World) := v.aside_call (.ping p request)
    refine (w.aside_observe (e := .ping request w.pingLimit) rfl).trans ?_
    refine Aside.trans ?_ (called _ _)
    exact ⟨rfl, rfl, rfl, rfl, rfl, rfl⟩
  | connect before node =>
    have called (v : World) := v.aside_call (.connect before node keeps)
    refine (w.aside_observe (e := .connect node) rfl).trans ?_
    refine Aside.trans ?_ (called _ _)
    exact ⟨rfl, rfl, rfl, rfl, rfl, rfl⟩

theorem aside_update (w : World) (keeps : Bool) (r : Detector Listener × List (Effect Listener)) :
    Aside { w with detector := r.1 } (w.update keeps r) := by
  refine update_preserves (P := (Aside { w with detector := r.1 } ·)) keeps r (.refl _) ?_
  exact fun v e _ aside => aside.trans (v.aside_perform keeps e)

theorem aside_reconcile (w : World) :
    Aside { w with detector := Discovery.pointed w.queue.applied w.detector } w.reconcile := by
  unfold reconcile Discovery.pointed
  cases Discovery.adjustment w.queue.applied w.detector.session.leader with
  | none => exact .refl w
  | stop => exact w.aside_update true _
  | restart leader => exact w.aside_update true _

/-- The handshake with a peer, with whoever is found under its address. -/
def ask (w : World) (peer : PeerConfig) (rest : List PeerConfig) (found : Node) : World :=
  (w.observe (.handshake peer.address)).emit (.handshake peer rest none found)

theorem discover_ask {w : World} (live : w.network.live = true) (peer : PeerConfig)
    (rest : List PeerConfig) :
    ∃ found, w.discover (peer :: rest) none = w.ask peer rest found := by
  simp only [discover, observe]
  split
  · next served _ => exact ⟨served.node, by simp only [call, live, if_true]; rfl⟩
  · exact ⟨_, by simp only [live, if_true]; rfl⟩

theorem spawn_eq_proceed {w : World} (ready : w.agenda.ready = []) (t : Task) :
    w.spawn t = w.proceed t := by
  simp only [spawn, proceed, Agenda.push, Agenda.pushFront, ready, List.nil_append]

/-- A round that goes on is not put off. -/
theorem Rests.discover {w v : World} {steps moment : Nat} {rest : List PeerConfig}
    (a : w.Alone moment) (h : Rests steps (w.discover rest none) v) :
    Rests (steps + 1) (w.proceed (.discover rest none)) v := by
  have kept : (w.discover rest none).operated = true ∧
      (w.discover rest none).agenda.now = w.agenda.now := by
    cases rest with
    | nil => exact ⟨w.aside_reconcile.operated.trans a.operated, w.aside_reconcile.now⟩
    | cons peer rest =>
      obtain ⟨found, asked⟩ := discover_ask a.live peer rest
      rw [asked]
      exact ⟨a.operated, rfl⟩
  have same : { w.proceed (.discover rest none) with
      agenda := { (w.proceed (.discover rest none)).agenda with ready := w.agenda.ready } } = w :=
    rfl
  exact Rests.next rfl (by rw [same]; rfl) kept.1 kept.2 h

/-- The worker runs the only task that is queued, and tells who waits for it. -/
theorem work_only {w : World} {task : StateTask} {waiter : Waiter}
    (only : w.queue.pending = [(task, some waiter)]) :
    ∃ events, events.filterMap (·.2.handshake?) = w.events.filterMap (·.2.handshake?) ∧
      w.work = World.spawn { w with
        queue := { w.queue with applied := (task.run w.queue.applied).state, pending := [] }
        events } (.finished waiter (task.run w.queue.applied).result) := by
  let ran := task.run w.queue.applied
  obtain ⟨events, told, same⟩ :=
    tellAll_eq { w with queue := { w.queue with applied := ran.state, pending := [] } } ran.notices
  refine ⟨events, same, ?_⟩
  simp only [work, StateQueue.runOne, only]
  rw [told]
  rfl

/-- A task that is submitted while nothing else is queued is run at once. -/
theorem Alone.submit_rests {w : World} {moment : Nat} (a : w.Alone moment) (task : StateTask)
    (waiter : Waiter) :
    ∃ events, events.filterMap (·.2.handshake?) = w.events.filterMap (·.2.handshake?) ∧
      let w' := { w with
        queue := { w.queue with applied := (task.run w.queue.applied).state }
        events }
      ∀ steps v, Rests steps (w'.proceed (.finished waiter (task.run w.queue.applied).result)) v →
        Rests (steps + 1) (w.submit task waiter) v := by
  obtain ⟨⟨now, ready, timers⟩, detector, ⟨applied, pending, working⟩, discovery, closed, network,
    held, names, metrics, operated, abandoned, outcome, events⟩ := w
  obtain rfl : operated = true := a.operated
  obtain rfl : ready = [] := a.ready
  obtain rfl : pending = [] := a.pending
  obtain rfl : working = true := a.working
  let queued : World :=
    ⟨⟨now, [], timers⟩, detector, ⟨applied, [(task, some waiter)], true⟩, discovery, closed, network,
      held, names, metrics, true, abandoned, outcome, events⟩
  obtain ⟨events', same, worked⟩ := queued.work_only rfl
  refine ⟨events', same, fun steps v rests => ?_⟩
  have ready : (queued.spawn .work).agenda.ready = .work :: [] := rfl
  exact Rests.next ready worked rfl rfl rests

/-- The answer of a peer is recorded before the round goes on. -/
theorem Alone.handshaken_rests {w : World} {moment : Nat} (a : w.Alone moment) (peer : PeerConfig)
    (rest : List PeerConfig) (answer : Except TransportError Node) :
    ∃ events, events.filterMap (·.2.handshake?) = w.events.filterMap (·.2.handshake?) ∧
      let w' := { w with
        queue := { w.queue with applied := recorded w.queue.applied (peer, answer) }
        events }
      ∀ steps v, Rests steps (w'.discover rest none) v →
        Rests (steps + 3) (w.handshaken peer rest none answer) v := by
  obtain ⟨events, told, same⟩ :=
    w.tellAll_eq ((Discovery.findings peer w.queue.applied answer).notice peer)
  have go_on (applied : ClusterState) (events : List (Nat × Event)) :=
    a.go_on w.agenda.now applied events (Nat.le_refl _)
  unfold handshaken
  dsimp only [recorded]
  rw [told]
  cases found : Discovery.findings peer w.queue.applied answer with
  | new n =>
    obtain ⟨_, taken⟩ := Discovery.record_run (findings_new found)
    obtain ⟨events', same', submitted⟩ := (go_on w.queue.applied events).submit_rests
      (Discovery.recordTask n) (.discovery peer rest none)
    refine ⟨events', same'.trans same, fun steps v rests => ?_⟩
    refine submitted _ v ?_
    rw [taken]
    have goes := Rests.discover (go_on _ events') rests
    exact Rests.next rfl rfl a.operated rfl goes
  | unreachable cause =>
    refine ⟨events, same, fun steps v rests => ?_⟩
    exact (Rests.discover (go_on _ events) rests).mono (by omega)
  | mismatch id =>
    refine ⟨events, same, fun steps v rests => ?_⟩
    exact (Rests.discover (go_on _ events) rests).mono (by omega)
  | known =>
    refine ⟨events, same, fun steps v rests => ?_⟩
    exact (Rests.discover (go_on _ events) rests).mono (by omega)

/-- A session that starts has its first ping scheduled, if the scheduler takes it. -/
theorem update_restart {w : World} (open' : w.detector.closed = false) (keeps : Bool) (leader : Node)
    (reason : String) :
    let d := (w.detector.restart leader reason).1
    let told := World.tell { w with detector := d } (.restarting leader reason)
    let p := w.detector.created
    w.update keeps (w.detector.restart leader reason) =
        (if w.schedulerClosed then told.tell (.pingNotScheduled .closed)
        else told.spawn (.scheduled w.detector.settings.pingInterval.millis p)) ∧
      ∀ source, ∃ request, d.beginRound p source = (d, [.count .pingsSent, .ping p request]) := by
  intro d told p
  refine ⟨?_, fun source => ⟨⟨source, leader, some w.detector.clusterName⟩, ?_⟩⟩
  · have effects : (w.detector.restart leader reason).2 =
        [.tell (.restarting leader reason), .schedule p w.detector.settings.pingInterval] := by
      simp [p, Detector.restart, open', Detector.startSession, Detector.startPinger,
        Detector.endSession_eq]
    simp only [update, effects]
    rfl
  · simp [d, p, Detector.beginRound, Detector.isCurrent, Detector.restart, open',
      Detector.startSession, Detector.startPinger, Detector.endSession_eq]

/-- The first ping of a session waits for its moment, or is sent at once. -/
theorem scheduled_rests {w : World} (live : w.network.live = true) (operated : w.operated = true)
    (ready : w.agenda.ready = []) (later : ∀ x ∈ w.agenda.timers, w.agenda.now < x.1)
    {p : PingerId} {request : PingRequest}
    (pings : w.detector.beginRound p w.queue.applied.localNode =
      (w.detector, [.count .pingsSent, .ping p request])) (delay : Nat) :
    ∃ v, Rests 1 (w.spawn (.scheduled delay p)) v ∧ w.Aside v := by
  rw [spawn_eq_proceed ready]
  have same : { w.proceed (.scheduled delay p) with
      agenda := { (w.proceed (.scheduled delay p)).agenda with ready := w.agenda.ready } } = w :=
    rfl
  cases delay with
  | zero =>
    have aside := w.aside_update false (w.detector.beginRound p w.queue.applied.localNode)
    rw [pings] at aside
    let v := w.update false (w.detector, [.count .pingsSent, .ping p request])
    have calm : v.agenda = w.agenda := by
      simp only [v, update, List.foldl_cons, List.foldl_nil, perform, observe, call, live, if_true]
      rfl
    refine ⟨v, Rests.next rfl ?_ (aside.operated.trans operated) aside.now
      (Rests.here (by rw [calm]; exact ready) (by rw [calm]; exact later)), aside⟩
    rw [same]
    simp only [run, pings]
  | succ delay =>
    have waits : w.after (delay + 1) (.round p) =
        { w with agenda := w.agenda.wait (delay + 1) (.round p) } :=
      if_neg (Nat.succ_ne_zero delay)
    have aside := w.aside_after (delay + 1) (.round p)
    refine ⟨w.after (delay + 1) (.round p), Rests.next rfl (by rw [same]; rfl)
      (aside.operated.trans operated) aside.now (Rests.here ?_ fun x hx => ?_), aside⟩
    · rw [waits]
      exact ready
    · rw [waits] at hx ⊢
      rcases Agenda.mem_insertTimer.mp hx with rfl | old
      · exact Nat.lt_add_of_pos_right (Nat.succ_pos delay)
      · exact later x old

/-- The end of a round leaves nothing to be done but the first ping of a session that it started. -/
theorem Alone.reconcile_rests {w : World} {moment : Nat} (a : w.Alone moment)
    (early : w.agenda.now ≤ moment) :
    ∃ v, Rests 1 w.reconcile v ∧
      Aside { w with detector := Discovery.pointed w.queue.applied w.detector } v := by
  have resting {v : World} (same : v.agenda = w.agenda) : Rests 1 v v := by
    refine Rests.here (by rw [same]; exact a.ready) fun x hx => ?_
    rw [same] at hx ⊢
    exact Nat.lt_of_le_of_lt early (a.later x hx)
  have aside := w.aside_reconcile
  cases decided : Discovery.adjustment w.queue.applied w.detector.session.leader with
  | none =>
    refine ⟨w.reconcile, resting ?_, aside⟩
    simp only [reconcile, decided]
  | stop =>
    refine ⟨w.reconcile, resting ?_, aside⟩
    simp only [reconcile, decided, Detector.stop, Detector.stopNotice]
    cases w.detector.session.leader <;> rfl
  | restart leader =>
    cases shut : w.detector.closed with
    | true =>
      refine ⟨w.reconcile, resting ?_, aside⟩
      simp only [reconcile, decided, Detector.restart, shut]
      rfl
    | false =>
      obtain ⟨begun, pings⟩ := w.update_restart shut true leader "leader discovered"
      have ends : w.reconcile = w.update true (w.detector.restart leader "leader discovered") := by
        simp only [reconcile, decided]
      rw [← ends] at begun
      split at begun
      · refine ⟨w.reconcile, resting ?_, aside⟩
        rw [begun]
        rfl
      · have same : Discovery.pointed w.queue.applied w.detector =
            (w.detector.restart leader "leader discovered").1 := by
          simp only [Discovery.pointed, decided]
        obtain ⟨request, pings⟩ := pings w.queue.applied.localNode
        let begins : World := { w with detector := Discovery.pointed w.queue.applied w.detector }
        let told := begins.tell (.restarting leader "leader discovered")
        rw [← same] at begun pings
        obtain ⟨v, rests, aside⟩ := scheduled_rests (w := told) a.live a.operated a.ready
          (fun x hx => Nat.lt_of_le_of_lt early (a.later x hx)) pings
          w.detector.settings.pingInterval.millis
        refine ⟨v, ?_, (begins.aside_observe rfl).trans aside⟩
        rw [begun]
        exact rests

theorem Alone.discover_rests {w : World} {moment : Nat} (a : w.Alone moment)
    (early : w.agenda.now ≤ moment) (rest : List PeerConfig) :
    ∃ v, Rests 1 (w.discover rest none) v ∧ v.operated = true := by
  cases rest with
  | nil =>
    obtain ⟨v, rests, aside⟩ := a.reconcile_rests early
    exact ⟨v, rests, aside.operated.trans a.operated⟩
  | cons peer rest =>
    obtain ⟨found, asked⟩ := discover_ask a.live peer rest
    refine ⟨w.ask peer rest found, ?_, a.operated⟩
    rw [asked]
    exact Rests.here a.ready fun x hx => Nat.lt_of_le_of_lt early (a.later x hx)

theorem handshaken_kept (w : World) (peer : PeerConfig) (rest : List PeerConfig)
    (answer : Except TransportError Node) :
    (w.handshaken peer rest none answer).operated = w.operated ∧
      (w.handshaken peer rest none answer).agenda.now = w.agenda.now := by
  obtain ⟨events, told, _⟩ :=
    w.tellAll_eq ((Discovery.findings peer w.queue.applied answer).notice peer)
  unfold handshaken
  dsimp only
  rw [told]
  cases Discovery.findings peer w.queue.applied answer with
  | new n =>
    simp only [submit]
    split
    · exact ⟨rfl, rfl⟩
    · split <;> exact ⟨rfl, rfl⟩
  | _ => exact ⟨rfl, rfl⟩

/-- Time passes that nothing waits for. -/
theorem operate_advance {w : World} {time : Nat} (operated : w.operated = true)
    (ready : w.agenda.ready = []) (later : ∀ x ∈ w.agenda.timers, w.agenda.now + time < x.1) :
    (w.operate (.advance time)).1 =
      { w with agenda := { w.agenda with now := w.agenda.now + time } } := by
  have passed : w.advance time =
      { w with agenda := { w.agenda with now := w.agenda.now + time } } := by
    simp only [advance, runUntil_resting stepLimit ready later, Agenda.reach,
      Nat.max_eq_right (Nat.le_add_right ..)]
  rw [Life.operate_world]
  simp only [apply, passed]
  let w' : World := { w with agenda := { w.agenda with now := w.agenda.now + time } }
  have rests : Rests 0 w' w' := Rests.here ready later
  change w'.settle.giveUp = w'
  rw [rests.settle (Nat.zero_le _)]
  exact giveUp_operated operated

/-- The only call under a key is the one that is answered. -/
theorem apply_answer {w : World} {key : String} (unused : ∀ x ∈ w.held, x.1 ≠ key) (call : Call)
    (result : Except TransportError Unit) (found : Option Node) :
    ((w.hold key call).apply (.answer key result found [])).1 =
      w.proceed (.answered (found.elim call call.finding) result) := by
  have others : w.held.filter (·.1 != key) = w.held :=
    List.filter_eq_self.mpr fun x hx => by simpa using unused x hx
  have first : w.held.lookup key = none :=
    List.lookup_eq_none_iff.mpr fun x hx => by simpa using fun same => unused x hx same.symm
  have here : (w.held ++ [(key, call)]).lookup key = some call := by
    rw [List.lookup_append, first]
    simp
  have left : (w.held ++ [(key, call)]).filter (·.1 != key) = w.held := by
    rw [List.filter_append, others]
    simp
  simp only [apply, List.foldl_nil, hold, here, left]

/-- The answer of a peer has its effect before the next peer is asked. -/
theorem Alone.answered {w : World} {moment : Nat} (a : w.Alone moment) (peer : PeerConfig)
    (rest : List PeerConfig) (found : Node) (time : Nat) (answer : Except TransportError Node)
    (early : w.agenda.now + time ≤ moment) :
    ∃ w', w.Hears [(peer, answer)] w' ∧ w'.Alone moment ∧ w'.agenda.now = w.agenda.now + time ∧
      w'.network.calls = w.network.calls + 1 ∧
      ∀ v, Rests 1 (w'.discover rest none) v → v.operated = true →
        (w.ask peer rest found).operateAll [.advance time, .answer (toString w.network.calls)
          (answer.map fun _ => ()) answer.toOption []] = v := by
  let asked := (w.agenda.now, Event.handshake peer.address) :: w.events
  let called : World := { w with
    agenda := { w.agenda with now := w.agenda.now + time }
    network := { w.network with calls := w.network.calls + 1 }
    events := asked }
  have alone : called.Alone moment :=
    a.go_on _ w.queue.applied asked (Nat.le_succ _)
  obtain ⟨events, same, goes⟩ := alone.handshaken_rests peer rest answer
  refine ⟨{ called with
    queue := { w.queue with applied := recorded w.queue.applied (peer, answer) }
    events }, ?_, ?_, rfl, rfl, fun v rests operated => ?_⟩
  · refine ⟨rfl, ?_, rfl, rfl⟩
    have shown := congrArg List.reverse same
    simp only [called, asked, List.filterMap_cons, Event.handshake?, List.reverse_cons] at shown
    exact shown
  · exact a.go_on _ _ events (Nat.le_succ _)
  · have passed : ((w.ask peer rest found).operate (.advance time)).1 =
        called.hold (toString w.network.calls) (.handshake peer rest none found) :=
      operate_advance (w := w.ask peer rest found) a.operated a.ready fun x hx =>
        Nat.lt_of_le_of_lt early (a.later x hx)
    have unused : ∀ x ∈ called.held, x.1 ≠ toString w.network.calls := fun x hx =>
      a.numbered x hx _ (Nat.le_refl _)
    let call : Call := .handshake peer rest none (answer.toOption.getD found)
    have meant : answer.toOption.elim (.handshake peer rest none found)
        (Call.finding · (.handshake peer rest none found)) = call := by
      cases answer <;> rfl
    have ran : called.answer call (answer.map fun _ => ()) =
        called.handshaken peer rest none answer := by
      cases answer <;> rfl
    obtain ⟨kept, now⟩ := called.handshaken_kept peer rest answer
    have rests' : Rests 5 (called.proceed (.answered call (answer.map fun _ => ()))) v :=
      Rests.next rfl ran (kept.trans a.operated) now (goes 1 v rests)
    simp only [operateAll, List.foldl_cons, List.foldl_nil]
    rw [passed, Life.operate_world, apply_answer unused, meant, rests'.settle (by decide)]
    exact giveUp_operated operated

/-- A round that goes on asks the rest of the peers and ends. -/
theorem Alone.round_ends {moment : Nat} (rest : List PeerConfig) :
    ∀ {w : World}, w.Alone moment → ∀ answers : List (Nat × Except TransportError Node),
      answers.length = rest.length → w.agenda.now + duration answers ≤ moment →
      ∀ {z : World}, Rests 1 (w.discover rest none) z →
        ∃ w', w.Hears (rest.zip (answers.map (·.2))) w' ∧
          Aside { w' with detector := Discovery.pointed w'.queue.applied w'.detector }
            (z.operateAll (answering w.network.calls answers)) := by
  induction rest with
  | nil =>
    intro w a answers all early z rests
    obtain rfl := List.eq_nil_of_length_eq_zero all
    obtain ⟨v, rests', aside⟩ := a.reconcile_rests (Nat.le_trans (Nat.le_add_right ..) early)
    obtain rfl := rests.unique rests'
    exact ⟨w, .refl w, aside⟩
  | cons peer rest ih =>
    intro w a answers all early z rests
    obtain ⟨⟨time, answer⟩, answers, rfl⟩ := List.exists_cons_of_length_eq_add_one all
    have sum : duration ((time, answer) :: answers) = time + duration answers := rfl
    rw [sum] at early
    have soon : w.agenda.now + time ≤ moment := by omega
    obtain ⟨found, asked⟩ := discover_ask a.live peer rest
    have waits : Rests 1 (w.ask peer rest found) (w.ask peer rest found) :=
      Rests.here a.ready fun x hx => Nat.lt_of_le_of_lt (Nat.le_trans (Nat.le_add_right ..) soon)
        (a.later x hx)
    rw [asked] at rests
    obtain rfl := rests.unique waits
    obtain ⟨w₁, hears, alone, now, calls, goes⟩ := a.answered peer rest found time answer soon
    obtain ⟨z₁, rests₁, operated⟩ := alone.discover_rests (by omega) rest
    have next := goes z₁ rests₁ operated
    obtain ⟨w', hears', aside⟩ :=
      ih alone answers (Nat.succ.inj all) (by omega) rests₁
    refine ⟨w', hears.trans hears', ?_⟩
    rw [calls, ← next] at aside
    exact aside

/-- What a round that nothing else interferes with makes of a follower. -/
theorem Alone.roundWith_eq {w : World} {d : Discovery}
    {answers : List (Nat × Except TransportError Node)}
    (a : w.Alone (w.agenda.now + duration answers)) (known : w.discovery = some d)
    (all : answers.length = d.others.length) :
    let found := d.others.zip (answers.map (·.2))
    let v := w.roundWith answers
    v.queue.applied = found.foldl recorded w.queue.applied ∧
      v.handshakes = w.handshakes ++ d.others.map (·.address) ∧
      v.detector = Discovery.pointed v.queue.applied w.detector ∧ v.discovery = some d := by
  intro found v
  obtain ⟨z, rests, operated⟩ := a.discover_rests (Nat.le_add_right ..) d.others
  have begun : (w.operate .discover).1 = z := by
    have asked : (w.apply .discover).1 = w.proceed (.discover d.others none) := by
      simp only [apply, known, a.operated, if_true, spawn_eq_proceed a.ready]
    rw [Life.operate_world, asked, (Rests.discover a rests).settle (by decide)]
    exact giveUp_operated operated
  obtain ⟨w', hears, aside⟩ := a.round_ends d.others answers all (Nat.le_refl _) rests
  have ended : v = z.operateAll (answering w.network.calls answers) := by
    simp only [v, roundWith, operateAll, List.foldl_cons, begun]
  have addresses : found.map (·.1.address) = d.others.map (·.address) := by
    have peers : found.map (·.1) = d.others :=
      List.map_fst_zip (by rw [List.length_map, all])
    rw [← peers, List.map_map]
    rfl
  rw [ended, aside.queue, aside.handshakes, aside.detector, aside.discovery]
  refine ⟨hears.applied, ?_, ?_, hears.discovery.trans known⟩
  · exact hears.handshakes.trans (by rw [addresses])
  · rw [hears.detector]

/-- In a round of discovery that nothing else interferes with, each other peer is asked once, in the
configured order. The nodes that answered under the ids asked for are recorded, a later one over an
earlier one, each as a new version if it was no member when its turn came; nothing else of the state
changes. Then the detector is pointed at the leader, and never at the local node. If no two of the
nodes found differ under one id, all of them are members then, their order is of no matter to the
version either, and the same round once more changes neither the state nor the detector. -/
theorem discovery_round (w : World) (d : Discovery)
    (answers : List (Nat × Except TransportError Node)) (known : w.discovery = some d)
    (all : answers.length = d.others.length)
    (alone : w.Alone (w.agenda.now + duration answers))
    (filed : ∀ id n, w.queue.applied.nodes.get? id = some n → n.id = id) :
    let s := w.queue.applied
    let ns := matching (d.others.zip (answers.map (·.2)))
    let v := w.roundWith answers
    let s' := v.queue.applied
    v.handshakes = w.handshakes ++ d.others.map (·.address) ∧
      Discovery.Records s ns s' ∧
      Discovery.Pointed s' w.detector v.detector ∧
      (∀ n, v.detector.session.leader = some n →
        w.detector.session.leader = some n ∨ n.id ≠ s.localNode.id) ∧
      ((∀ n ∈ ns, ∀ m ∈ ns, n.id = m.id → n = m) →
        strangers s ns = (ns.toFinset.filter fun n => s.contains n = false).card ∧
          (∀ n ∈ ns, s'.contains n = true) ∧
          ∀ again, again.map (·.2) = answers.map (·.2) →
            v.Alone (v.agenda.now + duration again) →
            (v.roundWith again).queue.applied = s' ∧
              (v.roundWith again).detector = v.detector) := by
  intro s ns v s'
  obtain ⟨applied, handshakes, detector, known'⟩ := alone.roundWith_eq known all
  have records : Discovery.Records s ns s' := by
    have recorded := Discovery.foldl_recorded s (d.others.zip (answers.map (·.2)))
    rwa [← applied] at recorded
  have points : Discovery.Pointed s' w.detector v.detector := by
    have pointed := Discovery.pointed_pointed s' w.detector
    rwa [← detector] at pointed
  refine ⟨handshakes, records, points, fun n watched => ?_, fun agree => ?_⟩
  · rw [← records.localNode]
    exact points.local_unwatched (records.filed filed) watched
  refine ⟨Discovery.strangers_eq_card agree s, records.members agree, ?_⟩
  intro again same alone'
  have all' : again.length = d.others.length := by
    rw [← all, ← List.length_map (·.2), same, List.length_map]
  obtain ⟨applied', _, detector', _⟩ := alone'.roundWith_eq known' all'
  have still : (v.roundWith again).queue.applied = s' := by
    rw [applied', same]
    exact Discovery.foldl_recorded_known (records.members agree)
  refine ⟨still, ?_⟩
  rw [detector', still]
  exact points.again

/-- The leader answers twice, under a new incarnation the second time; meanwhile it answers for
another peer too, under the wrong id. -/
theorem restarted_leader_followed :
    let a : Node := ⟨"a", "1", "http://a"⟩
    let b : Node := ⟨"b", "1", "http://b"⟩
    let b' : Node := ⟨"b", "2", "http://b"⟩
    let d : Discovery := ⟨"a", [⟨"b", "u"⟩, ⟨"a", "v"⟩, ⟨"c", "u"⟩, ⟨"b", "w"⟩], ⟨0⟩⟩
    let s := (ClusterState.initial "k" a).withLeader (some "b")
    let w : World := { start s {} "k" false (some d) with network := { live := true } }
    let answers : List (Nat × Except TransportError Node) := [(1, .ok b), (0, .ok b), (2, .ok b')]
    let v := w.roundWith answers
    v.handshakes = ["u", "u", "w"] ∧ v.queue.applied.nodes.get? "b" = some b' ∧
      v.queue.applied.nodes.get? "c" = none ∧ v.queue.applied.version = 2 ∧
      v.detector.session.leader = some b' ∧
      let again : List (Nat × Except TransportError Node) := [(1, .ok b), (0, .ok b), (2, .ok b)]
      let u := w.roundWith again
      u.queue.applied.version = 1 ∧ (u.roundWith again).queue.applied = u.queue.applied ∧
        (u.roundWith again).detector = u.detector := by
  intro a b b' d s w answers
  have known : w.discovery = some d := rfl
  have filed : ∀ id n, w.queue.applied.nodes.get? id = some n → n.id = id := by
    intro id n here
    have entry : w.queue.applied.nodes.get? id = if id = "a" then some a else none :=
      Members.get?_singleton a id
    rw [entry] at here
    split at here
    · next own =>
      obtain rfl := Option.some.inj here
      exact own.symm
    · cases here
  have alone : w.Alone (w.agenda.now + duration answers) := by
    constructor
    case numbered => exact fun x hx => absurd hx List.not_mem_nil
    all_goals decide
  obtain ⟨handshakes, records, points, _, _⟩ := discovery_round w d answers known rfl alone filed
  have newest := (records.nodes "b").trans (show _ = some b' by decide)
  have leader : (w.roundWith answers).queue.applied.leader? = some b' := by
    have led : w.queue.applied.leaderId = some "b" := rfl
    rw [ClusterState.leader?, records.leaderId, led, Option.bind_some, newest]
  have follows : (w.roundWith answers).queue.applied.isLeader = false := by
    rw [ClusterState.isLeader, records.leaderId, records.localNode]
    decide
  have watched := (points.follows b' follows leader).2.2 rfl
  have unlisted := (records.nodes "c").trans (show _ = none by decide)
  refine ⟨handshakes, newest, unlisted, records.version.trans (by decide), watched, ?_⟩
  intro again
  have alone' : w.Alone (w.agenda.now + duration again) := alone
  have unread : (w.roundWith again).held = [] := by decide +kernel
  have free : (w.roundWith again).Alone ((w.roundWith again).agenda.now + duration again) := by
    constructor
    case numbered => simp [unread]
    all_goals decide +kernel
  obtain ⟨_, records', _, _, settled⟩ := discovery_round w d again known rfl alone' filed
  obtain ⟨_, _, same⟩ := settled (by decide)
  exact ⟨records'.version.trans (by decide), same again rfl free⟩

end World

end Vigil

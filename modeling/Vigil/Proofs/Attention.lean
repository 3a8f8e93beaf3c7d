import Vigil.Proofs.Outcome
import Vigil.Proofs.Provenance

/-!
What one task can bring about in a running node: which tasks and which changes of the state it hands
over, and what it makes of the detector. From that follows what holds in every state of a node: its
detector watches no one but another node, and whoever fails is told to the one listener that forgets
him.
-/

namespace Vigil

namespace Detector

variable {κ : Type}

/-- An event leaves the listeners as they are, and tells them of no failure but that of the leader
who is watched. -/
structure Heeded (d : Detector κ) (r : Detector κ × List (Effect κ)) : Prop where
  listeners : r.1.listeners = d.listeners
  closed : r.1.closed = d.closed
  told : ∀ ls f, .dispatch ls f ∈ r.2 → ls = d.listeners ∧ d.session.leader = some f.leader

theorem endSession_listeners (d : Detector κ) :
    d.endSession.listeners = d.listeners ∧ d.endSession.closed = d.closed := by
  rw [endSession_eq]
  exact ⟨rfl, rfl⟩

theorem heeded_same (d : Detector κ) {effects : List (Effect κ)}
    (none : ∀ ls f, .dispatch ls f ∉ effects) : d.Heeded (d, effects) :=
  ⟨rfl, rfl, fun ls f told => absurd told (none ls f)⟩

theorem heeded_notifyFailure (d : Detector κ) {leader : Node}
    (watched : d.session.leader = some leader) (cause : Option TransportError) (reason : String) :
    d.Heeded (d.notifyFailure leader cause reason) := by
  unfold notifyFailure
  split
  · exact d.heeded_same (by simp)
  · obtain ⟨listeners, closed⟩ :=
      endSession_listeners { d with session := { d.session with notified := true } }
    refine ⟨listeners, closed, fun ls f told => ?_⟩
    obtain ⟨rfl, rfl⟩ : ls = d.listeners ∧ f = ⟨leader, cause, reason⟩ := by simpa using told
    exact ⟨rfl, watched⟩

theorem Heeded.cons {d : Detector κ} {r : Detector κ × List (Effect κ)} (h : d.Heeded r)
    {e : Effect κ} (record : e.isRequest = false) : d.Heeded (r.1, e :: r.2) := by
  refine ⟨h.listeners, h.closed, fun ls f told => ?_⟩
  rcases List.mem_cons.mp told with rfl | told
  · cases record
  · exact h.told ls f told

theorem heeded_disconnected (d : Detector κ) (node : Node) : d.Heeded (d.disconnected node) := by
  unfold disconnected
  split
  · exact d.heeded_same (by simp)
  · next watched =>
    split
    · exact d.heeded_same (by simp)
    · exact (d.heeded_notifyFailure (by simpa using watched) none _).cons rfl

theorem heeded_attemptFailed (d : Detector κ) (p : PingerId) {request : PingRequest}
    (watched : d.session.leader = some request.leader) (e : TransportError) :
    d.Heeded (d.attemptFailed p request e) := by
  unfold attemptFailed
  dsimp only
  split
  · exact ⟨rfl, rfl, by simp⟩
  · have failed := heeded_notifyFailure
      { d with session := { d.session with retryCount := d.session.retryCount + 1 } }
      watched (some e) (usedUpReason d.settings)
    have heeded : d.Heeded (notifyFailure { d with session := { d.session with
        retryCount := d.session.retryCount + 1 } } request.leader (some e)
        (usedUpReason d.settings)) :=
      ⟨failed.listeners, failed.closed, failed.told⟩
    exact (heeded.cons rfl).cons rfl

theorem heeded_pingFailed (d : Detector κ) (p : PingerId) (request : PingRequest)
    (e : TransportError) : d.Heeded (d.pingFailed p request e) := by
  unfold pingFailed
  dsimp only
  split
  · exact d.heeded_same (by simp)
  · next owns =>
    have watched : d.session.leader = some request.leader :=
      ((d.owns_iff p _).mp (by simpa using owns)).2
    refine Heeded.cons ?_ rfl
    cases e with
    | disconnected n m => exact d.heeded_disconnected request.leader
    | rejected n rejection => exact (d.heeded_notifyFailure watched _ _).cons rfl
    | timeout n limit => exact d.heeded_attemptFailed p watched _
    | remote n m => exact d.heeded_attemptFailed p watched _

theorem heeded_goOn (d : Detector κ) (source : Node) (result : Except TransportError Unit)
    (a : Activity κ) : d.Heeded (d.goOn source result a) := by
  cases a with
  | scheduled p delay =>
    simp only [goOn, beginRound]
    split
    · exact d.heeded_same (by simp)
    · split <;> exact d.heeded_same (by simp)
  | pinging p request sent =>
    simp only [goOn, pinged]
    split
    · exact d.heeded_same (by simp)
    · cases result with
      | ok _ =>
        dsimp only
        split
        · exact ⟨rfl, rfl, by simp⟩
        · exact d.heeded_same (by simp)
      | error e => exact d.heeded_pingFailed p request e
  | connecting run before leader =>
    simp only [goOn, connected]
    split
    · exact d.heeded_same (by simp)
    · next current =>
      have watched : d.session.leader = some leader := by
        simpa using (not_or.mp current).1
      cases result with
      | ok _ => cases before <;> exact ⟨rfl, rfl, by simp [startPinger]⟩
      | error e => exact (d.heeded_notifyFailure watched _ _).cons rfl
  | lost run node => exact d.heeded_disconnected node
  | calling session rest failure => exact d.heeded_same (by simp)

end Detector

/-- What waits for a moment in a node that runs: a ping, or a round of discovery. -/
def Task.Waits : Task → Prop
  | .round _ | .tick _ => True
  | _ => False

/-- What a detector and its surroundings hand over without an answer from outside. -/
def Task.Brought (d : Detector Listener) : Task → Prop
  | .answered .. => False
  | .dispatch ls f => ls = d.listeners ∧ d.session.leader = some f.leader
  | _ => True

theorem Task.Waits.brought {t : Task} (h : t.Waits) (d : Detector Listener) : t.Brought d := by
  cases t <;> trivial

/-- From `u` to `w` only work was added: tasks that are `new`, and changes of the state that are
`queued`. -/
structure World.Grows (new : Task → Prop) (queued : StateTask → Prop) (u w : World) : Prop where
  detector : w.detector = u.detector
  live : w.network.live = u.network.live
  kept : ∀ t ∈ u.agenda.ready, t ∈ w.agenda.ready
  ready : ∀ t ∈ w.agenda.ready, t ∈ u.agenda.ready ∨ new t
  timers : ∀ x ∈ w.agenda.timers, x ∈ u.agenda.timers ∨ x.2.Waits
  queue : ∃ more, w.queue = { u.queue with pending := u.queue.pending ++ more } ∧
    ∀ e ∈ more, queued e.1

namespace World.Grows

variable {new : Task → Prop} {queued : StateTask → Prop} {u w : World}

theorem of_eq (detector : w.detector = u.detector) (live : w.network.live = u.network.live)
    (ready : w.agenda.ready = u.agenda.ready) (timers : w.agenda.timers = u.agenda.timers)
    (queue : w.queue = u.queue) : Grows new queued u w where
  detector := detector
  live := live
  kept t ht := ready ▸ ht
  ready t ht := .inl (ready ▸ ht)
  timers x hx := .inl (timers ▸ hx)
  queue := ⟨[], by simp [queue], by simp⟩

theorem refl (u : World) : Grows new queued u u := of_eq rfl rfl rfl rfl rfl

theorem observe (g : Grows new queued u w) (e : Event) : Grows new queued u (w.observe e) :=
  { g with }

theorem tell (g : Grows new queued u w) (n : Notice) : Grows new queued u (w.tell n) :=
  g.observe _

theorem tellAll (g : Grows new queued u w) (ns : List Notice) :
    Grows new queued u (w.tellAll ns) :=
  World.tellAll_preserves ns g fun _ n g => g.tell n

theorem spawn (g : Grows new queued u w) {t : Task} (ht : new t) :
    Grows new queued u (w.spawn t) := by
  refine { g with kept := fun x hx => List.mem_append_left _ (g.kept x hx), ready := fun x hx => ?_ }
  rcases List.mem_append.mp hx with hx | hx
  · exact g.ready x hx
  · exact .inr (List.mem_singleton.mp hx ▸ ht)

theorem proceed (g : Grows new queued u w) {t : Task} (ht : new t) :
    Grows new queued u (w.proceed t) := by
  refine { g with
    kept := fun x hx => List.mem_cons_of_mem _ (g.kept x hx), ready := fun x hx => ?_ }
  rcases List.mem_cons.mp hx with rfl | hx
  · exact .inr ht
  · exact g.ready x hx

theorem after (g : Grows new queued u w) (time : Nat) {t : Task} (ht : new t) (waits : t.Waits) :
    Grows new queued u (w.after time t) := by
  unfold World.after
  split
  · exact g.proceed ht
  · refine { g with timers := fun x hx => ?_ }
    rcases Agenda.mem_insertTimer.mp hx with rfl | hx
    · exact .inr waits
    · exact g.timers x hx

theorem call (g : Grows new queued u w) (live : u.network.live = true) (c : Call)
    (script : Script) : Grows new queued u (w.call c script) := by
  unfold World.call
  rw [if_pos (g.live.trans live)]
  exact { g with }

theorem perform {d : Detector Listener} (g : Grows (Task.Brought d) queued u w)
    (live : u.network.live = true) (keeps : Bool) {e : Effect Listener}
    (told : ∀ ls f, e = .dispatch ls f → ls = d.listeners ∧ d.session.leader = some f.leader) :
    Grows (Task.Brought d) queued u (w.perform keeps e) := by
  cases e with
  | tell notice => exact g.tell notice
  | count series => exact { g with }
  | schedule p delay =>
    simp only [World.perform]
    split
    · exact g.tell _
    · exact g.spawn trivial
  | dispatch ls f =>
    simp only [World.perform]
    split
    · exact g.tell _
    · exact g.spawn (told ls f rfl)
  | ping p request =>
    have asked : Grows (Task.Brought d) queued u { w.observe (.ping request w.pingLimit) with
        network := { w.network with pings := (Network.next w.network.pings).2 } } :=
      { g with }
    exact asked.call live (.ping p request) _
  | connect before node =>
    have asked : Grows (Task.Brought d) queued u { w.observe (.connect node) with
        network := { w.network with connects := (Network.next w.network.connects).2 } } :=
      { g with }
    exact asked.call live (.connect before node keeps) _

theorem queue_more (g : Grows new queued u w) {task : StateTask} (ht : queued task)
    {waiter : Option Waiter} {queue : StateQueue (Option Waiter)}
    (taken : w.queue.submit task waiter = .ok queue) : Grows new queued u { w with queue } := by
  obtain ⟨more, same, allowed⟩ := g.queue
  unfold StateQueue.submit at taken
  split at taken
  · obtain rfl := Except.ok.inj taken
    refine { g with queue := ⟨more ++ [(task, waiter)], by simp [same], fun e he => ?_⟩ }
    rcases List.mem_append.mp he with he | he
    · exact allowed e he
    · rw [List.mem_singleton.mp he]
      exact ht
  · cases taken

theorem submit (g : Grows new queued u w) {task : StateTask} (ht : queued task) (waiter : Waiter)
    (finished : ∀ e, new (.finished waiter (.error e))) (work : new .work) :
    Grows new queued u (w.submit task waiter) := by
  unfold World.submit
  split
  · exact g.proceed (finished _)
  · next queue taken =>
    have grown := g.queue_more ht taken
    dsimp only
    split
    · exact grown.spawn work
    · exact grown

end World.Grows

namespace World

theorem grows_update (queued : StateTask → Prop) (w : World) (live : w.network.live = true)
    (keeps : Bool) (r : Detector Listener × List (Effect Listener))
    (told : ∀ ls f, .dispatch ls f ∈ r.2 →
      ls = w.detector.listeners ∧ w.detector.session.leader = some f.leader) :
    Grows (Task.Brought w.detector) queued { w with detector := r.1 } (w.update keeps r) := by
  refine update_preserves keeps r (.refl _) fun v e here g => ?_
  exact g.perform live keeps fun ls f same => told ls f (same ▸ here)

theorem grows_shutdown (queued : StateTask → Prop) (w : World) (live : w.network.live = true) :
    Grows (Task.Brought w.detector) queued { w with detector := w.detector.shutdown.1 }
      (w.update false w.detector.shutdown) := by
  refine w.grows_update queued live false _ fun ls f told => ?_
  simp only [Detector.shutdown, Detector.stopNotice] at told
  split at told <;> simp at told

end World

/-- Who listens to `d` listens to `d'`, and `d'` watches no one but whom `d` watches or the leader
in a state, who is another node. -/
structure Detector.Led {κ : Type} (s : ClusterState) (d d' : Detector κ) : Prop where
  listeners : d'.listeners = d.listeners
  closed : d'.closed = d.closed
  leader : ∀ leader, d'.session.leader = some leader → d.session.leader = some leader ∨
    d.closed = false ∧ s.isLeader = false ∧ s.leader? = some leader

theorem Detector.Led.refl {κ : Type} (s : ClusterState) (d : Detector κ) : d.Led s d :=
  ⟨rfl, rfl, fun _ h => .inl h⟩

def StateTask.Checks (task : StateTask) : Prop := ∃ r : PingRequest, task = r.check

/-- The changes of the state that a task hands over. -/
def Task.Queues (t : Task) (task : StateTask) : Prop :=
  (∃ n, task = Discovery.forgetTask n) ∨
    ∃ peer rest loop n, t = .answered (.handshake peer rest loop n) (.ok ()) ∧
      task = Discovery.recordTask n

/-- Who may become a member again by an answer. -/
def Task.recalled? : Task → Option Node
  | .answered (.handshake _ _ _ found) (.ok ()) => some found
  | _ => none

/-- The one listener of a node is told of no failure but that of another node. -/
def Task.Heard (me : Node) : Task → Prop
  | .dispatch ls f => ls = [(0, .forget)] ∧ f.leader.id ≠ me.id
  | _ => True

namespace World

variable {c : ClusterConfig} {me : Node} {met : List (PeerConfig × Node)} {w : World}

theorem grows_goOn (queued : StateTask → Prop) (w : World) (live : w.network.live = true)
    (keeps : Bool) (source : Node) (result : Except TransportError Unit) (a : Activity Listener) :
    let r := w.detector.goOn source result a
    w.detector.Led w.queue.applied r.1 ∧
      Grows (Task.Brought w.detector) queued { w with detector := r.1 } (w.update keeps r) := by
  have heeded := w.detector.heeded_goOn source result a
  refine ⟨⟨heeded.listeners, heeded.closed, fun leader watched => .inl ?_⟩, ?_⟩
  · exact w.detector.goOn_leader source result a leader watched
  · exact w.grows_update queued live keeps _ heeded.told

theorem grows_reconcile (queued : StateTask → Prop) (w : World) (live : w.network.live = true) :
    ∃ d, w.detector.Led w.queue.applied d ∧
      Grows (Task.Brought w.detector) queued { w with detector := d } w.reconcile := by
  unfold reconcile
  split
  · exact ⟨w.detector, .refl .., .refl w⟩
  · obtain ⟨listeners, closed⟩ := w.detector.endSession_listeners
    refine ⟨(w.detector.stop _).1, ?_, w.grows_update queued live true _ ?_⟩
    · refine ⟨listeners, closed, fun leader watched => ?_⟩
      simp [Detector.stop, Detector.endSession_eq] at watched
    · intro ls f told
      simp only [Detector.stop, Detector.stopNotice] at told
      split at told <;> simp at told
  · next leader points =>
    have aim : w.queue.applied.isLeader = false ∧ w.queue.applied.leader? = some leader := by
      unfold Discovery.adjustment at points
      grind
    refine ⟨(w.detector.restart leader _).1, ?_, w.grows_update queued live true _ ?_⟩
    · unfold Detector.restart
      split
      · exact .refl ..
      · next opened =>
        refine ⟨?_, ?_, fun node watched => .inr ⟨by simpa using opened, aim.1, ?_⟩⟩
        · simp [Detector.startSession, Detector.startPinger, Detector.endSession_eq]
        · simp [Detector.startSession, Detector.startPinger, Detector.endSession_eq]
        · have same : leader = node := by
            simpa [Detector.startSession, Detector.startPinger] using watched
          exact same ▸ aim.2
    · intro ls f told
      unfold Detector.restart at told
      split at told <;> simp [Detector.startSession, Detector.startPinger] at told

theorem grows_handshaken {peer : PeerConfig} {rest : List PeerConfig}
    {loop : Loop} {found : Node} {result : Except TransportError Unit} :
    let t : Task := .answered (.handshake peer rest loop found) result
    Grows (Task.Brought w.detector) t.Queues w (w.run t) := by
  intro t
  simp only [t, run, answer, handshaken]
  cases finding : Discovery.findings peer w.queue.applied (result.map fun _ => found) with
  | new n =>
    have recorded : (result.map fun _ => found) = .ok n := by
      unfold Discovery.findings at finding
      grind
    obtain ⟨rfl, rfl⟩ : result = .ok () ∧ found = n := by
      cases result with
      | ok _ => exact ⟨rfl, Except.ok.inj recorded⟩
      | error e => cases recorded
    have queues : t.Queues (Discovery.recordTask found) := .inr ⟨peer, rest, loop, found, rfl, rfl⟩
    exact ((Grows.refl w).tellAll _).submit queues _ (fun _ => trivial) trivial
  | unreachable cause => exact ((Grows.refl w).tellAll _).proceed trivial
  | mismatch id => exact ((Grows.refl w).tellAll _).proceed trivial
  | known => exact ((Grows.refl w).tellAll _).proceed trivial

theorem grows_discover {queued : StateTask → Prop} (live : w.network.live = true)
    (rest : List PeerConfig) (loop : Loop) :
    ∃ d, w.detector.Led w.queue.applied d ∧
      Grows (Task.Brought w.detector) queued { w with detector := d } (w.discover rest loop) := by
  cases rest with
  | nil =>
    obtain ⟨d, led, g⟩ := w.grows_reconcile queued live
    refine ⟨d, led, ?_⟩
    simp only [discover]
    split
    · exact g
    · exact g.after _ trivial trivial
  | cons peer rest =>
    refine ⟨w.detector, .refl .., ?_⟩
    have asked : Grows (Task.Brought w.detector) queued w (w.observe (.handshake peer.address)) :=
      (Grows.refl w).observe _
    simp only [discover]
    split
    · exact asked.call live _ _
    · have emitted := asked.call live (.handshake peer rest loop ⟨"", "", peer.address⟩) (.hold "")
      rw [World.call, if_pos (asked.live.trans live)] at emitted
      rwa [if_pos (asked.live.trans live)]

/-- What one task makes of the detector of a node, and what it hands over; what the worker of the
queue does is left out. -/
theorem grows_run (clean : w.Clean c me met) {t : Task} (fair : t.Fair c met) (heard : t.Heard me)
    (other : t ≠ .work) :
    ∃ d, w.detector.Led w.queue.applied d ∧
      Grows (Task.Brought w.detector) t.Queues { w with detector := d } (w.run t) := by
  have still : w.detector.Led w.queue.applied w.detector := .refl ..
  have event (keeps : Bool) (source : Node) (result : Except TransportError Unit)
      (a : Activity Listener) := w.grows_goOn t.Queues clean.live keeps source result a
  cases t with
  | scheduled delay p =>
    cases delay with
    | zero => exact ⟨_, event false _ (.ok ()) (.scheduled p ⟨0⟩)⟩
    | succ delay => exact ⟨_, still, (Grows.refl w).after _ trivial trivial⟩
  | round p => exact ⟨_, event false _ (.ok ()) (.scheduled p ⟨0⟩)⟩
  | answered call result =>
    cases call with
    | ping p request => exact ⟨_, event false w.queue.applied.localNode result (.pinging p request 0)⟩
    | connect before node keeps =>
      exact ⟨_, event keeps w.queue.applied.localNode result (.connecting none before node)⟩
    | handshake peer rest loop found => exact ⟨_, still, grows_handshaken⟩
  | disconnected node keeps =>
    exact ⟨_, event keeps w.queue.applied.localNode (.ok ()) (.lost none node)⟩
  | dispatch ls f =>
    -- The one listener is called in this very turn.
    obtain ⟨rfl, _⟩ := heard
    exact ⟨_, still, ((Grows.refl w).tell _).spawn trivial⟩
  | forget leader =>
    exact ⟨_, still, (Grows.refl w).submit (.inl ⟨leader, rfl⟩) _ (fun _ => trivial) trivial⟩
  | discover rest loop => exact grows_discover clean.live rest loop
  | looping =>
    refine ⟨_, still, ?_⟩
    simp only [run]
    split
    · exact .refl w
    · exact (Grows.refl w).proceed trivial
  | tick due => exact ⟨_, still, (Grows.refl w).proceed trivial⟩
  | work => exact absurd rfl other
  | finished waiter result =>
    refine ⟨_, still, ?_⟩
    simp only [run, finish]
    split
    · exact .of_eq rfl rfl rfl rfl rfl
    · exact .refl w
    · exact (Grows.refl w).tell _
    · exact (Grows.refl w).proceed trivial
    · exact ((Grows.refl w).tell _).proceed trivial
  | released call reply => exact absurd fair id

theorem grows_work (queued : StateTask → Prop) (w : World) :
    w.queue.pending = [] ∧ w.run .work = w ∨
      ∃ task waiter rest, w.queue.pending = (task, waiter) :: rest ∧
        Grows (Task.Brought w.detector) queued { w with queue := { w.queue with
          applied := (task.run w.queue.applied).state, pending := rest } } (w.run .work) := by
  simp only [run, work, StateQueue.runOne]
  cases waits : w.queue.pending with
  | nil => exact .inl ⟨rfl, rfl⟩
  | cons entry rest =>
    obtain ⟨task, waiter⟩ := entry
    refine .inr ⟨task, waiter, rest, rfl, ?_⟩
    let ran : World := { w with queue := { w.queue with
      applied := (task.run w.queue.applied).state, pending := rest } }
    have told : Grows (Task.Brought w.detector) queued ran
        (ran.tellAll (task.run w.queue.applied).notices) :=
      (Grows.refl ran).tellAll _
    dsimp only
    cases waiter with
    | none =>
      dsimp only
      split
      · exact told
      · exact told.proceed trivial
    | some waiter =>
      have answered := told.spawn (t := .finished waiter (task.run w.queue.applied).result) trivial
      dsimp only
      split
      · exact answered
      · exact answered.proceed trivial

/-- What holds of the detector of a node that runs: it watches another node, and the one listener
there is forgets whoever fails. -/
structure Attended (me : Node) (w : World) : Prop where
  working : w.queue.working = true
  shut : w.detector.closed = true → w.detector.session.leader = none
  hears : w.detector.closed = false → w.detector.listeners = [(0, .forget)]
  other : ∀ leader, w.detector.session.leader = some leader → leader.id ≠ me.id
  ready : ∀ t ∈ w.agenda.ready, t.Heard me
  timers : ∀ x ∈ w.agenda.timers, x.2.Waits

theorem Attended.heard (h : w.Attended me) {t : Task} (brought : t.Brought w.detector) :
    t.Heard me := by
  cases t with
  | dispatch ls f =>
    obtain ⟨rfl, watched⟩ := brought
    have opened : w.detector.closed = false := by
      rw [← Bool.not_eq_true]
      exact fun closed => by simp [h.shut closed] at watched
    exact ⟨h.hears opened, h.other _ watched⟩
  | _ => trivial

theorem Attended.grow {new : Task → Prop} {queued : StateTask → Prop} {u : World}
    (h : u.Attended me) (g : Grows new queued u w) (heard : ∀ t, new t → t.Heard me) :
    w.Attended me := by
  obtain ⟨more, queue, _⟩ := g.queue
  constructor
  case working => rw [queue]; exact h.working
  case shut => rw [g.detector]; exact h.shut
  case hears => rw [g.detector]; exact h.hears
  case other => rw [g.detector]; exact h.other
  case ready => exact fun t ht => (g.ready t ht).elim (h.ready t) (heard t)
  case timers => exact fun x hx => (g.timers x hx).elim (h.timers x) id

theorem leader_contained (clean : w.Clean c me met) {leader : Node}
    (aim : w.queue.applied.leader? = some leader) :
    w.queue.applied.contains leader = true ∧
      (w.queue.applied.isLeader = false → leader.id ≠ me.id) := by
  obtain ⟨id, lead, filed⟩ := Option.bind_eq_some_iff.mp aim
  obtain ⟨before, after, here, _⟩ := List.lookup_eq_some_iff.mp filed
  have named : leader.id = id :=
    (clean.applied.entries (id, leader) (here ▸ List.mem_append_right _ List.mem_cons_self)).1
  refine ⟨?_, fun follows own => ?_⟩
  · rw [ClusterState.contains, named, filed]
    exact beq_self_eq_true _
  · rw [ClusterState.isLeader, clean.applied.localNode, lead, ← named, own] at follows
    simp at follows

theorem Attended.led (h : w.Attended me) (clean : w.Clean c me met) {d : Detector Listener}
    (led : w.detector.Led w.queue.applied d) : { w with detector := d }.Attended me := by
  constructor
  case working => exact h.working
  case shut =>
    intro closed
    refine Option.eq_none_iff_forall_ne_some.mpr fun leader watched => ?_
    rw [led.closed] at closed
    rcases led.leader leader watched with before | ⟨opened, _⟩
    · simp [h.shut closed] at before
    · simp [closed] at opened
  case hears =>
    intro opened
    rw [led.closed] at opened
    exact led.listeners.trans (h.hears opened)
  case other =>
    intro leader watched
    rcases led.leader leader watched with before | ⟨_, follows, aim⟩
    · exact h.other leader before
    · exact (leader_contained clean aim).2 follows
  case ready => exact h.ready
  case timers => exact h.timers

end World

namespace Life

open World

variable {c : ClusterConfig} {me : Node}

/-- What a move can come to; `since` is who answered a handshake in it. -/
inductive Stirs (w : World) (since : List (PeerConfig × Node)) : World → Prop where
  | grew {v : World} :
      Grows (Task.Brought w.detector) StateTask.Checks w v →
      Stirs w since v
  | turned (task : Task) (rest : List Task) : task ∈ w.agenda.ready → rest ⊆ w.agenda.ready →
      (∀ t ∈ w.agenda.ready, t = task ∨ t ∈ rest) →
      Stirs w since ({ w with agenda := { w.agenda with ready := rest } }.run task)
  | answered {u : World} (call : Call) (result : Except TransportError Unit) :
      Grows (Task.Brought w.detector) StateTask.Checks w u →
      (∀ n, (Task.answered call result).recalled? = some n → ∃ peer, (peer, n) ∈ since) →
      Stirs w since (u.proceed (.answered call result))
  | aborted : Stirs w since w.abortDiscovery
  | shut : Stirs w since (w.update false w.detector.shutdown)

theorem grows_lose {new : Task → Prop} {queued : StateTask → Prop} {u w : World}
    (g : Grows new queued u w) (lost : ∀ n, new (.disconnected n false)) (node : Node) :
    Grows new queued u (w.lose node) := by
  unfold World.lose
  split
  · split
    · exact g.tell _
    · exact g.spawn (lost node)
  · exact g

theorem grows_loseAll {new : Task → Prop} {queued : StateTask → Prop} {u w : World}
    (g : Grows new queued u w) (lost : ∀ n, new (.disconnected n false)) (nodes : List Node) :
    Grows new queued u (nodes.foldl World.lose w) :=
  List.foldlRecOn nodes _ g fun _ g node _ => grows_lose g lost node

theorem stirs_turn {w : World} {since : List (PeerConfig × Node)}
    (clean : w.Clean c me since) (named : me.id = c.nodeId) (place : Nat)
    (met : List (PeerConfig × Node)) : Stirs w met (turn w place) := by
  unfold turn
  split
  · next task here =>
    have ready := List.mem_of_getElem? here
    have left : ({ w with agenda := { w.agenda with
        ready := w.agenda.ready.eraseIdx place } } : World).Clean c me since :=
      clean.reschedule (fun t ht => clean.ready t (List.mem_of_mem_eraseIdx ht)) clean.timers
    rw [(left.run named (clean.ready task ready)).giveUp]
    refine .turned task _ ready (fun t => List.mem_of_mem_eraseIdx) fun t ht => ?_
    obtain ⟨i, there⟩ := List.mem_iff_getElem?.mp ht
    by_cases same : i = place
    · subst same
      exact .inl (Option.some.inj (there.symm.trans here))
    · exact .inr (List.mem_eraseIdx_iff_getElem?.mpr ⟨i, same, there⟩)
  · exact .grew (.refl w)

theorem grows_due {queued : StateTask → Prop} {w : World} (attended : w.Attended me)
    (place : Nat) : Grows (Task.Brought w.detector) queued w (due w place) := by
  unfold due
  split
  · next time task here =>
    have waits : task.Waits := attended.timers _ (List.mem_of_getElem? here)
    have left : Grows (Task.Brought w.detector) queued w { w with agenda := { w.agenda with
        timers := w.agenda.timers.eraseIdx place } } :=
      { Grows.refl w with timers := fun x hx => .inl (List.mem_of_mem_eraseIdx hx) }
    exact left.spawn (waits.brought _)
  · exact .refl w

theorem grows_wake {queued : StateTask → Prop} {w : World} (attended : w.Attended me)
    {limit : Nat} {agenda : Agenda Task} (woken : w.agenda.wake limit = some agenda) :
    Grows (Task.Brought w.detector) queued w { w with agenda } := by
  unfold Agenda.wake at woken
  split at woken
  · cases woken
  · split at woken
    · cases woken
    · obtain rfl := Option.some.inj woken
      refine ⟨rfl, rfl, fun t ht => List.mem_append_left _ ht, fun t ht => ?_,
        fun x hx => .inl (List.mem_filter.mp hx).1, [], by simp, by simp⟩
      rcases List.mem_append.mp ht with ht | ht
      · exact .inl ht
      · obtain ⟨x, timer, rfl⟩ := List.mem_map.mp ht
        exact .inr ((attended.timers x (List.mem_filter.mp timer).1).brought _)

theorem grows_receive {new : Task → Prop} {w : World} (work : new .work) (r : PingRequest) :
    Grows new StateTask.Checks w (w.receive r) := by
  unfold World.receive
  split
  · split
    · next queue taken =>
      have grown : Grows new StateTask.Checks w { w with queue } :=
        (Grows.refl w).queue_more ⟨r, rfl⟩ taken
      dsimp only
      split
      · exact grown.spawn work
      · exact grown
    · exact .refl w
  · exact .refl w

theorem stirs_answer (w : World) (key : String) (result : Except TransportError Node)
    (lost : List Node) : Stirs w (meets w key result) (move w (.answer key result lost)) := by
  have told : Grows (Task.Brought w.detector) StateTask.Checks w (lost.foldl World.lose w) :=
    grows_loseAll (.refl w) (fun _ => trivial) lost
  have held := w.loseAll_held lost
  simp only [move, World.apply]
  cases waits : (lost.foldl World.lose w).held.lookup key with
  | none => exact .grew told
  | some call =>
    have left : Grows (Task.Brought w.detector) StateTask.Checks w { lost.foldl World.lose w with
        held := (lost.foldl World.lose w).held.filter (·.1 != key) } :=
      { told with }
    -- Only a handshake that succeeded tells of someone, and just then he counts as met.
    refine .answered _ _ left fun n recalls => ?_
    rw [held] at waits
    cases call with
    | ping p request => cases result <;> cases recalls
    | connect before node keeps => cases result <;> cases recalls
    | handshake peer rest loop nobody =>
      cases result with
      | error e => cases recalls
      | ok found =>
        obtain rfl := Option.some.inj recalls
        exact ⟨peer, by simp only [meets, waits, List.mem_singleton]⟩

/-- The world of a node changes in one of the ways that there are, and who is met is noted. -/
theorem stirs_step {l : Life} (clean : l.process.world.Clean c me l.met) (named : me.id = c.nodeId)
    (attended : l.process.world.Attended me) (m : Move) :
    ∃ since, (l.step m).met = l.met ++ since ∧
      Stirs l.process.world since (l.step m).process.world := by
  have still : l.met = l.met ++ [] := (List.append_nil _).symm
  cases m with
  | turn place => exact ⟨[], still, stirs_turn clean named place []⟩
  | due place => exact ⟨[], still, .grew (grows_due attended place)⟩
  | wake limit =>
    refine ⟨[], still, .grew ?_⟩
    simp only [step, move]
    split
    · next woken => exact grows_wake attended woken
    · exact .refl _
  | reach moment => exact ⟨[], still, .grew (.of_eq rfl rfl rfl rfl rfl)⟩
  | answer key result lost => exact ⟨_, rfl, stirs_answer l.process.world key result lost⟩
  | lose node => exact ⟨[], still, .grew (grows_lose (.refl _) (fun _ => trivial) node)⟩
  | note connections notices => exact ⟨[], still, .grew ((Grows.refl _).tellAll notices)⟩
  | receive r => exact ⟨[], still, .grew (grows_receive trivial r)⟩
  | serve r =>
    refine ⟨[], still, .grew ?_⟩
    have counted (metrics : Metrics) : Grows (Task.Brought l.process.world.detector)
        StateTask.Checks l.process.world
        { l.process.world with metrics } :=
      .of_eq rfl rfl rfl rfl rfl
    exact (counted _).tellAll _
  | startDiscovery =>
    refine ⟨[], still, .grew ?_⟩
    simp only [step, move, World.apply, clean.operated, clean.discovery, if_true]
    exact (Grows.refl _).spawn trivial
  | abortDiscovery => exact ⟨[], still, .aborted⟩
  | shutdown =>
    refine ⟨[], still, ?_⟩
    simp only [step, move, World.apply, clean.operated, if_true]
    exact .shut
  | closeScheduler => exact ⟨[], still, .grew (.of_eq rfl rfl rfl rfl rfl)⟩

theorem clean_rest {w : World} {met : List (PeerConfig × Node)} (h : w.Clean c me met)
    {rest : List Task} (left : rest ⊆ w.agenda.ready) :
    World.Clean c me met { w with agenda := { w.agenda with ready := rest } } :=
  h.reschedule (fun t ht => h.ready t (left ht)) h.timers

theorem attended_rest {w : World} (h : w.Attended me) {rest : List Task}
    (left : rest ⊆ w.agenda.ready) :
    World.Attended me { w with agenda := { w.agenda with ready := rest } } :=
  { h with ready := fun t ht => h.ready t (left ht) }

theorem attended_run {w : World} {met : List (PeerConfig × Node)} (h : w.Attended me)
    (clean : w.Clean c me met) {t : Task} (fair : t.Fair c met) (heard : t.Heard me) :
    (w.run t).Attended me := by
  by_cases work : t = .work
  · -- The worker changes the state, which the detector does not read by itself.
    subst work
    rcases w.grows_work StateTask.Checks with ⟨_, same⟩ | ⟨task, waiter, rest, _, g⟩
    · rwa [same]
    · have ran : World.Attended me { w with queue := { w.queue with
          applied := (task.run w.queue.applied).state, pending := rest } } :=
        { h with }
      exact ran.grow g fun t => h.heard
  · obtain ⟨d, led, g⟩ := grows_run clean fair heard work
    exact (h.led clean led).grow g fun t => h.heard

theorem attended_shutdown {w : World} (h : w.Attended me) (live : w.network.live = true) :
    (w.update false w.detector.shutdown).Attended me := by
  have idle : w.detector.shutdown.1.session.leader = none := by
    simp [Detector.shutdown, Detector.endSession_eq]
  have shut : World.Attended me { w with detector := w.detector.shutdown.1 } :=
    { h with
      shut := fun _ => idle
      hears := fun opened => absurd opened (by simp [Detector.shutdown])
      other := fun leader watched => by simp [idle] at watched }
  exact shut.grow (w.grows_shutdown StateTask.Checks live) fun t => h.heard

theorem attended_stirs {w v : World} {met since : List (PeerConfig × Node)}
    (h : w.Attended me) (clean : w.Clean c me met) (stirs : Stirs w since v) : v.Attended me := by
  cases stirs with
  | grew g => exact h.grow g fun t => h.heard
  | turned task rest here left _ =>
    exact attended_run (attended_rest h left) (clean_rest clean left) (clean.ready task here)
      (h.ready task here)
  | @answered u call result g =>
    have told : Grows (· = .answered call result) StateTask.Checks u
        (u.proceed (.answered call result)) :=
      (Grows.refl u).proceed rfl
    exact (h.grow g fun t => h.heard).grow told fun t same => same ▸ trivial
  | aborted =>
    exact { h with
      ready := fun t ht => h.ready t (List.mem_filter.mp ht).1
      timers := fun x hx => h.timers x (List.mem_filter.mp hx).1 }
  | shut => exact attended_shutdown h clean.live

theorem start_attended (c : Config) (me : Node) : (start c me).process.world.Attended me where
  working := rfl
  shut _ := rfl
  hears _ := rfl
  other _ watched := absurd watched (Option.some_ne_none _).symm
  ready _ ht := absurd ht List.not_mem_nil
  timers _ hx := absurd hx List.not_mem_nil

theorem run_attended {l : Life} (h : l.process.world.Attended me)
    (clean : l.process.world.Clean c me l.met) (named : me.id = c.nodeId) (moves : List Move) :
    (l.run moves).process.world.Attended me := by
  induction moves generalizing l with
  | nil => exact h
  | cons m moves ih =>
    obtain ⟨since, _, stirs⟩ := stirs_step clean named h m
    exact ih (attended_stirs h clean stirs) (step_clean clean named m)

end Life

end Vigil

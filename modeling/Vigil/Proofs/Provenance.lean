import Vigil.Process
import Vigil.Proofs.Agenda

/-!
Where the members of a running node come from. A node is followed through any order of its events:
ready tasks have their turn in any order, timers go off at any time, calls are answered with
anything, pings arrive at any time. Still it stays the member that it was at the start, keeps its
leader, and knows no one else but who answered at an address that is configured for his very id.
-/

namespace Vigil

namespace World

/-- A ping arrives; where the applied state does not decide it, its check is queued. -/
def receive (w : World) (r : PingRequest) : World :=
  match (r.judge w.detector.clusterName w.queue.applied).1 with
  | .undecided =>
    match w.queue.submit r.check none with
    | .ok queue =>
      let idle := w.queue.pending.isEmpty
      let w := { w with queue }
      if idle then w.spawn .work else w
    | .error _ => w
  | _ => w

end World

/-- A node under way, and the handshakes that succeeded: which peer was asked, and who answered. -/
structure Life where
  process : Process
  met : List (PeerConfig × Node) := []

namespace Life

inductive Move where
  /-- A ready task has its turn, whichever it is. -/
  | turn (place : Nat)
  /-- A task that waits for a moment becomes ready, whatever the time. -/
  | due (place : Nat)
  /-- The clock moves to the next moment that a task waits for. -/
  | wake (limit : Nat)
  | reach (moment : Nat)
  /-- A call is answered with anything, and connections to any nodes are lost. -/
  | answer (key : String) (result : Except TransportError Node) (lost : List Node)
  | lose (node : Node)
  | note (connections : Connections Unit) (notices : List Notice)
  /-- A ping arrives, and its check may have to wait. -/
  | receive (r : PingRequest)
  /-- A request is answered at once. -/
  | serve (r : Http.Request)
  | startDiscovery
  | abortDiscovery
  | shutdown
  | closeScheduler

def start (c : Config) (me : Node) : Life where
  process := .start c me

/-- The handshake that an answer completes, with who answered. -/
def meets (w : World) (key : String) (result : Except TransportError Node) :
    List (PeerConfig × Node) :=
  match w.held.lookup key, result with
  | some (.handshake peer _ _ _), .ok found => [(peer, found)]
  | _, _ => []

def turn (w : World) (place : Nat) : World :=
  match w.agenda.ready[place]? with
  | some task =>
    let agenda := { w.agenda with ready := w.agenda.ready.eraseIdx place }
    ({ w with agenda }.run task).giveUp
  | none => w

def due (w : World) (place : Nat) : World :=
  match w.agenda.timers[place]? with
  | some (_, task) =>
    let agenda := { w.agenda with timers := w.agenda.timers.eraseIdx place }
    { w with agenda := agenda.push task }
  | none => w

/-- What a move makes of the world of a node. -/
def move (w : World) : Move → World
  | .turn place => turn w place
  | .due place => due w place
  | .wake limit =>
    match w.agenda.wake limit with
    | some agenda => { w with agenda }
    | none => w
  | .reach moment => { w with agenda := w.agenda.reach moment }
  | .answer key result lost =>
    (w.apply (.answer key (result.map fun _ => ()) result.toOption lost)).1
  | .lose node => w.lose node
  | .note _ notices => w.tellAll notices
  | .receive r => w.receive r
  | .serve _ => w
  | .startDiscovery => (w.apply .startDiscovery).1
  | .abortDiscovery => w.abortDiscovery
  | .shutdown => (w.apply .shutdown).1
  | .closeScheduler => (w.apply .closeScheduler).1

def step (l : Life) (m : Move) : Life :=
  let p := { l.process with world := move l.process.world m }
  match m with
  | .answer key result _ => { process := p, met := l.met ++ meets l.process.world key result }
  | .note connections _ => { l with process := { p with connections } }
  | .serve r => { l with process := (p.serve r).1 }
  | _ => { l with process := p }

def run (l : Life) (moves : List Move) : Life := moves.foldl step l

end Life

/-- Whom a node asks who it is. -/
def ClusterConfig.asked (c : ClusterConfig) : List PeerConfig := (Discovery.ofConfig c).others

section

variable (c : ClusterConfig) (me : Node) (met : List (PeerConfig × Node))

/-- A state that knows the local node as it was at the start, takes the configured node for the
leader, and knows no others than who answered at an address that is configured for his id. -/
structure ClusterState.Vouched (s : ClusterState) : Prop where
  localNode : s.localNode = me
  leaderId : s.leaderId = c.leaderId
  own : s.nodes.get? me.id = some me
  entries : ∀ e ∈ s.nodes.entries, e.2.id = e.1 ∧
    (e.2 = me ∨ e.1 ≠ me.id ∧ ∃ peer ∈ c.peers, peer.id = e.1 ∧ (peer, e.2) ∈ met)

/-- The tasks that a node ever queues. -/
inductive StateTask.Allowed : StateTask → Prop where
  | record (peer : PeerConfig) (n : Node) : peer ∈ c.asked → n.id = peer.id → (peer, n) ∈ met →
      Allowed (Discovery.recordTask n)
  | forget (failed : Node) : Allowed (Discovery.forgetTask failed)
  | check (r : PingRequest) : Allowed r.check

def Waiter.Asks : Waiter → Prop
  | .discovery _ rest _ => rest ⊆ c.asked
  | _ => True

def Call.Asks : Call → Prop
  | .handshake peer rest _ _ => peer ∈ c.asked ∧ rest ⊆ c.asked
  | _ => True

/-- Nobody is asked who is not configured, and no one answers unnoticed. -/
def Task.Fair : Task → Prop
  | .answered (.handshake peer rest _ found) result =>
    peer ∈ c.asked ∧ rest ⊆ c.asked ∧ (result = .ok () → (peer, found) ∈ met)
  | .discover rest _ => rest ⊆ c.asked
  | .finished waiter _ => waiter.Asks c
  | .released .. => False
  | _ => True

structure World.Clean (w : World) : Prop where
  operated : w.operated = true
  live : w.network.live = true
  discovery : w.discovery = some (.ofConfig c)
  applied : w.queue.applied.Vouched c me met
  pending : ∀ e ∈ w.queue.pending, e.1.Allowed c met ∧ ∀ x ∈ e.2, x.Asks c
  ready : ∀ t ∈ w.agenda.ready, t.Fair c met
  timers : ∀ t ∈ w.agenda.timers, t.2.Fair c met
  held : ∀ x ∈ w.held, x.2.Asks c

end

variable {c : ClusterConfig} {me : Node} {met : List (PeerConfig × Node)}

namespace ClusterState.Vouched

variable {s : ClusterState}

theorem mono (h : s.Vouched c me met) {more : List (PeerConfig × Node)} (grows : met ⊆ more) :
    s.Vouched c me more where
  localNode := h.localNode
  leaderId := h.leaderId
  own := h.own
  entries e he := by
    obtain ⟨filed, mine | ⟨other, peer, configured, named, answered⟩⟩ := h.entries e he
    · exact ⟨filed, .inl mine⟩
    · exact ⟨filed, .inr ⟨other, peer, configured, named, grows answered⟩⟩

theorem initial (me : Node) :
    ((ClusterState.initial c.name me).withLeader c.leaderId).Vouched c me [] where
  localNode := rfl
  leaderId := rfl
  own := by simp [ClusterState.initial, withLeader, Members.get?_singleton]
  entries := by simp [ClusterState.initial, withLeader, Members.singleton]

theorem add (h : s.Vouched c me met) (named : me.id = c.nodeId) {peer : PeerConfig} {n : Node}
    (configured : peer ∈ c.asked) (own : n.id = peer.id) (answered : (peer, n) ∈ met) :
    (s.add n).Vouched c me met := by
  obtain ⟨peers, other⟩ := List.mem_filter.mp configured
  have other : n.id ≠ me.id := by
    rw [own, named]
    exact bne_iff_ne.mp other
  constructor
  case localNode => exact h.localNode
  case leaderId => exact h.leaderId
  case own =>
    simp only [ClusterState.add, Members.get?_insert, if_neg other.symm]
    exact h.own
  case entries =>
    intro e he
    rcases Members.mem_insertEntry he with rfl | he
    · exact ⟨rfl, .inr ⟨other, peer, peers, own.symm, answered⟩⟩
    · exact h.entries e he

theorem remove (h : s.Vouched c me met) (id : String) : (s.remove id).Vouched c me met := by
  unfold ClusterState.remove
  split
  · exact h
  · next other =>
    rw [h.localNode] at other
    constructor
    case localNode => exact h.localNode
    case leaderId => exact h.leaderId
    case own =>
      simp only [Members.get?_erase, if_neg (Ne.symm other)]
      exact h.own
    case entries => exact fun e he => h.entries e (List.mem_filter.mp he).1

/-- No task that a node queues adds a member that nobody vouches for, or removes the node itself. -/
theorem update (h : s.Vouched c me met) (named : me.id = c.nodeId) {task : StateTask}
    (allowed : task.Allowed c met) {next : ClusterState} (updated : task.update s = .ok next) :
    next.Vouched c me met := by
  cases allowed with
  | record peer n configured own answered =>
    obtain rfl := Except.ok.inj updated
    exact h.add named configured own answered
  | forget failed =>
    change Except.ok (if s.contains failed then s.remove failed.id else s) = .ok next at updated
    obtain rfl := Except.ok.inj updated
    split
    · exact h.remove failed.id
    · exact h
  | check r =>
    have same : next = s := by
      change (if s.contains r.source then .ok s else .error _) = Except.ok next at updated
      split at updated
      · exact (Except.ok.inj updated).symm
      · cases updated
    rwa [same]

theorem run (h : s.Vouched c me met) (named : me.id = c.nodeId) {task : StateTask}
    (allowed : task.Allowed c met) : (task.run s).state.Vouched c me met := by
  unfold StateTask.run
  split
  · exact h
  · split
    · exact h
    · next next updated =>
      have vouched := h.update named allowed updated
      split
      · exact h
      · exact ⟨vouched.localNode, vouched.leaderId, vouched.own, vouched.entries⟩

end ClusterState.Vouched

theorem StateTask.Allowed.mono {task : StateTask} (h : task.Allowed c met)
    {more : List (PeerConfig × Node)} (grows : met ⊆ more) : task.Allowed c more := by
  cases h with
  | record peer n configured own answered => exact .record peer n configured own (grows answered)
  | forget failed => exact .forget failed
  | check r => exact .check r

theorem Task.Fair.mono {t : Task} (h : t.Fair c met) {more : List (PeerConfig × Node)}
    (grows : met ⊆ more) : t.Fair c more := by
  unfold Task.Fair at *
  split at h
  · exact ⟨h.1, h.2.1, fun ok => grows (h.2.2 ok)⟩
  · exact h
  · exact h
  · exact h
  · trivial

theorem World.tellAll_held (w : World) (ns : List Notice) : (w.tellAll ns).held = w.held :=
  World.tellAll_preserves (P := (·.held = w.held)) ns rfl fun _ _ same => same

theorem World.loseAll_held (w : World) (lost : List Node) :
    (lost.foldl World.lose w).held = w.held := by
  refine List.foldlRecOn (motive := (World.held · = w.held)) lost _ rfl fun v same node _ => ?_
  unfold World.lose
  split
  · split <;> exact same
  · exact same

namespace World.Clean

variable {w : World}

theorem mono (h : w.Clean c me met) {more : List (PeerConfig × Node)} (grows : met ⊆ more) :
    w.Clean c me more where
  operated := h.operated
  live := h.live
  discovery := h.discovery
  applied := h.applied.mono grows
  pending e he := ⟨(h.pending e he).1.mono grows, (h.pending e he).2⟩
  ready t ht := (h.ready t ht).mono grows
  timers t ht := (h.timers t ht).mono grows
  held := h.held

theorem observe (h : w.Clean c me met) (e : Event) : (w.observe e).Clean c me met := { h with }

theorem tell (h : w.Clean c me met) (n : Notice) : (w.tell n).Clean c me met := h.observe _

theorem tellAll (h : w.Clean c me met) (ns : List Notice) : (w.tellAll ns).Clean c me met :=
  World.tellAll_preserves ns h fun _ n h => h.tell n

theorem reschedule (h : w.Clean c me met) {agenda : Agenda Task}
    (ready : ∀ t ∈ agenda.ready, t.Fair c met) (timers : ∀ t ∈ agenda.timers, t.2.Fair c met) :
    { w with agenda }.Clean c me met :=
  { h with ready, timers }

theorem spawn (h : w.Clean c me met) {t : Task} (fair : t.Fair c met) :
    (w.spawn t).Clean c me met := by
  refine h.reschedule (fun x hx => ?_) h.timers
  rcases List.mem_append.mp hx with hx | hx
  · exact h.ready x hx
  · rwa [List.mem_singleton.mp hx]

theorem proceed (h : w.Clean c me met) {t : Task} (fair : t.Fair c met) :
    (w.proceed t).Clean c me met := by
  refine h.reschedule (fun x hx => ?_) h.timers
  rcases List.mem_cons.mp hx with rfl | hx
  · exact fair
  · exact h.ready x hx

theorem after (h : w.Clean c me met) (time : Nat) {t : Task} (fair : t.Fair c met) :
    (w.after time t).Clean c me met := by
  unfold World.after
  split
  · exact h.proceed fair
  · refine h.reschedule h.ready fun x hx => ?_
    rcases Agenda.mem_insertTimer.mp hx with rfl | hx
    · exact fair
    · exact h.timers x hx

/-- A live network answers no call by itself. -/
theorem call (h : w.Clean c me met) {call : Call} (asks : call.Asks c) (script : Script) :
    (w.call call script).Clean c me met := by
  unfold World.call
  rw [if_pos h.live]
  refine { h with held := fun x hx => ?_ }
  rcases List.mem_append.mp hx with hx | hx
  · exact h.held x hx
  · rwa [List.mem_singleton.mp hx]

theorem perform (h : w.Clean c me met) (keeps : Bool) (effect : Effect Listener) :
    (w.perform keeps effect).Clean c me met := by
  cases effect with
  | tell notice => exact h.tell notice
  | count series => exact { h with }
  | schedule p delay =>
    simp only [World.perform]
    split
    · exact h.tell _
    · exact h.spawn trivial
  | dispatch listeners failure =>
    simp only [World.perform]
    split
    · exact h.tell _
    · exact h.spawn trivial
  | ping p request =>
    have clean : { w.observe (.ping request w.pingLimit) with
        network := { w.network with pings := (Network.next w.network.pings).2 } }.Clean c me met :=
      { h with }
    exact clean.call (show (Call.ping p request).Asks c from trivial) _
  | connect before node =>
    have clean : { w.observe (.connect node) with
        network := { w.network with connects := (Network.next w.network.connects).2 } }.Clean
          c me met :=
      { h with }
    exact clean.call (show (Call.connect before node keeps).Asks c from trivial) _

/-- What the detector does concerns no members. -/
theorem update (h : w.Clean c me met) (keeps : Bool)
    (r : Detector Listener × List (Effect Listener)) : (w.update keeps r).Clean c me met := by
  have clean : { w with detector := r.1 }.Clean c me met := { h with }
  exact World.update_preserves keeps r clean fun _ effect _ h => h.perform keeps effect

theorem queued (h : w.Clean c me met) {task : StateTask} {waiter : Option Waiter}
    (allowed : task.Allowed c met) (asks : ∀ x ∈ waiter, x.Asks c)
    {queue : StateQueue (Option Waiter)}
    (taken : w.queue.submit task waiter = .ok queue) :
    { w with queue }.Clean c me met := by
  unfold StateQueue.submit at taken
  split at taken
  · obtain rfl := Except.ok.inj taken
    refine { h with pending := fun e he => ?_ }
    rcases List.mem_append.mp he with he | he
    · exact h.pending e he
    · rw [List.mem_singleton.mp he]
      exact ⟨allowed, asks⟩
  · cases taken

theorem submit (h : w.Clean c me met) {task : StateTask} {waiter : Waiter}
    (allowed : task.Allowed c met) (asks : waiter.Asks c) :
    (w.submit task waiter).Clean c me met := by
  unfold World.submit
  split
  · exact h.proceed asks
  · next queue taken =>
    have clean := h.queued allowed (by simpa using asks) taken
    simp only
    split
    · exact clean.spawn trivial
    · exact clean

theorem receive (h : w.Clean c me met) (r : PingRequest) : (w.receive r).Clean c me met := by
  unfold World.receive
  split
  · split
    · next queue taken =>
      have clean := h.queued (.check r) (fun x hx => absurd hx (Option.not_mem_none x)) taken
      simp only
      split
      · exact clean.spawn trivial
      · exact clean
    · exact h
  · exact h

theorem removeListener (h : w.Clean c me met) (name : String) :
    (w.removeListener name).1.Clean c me met := by
  unfold World.removeListener
  split
  · exact h
  · exact { h with }

theorem react (h : w.Clean c me met) (reaction : Reaction) : (w.react reaction).Clean c me met := by
  cases reaction with
  | restart leader => exact h.update false _
  | stop => exact h.update false _
  | shutdown => exact h.update false _
  | remove name => exact (h.removeListener name).observe _

theorem notify (h : w.Clean c me met) (failure : LeaderFailure) (listener : Nat × Listener) :
    (World.notify failure w listener).Clean c me met := by
  unfold World.notify
  split
  · exact (h.tell _).spawn trivial
  · exact h.observe _
  · simp only
    split
    · split
      · exact (h.observe _).react _
      · exact h.observe _
    · exact h.observe _

theorem dispatch (h : w.Clean c me met) (listeners : List (Nat × Listener))
    (failure : LeaderFailure) : (listeners.foldl (World.notify failure) w).Clean c me met :=
  List.foldlRecOn listeners _ h fun _ h listener _ => h.notify failure listener

theorem reconcile (h : w.Clean c me met) : w.reconcile.Clean c me met := by
  unfold World.reconcile
  split
  · exact h
  · exact h.update true _
  · exact h.update true _

theorem discover (h : w.Clean c me met) {rest : List PeerConfig} (asks : rest ⊆ c.asked)
    (loop : Loop) : (w.discover rest loop).Clean c me met := by
  cases rest with
  | nil =>
    simp only [World.discover]
    split
    · exact h.reconcile
    · exact h.reconcile.after _ trivial
  | cons peer rest =>
    obtain ⟨first, others⟩ := List.cons_subset.mp asks
    have asked := h.observe (.handshake peer.address)
    have emitted (found : Node) (script : Script) :=
      asked.call (show (Call.handshake peer rest loop found).Asks c from ⟨first, others⟩) script
    simp only [World.discover]
    split
    · exact emitted _ _
    · rw [if_pos asked.live]
      have emitted := emitted ⟨"", "", peer.address⟩ (.hold "")
      rwa [World.call, if_pos asked.live] at emitted

theorem handshaken (h : w.Clean c me met) {peer : PeerConfig} {rest : List PeerConfig}
    (configured : peer ∈ c.asked) (asks : rest ⊆ c.asked) (loop : Loop)
    {answer : Except TransportError Node} (answered : ∀ n, answer = .ok n → (peer, n) ∈ met) :
    (w.handshaken peer rest loop answer).Clean c me met := by
  simp only [World.handshaken]
  cases found : Discovery.findings peer w.queue.applied answer with
  | new n =>
    -- Only who answered under the configured id is recorded.
    obtain ⟨own, rfl⟩ : n.id = peer.id ∧ answer = .ok n := by
      unfold Discovery.findings at found
      grind
    exact (h.tellAll _).submit (.record peer n configured own (answered n rfl)) asks
  | unreachable cause => exact (h.tellAll _).proceed asks
  | mismatch id => exact (h.tellAll _).proceed asks
  | known => exact (h.tellAll _).proceed asks

theorem answer (h : w.Clean c me met) {call : Call} {result : Except TransportError Unit}
    (fair : (Task.answered call result).Fair c met) : (w.answer call result).Clean c me met := by
  cases call with
  | ping p request => exact h.update false _
  | connect before node keeps => exact h.update keeps _
  | handshake peer rest loop found =>
    obtain ⟨configured, asks, answered⟩ := fair
    refine h.handshaken configured asks loop fun n ok => ?_
    cases result with
    | ok => exact Except.ok.inj ok ▸ answered rfl
    | error e => cases ok

theorem finish (h : w.Clean c me met) {waiter : Waiter} (asks : waiter.Asks c)
    (result : Except StateTaskError Unit) : (w.finish waiter result).Clean c me met := by
  unfold World.finish
  split
  · exact { h with }
  · exact h
  · exact h.tell _
  · exact h.proceed asks
  · exact (h.tell _).proceed asks

theorem work (h : w.Clean c me met) (named : me.id = c.nodeId) : w.work.Clean c me met := by
  unfold World.work StateQueue.runOne
  cases queued : w.queue.pending with
  | nil => exact h
  | cons entry rest =>
    obtain ⟨task, waiter⟩ := entry
    have pending := h.pending
    rw [queued] at pending
    obtain ⟨allowed, asks⟩ := pending _ List.mem_cons_self
    have ran : { w with queue := { w.queue with
        applied := (task.run w.queue.applied).state, pending := rest } }.Clean c me met :=
      { h with
        applied := h.applied.run named allowed
        pending := fun e he => pending e (List.mem_cons_of_mem _ he) }
    have told := ran.tellAll (task.run w.queue.applied).notices
    simp only
    cases waiter with
    | none =>
      simp only
      split
      · exact told
      · exact told.proceed trivial
    | some waiter =>
      have fair : (Task.finished waiter (task.run w.queue.applied).result).Fair c met :=
        asks waiter rfl
      have answered := told.spawn fair
      simp only
      split
      · exact answered
      · exact answered.proceed trivial

theorem run (h : w.Clean c me met) (named : me.id = c.nodeId) {t : Task} (fair : t.Fair c met) :
    (w.run t).Clean c me met := by
  cases t with
  | scheduled delay p =>
    cases delay with
    | zero => exact h.update false _
    | succ delay => exact h.after _ trivial
  | round p => exact h.update false _
  | answered call result => exact h.answer fair
  | disconnected node keeps => exact h.update keeps _
  | dispatch listeners failure => exact h.dispatch listeners failure
  | forget leader => exact h.submit (.forget leader) trivial
  | discover rest loop => exact h.discover fair loop
  | looping =>
    simp only [World.run]
    split
    · exact h
    · exact h.proceed trivial
  | tick due =>
    refine h.proceed ?_
    simp only [World.others, h.discovery]
    exact List.Subset.refl _
  | work => exact h.work named
  | finished waiter result => exact h.finish fair result
  | released call reply => exact absurd fair id

theorem giveUp (h : w.Clean c me met) : w.giveUp = w := by
  simp only [World.giveUp, World.inUse, h.operated, Bool.true_or, Bool.or_true, if_true]

theorem lose (h : w.Clean c me met) (node : Node) : (w.lose node).Clean c me met := by
  unfold World.lose
  split
  · split
    · exact h.tell _
    · exact h.spawn trivial
  · exact h

theorem loseAll (h : w.Clean c me met) (lost : List Node) :
    (lost.foldl World.lose w).Clean c me met :=
  List.foldlRecOn lost _ h fun _ h node _ => h.lose node

theorem abortDiscovery (h : w.Clean c me met) : w.abortDiscovery.Clean c me met where
  operated := h.operated
  live := h.live
  discovery := h.discovery
  applied := h.applied
  pending e he := by
    obtain ⟨⟨task, waiter⟩, queued, rfl⟩ := List.mem_map.mp he
    refine ⟨(h.pending _ queued).1, fun x hx => (h.pending _ queued).2 x ?_⟩
    simp only [World.forgetLoop] at hx
    split at hx
    · cases hx
    · exact hx
  ready t ht := h.ready t (List.mem_filter.mp ht).1
  timers t ht := h.timers t (List.mem_filter.mp ht).1
  held x hx := h.held x (List.mem_filter.mp hx).1

theorem wake (h : w.Clean c me met) {limit : Nat} {agenda : Agenda Task}
    (woken : w.agenda.wake limit = some agenda) : { w with agenda }.Clean c me met := by
  unfold Agenda.wake at woken
  split at woken
  · cases woken
  · split at woken
    · cases woken
    · obtain rfl := Option.some.inj woken
      refine h.reschedule (fun t ht => ?_) fun t ht => h.timers t (List.mem_filter.mp ht).1
      rcases List.mem_append.mp ht with ht | ht
      · exact h.ready t ht
      · obtain ⟨x, timer, rfl⟩ := List.mem_map.mp ht
        exact h.timers x (List.mem_filter.mp timer).1

end World.Clean

namespace Life

theorem start_clean (c : Config) (me : Node) :
    (start c me).process.world.Clean c.cluster me [] where
  operated := rfl
  live := rfl
  discovery := rfl
  applied := .initial me
  pending _ he := absurd he List.not_mem_nil
  ready _ ht := absurd ht List.not_mem_nil
  timers _ ht := absurd ht List.not_mem_nil
  held _ hx := absurd hx List.not_mem_nil

/-- A call that waits for its answer is one that a node makes, and who answers it is noticed. -/
theorem answer_clean {w : World} (h : w.Clean c me met) (key : String)
    (result : Except TransportError Node) (lost : List Node) :
    (move w (.answer key result lost)).Clean c me (met ++ meets w key result) := by
  have clean := h.loseAll lost
  have held := w.loseAll_held lost
  have known := clean.mono (List.subset_append_left met (meets w key result))
  simp only [move, World.apply]
  cases waits : (lost.foldl World.lose w).held.lookup key with
  | none => exact known
  | some call =>
    obtain ⟨before, after, here, _⟩ := List.lookup_eq_some_iff.mp waits
    have asks : call.Asks c :=
      clean.held (key, call) (here ▸ List.mem_append_right _ List.mem_cons_self)
    have left : { lost.foldl World.lose w with
        held := (lost.foldl World.lose w).held.filter (·.1 != key) }.Clean c me _ :=
      { known with held := fun x hx => known.held x (List.mem_filter.mp hx).1 }
    refine left.proceed ?_
    rw [held] at waits
    cases call with
    | ping p request => cases result <;> trivial
    | connect before node keeps => cases result <;> trivial
    | handshake peer rest loop nobody =>
      cases result with
      | error e => exact ⟨asks.1, asks.2, nofun⟩
      | ok found =>
        refine ⟨asks.1, asks.2, fun _ => List.mem_append_right met ?_⟩
        simp only [meets, waits, List.mem_singleton]

/-- What there was, and what an answer adds. -/
theorem move_clean {w : World} (h : w.Clean c me met) (named : me.id = c.nodeId) (m : Move) :
    (move w m).Clean c me
      (match m with
        | .answer key result _ => met ++ meets w key result
        | _ => met) := by
  cases m with
  | turn place =>
    simp only [move, turn]
    split
    · next task ready =>
      have left : { w with agenda := { w.agenda with
          ready := w.agenda.ready.eraseIdx place } }.Clean c me met :=
        h.reschedule (fun t ht => h.ready t (List.mem_of_mem_eraseIdx ht)) h.timers
      have ran := left.run named (h.ready task (List.mem_of_getElem? ready))
      rwa [ran.giveUp]
    · exact h
  | due place =>
    simp only [move, due]
    split
    · next time task timer =>
      have left : { w with agenda := { w.agenda with
          timers := w.agenda.timers.eraseIdx place } }.Clean c me met :=
        h.reschedule h.ready fun t ht => h.timers t (List.mem_of_mem_eraseIdx ht)
      exact left.spawn (h.timers _ (List.mem_of_getElem? timer))
    · exact h
  | wake limit =>
    simp only [move]
    split
    · next woken => exact h.wake woken
    · exact h
  | reach moment => exact h.reschedule h.ready h.timers
  | lose node => exact h.lose node
  | note connections notices => exact h.tellAll notices
  | receive r => exact h.receive r
  | serve r => exact h
  | startDiscovery =>
    simp only [move, World.apply, h.operated, h.discovery, if_true]
    exact h.spawn trivial
  | abortDiscovery => exact h.abortDiscovery
  | shutdown =>
    simp only [move, World.apply, h.operated, if_true]
    exact h.update false _
  | closeScheduler => exact { h with }
  | answer key result lost => exact answer_clean h key result lost

theorem step_clean {l : Life} (h : l.process.world.Clean c me l.met) (named : me.id = c.nodeId)
    (m : Move) : (l.step m).process.world.Clean c me (l.step m).met := by
  have moved := move_clean h named m
  cases m with
  | serve r =>
    have counted (metrics : Metrics) : { l.process.world with metrics }.Clean c me l.met :=
      { h with }
    exact (counted _).tellAll _
  | _ => exact moved

theorem run_clean {l : Life} (h : l.process.world.Clean c me l.met) (named : me.id = c.nodeId)
    (moves : List Move) : (l.run moves).process.world.Clean c me (l.run moves).met := by
  induction moves generalizing l with
  | nil => exact h
  | cons m moves ih => exact ih (step_clean h named m)

theorem run_identity (l : Life) (moves : List Move) :
    (l.run moves).process.identity = l.process.identity := by
  induction moves generalizing l with
  | nil => rfl
  | cons m moves ih =>
    refine (ih (l.step m)).trans ?_
    cases m <;> rfl

section program

/-- Some moves lead from a node to one with a given process. -/
def Comes (l : Life) (p : Process) : Prop := ∃ moves, (l.run moves).process = p

variable {l : Life}

theorem Comes.after (moves : List Move) {p : Process} (h : (l.run moves).Comes p) : l.Comes p := by
  obtain ⟨more, same⟩ := h
  refine ⟨moves ++ more, ?_⟩
  rw [run, List.foldl_append]
  exact same

/-- The steps of a node by itself are moves: the oldest ready task has its turn, or else the clock
moves. -/
theorem comes_runUntil (l : Life) (limit fuel : Nat) :
    l.Comes { l.process with world := World.runUntil limit fuel l.process.world } := by
  induction fuel generalizing l with
  | zero => exact ⟨[], rfl⟩
  | succ fuel ih =>
    cases stepped : l.process.world.step limit with
    | none => exact ⟨[], by simp only [World.runUntil, stepped]; rfl⟩
    | some next =>
      obtain ⟨m, now⟩ : ∃ m, l.step m = { l with process := { l.process with world := next } } := by
        unfold World.step Agenda.pop at stepped
        cases ready : l.process.world.agenda.ready with
        | cons task rest =>
          simp only [ready, Option.some.injEq] at stepped
          exact ⟨.turn 0, by simp [step, move, turn, ready, ← stepped]⟩
        | nil =>
          simp only [ready, Option.map_eq_some_iff] at stepped
          obtain ⟨agenda, woken, rfl⟩ := stepped
          exact ⟨.wake limit, by simp [step, move, woken]⟩
      obtain ⟨moves, same⟩ := ih (l.step m)
      refine ⟨m :: moves, same.trans ?_⟩
      simp only [now, World.runUntil, stepped]

theorem operate_world (w : World) (op : Operation) :
    (w.operate op).1 = (w.apply op).1.settle.giveUp := by
  simp only [World.operate]
  split <;> rfl

/-- What follows from an operation follows by moves. -/
theorem comes_operate (clean : l.process.world.Clean c me l.met) (named : me.id = c.nodeId)
    (op : Operation)
    (done : l.Comes { l.process with world := (l.process.world.apply op).1 }) :
    l.Comes (l.process.operate op) := by
  obtain ⟨moves, done⟩ := done
  obtain ⟨more, settled⟩ := comes_runUntil (l.run moves) (l.run moves).process.world.agenda.now
    World.stepLimit
  -- A clean world has nothing to give up, so what an operation ends with changes nothing.
  have still := (run_clean (run_clean clean named moves) named more).giveUp
  refine .after moves ⟨more, ?_⟩
  rw [settled, done] at still ⊢
  simp only [Process.operate, operate_world]
  exact congrArg (fun world => { l.process with world }) still.symm

theorem comes_discover (clean : l.process.world.Clean c me l.met) (named : me.id = c.nodeId) :
    l.Comes l.process.discover :=
  comes_operate clean named _ ⟨[.startDiscovery], rfl⟩

theorem comes_reach (clean : l.process.world.Clean c me l.met) (named : me.id = c.nodeId)
    (moment : Nat) : l.Comes (l.process.reach moment) := by
  refine comes_operate clean named _ ?_
  let limit := l.process.world.agenda.now + (moment - l.process.world.agenda.now)
  -- Time passes in two parts: everything that is due has its turn, and then the clock is set.
  obtain ⟨moves, ran⟩ := comes_runUntil l limit World.stepLimit
  have reached : ((l.run moves).run [.reach limit]).process =
      { (l.run moves).process with world := move (l.run moves).process.world (.reach limit) } := rfl
  refine .after moves ⟨[.reach limit], ?_⟩
  rw [reached, ran]
  rfl

theorem comes_serve (l : Life) (r : Http.Request) : l.Comes (l.process.serve r).1 :=
  ⟨[.serve r], rfl⟩

/-- The end of a handshake, with whom it found. -/
theorem comes_handshake (clean : l.process.world.Clean c me l.met) (named : me.id = c.nodeId)
    (key : Nat) (contact : Contact Unit Node) :
    l.Comes (l.process.conclude key contact contact.result.toOption) := by
  let note := Move.note contact.connections contact.notices
  have noted := step_clean clean named note
  exact .after [note] (comes_operate noted named _
    ⟨[.answer (toString key) contact.result (contact.told.map (·.2))], rfl⟩)

theorem apply_answer_other {w : World} {key : String}
    (other : ∀ call, w.held.lookup key = some call → ∀ n, call.finding n = call)
    (result : Except TransportError Unit) (found : Option Node) (lost : List Node) :
    w.apply (.answer key result found lost) = w.apply (.answer key result none lost) := by
  cases found with
  | none => rfl
  | some n =>
    rw [← w.loseAll_held lost] at other
    simp only [World.apply]
    cases waits : (lost.foldl World.lose w).held.lookup key with
    | none => rfl
    | some call => simp only [Option.elim, other call waits n]

/-- The end of a ping, or of connecting to a node. -/
theorem comes_contact (clean : l.process.world.Clean c me l.met) (named : me.id = c.nodeId)
    (key : Nat) (contact : Contact Unit Unit)
    (other : ∀ call, l.process.world.held.lookup (toString key) = some call →
      ∀ n, call.finding n = call) :
    l.Comes (l.process.conclude key contact none) := by
  let note := Move.note contact.connections contact.notices
  have noted := step_clean clean named note
  refine .after [note] (comes_operate noted named _
    ⟨[.answer (toString key) (contact.result.map fun _ => default) (contact.told.map (·.2))], ?_⟩)
  have unheard (call : Call)
      (waits : (l.step note).process.world.held.lookup (toString key) = some call) :
      ∀ n, call.finding n = call := by
    refine other call ?_
    rwa [← l.process.world.tellAll_held contact.notices]
  have same : ((contact.result.map fun _ => (default : Node)).map fun _ => ()) =
      contact.result.map fun _ => () := by
    cases contact.result <;> rfl
  have answered := apply_answer_other unheard (contact.result.map fun _ => ())
    (contact.result.map fun _ => (default : Node)).toOption (contact.told.map (·.2))
  rw [← answered, ← same]
  rfl

theorem comes_stop (clean : l.process.world.Clean c me l.met) (named : me.id = c.nodeId) :
    l.Comes l.process.stop := by
  obtain ⟨first, aborted⟩ := comes_operate clean named .abortDiscovery ⟨[.abortDiscovery], rfl⟩
  have clean := run_clean clean named first
  obtain ⟨second, ended⟩ := comes_operate clean named .shutdown ⟨[.shutdown], rfl⟩
  have clean := run_clean clean named second
  have closed := comes_operate clean named .closeScheduler ⟨[.closeScheduler], rfl⟩
  refine .after first (.after second ?_)
  rwa [ended, aborted] at closed

/-- What a program makes of a node, from one event to the next. -/
inductive Executed (c : Config) (me : Node) : Process → Prop where
  | start : Executed c me (.start c me)
  | discover {p : Process} : Executed c me p → Executed c me p.discover
  | reach {p : Process} (moment : Nat) : Executed c me p → Executed c me (p.reach moment)
  | serve {p : Process} (r : Http.Request) : Executed c me p → Executed c me (p.serve r).1
  | handshake {p : Process} (key : Nat) (contact : Contact Unit Node) : Executed c me p →
      Executed c me (p.conclude key contact contact.result.toOption)
  | contact {p : Process} (key : Nat) (contact : Contact Unit Unit) : Executed c me p →
      (∀ call, p.world.held.lookup (toString key) = some call → ∀ n, call.finding n = call) →
      Executed c me (p.conclude key contact none)
  | stop {p : Process} : Executed c me p → Executed c me p.stop

/-- A program gives its tasks their turns in one of the orders in which moves may come. -/
theorem executed_comes {c : Config} {me : Node} (named : me.id = c.cluster.nodeId) {p : Process}
    (executed : Executed c me p) : (start c me).Comes p := by
  -- Each event starts from where the moves before it led.
  have next {p q : Process} (before : (start c me).Comes p)
      (event : ∀ l : Life, l.process = p → l.process.world.Clean c.cluster me l.met → l.Comes q) :
      (start c me).Comes q := by
    obtain ⟨moves, rfl⟩ := before
    exact .after moves (event _ rfl (run_clean (start_clean c me) named moves))
  induction executed with
  | start => exact ⟨[], rfl⟩
  | discover _ ih => exact next ih fun l same clean => same ▸ comes_discover clean named
  | reach moment _ ih => exact next ih fun l same clean => same ▸ comes_reach clean named moment
  | serve r _ ih => exact next ih fun l same _ => same ▸ comes_serve l r
  | handshake key contact _ ih =>
    exact next ih fun l same clean => same ▸ comes_handshake clean named key contact
  | contact key contact _ other ih =>
    refine next ih fun l same clean => ?_
    subst same
    exact comes_contact clean named key contact other
  | stop _ ih => exact next ih fun l same clean => same ▸ comes_stop clean named

end program

/-- Who a node says it is, to anyone who asks. -/
theorem serve_identity (p : Process) {r : Http.Request} (asks : demand r = .identity)
    (get : r.method ≠ "HEAD") : (p.serve r).2 = .json 200 p.identity.toJson.toText := by
  simp only [Process.serve, Server.serve, asks, Server.perform, if_neg get]
  rfl

/-- Whatever happens to a node, in whatever order: it stays the member that it was, which is also
who it says it is and who it takes pings for; its leader stays; and every other member is filed
under his own id, is configured, and answered a handshake at an address configured for that id. -/
theorem members_vouched (c : Config) (ephemeralId address : String) (moves : List Move) :
    let me : Node := ⟨c.cluster.nodeId, ephemeralId, address⟩
    let l := (start c me).run moves
    let s := l.process.world.queue.applied
    s.localNode = me ∧ s.nodes.get? me.id = some me ∧ s.leaderId = c.cluster.leaderId ∧
      (∀ r, demand r = .identity → r.method ≠ "HEAD" →
        (l.process.serve r).2 = .json 200 me.toJson.toText) ∧
      l.process.server.leader.snapshot.localNode = me ∧
      ∀ id n, (id, n) ∈ s.nodes.entries → n.id = id ∧
        (n = me ∨ id ≠ me.id ∧ ∃ peer ∈ c.cluster.peers, peer.id = id ∧ (peer, n) ∈ l.met) := by
  intro me l s
  have clean : l.process.world.Clean c.cluster me l.met := run_clean (start_clean c me) rfl moves
  have vouched := clean.applied
  have same : l.process.identity = me := run_identity _ moves
  refine ⟨vouched.localNode, vouched.own, vouched.leaderId, fun r asks get => ?_, ?_,
    fun id n filed => vouched.entries (id, n) filed⟩
  · rw [serve_identity _ asks get, same]
  · exact vouched.localNode

/-- One peer answers under its own id; at the address of another, the node's own id is given. -/
theorem impostor_not_recorded :
    let c : Config := { cluster := { nodeId := "a", leaderId := some "b"
                                     peers := [⟨"a", "1"⟩, ⟨"b", "2"⟩, ⟨"c", "3"⟩] } }
    let b : Node := ⟨"b", "x", "2"⟩
    let moves : List Move := [.startDiscovery, .turn 0, .turn 0, .turn 0,
      .answer (toString 0) (.ok b) [], .turn 0, .turn 0, .turn 0, .turn 0,
      .answer (toString 1) (.ok ⟨"a", "y", "3"⟩) [], .turn 0]
    let l := (start c ⟨c.cluster.nodeId, "x", "1"⟩).run moves
    let members := l.process.world.queue.applied.nodes.entries
    members.map (·.1) = ["a", "b"] ∧ l.met.map (·.2.ephemeralId) = ["x", "y"] ∧
      ("b", b) ∈ members ∧ ∃ peer ∈ c.cluster.peers, peer.id = "b" ∧ (peer, b) ∈ l.met := by
  intro c b moves
  dsimp only
  have filed : ("b", b) ∈ ((start c ⟨c.cluster.nodeId, "x", "1"⟩).run
      moves).process.world.queue.applied.nodes.entries := by decide +kernel
  have vouched := (members_vouched c "x" "1" moves).2.2.2.2.2 "b" b filed
  have other : b ≠ ⟨c.cluster.nodeId, "x", "1"⟩ := by decide
  exact ⟨by decide +kernel, by decide +kernel, filed, (vouched.2.resolve_left other).2⟩

end Life

end Vigil

import Vigil.Leader
import Vigil.Proofs.Service

/-!
A leader under way: pings and tasks arrive, each under a number of its own, the worker takes its
turns until it goes, and the view from which pings are answered may be any. Which answer a ping gets
depends on that view, on the name of the cluster, and on the state that the tasks queued ahead of it
leave.
-/

namespace Vigil

/-- The local node is the one that a state takes for the leader. -/
def ClusterState.Leads (s : ClusterState) : Prop := s.leaderId = some s.localNode.id

/-- Exactly this incarnation of a node is filed under its id. -/
def ClusterState.Member (s : ClusterState) (n : Node) : Prop := s.nodes.get? n.id = some n

instance (s : ClusterState) : Decidable s.Leads := inferInstanceAs (Decidable (_ = _))

instance (s : ClusterState) (n : Node) : Decidable (s.Member n) :=
  inferInstanceAs (Decidable (_ = _))

namespace PingRequest

/-- A ping is meant for the node that it names as the leader, and for that node's cluster unless it
names another. -/
def MeantFor (r : PingRequest) (ours : ClusterName) (view : ClusterState) : Prop :=
  r.leader = view.localNode ∧ ∀ theirs ∈ r.clusterName, theirs = "" ∨ theirs = ours

instance (r : PingRequest) (ours : ClusterName) (view : ClusterState) :
    Decidable (r.MeantFor ours view) :=
  inferInstanceAs (Decidable (_ ∧ _))

/-- A view alone decides a ping that is meant for another, and one of a follower that it vouches
for. -/
def DecidedBy (r : PingRequest) (ours : ClusterName) (view : ClusterState) : Prop :=
  r.MeantFor ours view → view.Leads ∧ view.Member r.source

def refusal (r : PingRequest) (ours : ClusterName) (view : ClusterState) : String :=
  if r.leader ≠ view.localNode then
    "got ping as leader [" ++ r.leader.text ++ "], but local node is [" ++ view.localNode.text
      ++ "]"
  else
    "leader ping for cluster [" ++ r.clusterName.getD "" ++ "] received by leader of cluster ["
      ++ ours ++ "]"

/-- The answer to a ping. Where the view does not decide, it depends on the state that the check
found, of which there is none if the check never ran. -/
def law (r : PingRequest) (ours : ClusterName) (view : ClusterState) (found : Option ClusterState) :
    Except PingError Unit :=
  if ¬ r.MeantFor ours view then .error (.rejected (.notTheLeader (r.refusal ours view)))
  else if view.Leads ∧ view.Member r.source then .ok ()
  else
    match found with
    | none => .error (.internal "cluster state queue is closed")
    | some s =>
      if ¬ s.Leads then .error (.rejected .noLongerLeader)
      else if s.Member r.source then .ok ()
      else .error (.rejected (.unknownToLeader r.source.text))

end PingRequest

def Asker.who {ω : Type} : Asker ω → ω
  | task who | ping _ who => who

def Asker.reply {ω : Type} : Asker ω → Except StateTaskError Unit → Reply
  | task _, result => .task result
  | ping r _, result => .ping (r.answer result).1

/-- Pings and tasks that a leader takes, each under a number, and what those who asked were told. -/
structure Reception where
  leader : Leader Nat
  asked : Nat := 0
  told : List (Nat × Reply) := []

namespace Reception

inductive Move where
  | receive (ping : PingRequest)
  | submit (task : StateTask)
  | work
  /-- The worker goes. -/
  | stop
  /-- From now on pings are answered from this view, or from the applied state. -/
  | look (view : Option ClusterState)

def start (ours : ClusterName) (s : ClusterState) : Reception where
  leader := { clusterName := ours, queue := { applied := s } }

def step (w : Reception) : Move → Reception
  | .receive ping =>
    let (leader, answer) := w.leader.receive ping w.asked
    { leader, asked := w.asked + 1
      told := w.told ++ (answer.map fun a => (w.asked, Reply.ping a)).toList }
  | .submit task =>
    match w.leader.submit task w.asked with
    | .ok leader => { w with leader, asked := w.asked + 1 }
    | .error e =>
      { w with asked := w.asked + 1, told := w.told ++ [(w.asked, .task (.error e))] }
  | .work =>
    match w.leader.work with
    | some (leader, reply) => { w with leader, told := w.told ++ [reply] }
    | none => w
  | .stop =>
    let (leader, replies) := w.leader.stopWork
    { w with leader, told := w.told ++ replies }
  | .look view => { w with leader := { w.leader with frozen := view } }

def run (w : Reception) (moves : List Move) : Reception := moves.foldl step w

/-- What the one who asked under some number was told. -/
def answers (w : Reception) (number : Nat) : List Reply :=
  (w.told.filter (·.1 == number)).map (·.2)

/-- What one is told whose task is still queued when the worker goes. -/
def refuse (e : StateTask × Asker Nat) : Nat × Reply := (e.2.who, e.2.reply (.error .queueClosed))

/-- How often the worker takes its turn before it goes. -/
def turns : List Move → Nat
  | [] | .stop :: _ => 0
  | .work :: moves => turns moves + 1
  | .receive _ :: moves | .submit _ :: moves | .look _ :: moves => turns moves

def stops (moves : List Move) : Bool := moves.any (· matches .stop)

end Reception

theorem ClusterState.isLeader_iff (s : ClusterState) : s.isLeader = true ↔ s.Leads := by
  simp [isLeader, Leads]

theorem ClusterState.contains_iff (s : ClusterState) (n : Node) :
    s.contains n = true ↔ s.Member n := by
  simp [contains, Member]

namespace StateTask.Yields

variable {task : StateTask} {s next : ClusterState} {result : Except StateTaskError Unit}
  {new : List ClusterState}

theorem result_of_not_mayRun (y : task.Yields s next result new) (not : ¬ task.MayRun s) :
    result = .error .notLeader := by
  cases y with
  | skipped _ => rfl
  | failed _ may | unchanged may | published _ may => exact absurd may not

theorem result_of_mayRun (y : task.Yields s next result new) (may : task.MayRun s) :
    result = (task.update s).map fun _ => () := by
  cases y with
  | skipped not => exact absurd may not
  | failed _ _ update | unchanged _ update | published _ _ update => rw [update]; rfl

end StateTask.Yields

namespace PingRequest

variable {r : PingRequest} {ours : ClusterName} {view : ClusterState}

theorem otherCluster?_eq_none : r.otherCluster? ours = none ↔
    ∀ theirs ∈ r.clusterName, theirs = "" ∨ theirs = ours := by
  rw [otherCluster?, Option.filter_eq_none_iff]
  refine forall_congr' fun theirs => imp_congr_right fun _ => ?_
  simp only [ne_eq, decide_eq_true_eq, not_and, Decidable.not_not]
  by_cases none : theirs = "" <;> simp [none]

theorem judge_verdict (r : PingRequest) (ours : ClusterName) (view : ClusterState) :
    (r.judge ours view).1 =
      if ¬ r.MeantFor ours view then .rejected (.notTheLeader (r.refusal ours view))
      else if view.Leads ∧ view.Member r.source then .acknowledged
      else .undecided := by
  by_cases own : r.leader = view.localNode
  · cases other : r.otherCluster? ours with
    | none =>
      have meant : r.MeantFor ours view := ⟨own, otherCluster?_eq_none.mp other⟩
      have vouched : (view.isLeader && view.contains r.source) = true ↔
          view.Leads ∧ view.Member r.source := by
        rw [Bool.and_eq_true, view.isLeader_iff, view.contains_iff]
      simp only [judge, own, other, ne_eq, not_true, if_false, meant]
      by_cases known : view.Leads ∧ view.Member r.source
      · rw [if_pos (vouched.mpr known), if_pos known]
      · rw [if_neg (mt vouched.mp known), if_neg known]
    | some theirs =>
      have foreign : ¬ r.MeantFor ours view := fun meant => by
        rw [otherCluster?_eq_none.mpr meant.2] at other
        cases other
      have named : r.clusterName = some theirs := (Option.filter_eq_some_iff.mp other).1
      simp [judge, own, other, foreign, refusal, named]
  · have foreign : ¬ r.MeantFor ours view := fun meant => own meant.1
    simp [judge, own, foreign, refusal]

/-- Where the view decides, what a check would find makes no difference. -/
theorem law_decided (decided : r.DecidedBy ours view) (found : Option ClusterState) :
    r.law ours view found = r.law ours view none := by
  by_cases meant : r.MeantFor ours view
  · simp only [law, meant, decided meant, not_true, if_false, and_self, if_true]
  · simp only [law, meant, not_false_eq_true, if_true]

theorem check_result (r : PingRequest) (s : ClusterState) :
    (r.check.run s).result =
      if ¬ s.Leads then .error .notLeader
      else if s.Member r.source then .ok ()
      else .error (.nodeDoesNotExist r.source.text) := by
  have may : r.check.MayRun s ↔ s.Leads := ⟨fun h => h rfl, fun h _ => h⟩
  have update : r.check.update s =
      if s.Member r.source then .ok s else .error (.nodeDoesNotExist r.source.text) :=
    ite_congr (propext (s.contains_iff r.source)) (fun _ => rfl) fun _ => rfl
  by_cases leads : s.Leads
  · rw [if_neg (not_not_intro leads), (r.check.run_yields s).result_of_mayRun (may.mpr leads),
      update]
    split <;> rfl
  · rw [if_pos leads, (r.check.run_yields s).result_of_not_mayRun (mt may.mp leads)]

/-- Where the view does not decide, the check answers as the law says. -/
theorem answer_check (undecided : ¬ r.DecidedBy ours view) (s : ClusterState) :
    (r.answer (r.check.run s).result).1 = r.law ours view (some s) := by
  obtain ⟨meant, unseen⟩ := Classical.not_imp.mp undecided
  simp only [law, meant, unseen, not_true, if_false, check_result]
  split
  · rfl
  · split <;> rfl

theorem answer_closed (undecided : ¬ r.DecidedBy ours view) :
    (r.answer (.error .queueClosed)).1 = r.law ours view none := by
  obtain ⟨meant, unseen⟩ := Classical.not_imp.mp undecided
  simp only [law, meant, unseen, not_true, if_false]
  rfl

/-- Whom the checked state knows, where it leads, is turned away only as one who meant another. -/
theorem law_rejected {s : ClusterState} (leads : s.Leads) (member : s.Member r.source)
    {found : Option ClusterState} (which : found = none ∨ found = some s) {rejection : Rejection}
    (turned : r.law ours view found = .error (.rejected rejection)) :
    ∃ message, rejection = .notTheLeader message := by
  unfold law at turned
  split at turned
  · cases turned
    exact ⟨_, rfl⟩
  · split at turned
    · cases turned
    · rcases which with rfl | rfl
      · cases turned
      · simp only [leads, member, not_true, if_false, if_true] at turned
        cases turned

end PingRequest

/-- The last entry runs on the state that those ahead of it leave. -/
theorem StateQueue.runEntries_concat {ω : Type} (s : ClusterState)
    (entries : List (StateTask × ω)) (task : StateTask) (waiter : ω) :
    let ahead := runEntries s entries
    let last := task.run ahead.1
    runEntries s (entries ++ [(task, waiter)]) =
      (last.state, ahead.2 ++ [⟨waiter, last.result, last.notices⟩]) := by
  induction entries generalizing s with
  | nil => rfl
  | cons entry entries ih =>
    have rest := ih (entry.1.run s).state
    simp only [List.cons_append, runEntries, rest]

namespace Leader

variable {ω : Type} {r : PingRequest} {l : Leader ω}

/-- A ping that the view decides is answered at once, and nothing is queued. -/
theorem receive_decided (decided : r.DecidedBy l.clusterName l.snapshot) (who : ω) :
    ∃ metrics notices, l.receive r who =
      ({ l with metrics, notices }, some (r.law l.clusterName l.snapshot none)) := by
  have verdict := r.judge_verdict l.clusterName l.snapshot
  by_cases meant : r.MeantFor l.clusterName l.snapshot
  · have vouched := decided meant
    simp only [meant, vouched, not_true, if_false, and_self, if_true] at verdict
    simp only [receive, verdict, PingRequest.law, meant, vouched, not_true, if_false, and_self,
      if_true]
    exact ⟨_, _, rfl⟩
  · simp only [meant, not_false_eq_true, if_true] at verdict
    simp only [receive, verdict, PingRequest.law, meant, not_false_eq_true, if_true]
    exact ⟨_, _, rfl⟩

theorem judge_open (undecided : ¬ r.DecidedBy l.clusterName l.snapshot) :
    (r.judge l.clusterName l.snapshot).1 = .undecided := by
  obtain ⟨meant, unseen⟩ := Classical.not_imp.mp undecided
  rw [r.judge_verdict, if_neg (not_not_intro meant), if_neg unseen]

theorem receive_closed (undecided : ¬ r.DecidedBy l.clusterName l.snapshot)
    (gone : l.queue.working = false) (who : ω) :
    ∃ metrics notices, l.receive r who =
      ({ l with metrics, notices }, some (r.law l.clusterName l.snapshot none)) := by
  rw [← PingRequest.answer_closed undecided]
  simp only [receive, judge_open undecided, StateQueue.submit, gone, Bool.false_eq_true, if_false]
  exact ⟨_, _, rfl⟩

theorem receive_queued (undecided : ¬ r.DecidedBy l.clusterName l.snapshot)
    (working : l.queue.working = true) (who : ω) :
    l.receive r who =
      ({ l with queue := { l.queue with
          pending := l.queue.pending ++ [(r.check, .ping r who)] } }, none) := by
  simp only [receive, judge_open undecided, StateQueue.submit, working, if_true]

theorem conclude_eq (l : Leader ω) (done : StateQueue.Done (Asker ω)) :
    ∃ metrics notices, l.conclude done =
      ({ l with metrics, notices }, (done.waiter.who, done.waiter.reply done.result)) := by
  obtain ⟨asker, result, records⟩ := done
  cases asker with
  | task who => exact ⟨_, _, rfl⟩
  | ping r who => exact ⟨_, _, rfl⟩

theorem concludeAll_eq (l : Leader ω) (dones : List (StateQueue.Done (Asker ω))) :
    ∃ metrics notices, l.concludeAll dones =
      ({ l with metrics, notices },
        dones.map fun d => (d.waiter.who, d.waiter.reply d.result)) := by
  induction dones generalizing l with
  | nil => exact ⟨_, _, rfl⟩
  | cons done dones ih =>
    obtain ⟨metrics, notices, first⟩ := l.conclude_eq done
    obtain ⟨metrics', notices', rest⟩ := ih { l with metrics, notices }
    refine ⟨metrics', notices', ?_⟩
    simp only [concludeAll, first, rest, List.map_cons]

theorem work_idle (idle : l.queue.pending = []) : l.work = none := by
  simp only [work, StateQueue.runOne, idle, Option.map_none]

theorem work_eq {task : StateTask} {asker : Asker ω} {rest : List (StateTask × Asker ω)}
    (queued : l.queue.pending = (task, asker) :: rest) :
    let run := task.run l.queue.applied
    ∃ metrics notices, l.work = some
      ({ l with
          queue := { l.queue with applied := run.state, pending := rest }, metrics, notices },
        (asker.who, asker.reply run.result)) := by
  intro run
  obtain ⟨metrics, notices, done⟩ := conclude_eq
    { l with queue := { l.queue with applied := run.state, pending := rest } }
    ⟨asker, run.result, run.notices⟩
  refine ⟨metrics, notices, ?_⟩
  simp only [work, StateQueue.runOne, queued, Option.map_some]
  rw [done]

theorem stopWork_eq (l : Leader ω) :
    ∃ metrics notices, l.stopWork =
      ({ l with queue := { l.queue with pending := [], working := false }, metrics, notices },
        l.queue.pending.map fun entry => (entry.2.who, entry.2.reply (.error .queueClosed))) := by
  obtain ⟨metrics, notices, dones⟩ := concludeAll_eq
    { l with queue := { l.queue with pending := [], working := false } }
    (l.queue.pending.map fun (_, asker) => ⟨asker, .error .queueClosed, []⟩)
  refine ⟨metrics, notices, ?_⟩
  simp only [stopWork, StateQueue.stop, dones, List.map_map]
  rfl

theorem submit_eq (l : Leader ω) (task : StateTask) (who : ω) :
    l.submit task who =
      if l.queue.working then
        .ok { l with queue := { l.queue with
          pending := l.queue.pending ++ [(task, .task who)] } }
      else .error .queueClosed := by
  rw [submit, StateQueue.submit]
  split <;> rfl

/-- A ping from its arrival to its answer. What was queued before is done first. -/
theorem ask_answer (l : Leader ω) (r : PingRequest) (who : ω) :
    (l.ask r who).2 = some (r.law l.clusterName l.snapshot
      (if l.queue.working then some (StateQueue.runEntries l.queue.applied l.queue.pending).1
        else none)) := by
  by_cases decided : r.DecidedBy l.clusterName l.snapshot
  · obtain ⟨metrics, notices, received⟩ := receive_decided decided who
    simp only [ask, received, PingRequest.law_decided decided]
  · cases working : l.queue.working with
    | false =>
      obtain ⟨metrics, notices, received⟩ := receive_closed decided working who
      simp only [ask, received, Bool.false_eq_true, if_false]
    | true =>
      simp only [ask, receive_queued decided working, settle, StateQueue.runAll,
        StateQueue.runEntries_concat]
      generalize StateQueue.runEntries l.queue.applied l.queue.pending = ahead
      obtain ⟨metrics, notices, concluded⟩ := concludeAll_eq
        { l with queue := ⟨(r.check.run ahead.1).state, [], l.queue.working⟩ }
        (ahead.2 ++ [⟨.ping r who, (r.check.run ahead.1).result, (r.check.run ahead.1).notices⟩])
      rw [concluded]
      simp only [List.map_append, List.map_cons, List.map_nil, List.reverse_append,
        List.reverse_singleton, List.singleton_append, List.findSome?_cons, Asker.reply, if_true]
      rw [PingRequest.answer_check decided]

end Leader

namespace Reception

variable {w : Reception}

theorem step_work {task : StateTask} {asker : Asker Nat} {rest : List (StateTask × Asker Nat)}
    (queued : w.leader.queue.pending = (task, asker) :: rest) :
    ∃ metrics notices, w.step .work =
      { w with
        leader := { w.leader with
          queue := { w.leader.queue with
            applied := (task.run w.leader.queue.applied).state, pending := rest }
          metrics, notices }
        told := w.told ++
          [(asker.who, asker.reply (task.run w.leader.queue.applied).result)] } := by
  obtain ⟨metrics, notices, worked⟩ := Leader.work_eq queued
  exact ⟨metrics, notices, by simp only [step, worked]⟩

theorem step_work_idle (queued : w.leader.queue.pending = []) : w.step .work = w := by
  simp only [step, Leader.work_idle queued]

theorem step_stop (w : Reception) :
    ∃ metrics notices, w.step .stop =
      { w with
        leader := { w.leader with
          queue := { w.leader.queue with pending := [], working := false }, metrics, notices }
        told := w.told ++ w.leader.queue.pending.map refuse } := by
  obtain ⟨metrics, notices, stopped⟩ := w.leader.stopWork_eq
  refine ⟨metrics, notices, ?_⟩
  simp only [step, stopped]
  rfl

/-- Nothing but arrivals: what was queued and told stays, and all that is new has a new number. -/
structure Arrival (w w' : Reception) : Prop where
  asked : w.asked ≤ w'.asked
  name : w'.leader.clusterName = w.leader.clusterName
  queue : ∃ new : List (StateTask × Asker Nat),
    (∀ e ∈ new, w.asked ≤ e.2.who ∧ e.2.who < w'.asked) ∧
    w'.leader.queue = { w.leader.queue with pending := w.leader.queue.pending ++ new }
  told : ∃ new : List (Nat × Reply), (∀ e ∈ new, w.asked ≤ e.1 ∧ e.1 < w'.asked) ∧
    w'.told = w.told ++ new

theorem step_receive_decided {r : PingRequest}
    (decided : r.DecidedBy w.leader.clusterName w.leader.snapshot) :
    ∃ metrics notices, w.step (.receive r) =
      { leader := { w.leader with metrics, notices }, asked := w.asked + 1
        told := w.told ++
          [(w.asked, .ping (r.law w.leader.clusterName w.leader.snapshot none))] } := by
  obtain ⟨metrics, notices, received⟩ := Leader.receive_decided decided w.asked
  exact ⟨metrics, notices, by simp only [step, received]; rfl⟩

theorem step_receive_closed {r : PingRequest}
    (undecided : ¬ r.DecidedBy w.leader.clusterName w.leader.snapshot)
    (gone : w.leader.queue.working = false) :
    ∃ metrics notices, w.step (.receive r) =
      { leader := { w.leader with metrics, notices }, asked := w.asked + 1
        told := w.told ++
          [(w.asked, .ping (r.law w.leader.clusterName w.leader.snapshot none))] } := by
  obtain ⟨metrics, notices, received⟩ := Leader.receive_closed undecided gone w.asked
  exact ⟨metrics, notices, by simp only [step, received]; rfl⟩

theorem step_receive_queued {r : PingRequest}
    (undecided : ¬ r.DecidedBy w.leader.clusterName w.leader.snapshot)
    (working : w.leader.queue.working = true) :
    w.step (.receive r) =
      { w with
        leader := { w.leader with queue := { w.leader.queue with
          pending := w.leader.queue.pending ++ [(r.check, .ping r w.asked)] } }
        asked := w.asked + 1 } := by
  simp only [step, Leader.receive_queued undecided working, Option.map_none, Option.toList_none,
    List.append_nil]

theorem step_arrival (w : Reception) {m : Move} (busy : m ≠ .work) (stays : m ≠ .stop) :
    Arrival w (w.step m) := by
  cases m with
  | work => exact absurd rfl busy
  | stop => exact absurd rfl stays
  | look view =>
    exact ⟨Nat.le_refl _, rfl, ⟨[], by simp, by simp [step]⟩, ⟨[], by simp, by simp [step]⟩⟩
  | submit task =>
    cases working : w.leader.queue.working with
    | true =>
      have now : w.step (.submit task) =
          { w with
            leader := { w.leader with queue := { w.leader.queue with
              pending := w.leader.queue.pending ++ [(task, .task w.asked)] } }
            asked := w.asked + 1 } := by
        simp only [step, Leader.submit_eq, working, if_true]
      rw [now]
      exact ⟨Nat.le_succ _, rfl, ⟨[_], by simp [Asker.who], rfl⟩, ⟨[], by simp, by simp⟩⟩
    | false =>
      have now : w.step (.submit task) =
          { w with
            asked := w.asked + 1, told := w.told ++ [(w.asked, .task (.error .queueClosed))] } := by
        simp only [step, Leader.submit_eq, working, Bool.false_eq_true, if_false]
      rw [now]
      exact ⟨Nat.le_succ _, rfl, ⟨[], by simp, by simp⟩, ⟨[_], by simp, rfl⟩⟩
  | receive r =>
    by_cases decided : r.DecidedBy w.leader.clusterName w.leader.snapshot
    · obtain ⟨metrics, notices, now⟩ := step_receive_decided decided
      rw [now]
      exact ⟨Nat.le_succ _, rfl, ⟨[], by simp, by simp⟩, ⟨[_], by simp, rfl⟩⟩
    · cases working : w.leader.queue.working with
      | true =>
        rw [step_receive_queued decided working]
        exact ⟨Nat.le_succ _, rfl, ⟨[_], by simp [Asker.who], rfl⟩, ⟨[], by simp, by simp⟩⟩
      | false =>
        obtain ⟨metrics, notices, now⟩ := step_receive_closed decided working
        rw [now]
        exact ⟨Nat.le_succ _, rfl, ⟨[], by simp, by simp⟩, ⟨[_], by simp, rfl⟩⟩

/-- All that a move can do. -/
inductive Effect (w : Reception) : Move → Reception → Prop where
  | idle : w.leader.queue.pending = [] → Effect w .work w
  | worked {task : StateTask} {asker : Asker Nat} {rest : List (StateTask × Asker Nat)}
      (metrics : Metrics) (notices : List Notice) :
      w.leader.queue.pending = (task, asker) :: rest →
      Effect w .work
        { w with
          leader := { w.leader with
            queue := { w.leader.queue with
              applied := (task.run w.leader.queue.applied).state, pending := rest }
            metrics, notices }
          told := w.told ++
            [(asker.who, asker.reply (task.run w.leader.queue.applied).result)] }
  | stopped (metrics : Metrics) (notices : List Notice) :
      Effect w .stop
        { w with
          leader := { w.leader with
            queue := { w.leader.queue with pending := [], working := false }, metrics, notices }
          told := w.told ++ w.leader.queue.pending.map refuse }
  | arrived {m : Move} {w' : Reception} : m ≠ .work → m ≠ .stop → Arrival w w' → Effect w m w'

theorem step_effect (w : Reception) (m : Move) : Effect w m (w.step m) := by
  by_cases busy : m = .work
  · subst busy
    cases queued : w.leader.queue.pending with
    | nil =>
      rw [step_work_idle queued]
      exact .idle queued
    | cons entry rest =>
      obtain ⟨metrics, notices, now⟩ := step_work queued
      rw [now]
      exact .worked metrics notices queued
  · by_cases goes : m = .stop
    · subst goes
      obtain ⟨metrics, notices, now⟩ := w.step_stop
      rw [now]
      exact .stopped metrics notices
    · exact .arrived busy goes (w.step_arrival busy goes)

theorem run_clusterName (w : Reception) (moves : List Move) :
    (w.run moves).leader.clusterName = w.leader.clusterName := by
  induction moves generalizing w with
  | nil => rfl
  | cons m moves ih =>
    have same {w' : Reception} (e : Effect w m w') :
        w'.leader.clusterName = w.leader.clusterName := by
      cases e with
      | idle | worked | stopped => rfl
      | arrived _ _ a => exact a.name
    exact (ih (w.step m)).trans (same (w.step_effect m))

theorem answers_eq_nil {n : Nat} (none : ∀ e ∈ w.told, e.1 ≠ n) : w.answers n = [] := by
  rw [answers, List.map_eq_nil_iff, List.filter_eq_nil_iff]
  intro e he own
  exact none e he (eq_of_beq own)

theorem refused_others {n : Nat} {entries : List (StateTask × Asker Nat)}
    (others : ∀ e ∈ entries, e.2.who ≠ n) :
    (entries.map refuse).filter (·.1 == n) = [] := by
  rw [List.filter_eq_nil_iff]
  intro reply told own
  obtain ⟨e, he, rfl⟩ := List.mem_map.mp told
  exact others e he (eq_of_beq own)

theorem Arrival.answers {w' : Reception} (a : Arrival w w') {n : Nat} (old : n < w.asked) :
    w'.answers n = w.answers n := by
  obtain ⟨new, numbers, told⟩ := a.told
  have others : new.filter (·.1 == n) = [] := by
    rw [List.filter_eq_nil_iff]
    intro e he own
    have number := eq_of_beq own
    have above := numbers e he
    omega
  simp only [Reception.answers, told, List.filter_append, others, List.append_nil]

/-- Whoever has asked has a number below the next one. -/
structure Numbered (w : Reception) : Prop where
  queued : ∀ e ∈ w.leader.queue.pending, e.2.who < w.asked
  told : ∀ e ∈ w.told, e.1 < w.asked

theorem start_numbered (ours : ClusterName) (s : ClusterState) : Numbered (start ours s) where
  queued := by simp [start]
  told := by simp [start]

theorem Numbered.effect {w' : Reception} {m : Move} (h : Numbered w) (e : Effect w m w') :
    Numbered w' := by
  cases e with
  | idle => exact h
  | @worked task asker rest metrics notices queued =>
    have bound := h.queued
    rw [queued] at bound
    constructor
    · exact fun e he => bound e (List.mem_cons_of_mem _ he)
    · intro e he
      rcases List.mem_append.mp he with he | he
      · exact h.told e he
      · rw [List.mem_singleton.mp he]
        exact bound _ List.mem_cons_self
  | stopped metrics notices =>
    constructor
    · exact fun e he => absurd he List.not_mem_nil
    · intro e he
      rcases List.mem_append.mp he with he | he
      · exact h.told e he
      · obtain ⟨entry, queued, rfl⟩ := List.mem_map.mp he
        exact h.queued entry queued
  | arrived _ _ a =>
    obtain ⟨queued, above, queue⟩ := a.queue
    obtain ⟨told, above', history⟩ := a.told
    have more := a.asked
    constructor
    · intro e he
      rw [queue] at he
      rcases List.mem_append.mp he with he | he
      · exact Nat.lt_of_lt_of_le (h.queued e he) more
      · exact (above e he).2
    · intro e he
      rw [history] at he
      rcases List.mem_append.mp he with he | he
      · exact Nat.lt_of_lt_of_le (h.told e he) more
      · exact (above' e he).2

theorem Numbered.run (h : Numbered w) (moves : List Move) : Numbered (w.run moves) := by
  induction moves generalizing w with
  | nil => exact h
  | cons m moves ih => exact ih (h.effect (w.step_effect m))

/-- A number that was given out and under which nobody waits any more. -/
structure Over (n : Nat) (w : Reception) : Prop where
  old : n < w.asked
  none : ∀ e ∈ w.leader.queue.pending, e.2.who ≠ n

namespace Over

variable {n : Nat}

theorem effect (h : Over n w) {w' : Reception} {m : Move} (e : Effect w m w') :
    Over n w' ∧ w'.answers n = w.answers n := by
  cases e with
  | idle => exact ⟨h, rfl⟩
  | @worked task asker rest metrics notices queued =>
    have none := h.none
    rw [queued] at none
    have other : asker.who ≠ n := none _ List.mem_cons_self
    refine ⟨⟨h.old, fun e he => none e (List.mem_cons_of_mem _ he)⟩, ?_⟩
    simp [answers, other]
  | stopped metrics notices =>
    refine ⟨⟨h.old, fun e he => absurd he List.not_mem_nil⟩, ?_⟩
    simp only [answers, List.filter_append, refused_others h.none, List.append_nil]
  | arrived _ _ a =>
    obtain ⟨new, above, queue⟩ := a.queue
    refine ⟨⟨Nat.lt_of_lt_of_le h.old a.asked, fun e he => ?_⟩, a.answers h.old⟩
    rw [queue] at he
    rcases List.mem_append.mp he with he | he
    · exact h.none e he
    · have number := (above e he).1
      have old := h.old
      omega

theorem run (h : Over n w) (moves : List Move) : (w.run moves).answers n = w.answers n := by
  induction moves generalizing w with
  | nil => rfl
  | cons m moves ih =>
    obtain ⟨past, same⟩ := h.effect (w.step_effect m)
    exact (ih past).trans same

end Over

/-- The check of a ping is queued under some number, and its turn comes after some other entries. -/
structure Waiting (r : PingRequest) (n : Nat) (ahead : List (StateTask × Asker Nat))
    (w : Reception) : Prop where
  old : n < w.asked
  working : w.leader.queue.working = true
  queued : ∃ behind, w.leader.queue.pending = ahead ++ (r.check, .ping r n) :: behind ∧
    ∀ e ∈ ahead ++ behind, e.2.who ≠ n

namespace Waiting

variable {r : PingRequest} {n : Nat} {ahead : List (StateTask × Asker Nat)}

theorem arrival (h : Waiting r n ahead w) {w' : Reception} (a : Arrival w w') :
    Waiting r n ahead w' ∧ w'.leader.queue.applied = w.leader.queue.applied := by
  obtain ⟨behind, queued, others⟩ := h.queued
  obtain ⟨new, above, queue⟩ := a.queue
  rw [queued, List.append_assoc, List.cons_append] at queue
  refine ⟨⟨Nat.lt_of_lt_of_le h.old a.asked, ?_, behind ++ new, ?_, fun e he => ?_⟩, ?_⟩
  · rw [queue]
    exact h.working
  · rw [queue]
  · rw [← List.append_assoc] at he
    rcases List.mem_append.mp he with he | he
    · exact others e he
    · have number := (above e he).1
      have old := h.old
      omega
  · rw [queue]

theorem nearer {task : StateTask} {asker : Asker Nat} (h : Waiting r n ((task, asker) :: ahead) w) :
    Waiting r n ahead (w.step .work) ∧
      (w.step .work).leader.queue.applied = (task.run w.leader.queue.applied).state ∧
      (w.step .work).answers n = w.answers n := by
  obtain ⟨behind, queued, others⟩ := h.queued
  obtain ⟨metrics, notices, now⟩ := step_work queued
  have other : asker.who ≠ n := others _ List.mem_cons_self
  rw [now]
  refine ⟨⟨h.old, h.working, behind, rfl, fun e he => ?_⟩, rfl, ?_⟩
  · exact others e (List.mem_cons_of_mem _ he)
  · simp [answers, other]

theorem checked (h : Waiting r n [] w) : Over n (w.step .work) ∧
    (w.step .work).answers n =
      w.answers n ++ [.ping (r.answer (r.check.run w.leader.queue.applied).result).1] := by
  obtain ⟨behind, queued, others⟩ := h.queued
  obtain ⟨metrics, notices, now⟩ := step_work queued
  rw [now]
  exact ⟨⟨h.old, others⟩, by simp [answers, Asker.who, Asker.reply]⟩

/-- The worker goes before the check runs. -/
theorem refused (h : Waiting r n ahead w) : Over n (w.step .stop) ∧
    (w.step .stop).answers n = w.answers n ++ [.ping (r.answer (.error .queueClosed)).1] := by
  obtain ⟨behind, queued, others⟩ := h.queued
  obtain ⟨metrics, notices, now⟩ := w.step_stop
  have before := refused_others fun e he => others e (List.mem_append_left behind he)
  have after := refused_others fun e he => others e (List.mem_append_right ahead he)
  rw [now]
  refine ⟨⟨h.old, fun e he => absurd he List.not_mem_nil⟩, ?_⟩
  have own : (refuse (r.check, .ping r n)).1 == n := beq_self_eq_true n
  simp only [answers, queued, List.map_append, List.map_cons, List.filter_append, before, after,
    own, List.filter_cons_of_pos, List.nil_append]
  rfl

/-- What the one who sent the ping is told in the end: what the check says of the state that the
entries ahead leave, if its turn comes, or that there is no worker any more. -/
theorem run (h : Waiting r n ahead w) (moves : List Move) :
    (w.run moves).answers n = w.answers n ++
      if ahead.length < turns moves then
        [.ping (r.answer
          (r.check.run (StateQueue.runEntries w.leader.queue.applied ahead).1).result).1]
      else if stops moves then [.ping (r.answer (.error .queueClosed)).1]
      else [] := by
  -- By induction on the moves: a turn of the worker takes the first of those ahead, an arrival none.
  induction moves generalizing w ahead with
  | nil => exact (List.append_nil _).symm
  | cons m moves ih =>
    by_cases busy : m = .work
    · subst busy
      cases ahead with
      | nil =>
        obtain ⟨past, told⟩ := h.checked
        exact (past.run moves).trans told
      | cons entry ahead =>
        obtain ⟨waiting, state, same⟩ := h.nearer
        have later := ih waiting
        rw [state, same] at later
        simp only [turns, List.length_cons, Nat.add_lt_add_iff_right]
        exact later
    · by_cases goes : m = .stop
      · subst goes
        obtain ⟨past, told⟩ := h.refused
        exact (past.run moves).trans told
      · have a := w.step_arrival busy goes
        obtain ⟨waiting, state⟩ := h.arrival a
        have later := ih waiting
        rw [state, a.answers h.old] at later
        have same : turns (m :: moves) = turns moves ∧ stops (m :: moves) = stops moves := by
          cases m <;> first | contradiction | exact ⟨rfl, rfl⟩
        rw [same.1, same.2]
        exact later

end Waiting

theorem runEntries_runs (s : ClusterState) (entries : List (StateTask × Asker Nat)) :
    ∃ results published,
      Runs s (entries.map (·.1)) (StateQueue.runEntries s entries).1 results published := by
  induction entries generalizing s with
  | nil => exact ⟨[], [], .nil s⟩
  | cons entry entries ih =>
    obtain ⟨results, published, rest⟩ := ih (entry.1.run s).state
    exact ⟨_, _, .cons (entry.1.run_yields s) rest⟩

/-- One who is answered at once is answered once. -/
theorem answered_at_once (numbered : Numbered w) {w' : Reception} {reply : Reply}
    (queue : w'.leader.queue = w.leader.queue) (asked : w'.asked = w.asked + 1)
    (told : w'.told = w.told ++ [(w.asked, reply)]) (moves : List Move) :
    (w'.run moves).answers w.asked = [reply] := by
  have past : Over w.asked w' := by
    constructor
    · rw [asked]
      exact Nat.lt_succ_self _
    · rw [queue]
      exact fun e he => Nat.ne_of_lt (numbered.queued e he)
  have silent : w.answers w.asked = [] :=
    answers_eq_nil fun e he => Nat.ne_of_lt (numbered.told e he)
  rw [past.run, answers, told, List.filter_append, List.map_append]
  change w.answers w.asked ++ _ = _
  simp [silent]

namespace Numbered

variable {r : PingRequest}

theorem decided (numbered : Numbered w)
    (known : r.DecidedBy w.leader.clusterName w.leader.snapshot) (after : List Move) :
    ((w.step (.receive r)).run after).answers w.asked =
        [.ping (r.law w.leader.clusterName w.leader.snapshot none)] ∧
      (w.step (.receive r)).leader.queue = w.leader.queue := by
  obtain ⟨metrics, notices, now⟩ := step_receive_decided known
  refine ⟨?_, by rw [now]⟩
  exact answered_at_once numbered (by rw [now]) (by rw [now]) (by rw [now]) after

theorem closed (numbered : Numbered w)
    (unknown : ¬ r.DecidedBy w.leader.clusterName w.leader.snapshot)
    (gone : w.leader.queue.working = false) (after : List Move) :
    ((w.step (.receive r)).run after).answers w.asked =
      [.ping (r.law w.leader.clusterName w.leader.snapshot none)] := by
  obtain ⟨metrics, notices, now⟩ := step_receive_closed unknown gone
  exact answered_at_once numbered (by rw [now]) (by rw [now]) (by rw [now]) after

/-- The check is queued behind all that is there, and nothing was told before. -/
theorem checked (numbered : Numbered w)
    (unknown : ¬ r.DecidedBy w.leader.clusterName w.leader.snapshot)
    (working : w.leader.queue.working = true) (after : List Move) :
    ((w.step (.receive r)).run after).answers w.asked =
      if w.leader.queue.pending.length < turns after then
        [.ping (r.law w.leader.clusterName w.leader.snapshot
          (some (StateQueue.runEntries w.leader.queue.applied w.leader.queue.pending).1))]
      else if stops after then [.ping (r.law w.leader.clusterName w.leader.snapshot none)]
      else [] := by
  have now := step_receive_queued unknown working
  have waiting : Waiting r w.asked w.leader.queue.pending (w.step (.receive r)) := by
    rw [now]
    refine ⟨Nat.lt_succ_self _, working, [], rfl, fun e he => ?_⟩
    rw [List.append_nil] at he
    exact Nat.ne_of_lt (numbered.queued e he)
  have silent : (w.step (.receive r)).answers w.asked = [] := by
    rw [now]
    exact answers_eq_nil fun e he => Nat.ne_of_lt (numbered.told e he)
  have applied : (w.step (.receive r)).leader.queue.applied = w.leader.queue.applied := by rw [now]
  rw [waiting.run after, silent, applied, List.nil_append, PingRequest.answer_check unknown,
    PingRequest.answer_closed unknown]

/-- Whatever is told follows from the law, with the state that the check found or with none. -/
theorem lawful (numbered : Numbered w) {after : List Move} {answer : Except PingError Unit}
    (told : .ping answer ∈ ((w.step (.receive r)).run after).answers w.asked) :
    ∃ found, (found = none ∨
        found = some (StateQueue.runEntries w.leader.queue.applied w.leader.queue.pending).1) ∧
      r.law w.leader.clusterName w.leader.snapshot found = answer := by
  have only {found : Option ClusterState}
      (one : .ping answer ∈ [Reply.ping (r.law w.leader.clusterName w.leader.snapshot found)]) :
      r.law w.leader.clusterName w.leader.snapshot found = answer :=
    (Reply.ping.inj (List.mem_singleton.mp one)).symm
  by_cases known : r.DecidedBy w.leader.clusterName w.leader.snapshot
  · rw [(numbered.decided known after).1] at told
    exact ⟨none, .inl rfl, only told⟩
  · cases working : w.leader.queue.working with
    | false =>
      rw [numbered.closed known working after] at told
      exact ⟨none, .inl rfl, only told⟩
    | true =>
      rw [numbered.checked known working after] at told
      split at told
      · exact ⟨_, .inr rfl, only told⟩
      · split at told
        · exact ⟨none, .inl rfl, only told⟩
        · exact absurd told List.not_mem_nil

end Numbered

/-- What one is told who sends a ping. If the view decides, he is told so at once and nothing is
queued; so he is, that the queue is closed, if there is no worker. Otherwise the check is queued: if
the worker comes to it, the answer follows from the state `s` that the tasks ahead of it leave, and
if he goes before, the answer is that the queue is closed. A follower that `s` knows is not turned
away where `s` leads, except because the ping was meant for another. -/
theorem ping_answered (ours : ClusterName) (s₀ : ClusterState) (before : List Move)
    (r : PingRequest) (after : List Move) :
    let w := (start ours s₀).run before
    let view := w.leader.snapshot
    let queue := w.leader.queue
    let told := ((w.step (.receive r)).run after).answers w.asked
    ∃ s, (∃ results published,
        Runs queue.applied (queue.pending.map (·.1)) s results published) ∧
      (r.DecidedBy ours view →
        told = [.ping (r.law ours view none)] ∧ (w.step (.receive r)).leader.queue = queue) ∧
      (¬ r.DecidedBy ours view → queue.working = false → told = [.ping (r.law ours view none)]) ∧
      (¬ r.DecidedBy ours view → queue.working = true →
        told =
          if queue.pending.length < turns after then [.ping (r.law ours view (some s))]
          else if stops after then [.ping (r.law ours view none)]
          else []) ∧
      (s.Leads → s.Member r.source → ∀ rejection, .ping (.error (.rejected rejection)) ∈ told →
        ∃ message, rejection = .notTheLeader message) := by
  intro w view queue told
  have numbered : Numbered w := (start_numbered ours s₀).run before
  have name : w.leader.clusterName = ours := (start ours s₀).run_clusterName before
  obtain ⟨results, published, runs⟩ := runEntries_runs queue.applied queue.pending
  rw [← name]
  refine ⟨_, ⟨results, published, runs⟩, fun known => numbered.decided known after,
    fun unknown gone => numbered.closed unknown gone after,
    fun unknown working => numbered.checked unknown working after,
    fun leads member rejection turned => ?_⟩
  obtain ⟨found, which, law⟩ := numbered.lawful turned
  exact PingRequest.law_rejected leads member which law

/-- A follower that joins while the view is old: its ping is queued behind the task that adds it. -/
theorem joining_follower_acknowledged :
    let leader : Node := ⟨"a", "1", "http://a"⟩
    let follower : Node := ⟨"b", "1", "http://b"⟩
    let old := (ClusterState.initial "c" leader).withLeader (some "a")
    let join : StateTask := ⟨"join", true, fun s => .ok (s.add follower)⟩
    let r : PingRequest := ⟨follower, leader, some "c"⟩
    let w := (start "c" old).run [.look (some old), .submit join]
    ¬ r.DecidedBy "c" old ∧ w.leader.queue.working = true ∧
      ∃ s, let told := ((w.step (.receive r)).run [.work, .work]).answers w.asked
        told = [.ping (r.law "c" old (some s))] ∧ told.all (· matches .ping (.ok ())) := by
  intro leader follower old join r w
  have undecided : ¬ r.DecidedBy "c" old := fun decided =>
    absurd (decided ⟨rfl, by simp [r]⟩).2 (by decide)
  obtain ⟨s, _, _, _, checked, _⟩ :=
    ping_answered "c" old [.look (some old), .submit join] r [.work, .work]
  exact ⟨undecided, rfl, s, checked undecided rfl, by decide⟩

end Reception

end Vigil

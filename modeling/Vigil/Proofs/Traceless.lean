import Vigil.Proofs.Verdict

/-!
Pings leave no trace in the state. A leader under way takes pings and tasks from those who ask, in
any order, and publishes what the tasks make of its state. The same run without its pings publishes
the same states, and those who submitted the tasks are told the same.
-/

namespace Vigil

variable {ω : Type}

def Asker.isPing : Asker ω → Bool
  | task _ => false
  | ping _ _ => true

/-- A leader under way, what it published, and what those who asked were told. -/
structure Desk (ω : Type) where
  leader : Leader ω
  published : List ClusterState := []
  told : List (ω × Reply) := []

namespace Desk

inductive Move (ω : Type) where
  | receive (ping : PingRequest) (who : ω)
  | submit (task : StateTask) (who : ω)
  | work
  /-- The worker goes. -/
  | stop
  /-- From now on pings are answered from this view, or from the applied state. -/
  | look (view : Option ClusterState)

def Move.isTurn : Move ω → Bool
  | work => true
  | _ => false

def Move.isPing : Move ω → Bool
  | receive _ _ => true
  | _ => false

def start (ours : ClusterName) (s : ClusterState) : Desk ω where
  leader := { clusterName := ours, queue := { applied := s } }

def step (d : Desk ω) : Move ω → Desk ω
  | .receive ping who =>
    let (leader, answer) := d.leader.receive ping who
    { d with leader, told := d.told ++ (answer.map fun a => (who, Reply.ping a)).toList }
  | .submit task who =>
    match d.leader.submit task who with
    | .ok leader => { d with leader }
    | .error e => { d with told := d.told ++ [(who, .task (.error e))] }
  | .work =>
    match d.leader.work with
    | some (leader, reply) =>
      { leader
        published := d.published ++
          if leader.queue.applied = d.leader.queue.applied then [] else [leader.queue.applied]
        told := d.told ++ [reply] }
    | none => d
  | .stop =>
    let (leader, replies) := d.leader.stopWork
    { d with leader, told := d.told ++ replies }
  | .look view => { d with leader := { d.leader with frozen := view } }

def run (d : Desk ω) (moves : List (Move ω)) : Desk ω := moves.foldl step d

/-- Whether a ping arrives in a move, or has its turn in it. -/
def serves (d : Desk ω) : Move ω → Bool
  | .receive _ _ => true
  | .work => d.leader.queue.pending.head?.any (·.2.isPing)
  | _ => false

/-- A run without its pings: none arrives, and none has a turn of the worker. -/
def pingless (d : Desk ω) : List (Move ω) → List (Move ω)
  | [] => []
  | m :: moves =>
    if d.serves m then pingless (d.step m) moves else m :: pingless (d.step m) moves

/-- What one is told of a task. -/
def result? : ω × Reply → Option (ω × Except StateTaskError Unit)
  | (who, .task result) => some (who, result)
  | (_, .ping _) => none

/-- What the submitters of tasks were told, the oldest first. -/
def results (d : Desk ω) : List (ω × Except StateTaskError Unit) := d.told.filterMap result?

/-- A desk that differs from another one by the pings of that one alone. -/
structure Bare (d e : Desk ω) : Prop where
  applied : e.leader.queue.applied = d.leader.queue.applied
  working : e.leader.queue.working = d.leader.queue.working
  pending : e.leader.queue.pending = d.leader.queue.pending.filter (!·.2.isPing)
  published : e.published = d.published
  results : e.results = d.results
  /-- For a ping nothing but its check is queued. -/
  checks : ∀ entry ∈ d.leader.queue.pending, ∀ r who, entry.2 = .ping r who → entry.1 = r.check

end Desk

/-- A task that makes of a state at most that state itself leaves it. -/
theorem StateTask.run_same {task : StateTask} {s : ClusterState}
    (same : ∀ next, task.update s = .ok next → next = s) : (task.run s).state = s := by
  cases skip : task.leaderOnly && !s.isLeader with
  | true => simp only [run, skip, if_true]
  | false =>
    cases update : task.update s with
    | error e => simp only [run, skip, update, Bool.false_eq_true, if_false]
    | ok next =>
      have kept := same next update
      simp only [run, skip, update, kept, Bool.false_eq_true, if_false, if_true]

/-- The check of a ping leaves the state as it is, whatever it finds. -/
theorem PingRequest.check_state (r : PingRequest) (s : ClusterState) :
    (r.check.run s).state = s := by
  have update : r.check.update s =
      if s.contains r.source then .ok s else .error (.nodeDoesNotExist r.source.text) := rfl
  apply StateTask.run_same
  intro next made
  rw [update] at made
  by_cases known : s.contains r.source = true
  · rw [if_pos known] at made
    exact (Except.ok.inj made).symm
  · rw [if_neg known] at made
    cases made

namespace Desk

variable {d e : Desk ω}

theorem results_append (told new : List (ω × Reply)) (leader : Leader ω)
    (published : List ClusterState) :
    (Desk.mk leader published (told ++ new)).results =
      (Desk.mk leader published told).results ++ new.filterMap result? :=
  List.filterMap_append

/-- A ping that arrives is answered, or its check is queued. -/
theorem step_receive (d : Desk ω) (r : PingRequest) (who : ω) :
    (∃ metrics notices answer, d.step (.receive r who) =
      { d with leader := { d.leader with metrics, notices }
               told := d.told ++ [(who, .ping answer)] }) ∨
    d.step (.receive r who) =
      { d with leader := { d.leader with queue := { d.leader.queue with
          pending := d.leader.queue.pending ++ [(r.check, .ping r who)] } } } := by
  by_cases decided : r.DecidedBy d.leader.clusterName d.leader.snapshot
  · obtain ⟨metrics, notices, received⟩ := Leader.receive_decided decided who
    left
    refine ⟨metrics, notices, r.law d.leader.clusterName d.leader.snapshot none, ?_⟩
    simp only [step, received]
    rfl
  · cases working : d.leader.queue.working with
    | false =>
      obtain ⟨metrics, notices, received⟩ := Leader.receive_closed decided working who
      left
      refine ⟨metrics, notices, r.law d.leader.clusterName d.leader.snapshot none, ?_⟩
      simp only [step, received]
      rfl
    | true =>
      have received := Leader.receive_queued decided working who
      right
      simp only [step, received, Option.map_none, Option.toList_none, List.append_nil]

theorem step_work {task : StateTask} {asker : Asker ω} {rest : List (StateTask × Asker ω)}
    (queued : d.leader.queue.pending = (task, asker) :: rest) :
    let s := d.leader.queue.applied
    let next := (task.run s).state
    ∃ metrics notices, d.step .work =
      { leader := { d.leader with
          queue := { d.leader.queue with applied := next, pending := rest }, metrics, notices }
        published := d.published ++ if next = s then [] else [next]
        told := d.told ++ [(asker.who, asker.reply (task.run s).result)] } := by
  intro s next
  obtain ⟨metrics, notices, worked⟩ := Leader.work_eq queued
  exact ⟨metrics, notices, by simp only [step, worked]; rfl⟩

theorem step_work_idle (queued : d.leader.queue.pending = []) : d.step .work = d := by
  simp only [step, Leader.work_idle queued]

theorem step_stop (d : Desk ω) :
    ∃ metrics notices, d.step .stop =
      { d with
        leader := { d.leader with
          queue := { d.leader.queue with pending := [], working := false }, metrics, notices }
        told := d.told ++ d.leader.queue.pending.map fun entry =>
          (entry.2.who, entry.2.reply (.error .queueClosed)) } := by
  obtain ⟨metrics, notices, stopped⟩ := d.leader.stopWork_eq
  exact ⟨metrics, notices, by simp only [step, stopped]⟩

theorem step_submit (d : Desk ω) (task : StateTask) (who : ω) :
    d.step (.submit task who) =
      if d.leader.queue.working then
        { d with leader := { d.leader with queue := { d.leader.queue with
            pending := d.leader.queue.pending ++ [(task, .task who)] } } }
      else { d with told := d.told ++ [(who, .task (.error .queueClosed))] } := by
  cases working : d.leader.queue.working with
  | true => simp only [step, Leader.submit_eq, working, if_true]
  | false => simp only [step, Leader.submit_eq, working, Bool.false_eq_true, if_false]

theorem Bare.checks_append (h : Bare d e) {task : StateTask} {asker : Asker ω}
    (check : ∀ r who, asker = .ping r who → task = r.check) :
    ∀ entry ∈ d.leader.queue.pending ++ [(task, asker)], ∀ r who,
      entry.2 = .ping r who → entry.1 = r.check := by
  intro entry queued r who ping
  rcases List.mem_append.mp queued with old | new
  · exact h.checks entry old r who ping
  · obtain rfl := List.mem_singleton.mp new
    exact check r who ping

theorem Bare.receive (h : Bare d e) (r : PingRequest) (who : ω) :
    Bare (d.step (.receive r who)) e := by
  rcases d.step_receive r who with ⟨metrics, notices, answer, now⟩ | now
  · rw [now]
    refine ⟨h.applied, h.working, h.pending, h.published, ?_, h.checks⟩
    rw [results_append]
    exact h.results.trans (List.append_nil _).symm
  · rw [now]
    refine ⟨h.applied, h.working, ?_, h.published, h.results, h.checks_append ?_⟩
    · rw [h.pending]
      simp [Asker.isPing]
    · intro r' who' ping
      obtain ⟨rfl, rfl⟩ := Asker.ping.inj ping
      rfl

theorem Bare.submit (h : Bare d e) (task : StateTask) (who : ω) :
    Bare (d.step (.submit task who)) (e.step (.submit task who)) := by
  rw [step_submit, step_submit, h.working]
  split
  · refine ⟨h.applied, h.working, ?_, h.published, h.results, h.checks_append ?_⟩
    · rw [h.pending]
      simp [Asker.isPing]
    · intro r who' ping
      cases ping
  · refine ⟨h.applied, h.working, h.pending, h.published, ?_, h.checks⟩
    rw [results_append, results_append]
    exact congrArg (· ++ _) h.results

theorem results_refused (entries : List (StateTask × Asker ω)) :
    ((entries.filter (!·.2.isPing)).map fun entry =>
        (entry.2.who, entry.2.reply (.error .queueClosed))).filterMap result? =
      (entries.map fun entry =>
        (entry.2.who, entry.2.reply (.error .queueClosed))).filterMap result? := by
  induction entries with
  | nil => rfl
  | cons entry entries ih =>
    obtain ⟨task, asker⟩ := entry
    cases asker with
    | task who => exact congrArg (_ :: ·) ih
    | ping r who => exact ih

theorem Bare.stop (h : Bare d e) : Bare (d.step .stop) (e.step .stop) := by
  obtain ⟨metrics, notices, now⟩ := d.step_stop
  obtain ⟨metrics', notices', now'⟩ := e.step_stop
  rw [now, now']
  refine ⟨h.applied, rfl, rfl, h.published, ?_, by simp⟩
  rw [results_append, results_append, h.pending, results_refused]
  exact congrArg (· ++ _) h.results

theorem Bare.work_ping (h : Bare d e) {task : StateTask} {r : PingRequest} {who : ω}
    {rest : List (StateTask × Asker ω)}
    (queued : d.leader.queue.pending = (task, .ping r who) :: rest) : Bare (d.step .work) e := by
  obtain ⟨metrics, notices, now⟩ := step_work queued
  -- What has its turn is the check of the ping, so that there is nothing to publish.
  have check : task = r.check := h.checks _ (queued ▸ List.mem_cons_self) r who rfl
  have state : (task.run d.leader.queue.applied).state = d.leader.queue.applied := by
    rw [check, r.check_state]
  rw [now, state, if_pos rfl, List.append_nil]
  refine ⟨h.applied, h.working, ?_, h.published, ?_, ?_⟩
  · rw [h.pending, queued]
    rfl
  · rw [results_append]
    exact h.results.trans (List.append_nil _).symm
  · intro entry later
    exact h.checks entry (queued ▸ List.mem_cons_of_mem _ later)

theorem Bare.work_task (h : Bare d e) {task : StateTask} {who : ω}
    {rest : List (StateTask × Asker ω)}
    (queued : d.leader.queue.pending = (task, .task who) :: rest) :
    Bare (d.step .work) (e.step .work) := by
  have queued' : e.leader.queue.pending = (task, .task who) :: rest.filter (!·.2.isPing) := by
    rw [h.pending, queued]
    rfl
  obtain ⟨metrics, notices, now⟩ := step_work queued
  obtain ⟨metrics', notices', now'⟩ := step_work queued'
  rw [now, now', h.applied, h.published]
  refine ⟨rfl, h.working, rfl, rfl, ?_, ?_⟩
  · rw [results_append, results_append]
    exact congrArg (· ++ _) h.results
  · intro entry later
    exact h.checks entry (queued ▸ List.mem_cons_of_mem _ later)

/-- A move that serves a ping changes nothing for the desk without pings, and all other moves change
both desks in the same way. -/
theorem Bare.step (h : Bare d e) (m : Move ω) :
    Bare (d.step m) (if d.serves m then e else e.step m) := by
  cases m with
  | receive r who => exact h.receive r who
  | submit task who => exact h.submit task who
  | stop => exact h.stop
  | look view => exact ⟨h.applied, h.working, h.pending, h.published, h.results, h.checks⟩
  | work =>
    cases queued : d.leader.queue.pending with
    | nil =>
      have queued' : e.leader.queue.pending = [] := by
        rw [h.pending, queued]
        rfl
      simp only [serves, queued, step_work_idle queued, step_work_idle queued']
      exact h
    | cons entry rest =>
      obtain ⟨task, asker⟩ := entry
      simp only [serves, queued]
      cases asker with
      | task who => exact h.work_task queued
      | ping r who => exact h.work_ping queued

theorem Bare.run (h : Bare d e) (moves : List (Move ω)) :
    Bare (d.run moves) (e.run (d.pingless moves)) := by
  -- By induction on the moves; which of them the other desk makes depends on the queue of this one.
  induction moves generalizing d e with
  | nil => exact h
  | cons m moves ih =>
    have next := h.step m
    rw [pingless]
    split
    · next served =>
      rw [if_pos served] at next
      exact ih next
    · next other =>
      rw [if_neg other] at next
      exact ih next

theorem pingless_others (d : Desk ω) (moves : List (Move ω)) :
    (d.pingless moves).filter (!·.isTurn) = moves.filter fun m => !m.isTurn && !m.isPing := by
  induction moves generalizing d with
  | nil => rfl
  | cons m moves ih =>
    have rest := ih (d.step m)
    rw [pingless]
    cases m with
    | receive r who => simpa [serves, Move.isTurn, Move.isPing] using rest
    | work =>
      have turn : (Move.work : Move ω).isTurn = true := rfl
      split <;> simpa [turn] using rest
    | submit task who => simpa [serves, Move.isTurn, Move.isPing] using rest
    | stop => simpa [serves, Move.isTurn, Move.isPing] using rest
    | look view => simpa [serves, Move.isTurn, Move.isPing] using rest

/-- Without its pings a run keeps all other arrivals in their order; the same states are published,
with the same versions, and the same state is left, and the submitters of tasks are told the same. -/
theorem pings_traceless (ours : ClusterName) (s : ClusterState) (moves : List (Move ω)) :
    let d : Desk ω := start ours s
    let kept := d.pingless moves
    (kept.filter (!·.isTurn) = moves.filter fun m => !m.isTurn && !m.isPing) ∧
      (d.run kept).published = (d.run moves).published ∧
      (d.run kept).results = (d.run moves).results ∧
      (d.run kept).leader.queue.applied = (d.run moves).leader.queue.applied ∧
      (d.run kept).leader.queue.pending =
        (d.run moves).leader.queue.pending.filter (!·.2.isPing) := by
  intro d kept
  have bare : Bare d d := by
    refine ⟨rfl, rfl, rfl, rfl, rfl, ?_⟩
    intro entry queued
    cases queued
  have last := bare.run moves
  exact ⟨d.pingless_others moves, last.published, last.results, last.applied, last.pending⟩

/-- A ping whose check has its turn between two tasks that add a member. -/
example :
    let a : Node := ⟨"a", "1", "http://a"⟩
    let b : Node := ⟨"b", "1", "http://b"⟩
    let join (n : Node) : StateTask := ⟨"join", true, fun s => .ok (s.add n)⟩
    let d : Desk Nat := start "c" ((ClusterState.initial "c" a).withLeader (some "a"))
    let moves := [.submit (join ⟨"x", "1", "http://x"⟩) 0, .receive ⟨b, a, none⟩ 1,
      .submit (join b) 2, .work, .work, .work]
    (d.run moves).published.map (·.version) = [1, 2] ∧ (d.pingless moves).length = 4 := by
  decide

end Desk

end Vigil

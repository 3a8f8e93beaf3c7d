import Vigil.Cluster.Queue

/-!
A state service in use: tasks are submitted, each under a number of its own, some submitters give up
waiting, and the worker runs what is queued, one task after the other, until it goes. Whatever the
order of these events, the state is what the tasks that ran make of it one after the other, and who
still waits is told what came of his own task.
-/

namespace Vigil

namespace StateTask

/-- A task for the leader alone runs where the local node leads. -/
def MayRun (task : StateTask) (s : ClusterState) : Prop :=
  task.leaderOnly = true → s.leaderId = some s.localNode.id

/-- What a task comes to on a state: the state that it leaves, what its submitter is told, and what
is published. -/
inductive Yields (task : StateTask) (s : ClusterState) :
    ClusterState → Except StateTaskError Unit → List ClusterState → Prop where
  | skipped : ¬ task.MayRun s → Yields task s s (.error .notLeader) []
  | failed (e : StateTaskError) : task.MayRun s → task.update s = .error e →
      Yields task s s (.error e) []
  | unchanged : task.MayRun s → task.update s = .ok s → Yields task s s (.ok ()) []
  | published (next : ClusterState) : task.MayRun s → task.update s = .ok next → next ≠ s →
      Yields task s { next with version := s.version + 1 } (.ok ())
        [{ next with version := s.version + 1 }]

end StateTask

/-- Tasks that run one after the other, each on the state that the one before it left. -/
inductive Runs : ClusterState → List StateTask → ClusterState → List (Except StateTaskError Unit) →
    List ClusterState → Prop where
  | nil (s : ClusterState) : Runs s [] s [] []
  | cons {s next last : ClusterState} {task : StateTask} {tasks : List StateTask}
      {result : Except StateTaskError Unit} {results : List (Except StateTaskError Unit)}
      {new published : List ClusterState} :
      task.Yields s next result new → Runs next tasks last results published →
      Runs s (task :: tasks) last (result :: results) (new ++ published)

/-- The number of a submission, and whether its submitter still waits. -/
@[ext] structure Ticket where
  number : Nat
  awaited : Bool := true
deriving DecidableEq

/-- The submitter with some number gives up waiting. -/
def Ticket.leave (number : Nat) (t : Ticket) : Ticket :=
  if t.number = number then { t with awaited := false } else t

structure Service where
  queue : StateQueue Ticket
  /-- All tasks that were ever submitted, each with its place as its number. -/
  submitted : List StateTask := []
  /-- How many tasks the worker has run. -/
  ran : Nat := 0
  published : List ClusterState := []
  /-- What submitters were told, the oldest first. -/
  told : List (Nat × Except StateTaskError Unit) := []

namespace Service

inductive Move where
  | submit (task : StateTask)
  | abandon (number : Nat)
  | work
  /-- The worker goes. -/
  | stop

/-- Whether one of some submitters gives up in a move. -/
def Move.abandons (who : Nat → Bool) : Move → Bool
  | abandon number => who number
  | _ => false

def start (s : ClusterState) : Service where
  queue := { applied := s }

def tell (w : Service) (number : Nat) (result : Except StateTaskError Unit) : Service :=
  { w with told := w.told ++ [(number, result)] }

/-- Tells a submitter how his task came out, if he still waits. -/
def answer (w : Service) (done : StateQueue.Done Ticket) : Service :=
  if done.waiter.awaited then w.tell done.waiter.number done.result else w

/-- Takes over what a task left of the queue. -/
def apply (w : Service) (queue : StateQueue Ticket) : Service :=
  { w with
    queue
    ran := w.ran + 1
    published := w.published ++
      if queue.applied = w.queue.applied then [] else [queue.applied] }

def step (w : Service) : Move → Service
  | .submit task =>
    let number := w.submitted.length
    let w := { w with submitted := w.submitted ++ [task] }
    match w.queue.submit task { number } with
    | .ok queue => { w with queue }
    | .error e => w.tell number (.error e)
  | .abandon number =>
    let pending := w.queue.pending.map fun (task, ticket) => (task, ticket.leave number)
    { w with queue := { w.queue with pending } }
  | .work =>
    match w.queue.runOne with
    | some (queue, done) => (w.apply queue).answer done
    | none => w
  | .stop =>
    let (queue, dones) := w.queue.stop
    dones.foldl answer { w with queue }

def run (w : Service) (moves : List Move) : Service := moves.foldl step w

/-- What the submitter with some number was told. -/
def answers (w : Service) (number : Nat) : List (Except StateTaskError Unit) :=
  (w.told.filter (·.1 == number)).map (·.2)

/-- What the submitter with some number is to be told, once the tasks that ran came to `results`. -/
def due (w : Service) (results : List (Except StateTaskError Unit)) (number : Nat) :
    List (Except StateTaskError Unit) :=
  if number < w.ran then results[number]?.toList
  else if number < w.submitted.length ∧ w.queue.working = false then [.error .queueClosed]
  else []

end Service

theorem StateTask.mayRun_iff (task : StateTask) (s : ClusterState) :
    task.MayRun s ↔ ¬ (task.leaderOnly && !s.isLeader) = true := by
  cases h : task.leaderOnly <;> simp [MayRun, ClusterState.isLeader, h]

theorem next_version_ne (v : UInt64) : v + 1 ≠ v := by
  intro same
  simp at same

/-- The worker does with a task what it should. -/
theorem StateTask.run_yields (task : StateTask) (s : ClusterState) :
    task.Yields s (task.run s).state (task.run s).result
      (if (task.run s).state = s then [] else [(task.run s).state]) := by
  unfold StateTask.run
  by_cases skip : (task.leaderOnly && !s.isLeader) = true
  · rw [if_pos skip]
    simp only [if_true]
    exact .skipped fun may => (task.mayRun_iff s).mp may skip
  · rw [if_neg skip]
    have may : task.MayRun s := (task.mayRun_iff s).mpr skip
    cases h : task.update s with
    | error e =>
      simp only [if_true]
      exact .failed e may h
    | ok next =>
      by_cases same : next = s
      · subst same
        simp only [if_true]
        exact .unchanged may h
      · have new : { next with version := s.version + 1 } ≠ s := fun equal =>
          next_version_ne s.version (congrArg ClusterState.version equal)
        simp only [if_neg same, if_neg new]
        exact .published next may h same

namespace Runs

theorem snoc {s last next : ClusterState} {tasks : List StateTask} {task : StateTask}
    {results : List (Except StateTaskError Unit)} {result : Except StateTaskError Unit}
    {published new : List ClusterState} (h : Runs s tasks last results published)
    (y : task.Yields last next result new) :
    Runs s (tasks ++ [task]) next (results ++ [result]) (published ++ new) := by
  induction h with
  | nil s =>
    have one := Runs.cons y (.nil next)
    rwa [List.append_nil] at one
  | cons first _ ih =>
    rw [List.append_assoc]
    exact .cons first (ih y)

theorem length_results {s last : ClusterState} {tasks : List StateTask}
    {results : List (Except StateTaskError Unit)} {published : List ClusterState}
    (h : Runs s tasks last results published) : results.length = tasks.length := by
  induction h with
  | nil s => rfl
  | cons _ _ ih => simp only [List.length_cons, ih]

end Runs

namespace Service

theorem answers_tell (w : Service) (number : Nat) (result : Except StateTaskError Unit) (n : Nat) :
    (w.tell number result).answers n = w.answers n ++ if number = n then [result] else [] := by
  by_cases own : number = n <;> simp [tell, answers, own]

theorem answers_answer (w : Service) (done : StateQueue.Done Ticket) (n : Nat) :
    (w.answer done).answers n =
      w.answers n ++ if done.waiter = ⟨n, true⟩ then [done.result] else [] := by
  obtain ⟨⟨number, awaited⟩, result, notices⟩ := done
  cases awaited with
  | false => simp [answer]
  | true => simp [answer, answers_tell]

/-- Nothing but what was told changes when submitters are answered. -/
theorem foldl_answer (w : Service) (dones : List (StateQueue.Done Ticket)) :
    ∃ told, dones.foldl answer w = { w with told } := by
  induction dones generalizing w with
  | nil => exact ⟨w.told, rfl⟩
  | cons done dones ih =>
    obtain ⟨told, h⟩ := ih (w.answer done)
    refine ⟨told, h.trans ?_⟩
    unfold answer
    split <;> rfl

theorem step_work {w : Service} {task : StateTask} {ticket : Ticket}
    {rest : List (StateTask × Ticket)} (queued : w.queue.pending = (task, ticket) :: rest) :
    w.step .work =
      (w.apply
        { w.queue with applied := (task.run w.queue.applied).state, pending := rest }).answer
        ⟨ticket, (task.run w.queue.applied).result, (task.run w.queue.applied).notices⟩ := by
  simp only [step, StateQueue.runOne, queued]

theorem step_work_told {w : Service} {task : StateTask} {ticket : Ticket}
    {rest : List (StateTask × Ticket)} (queued : w.queue.pending = (task, ticket) :: rest) :
    ∃ told, w.step .work =
      { w.apply { w.queue with applied := (task.run w.queue.applied).state, pending := rest } with
        told } := by
  rw [step_work queued]
  exact foldl_answer _ [_]

theorem step_work_idle {w : Service} (queued : w.queue.pending = []) : w.step .work = w := by
  simp only [step, StateQueue.runOne, queued]

/-- What the submitter with some number is told when a worker goes that has some entries left. -/
def refusals (n : Nat) : List (StateTask × Ticket) → List (Except StateTaskError Unit)
  | [] => []
  | (_, ticket) :: rest =>
    (if ticket = ⟨n, true⟩ then [.error .queueClosed] else []) ++ refusals n rest

theorem step_stop (w : Service) :
    (∃ told, w.step .stop =
      { w with queue := { w.queue with pending := [], working := false }, told }) ∧
    ∀ n, (w.step .stop).answers n = w.answers n ++ refusals n w.queue.pending := by
  have refused (v : Service) (entries : List (StateTask × Ticket)) (n : Nat) :
      ((entries.map fun (_, ticket) =>
        (⟨ticket, .error .queueClosed, []⟩ : StateQueue.Done Ticket)).foldl answer v).answers n =
        v.answers n ++ refusals n entries := by
    induction entries generalizing v with
    | nil => exact (List.append_nil _).symm
    | cons entry rest ih =>
      rw [List.map_cons, List.foldl_cons, ih, answers_answer, List.append_assoc]
      rfl
  exact ⟨foldl_answer _ _, fun n => refused _ w.queue.pending n⟩

theorem refusals_sublist {k : Nat} {entries : List (StateTask × Ticket)}
    (numbers : entries.map (·.2.number) = List.range' k entries.length) (n : Nat) :
    (refusals n entries).Sublist
      (if k ≤ n ∧ n < k + entries.length then [.error .queueClosed] else []) := by
  induction entries generalizing k with
  | nil => exact List.nil_sublist _
  | cons entry rest ih =>
    obtain ⟨task, ticket⟩ := entry
    simp only [List.map_cons, List.length_cons, List.range'_succ, List.cons.injEq] at numbers
    obtain ⟨rfl, numbers⟩ := numbers
    have later := ih numbers
    simp only [refusals, List.length_cons]
    by_cases own : ticket.number = n
    · -- No later entry has this number.
      subst own
      have past : ¬ (ticket.number + 1 ≤ ticket.number ∧
          ticket.number < ticket.number + 1 + rest.length) := by omega
      rw [if_neg past, List.sublist_nil] at later
      have here : ticket.number ≤ ticket.number ∧
          ticket.number < ticket.number + (rest.length + 1) := by omega
      rw [later, List.append_nil, if_pos here]
      split
      · exact .refl _
      · exact List.nil_sublist _
    · have other : ticket ≠ ⟨n, true⟩ := fun same => own (congrArg Ticket.number same)
      rw [if_neg other, List.nil_append]
      refine later.trans ?_
      split
      · next behind =>
        have here : ticket.number ≤ n ∧ n < ticket.number + (rest.length + 1) := by omega
        simp only [if_pos here, List.Sublist.refl]
      · exact List.nil_sublist _

theorem mem_refusals {n : Nat} {entries : List (StateTask × Ticket)} {task : StateTask}
    (h : (task, ⟨n, true⟩) ∈ entries) : .error .queueClosed ∈ refusals n entries := by
  induction entries with
  | nil => cases h
  | cons entry rest ih =>
    rcases List.mem_cons.mp h with rfl | h
    · simp [refusals]
    · exact List.mem_append_right _ (ih h)

/-- What the tasks that ran come to, what is queued and what was told, when the submitters that
`gave` marks may have given up. -/
structure Folded (s : ClusterState) (gave : Nat → Bool)
    (results : List (Except StateTaskError Unit)) (w : Service) : Prop where
  runs : Runs s (w.submitted.take w.ran) w.queue.applied results w.published
  ran : w.ran ≤ w.submitted.length
  tasks : w.queue.pending.map (·.1) =
    if w.queue.working then w.submitted.drop w.ran else []
  numbers : w.queue.pending.map (·.2.number) = List.range' w.ran w.queue.pending.length
  awaited : ∀ e ∈ w.queue.pending, gave e.2.number = false → e.2.awaited = true
  told : ∀ n, (w.answers n).Sublist (w.due results n)
  all : ∀ n, gave n = false → w.answers n = w.due results n

theorem start_folded (s : ClusterState) (gave : Nat → Bool) : Folded s gave [] (start s) where
  runs := .nil s
  ran := Nat.le_refl 0
  tasks := rfl
  numbers := rfl
  awaited := by simp [start]
  told n := List.nil_sublist _
  all n _ := by simp [start, answers, due]

namespace Folded

variable {s : ClusterState} {gave : Nat → Bool} {results : List (Except StateTaskError Unit)}
  {w : Service}

theorem pending_length (f : Folded s gave results w) (working : w.queue.working = true) :
    w.queue.pending.length = w.submitted.length - w.ran := by
  have tasks := f.tasks
  rw [working, if_pos rfl] at tasks
  rw [← List.length_map (·.1), tasks, List.length_drop]

theorem submit_taken (f : Folded s gave results w) (working : w.queue.working = true)
    (task : StateTask) : Folded s gave results (w.step (.submit task)) := by
  have bound := f.ran
  have tasks := f.tasks
  have length := f.pending_length working
  rw [working, if_pos rfl] at tasks
  have now : w.step (.submit task) =
      { w with
        submitted := w.submitted ++ [task]
        queue := { w.queue with
          pending := w.queue.pending ++ [(task, { number := w.submitted.length })] } } := by
    simp [step, StateQueue.submit, working]
  have same (n : Nat) : (w.step (.submit task)).due results n = w.due results n := by
    simp only [now, due, working, Bool.true_eq_false, and_false]
  constructor
  case runs => simpa only [now, List.take_append_of_le_length bound] using f.runs
  case ran =>
    simp only [now, List.length_append]
    omega
  case tasks =>
    simp only [now, working, if_true, List.map_append, tasks, List.map_cons, List.map_nil]
    rw [List.drop_append_of_le_length bound]
  case numbers =>
    have last : w.submitted.length = w.ran + w.queue.pending.length := by omega
    simp only [now, List.map_append, f.numbers, List.map_cons, List.map_nil, List.length_append,
      List.length_singleton, List.range'_concat, Nat.one_mul, last]
  case awaited =>
    intro e he left
    simp only [now, List.mem_append, List.mem_singleton] at he
    rcases he with he | rfl
    · exact f.awaited e he left
    · rfl
  case told =>
    intro n
    rw [same n, now]
    exact f.told n
  case all =>
    intro n left
    rw [same n, now]
    exact f.all n left

theorem submit_refused (f : Folded s gave results w) (gone : w.queue.working = false)
    (task : StateTask) : Folded s gave results (w.step (.submit task)) := by
  have bound := f.ran
  have tasks := f.tasks
  rw [gone] at tasks
  have now : w.step (.submit task) =
      tell { w with submitted := w.submitted ++ [task] } w.submitted.length
        (.error .queueClosed) := by
    simp [step, StateQueue.submit, gone]
  -- The task that is refused now is the only one whose submitter is due more than before.
  have more (n : Nat) : (w.step (.submit task)).due results n =
      w.due results n ++ if w.submitted.length = n then [.error .queueClosed] else [] := by
    simp only [now, tell, due, gone, List.length_append, List.length_singleton]
    grind
  constructor
  case runs => simpa only [now, tell, List.take_append_of_le_length bound] using f.runs
  case ran =>
    simp only [now, tell, List.length_append]
    omega
  case tasks =>
    rw [now]
    exact tasks.trans (by simp [tell, gone])
  case numbers => simpa only [now, tell] using f.numbers
  case awaited => simpa only [now, tell] using f.awaited
  case told =>
    intro n
    rw [more n, now, answers_tell]
    exact (f.told n).append (.refl _)
  case all =>
    intro n left
    rw [more n, now, answers_tell]
    exact congrArg (· ++ _) (f.all n left)

theorem submit (f : Folded s gave results w) (task : StateTask) :
    Folded s gave results (w.step (.submit task)) := by
  cases working : w.queue.working with
  | true => exact f.submit_taken working task
  | false => exact f.submit_refused working task

theorem abandon (f : Folded s gave results w) {number : Nat} (given : gave number = true) :
    Folded s gave results (w.step (.abandon number)) := by
  have kept (t : Ticket) : (t.leave number).number = t.number := by
    unfold Ticket.leave
    split <;> rfl
  constructor
  case runs => exact f.runs
  case ran => exact f.ran
  case tasks =>
    refine Eq.trans ?_ f.tasks
    simp [step]
  case numbers => simpa [step, Function.comp_def, kept] using f.numbers
  case awaited =>
    intro e he left
    obtain ⟨⟨task, ticket⟩, here, rfl⟩ := List.mem_map.mp he
    rw [kept] at left
    have other : ticket.number ≠ number := by
      rintro rfl
      exact absurd given (by simp [left])
    simp only [Ticket.leave, if_neg other]
    exact f.awaited _ here left
  case told => exact f.told
  case all => exact f.all

/-- What the worker takes is the first of all tasks that it has not run. -/
theorem head (f : Folded s gave results w) {task : StateTask} {ticket : Ticket}
    {rest : List (StateTask × Ticket)} (queued : w.queue.pending = (task, ticket) :: rest) :
    w.queue.working = true ∧ ticket.number = w.ran ∧
      w.submitted.take (w.ran + 1) = w.submitted.take w.ran ++ [task] ∧
      w.ran < w.submitted.length ∧ rest.map (·.1) = w.submitted.drop (w.ran + 1) ∧
      rest.map (·.2.number) = List.range' (w.ran + 1) rest.length := by
  have tasks := f.tasks
  have numbers := f.numbers
  rw [queued] at tasks numbers
  simp only [List.map_cons, List.length_cons, List.range'_succ, List.cons.injEq] at numbers
  cases working : w.queue.working with
  | false => simp [working] at tasks
  | true =>
    rw [working, if_pos rfl] at tasks
    have len : w.ran < w.submitted.length := by
      refine Nat.lt_of_not_le fun past => ?_
      rw [List.drop_eq_nil_of_le past] at tasks
      cases tasks
    rw [List.drop_eq_getElem_cons len, List.map_cons, List.cons.injEq] at tasks
    obtain ⟨first, others⟩ := tasks
    have grown := List.take_append_getElem len
    rw [← first] at grown
    exact ⟨rfl, numbers.1, grown.symm, len, others, numbers.2⟩

theorem work (f : Folded s gave results w) : ∃ results, Folded s gave results (w.step .work) := by
  cases queued : w.queue.pending with
  | nil =>
    rw [step_work_idle queued]
    exact ⟨results, f⟩
  | cons entry rest =>
    obtain ⟨task, ticket⟩ := entry
    obtain ⟨working, number, grown, len, others, numbers⟩ := f.head queued
    have waits := f.awaited
    rw [queued] at waits
    -- A result stands at the number of its task, so that this one's comes at `w.ran`.
    have count : results.length = w.ran := by
      rw [f.runs.length_results, List.length_take]
      omega
    let r := task.run w.queue.applied
    have answered (n : Nat) : (w.step .work).answers n =
        w.answers n ++ if ticket = ⟨n, true⟩ then [r.result] else [] := by
      rw [step_work queued, answers_answer]
      rfl
    obtain ⟨told, now⟩ := step_work_told queued
    have due (n : Nat) : (w.step .work).due (results ++ [r.result]) n =
        w.due results n ++ if w.ran = n then [r.result] else [] := by
      rw [now]
      simp only [Service.due, apply, working]
      grind
    refine ⟨results ++ [r.result], ?_⟩
    constructor
    case runs =>
      have more := f.runs.snoc (task.run_yields w.queue.applied)
      rw [← grown] at more
      rw [now]
      exact more
    case ran =>
      rw [now]
      exact len
    case tasks => simpa only [now, apply, working, if_true] using others
    case numbers => simpa only [now, apply] using numbers
    case awaited =>
      intro e he
      rw [now] at he
      exact waits e (List.mem_cons_of_mem _ he)
    case told =>
      intro n
      rw [answered, due]
      refine (f.told n).append ?_
      split
      · next own =>
        have mine : w.ran = n := number.symm.trans (congrArg Ticket.number own)
        simp only [if_pos mine, List.Sublist.refl]
      · exact List.nil_sublist _
    case all =>
      intro n left
      rw [answered, due, f.all n left]
      by_cases own : w.ran = n
      · have waiting : ticket.awaited = true :=
          waits _ List.mem_cons_self (by rw [number, own]; exact left)
        have same : ticket = ⟨n, true⟩ := Ticket.ext (number.trans own) waiting
        rw [if_pos own, if_pos same]
      · have other : ticket ≠ ⟨n, true⟩ := fun same =>
          own (number.symm.trans (congrArg Ticket.number same))
        rw [if_neg own, if_neg other]

theorem work_ran (f : Folded s gave results w) (working : w.queue.working = true)
    (left : w.ran < w.submitted.length) : (w.step .work).ran = w.ran + 1 := by
  have length := f.pending_length working
  cases queued : w.queue.pending with
  | nil =>
    rw [queued, List.length_nil] at length
    omega
  | cons entry rest =>
    obtain ⟨told, now⟩ := step_work_told queued
    exact congrArg Service.ran now

theorem stop (f : Folded s gave results w) : Folded s gave results (w.step .stop) := by
  obtain ⟨⟨told, now⟩, answered⟩ := w.step_stop
  have bound := f.ran
  have refused := refusals_sublist f.numbers
  -- Whoever was queued, and no one else, is due a refusal from now on.
  have due (n : Nat) : (w.step .stop).due results n = w.due results n ++
      if w.ran ≤ n ∧ n < w.ran + w.queue.pending.length then [.error .queueClosed] else [] := by
    have tasks := f.tasks
    cases working : w.queue.working with
    | false =>
      rw [working] at tasks
      have none : w.queue.pending = [] := by simpa using tasks
      simp only [now, Service.due, working, none, List.length_nil]
      grind
    | true =>
      have length := f.pending_length working
      simp only [now, Service.due, working]
      grind
  constructor
  -- The state, and how many tasks ran, stay: `now` says that only the queue is emptied.
  case runs =>
    rw [now]
    exact f.runs
  case ran =>
    rw [now]
    exact bound
  case tasks => simp [now]
  case numbers => simp [now]
  case awaited => simp [now]
  case told =>
    intro n
    rw [answered, due]
    exact (f.told n).append (refused n)
  case all =>
    intro n left
    rw [answered, due, f.all n left]
    refine congrArg (_ ++ ·) ((refused n).eq_of_length_le ?_)
    split
    · next queued =>
      obtain ⟨lower, upper⟩ := queued
      have here : n ∈ w.queue.pending.map (·.2.number) := by
        rw [f.numbers, List.mem_range'_1]
        exact ⟨lower, upper⟩
      obtain ⟨⟨task, ticket⟩, entry, rfl⟩ := List.mem_map.mp here
      have same : ticket = ⟨ticket.number, true⟩ := Ticket.ext rfl (f.awaited _ entry left)
      rw [same] at entry
      exact List.length_pos_of_mem (mem_refusals entry)
    · exact Nat.zero_le _

theorem run (f : Folded s gave results w) {moves : List Move}
    (given : ∀ number, .abandon number ∈ moves → gave number = true) :
    ∃ results, Folded s gave results (w.run moves) := by
  induction moves generalizing w results with
  | nil => exact ⟨results, f⟩
  | cons m moves ih =>
    have others : ∀ number, .abandon number ∈ moves → gave number = true :=
      fun number h => given number (List.mem_cons_of_mem _ h)
    cases m with
    | submit task => exact ih (f.submit task) others
    | abandon number => exact ih (f.abandon (given number List.mem_cons_self)) others
    | work =>
      obtain ⟨results, f⟩ := f.work
      exact ih f others
    | stop => exact ih f.stop others

end Folded

section abandoned

variable (who : Nat → Bool)

def hideTicket (t : Ticket) : Ticket := if who t.number then { t with awaited := false } else t

/-- A service as those see it who are not among some submitters: nobody waits for what those
submitted, and they were told nothing. -/
def hide (w : Service) : Service :=
  { w with
    queue := { w.queue with
      pending := w.queue.pending.map fun (task, ticket) => (task, hideTicket who ticket) }
    told := w.told.filter (!who ·.1) }

theorem hideTicket_hideTicket (t : Ticket) :
    hideTicket who (hideTicket who t) = hideTicket who t := by
  unfold hideTicket
  split <;> simp_all

theorem hideTicket_leave {number : Nat} (own : who number = true) (t : Ticket) :
    hideTicket who (t.leave number) = hideTicket who t := by
  unfold Ticket.leave hideTicket
  split
  · next same => simp [same, own]
  · rfl

theorem hide_hide (w : Service) : hide who (hide who w) = hide who w := by
  simp [hide, hideTicket_hideTicket, Function.comp_def]

def hideDone (done : StateQueue.Done Ticket) : StateQueue.Done Ticket :=
  { done with waiter := hideTicket who done.waiter }

theorem hide_answer (w : Service) (done : StateQueue.Done Ticket) :
    hide who (w.answer done) = (hide who w).answer (hideDone who done) := by
  obtain ⟨⟨number, awaited⟩, result, notices⟩ := done
  cases own : who number <;> cases awaited <;>
    simp [answer, tell, hide, hideDone, hideTicket, own]

theorem hide_answerAll (w : Service) (dones : List (StateQueue.Done Ticket)) :
    hide who (dones.foldl answer w) =
      (dones.map (hideDone who)).foldl answer (hide who w) := by
  induction dones generalizing w with
  | nil => rfl
  | cons done dones ih =>
    rw [List.foldl_cons, ih, hide_answer, List.map_cons, List.foldl_cons]

theorem hide_work (w : Service) : hide who (w.step .work) = (hide who w).step .work := by
  cases queued : w.queue.pending with
  | nil =>
    have hidden : (hide who w).queue.pending = [] := by simp only [hide, queued, List.map_nil]
    rw [step_work_idle queued, step_work_idle hidden]
  | cons entry rest =>
    obtain ⟨task, ticket⟩ := entry
    have hidden : (hide who w).queue.pending = (task, hideTicket who ticket) ::
        rest.map fun (task, ticket) => (task, hideTicket who ticket) := by
      simp only [hide, queued, List.map_cons]
    rw [step_work queued, step_work hidden, hide_answer]
    rfl

theorem hide_stop (w : Service) : hide who (w.step .stop) = (hide who w).step .stop := by
  simp only [step, StateQueue.stop, hide_answerAll, List.map_map]
  simp [hide, Function.comp_def, hideDone]

/-- What others see of a move depends only on what they saw before it. -/
theorem hide_step (w : Service) (m : Move) :
    hide who (w.step m) = hide who ((hide who w).step m) := by
  cases m with
  | submit task =>
    cases working : w.queue.working <;>
      simp [step, StateQueue.submit, hide, tell, working, hideTicket_hideTicket]
  | abandon number =>
    have leave (t : Ticket) :
        hideTicket who (t.leave number) = hideTicket who ((hideTicket who t).leave number) := by
      unfold Ticket.leave hideTicket
      grind
    simp [step, hide, ← leave]
  | work => rw [← hide_work, hide_hide]
  | stop => rw [← hide_stop, hide_hide]

theorem hide_abandon (w : Service) {m : Move} (own : m.abandons who = true) :
    hide who (w.step m) = hide who w := by
  cases m with
  | abandon number => simp [step, hide, hideTicket_leave who own]
  | _ => simp [Move.abandons] at own

/-- Others see the same whether some submitters give up or not. -/
theorem hide_run (w v : Service) (same : hide who w = hide who v) (moves : List Move) :
    hide who (w.run moves) = hide who (v.run (moves.filter (!·.abandons who))) := by
  induction moves generalizing w v with
  | nil => exact same
  | cons m moves ih =>
    cases own : m.abandons who with
    | true =>
      rw [List.filter_cons_of_neg (by simp [own])]
      exact ih _ _ ((hide_abandon who w own).trans same)
    | false =>
      rw [List.filter_cons_of_pos (by simp [own])]
      -- The two runs look alike before the move, and what it shows depends on nothing else.
      refine ih _ _ ?_
      rw [hide_step, same, ← hide_step]

theorem hide_answers (w : Service) {number : Nat} (other : who number = false) :
    (hide who w).answers number = w.answers number := by
  unfold answers hide
  rw [List.filter_filter]
  congr 2
  funext x
  by_cases own : x.1 = number <;> simp [own, other]

end abandoned

/-- Whatever is submitted, whoever gives up, and whenever the worker goes: the state is what the
tasks that ran, which are those submitted first, make of it one after the other, and what they
publish is published. Who still waits is told what came of his own task if it ran, or that the queue
is closed if it never will; who gave up is told nothing else. What is not run yet is queued in
order, and its turn comes next. That some submitters give up changes nothing for the others. -/
theorem sequential_fold (s : ClusterState) (moves : List Move) :
    let w := (start s).run moves
    (∃ results, Runs s (w.submitted.take w.ran) w.queue.applied results w.published ∧
      (∀ n, (w.answers n).Sublist (w.due results n)) ∧
      ∀ n, .abandon n ∉ moves → w.answers n = w.due results n) ∧
    (w.queue.working = true →
      w.queue.pending.map (·.1) = w.submitted.drop w.ran ∧
      (w.ran < w.submitted.length → (w.step .work).ran = w.ran + 1)) ∧
    ∀ who, let v := (start s).run (moves.filter (!·.abandons who))
      v.queue.applied = w.queue.applied ∧ v.published = w.published ∧
      v.submitted = w.submitted ∧ v.ran = w.ran ∧
      ∀ n, who n = false → v.answers n = w.answers n := by
  intro w
  let gave (n : Nat) : Bool := moves.any (·.abandons (· == n))
  have given (n : Nat) : gave n = true ↔ .abandon n ∈ moves := by
    rw [List.any_eq_true]
    constructor
    · rintro ⟨m, hm, own⟩
      cases m with
      | abandon number => exact eq_of_beq own ▸ hm
      | _ => simp [Move.abandons] at own
    · exact fun h => ⟨_, h, by simp [Move.abandons]⟩
  obtain ⟨results, f⟩ := (start_folded s gave).run fun n h => (given n).mpr h
  refine ⟨⟨results, f.runs, f.told, fun n left => ?_⟩, fun working => ?_, fun who => ?_⟩
  · exact f.all n (by rw [← Bool.not_eq_true, given]; exact left)
  · have tasks := f.tasks
    rw [working, if_pos rfl] at tasks
    exact ⟨tasks, f.work_ran working⟩
  · intro v
    have same : hide who w = hide who v := hide_run who _ _ rfl moves
    refine ⟨congrArg (·.queue.applied) same.symm, congrArg (·.published) same.symm,
      congrArg (·.submitted) same.symm, congrArg (·.ran) same.symm, fun n other => ?_⟩
    rw [← hide_answers who v other, ← hide_answers who w other, same]

/-- The third of four submitters gives up, and the worker goes before the last task. -/
theorem third_gave_up_last_closed :
    let a : Node := ⟨"a", "1", "http://a"⟩
    let b : Node := ⟨"b", "1", "http://b"⟩
    let s := ClusterState.initial "c" a
    let add : StateTask := ⟨"add", true, fun s => .ok (s.add b)⟩
    let lead : StateTask := ⟨"lead", false, fun s => .ok (s.withLeader (some "a"))⟩
    let moves : List Move := [.submit add, .submit lead, .submit lead, .submit add, .abandon 2,
      .work, .work, .work, .stop]
    let w := (start s).run moves
    w.answers 0 = [.error .notLeader] ∧ w.answers 1 = [.ok ()] ∧ w.answers 2 = [] ∧
      w.answers 3 = [.error .queueClosed] ∧ w.published.map (·.version) = [1] ∧
      ∃ results, Runs s [add, lead, lead] w.queue.applied results w.published := by
  intro a b s add lead moves w
  obtain ⟨⟨results, runs, _⟩, _⟩ := sequential_fold s moves
  have told : w.told = [(0, .error .notLeader), (1, .ok ()), (3, .error .queueClosed)] := rfl
  have submitted : w.submitted.take w.ran = [add, lead, lead] := rfl
  rw [submitted] at runs
  refine ⟨?_, ?_, ?_, ?_, by decide, results, runs⟩ <;> rw [answers, told] <;> rfl

end Service

end Vigil

import Vigil.Cluster.State
import Vigil.Notice

/-!
Changes of the cluster state. A task computes the next state from the one that is current when it
runs, not when it was submitted; a queue runs one task at a time and publishes a new version only
when a task changed something.
-/

namespace Vigil

/-- A unit of work on the current state. -/
structure StateTask where
  source : String
  /-- Runs only while the local node leads. -/
  leaderOnly : Bool
  update : ClusterState → Except StateTaskError ClusterState

/-- What one task comes to: the state after it, what its submitter is told, and the records. -/
structure StateTask.Run where
  state : ClusterState
  result : Except StateTaskError Unit
  notices : List Notice

/-- A state that equals the current one is not published. -/
def StateTask.run (t : StateTask) (s : ClusterState) : StateTask.Run :=
  if t.leaderOnly && !s.isLeader then
    ⟨s, .error .notLeader, [.taskSkipped t.source]⟩
  else
    match t.update s with
    | .error e => ⟨s, .error e, []⟩
    | .ok next =>
      if next = s then ⟨s, .ok (), []⟩
      else
        let published := { next with version := s.version + 1 }
        ⟨published, .ok (), [.statePublished t.source published.version]⟩

/-- The queue of state tasks; each entry names who waits for its result. -/
structure StateQueue (ω : Type) where
  applied : ClusterState
  pending : List (StateTask × ω) := []
  /-- Whether the worker that runs the tasks is there. -/
  working : Bool := true

namespace StateQueue

variable {ω : Type}

/-- Puts a task behind those already queued; without a worker nothing is taken. -/
def submit (q : StateQueue ω) (task : StateTask) (waiter : ω) :
    Except StateTaskError (StateQueue ω) :=
  if q.working then .ok { q with pending := q.pending ++ [(task, waiter)] }
  else .error .queueClosed

/-- What the worker did with one entry. -/
structure Done (ω : Type) where
  waiter : ω
  result : Except StateTaskError Unit
  notices : List Notice := []

/-- Runs the oldest entry. -/
def runOne (q : StateQueue ω) : Option (StateQueue ω × Done ω) :=
  match q.pending with
  | [] => none
  | (task, waiter) :: rest =>
    let r := task.run q.applied
    some ({ q with applied := r.state, pending := rest }, ⟨waiter, r.result, r.notices⟩)

/-- Runs a list of entries one after the other. -/
def runEntries (s : ClusterState) : List (StateTask × ω) → ClusterState × List (Done ω)
  | [] => (s, [])
  | (task, waiter) :: rest =>
    let r := task.run s
    let (last, dones) := runEntries r.state rest
    (last, ⟨waiter, r.result, r.notices⟩ :: dones)

/-- Runs all that is queued, the oldest first. -/
def runAll (q : StateQueue ω) : StateQueue ω × List (Done ω) :=
  let (last, dones) := runEntries q.applied q.pending
  ({ q with applied := last, pending := [] }, dones)

/-- The worker goes: what it has not run is refused. -/
def stop (q : StateQueue ω) : StateQueue ω × List (Done ω) :=
  ({ q with pending := [], working := false },
    q.pending.map fun (_, waiter) => ⟨waiter, .error .queueClosed, []⟩)

end StateQueue

end Vigil

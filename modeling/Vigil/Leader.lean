import Vigil.Ping

/-!
A node as its followers meet it: it answers pings from a snapshot where that is enough, and through
its state queue where it is not. `receive` takes a ping, `work` runs the oldest queued task; an
answer goes to whoever asked, and every answer is counted once.
-/

namespace Vigil

/-- Who waits for a queued task: one who submitted it, or one whose ping it decides. -/
inductive Asker (ω : Type) where
  | task (who : ω)
  | ping (request : PingRequest) (who : ω)

/-- What one who asked is told. -/
inductive Reply where
  | task (result : Except StateTaskError Unit)
  | ping (answer : Except PingError Unit)

structure Leader (ω : Type) where
  clusterName : ClusterName
  queue : StateQueue (Asker ω)
  /-- A snapshot to answer from in place of the applied state. -/
  frozen : Option ClusterState := none
  metrics : Metrics := {}
  /-- What was told, the latest first. -/
  notices : List Notice := []

namespace Leader

variable {ω : Type}

def snapshot (l : Leader ω) : ClusterState := l.frozen.getD l.queue.applied

def tell (l : Leader ω) (ns : List Notice) : Leader ω :=
  { l with notices := ns.reverse ++ l.notices }

/-- Counts an answer, of which some records tell. -/
def countAnswer (l : Leader ω) (answer : Except PingError Unit) (ns : List Notice) : Leader ω :=
  { l with metrics := l.metrics.count (.pingsHandled (pingOutcome answer)) }.tell ns

/-- Takes a ping: answers it, or queues the task that decides it. -/
def receive (l : Leader ω) (r : PingRequest) (who : ω) :
    Leader ω × Option (Except PingError Unit) :=
  let (verdict, notices) := r.judge l.clusterName l.snapshot
  match verdict with
  | .acknowledged => (l.countAnswer (.ok ()) notices, some (.ok ()))
  | .rejected rejection =>
    let answer := .error (.rejected rejection)
    (l.countAnswer answer notices, some answer)
  | .undecided =>
    match l.queue.submit r.check (.ping r who) with
    | .ok queue => ({ l with queue }, none)
    | .error e =>
      let (answer, notices) := r.answer (.error e)
      (l.countAnswer answer notices, some answer)

/-- Takes a task: refuses it, or queues it. -/
def submit (l : Leader ω) (task : StateTask) (who : ω) : Except StateTaskError (Leader ω) :=
  (l.queue.submit task (.task who)).map fun queue => { l with queue }

/-- Tells one who asked how the task came out. -/
def conclude (l : Leader ω) (done : StateQueue.Done (Asker ω)) : Leader ω × (ω × Reply) :=
  let l := l.tell done.notices
  match done.waiter with
  | .task who => (l, (who, .task done.result))
  | .ping r who =>
    let (answer, notices) := r.answer done.result
    (l.countAnswer answer notices, (who, .ping answer))

def concludeAll (l : Leader ω) : List (StateQueue.Done (Asker ω)) → Leader ω × List (ω × Reply)
  | [] => (l, [])
  | done :: rest =>
    let (l, reply) := l.conclude done
    let (l, replies) := l.concludeAll rest
    (l, reply :: replies)

/-- Runs the oldest queued task, if there is one. -/
def work (l : Leader ω) : Option (Leader ω × (ω × Reply)) :=
  l.queue.runOne.map fun (queue, done) => { l with queue }.conclude done

/-- Runs all that is queued; the replies come in the order of the queue. -/
def settle (l : Leader ω) : Leader ω × List (ω × Reply) :=
  let (queue, dones) := l.queue.runAll
  { l with queue }.concludeAll dones

/-- The worker of the queue goes; who still waits is told so. -/
def stopWork (l : Leader ω) : Leader ω × List (ω × Reply) :=
  let (queue, dones) := l.queue.stop
  { l with queue }.concludeAll dones

/-- A ping from the moment it arrives to its answer. Only a ping that has to wait for the queue
gives the worker its turn; its check is the last that is queued. -/
def ask (l : Leader ω) (r : PingRequest) (who : ω) : Leader ω × Option (Except PingError Unit) :=
  match l.receive r who with
  | (l, some answer) => (l, some answer)
  | (l, none) =>
    let (l, replies) := l.settle
    (l, replies.reverse.findSome? fun
      | (_, .ping answer) => some answer
      | _ => none)

/-- A task from the moment it is submitted to its result. -/
def perform (l : Leader ω) (task : StateTask) (who : ω) : Leader ω × Except StateTaskError Unit :=
  match l.submit task who with
  | .error e => (l, .error e)
  | .ok l =>
    let (l, replies) := l.settle
    let result := replies.reverse.findSome? fun
      | (_, .task result) => some result
      | _ => none
    (l, result.getD (.error .queueClosed))

end Leader

end Vigil

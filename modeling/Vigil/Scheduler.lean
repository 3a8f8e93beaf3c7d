import Vigil.Agenda
import Vigil.Error

/-!
One-shot work, at once or after a delay. A closed scheduler takes no more work, but what it has
taken still runs. Work never runs within the call that hands it over; work that runs may hand over
more. All times are whole milliseconds, on a clock that is paused: it moves only when nothing is
ready, and then to the next moment that something waits for.
-/

namespace Vigil

/-- Work with a name that hands over more work when it runs, each with its delay; without a delay
it goes to the executor. -/
inductive Job where
  | mk (name : String) (hands : List (Option Nat × Job))

namespace Job

def name : Job → String
  | mk name _ => name

def hands : Job → List (Option Nat × Job)
  | mk _ hands => hands

mutual

/-- The number of jobs that running this one brings about, itself included. -/
def size : Job → Nat
  | mk _ hands => 1 + sizes hands

def sizes : List (Option Nat × Job) → Nat
  | [] => 0
  | (_, job) :: rest => size job + sizes rest

end

end Job

/-- A job that the scheduler has taken. -/
inductive Taken where
  /-- Its delay begins with its first turn. -/
  | arrived (delay : Nat) (job : Job)
  | due (job : Job)

namespace Taken

/-- Bounds the turns that a job and all that it hands over still take. -/
def weight : Taken → Nat
  | arrived _ job => 3 * job.size
  | due job => 3 * job.size - 1

end Taken

/-- What happened, and when. -/
inductive SchedulerEvent where
  | ran (name : String) (time : Nat)
  | handed (result : Except SchedulerError Unit) (time : Nat)

structure Scheduler where
  closed : Bool := false
  agenda : Agenda Taken := {}
  /-- All that happened, the latest first. -/
  history : List SchedulerEvent := []

namespace Scheduler

/-- Hands over a job; its delay is none if it goes to the executor. -/
def submit (s : Scheduler) (delay : Option Nat) (job : Job) : Except SchedulerError Scheduler :=
  if s.closed then .error .closed
  else .ok { s with agenda := s.agenda.push (.arrived (delay.getD 0) job) }

def close (s : Scheduler) : Scheduler := { s with closed := true }

def record (s : Scheduler) (e : SchedulerEvent) : Scheduler := { s with history := e :: s.history }

/-- Hands over what a running job hands over. -/
def submitAll (s : Scheduler) : List (Option Nat × Job) → Scheduler
  | [] => s
  | (delay, job) :: rest =>
    match s.submit delay job with
    | .ok next => submitAll (next.record (.handed (.ok ()) s.agenda.now)) rest
    | .error e => submitAll (s.record (.handed (.error e) s.agenda.now)) rest

def run (s : Scheduler) (job : Job) : Scheduler :=
  (s.record (.ran job.name s.agenda.now)).submitAll job.hands

/-- The turn of a job that the scheduler has taken. -/
def turn (s : Scheduler) : Taken → Scheduler
  | .due job => s.run job
  | .arrived 0 job => s.run job
  | .arrived delay job => { s with agenda := s.agenda.wait delay (.due job) }

/-- The next thing that happens until some moment: a turn of what is ready, or else the clock moves
to the next moment that a job waits for. -/
def step (s : Scheduler) (limit : Nat) : Option Scheduler :=
  match s.agenda.pop with
  | some (taken, agenda) => some ({ s with agenda }.turn taken)
  | none => (s.agenda.wake limit).map fun agenda => { s with agenda }

def runFor (limit : Nat) : Nat → Scheduler → Scheduler
  | 0, s => s
  | fuel + 1, s =>
    match s.step limit with
    | some next => runFor limit fuel next
    | none => s

/-- Bounds the steps that all taken jobs still take: each has its turns, and each moment of the
clock is one step. -/
def fuel (s : Scheduler) : Nat :=
  let weights := s.agenda.ready.map Taken.weight ++ s.agenda.timers.map (·.2.weight)
  2 * weights.foldl (· + ·) 0 + 1

/-- Runs all that is ready now. -/
def settle (s : Scheduler) : Scheduler := runFor s.agenda.now s.fuel s

/-- Moves the clock forward, and runs all that is due up to and including the new time. -/
def advance (s : Scheduler) (time : Nat) : Scheduler :=
  let limit := s.agenda.now + time
  let next := runFor limit s.fuel s
  { next with agenda := next.agenda.reach limit }

end Scheduler

end Vigil
